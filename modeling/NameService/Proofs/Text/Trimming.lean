import NameService.Text.Normal
import Mathlib.Data.List.Induction
import Mathlib.Data.List.TakeWhile

/-!
What trimming takes off a text: blanks, at its ends only. A text keeps its inside, and a text whose
ends are not blank stays as it is.
-/

namespace NameService.Text

@[simp] theorem trimEnd_nil : trimEnd [] = [] := rfl

theorem trimStart_cons_of_blank {c : Char} (blank : isBlank c = true) (text : List Char) :
    trimStart (c :: text) = trimStart text :=
  List.dropWhile_cons_of_pos blank

theorem trimStart_cons_of_dark {c : Char} (dark : isBlank c = false) (text : List Char) :
    trimStart (c :: text) = c :: text :=
  List.dropWhile_cons_of_neg (by simp [dark])

theorem trimEnd_concat_of_blank {c : Char} (blank : isBlank c = true) (text : List Char) :
    trimEnd (text ++ [c]) = trimEnd text := by
  simp [trimEnd, List.dropWhile_cons_of_pos, blank]

theorem trimEnd_concat_of_dark {c : Char} (dark : isBlank c = false) (text : List Char) :
    trimEnd (text ++ [c]) = text ++ [c] := by
  simp [trimEnd, dark]

/-- A character in front is kept as soon as something after it is. -/
theorem trimEnd_cons (c : Char) (text : List Char) :
    trimEnd (c :: text) =
      if trimEnd text = [] then (if isBlank c then [] else [c]) else c :: trimEnd text := by
  have reversed : (c :: text).reverse = text.reverse ++ [c] := List.reverse_cons
  simp only [trimEnd, reversed, List.dropWhile_append, List.isEmpty_iff, List.reverse_eq_nil_iff]
  by_cases empty : text.reverse.dropWhile isBlank = []
  · by_cases blank : isBlank c = true <;> simp [empty, blank]
  · simp [empty]

theorem trimEnd_cons_of_dark {c : Char} (dark : isBlank c = false) (text : List Char) :
    trimEnd (c :: text) = c :: trimEnd text := by
  rw [trimEnd_cons]
  by_cases empty : trimEnd text = []
  · simp [empty, dark]
  · simp [empty]

/-- Nothing in front of a character that is not blank comes off the end. -/
theorem trimEnd_append_of_dark {c : Char} (dark : isBlank c = false) (front rest : List Char) :
    trimEnd (front ++ c :: rest) = front ++ c :: trimEnd rest := by
  induction front with
  | nil => exact trimEnd_cons_of_dark dark rest
  | cons d front ih => simp [trimEnd_cons, ih]

theorem trimStart_append_of_dark {c : Char} (dark : isBlank c = false) (front rest : List Char) :
    trimStart (front ++ c :: rest) = trimStart front ++ c :: rest := by
  induction front with
  | nil => exact trimStart_cons_of_dark dark rest
  | cons d front ih =>
    by_cases blank : isBlank d = true
    · rw [List.cons_append, trimStart_cons_of_blank blank, trimStart_cons_of_blank blank, ih]
    · have dark' : isBlank d = false := by simpa using blank
      rw [List.cons_append, trimStart_cons_of_dark dark', trimStart_cons_of_dark dark']
      rfl

theorem trim_append_of_dark {c : Char} (dark : isBlank c = false) (front rest : List Char) :
    trim (front ++ c :: rest) = trimStart front ++ c :: trimEnd rest := by
  rw [trim, trimStart_append_of_dark dark, trimEnd_append_of_dark dark]

theorem trimStart_suffix (text : List Char) : trimStart text <:+ text :=
  List.dropWhile_suffix isBlank

theorem trimEnd_isPrefix (text : List Char) : trimEnd text <+: text := by
  have suffix := List.reverse_prefix.mpr (List.dropWhile_suffix (l := text.reverse) isBlank)
  rwa [List.reverse_reverse] at suffix

theorem trim_sublist (text : List Char) : (trim text).Sublist text :=
  (trimEnd_isPrefix _).sublist.trans (trimStart_suffix text).sublist

@[simp] theorem trimStart_trimStart (text : List Char) :
    trimStart (trimStart text) = trimStart text := by
  induction text with
  | nil => rfl
  | cons c text ih =>
    by_cases blank : isBlank c = true
    · rw [trimStart_cons_of_blank blank, ih]
    · have dark : isBlank c = false := by simpa using blank
      rw [trimStart_cons_of_dark dark, trimStart_cons_of_dark dark]

@[simp] theorem trimEnd_trimEnd (text : List Char) : trimEnd (trimEnd text) = trimEnd text := by
  have again := trimStart_trimStart text.reverse
  simp only [trimStart] at again
  simp [trimEnd, again]

/-- It does not matter which end is trimmed first. -/
theorem trimStart_trimEnd (text : List Char) : trimStart (trimEnd text) = trim text := by
  induction text with
  | nil => rfl
  | cons c text ih =>
    by_cases blank : isBlank c = true
    · rw [trim, trimStart_cons_of_blank blank, ← trim, ← ih, trimEnd_cons]
      by_cases empty : trimEnd text = []
      · simp [empty, blank]
      · simp [empty, trimStart_cons_of_blank blank]
    · have dark : isBlank c = false := by simpa using blank
      rw [trim, trimStart_cons_of_dark dark, trimEnd_cons_of_dark dark, trimStart_cons_of_dark dark]

@[simp] theorem trim_trimEnd (text : List Char) : trim (trimEnd text) = trim text := by
  rw [← trimStart_trimEnd, trimEnd_trimEnd, trimStart_trimEnd]

@[simp] theorem trim_trimStart (text : List Char) : trim (trimStart text) = trim text := by
  rw [trim, trimStart_trimStart, trim]

@[simp] theorem trim_trim (text : List Char) : trim (trim text) = trim text := by
  conv => lhs; rw [← trimStart_trimEnd text, trim_trimStart, trim_trimEnd]

theorem trim_cons_of_blank {c : Char} (blank : isBlank c = true) (text : List Char) :
    trim (c :: text) = trim text := by
  rw [trim, trimStart_cons_of_blank blank, trim]

theorem trim_concat_of_blank {c : Char} (blank : isBlank c = true) (text : List Char) :
    trim (text ++ [c]) = trim text := by
  rw [← trimStart_trimEnd, trimEnd_concat_of_blank blank, trimStart_trimEnd]

/-- Nothing but blanks. -/
def Blanks (text : List Char) : Prop := ∀ c ∈ text, isBlank c = true

theorem trimStart_eq_nil_iff {text : List Char} : trimStart text = [] ↔ Blanks text := by
  simp [trimStart, Blanks, List.dropWhile_eq_nil_iff]

theorem Blanks.notMem {text : List Char} (blank : Blanks text) {c : Char}
    (dark : isBlank c = false) : c ∉ text := fun there => by
  simp [blank c there] at dark

theorem Blanks.trimStart_append {front : List Char} (blank : Blanks front) (text : List Char) :
    trimStart (front ++ text) = trimStart text := by
  induction front with
  | nil => rfl
  | cons c front ih =>
    rw [Blanks, List.forall_mem_cons] at blank
    rw [List.cons_append, trimStart_cons_of_blank blank.1, ih blank.2]

theorem Blanks.trim_append {front : List Char} (blank : Blanks front) (text : List Char) :
    trim (front ++ text) = trim text := by
  rw [trim, blank.trimStart_append, trim]

theorem Blanks.trim_append_left {rest : List Char} (blank : Blanks rest) (text : List Char) :
    trim (text ++ rest) = trim text := by
  induction rest generalizing text with
  | nil => rw [List.append_nil]
  | cons c rest ih =>
    rw [Blanks, List.forall_mem_cons] at blank
    rw [← List.singleton_append, ← List.append_assoc, ih blank.2, trim_concat_of_blank blank.1]

/-- A word comes to its end at the first blank. -/
theorem word_append {text rest : List Char} (dark : ∀ c ∈ text, isBlank c = false)
    (parted : ∀ c ∈ rest.head?, isBlank c = true) : word (text ++ rest) = text := by
  have stops : rest.takeWhile (!isBlank ·) = [] := by
    cases rest with
    | nil => rfl
    | cons c rest => simp [parted c rfl]
  rw [word, List.takeWhile_append_of_pos (by simpa using dark), stops, List.append_nil]

/-- A text stands as it is between ends that are not blank. -/
theorem trim_eq_self {text : List Char} (head : ∀ c ∈ text.head?, isBlank c = false)
    (last : ∀ c ∈ text.getLast?, isBlank c = false) : trim text = text := by
  have started : trimStart text = text := by
    cases text with
    | nil => rfl
    | cons c rest => exact trimStart_cons_of_dark (head c rfl) rest
  rw [trim, started]
  cases text using List.reverseRecOn with
  | nil => rfl
  | append_singleton front c => exact trimEnd_concat_of_dark (last c (by simp)) front

/-- The head of a trimmed text is not blank. -/
theorem exists_dark_head {text : List Char} (trimmed : trim text = text) (filled : text ≠ []) :
    ∃ c rest, text = c :: rest ∧ isBlank c = false := by
  obtain ⟨c, rest, rfl⟩ := List.exists_cons_of_ne_nil filled
  refine ⟨c, rest, rfl, ?_⟩
  by_contra blank
  have short := (trim_sublist rest).length_le
  rw [← trim_cons_of_blank (by simpa using blank), trimmed] at short
  simp only [List.length_cons] at short
  omega

/-- The last character of a trimmed text is not blank. -/
theorem exists_dark_last {text : List Char} (trimmed : trim text = text) (filled : text ≠ []) :
    ∃ front c, text = front ++ [c] ∧ isBlank c = false := by
  cases text using List.reverseRecOn with
  | nil => contradiction
  | append_singleton front c =>
    refine ⟨front, c, rfl, ?_⟩
    by_contra blank
    have short := (trim_sublist front).length_le
    rw [← trim_concat_of_blank (by simpa using blank), trimmed] at short
    simp only [List.length_append, List.length_cons, List.length_nil] at short
    omega

end NameService.Text
