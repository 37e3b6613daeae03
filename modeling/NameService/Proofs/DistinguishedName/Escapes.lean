import NameService.DistinguishedName
import NameService.Proofs.Text.Trimming

/-!
How the escapes of a distinguished name are read. A text is read a character at a time, and all that
is remembered is whether a backslash is open. A separator stands bare where none is.

A text that is `Sealed` has no bare separator and leaves no backslash open, so it can be followed by
anything: `splitUnescaped_append` is what cutting makes of it. `parts_trim` says that blanks at the
ends of a text change none of its parts.
-/

namespace NameService.DistinguishedName

open NameService.Text

/-- Texts are taken apart as escapes are read: a backslash goes with the character after it. -/
@[elab_as_elim]
theorem escape_induction {motive : List Char → Prop} (nil : motive []) (lone : motive ['\\'])
    (escaped : ∀ c rest, motive rest → motive ('\\' :: c :: rest))
    (bare : ∀ c rest, c ≠ '\\' → motive rest → motive (c :: rest)) (text : List Char) :
    motive text := by
  match text with
  | [] => exact nil
  | c :: rest =>
    by_cases mark : c = '\\'
    · subst mark
      match rest with
      | [] => exact lone
      | d :: rest => exact escaped d rest (escape_induction nil lone escaped bare rest)
    · exact bare c rest mark (escape_induction nil lone escaped bare rest)

/-! ### Whether a backslash is open -/

/-- Whether a backslash is open after one more character, which is not a bare separator. -/
def turn (separator : Char) (isOpen : Bool) (c : Char) : Option Bool :=
  if isOpen then some false
  else if c = '\\' then some true
  else if c = separator then none
  else some false

def scan (separator : Char) (isOpen : Bool) (text : List Char) : Option Bool :=
  text.foldlM (turn separator) isOpen

/-- No separator stands bare in a text, but a backslash may be open at its end. -/
def Unbroken (separator : Char) (text : List Char) : Prop := (scan separator false text).isSome

instance (separator : Char) (text : List Char) : Decidable (Unbroken separator text) :=
  inferInstanceAs (Decidable ((scan separator false text).isSome = true))

/-- No separator stands bare in a text, and every backslash has its character. -/
def Sealed (separator : Char) (text : List Char) : Prop := scan separator false text = some false

section

variable {separator : Char}

@[simp] theorem scan_nil (isOpen : Bool) : scan separator isOpen [] = some isOpen := rfl

@[simp] theorem scan_cons (isOpen : Bool) (c : Char) (rest : List Char) :
    scan separator isOpen (c :: rest) =
      (turn separator isOpen c).bind fun next => scan separator next rest := rfl

theorem scan_append (isOpen : Bool) (text rest : List Char) :
    scan separator isOpen (text ++ rest) =
      (scan separator isOpen text).bind fun next => scan separator next rest := by
  simp only [scan, List.foldlM_append]
  rfl

@[simp] theorem turn_open (c : Char) : turn separator true c = some false := rfl

@[simp] theorem turn_backslash : turn separator false '\\' = some true := rfl

theorem turn_bare {c : Char} (plain : c ≠ '\\') (other : c ≠ separator) :
    turn separator false c = some false := by
  simp [turn, plain, other]

theorem Unbroken.of_isPrefix {text front : List Char} (whole : Unbroken separator text)
    (front_text : front <+: text) : Unbroken separator front := by
  obtain ⟨rest, rfl⟩ := front_text
  rw [Unbroken, scan_append] at whole
  rw [Unbroken]
  cases read : scan separator false front with
  | none => simp [read] at whole
  | some _ => rfl

theorem Unbroken.of_cons {c : Char} {text : List Char} (whole : Unbroken separator (c :: text))
    (plain : c ≠ '\\') : c ≠ separator ∧ Unbroken separator text := by
  have other : c ≠ separator := by
    rintro rfl
    simp [Unbroken, turn, plain] at whole
  refine ⟨other, ?_⟩
  simpa [Unbroken, turn_bare plain other] using whole

theorem ne_backslash_of_blank {c : Char} (blank : isBlank c = true) : c ≠ '\\' := by
  rintro rfl
  revert blank
  decide

theorem Unbroken.trim {text : List Char} (whole : Unbroken separator text) :
    Unbroken separator (trim text) := by
  have started : Unbroken separator (trimStart text) := by
    induction text with
    | nil => exact whole
    | cons c text ih =>
      by_cases blank : isBlank c = true
      · rw [trimStart_cons_of_blank blank]
        exact ih (whole.of_cons (ne_backslash_of_blank blank)).2
      · rwa [trimStart_cons_of_dark (by simpa using blank)]
  exact started.of_isPrefix (trimEnd_isPrefix _)

theorem Sealed.unbroken {text : List Char} (sealed : Sealed separator text) :
    Unbroken separator text := by
  rw [Unbroken, sealed]
  rfl

theorem Sealed.append {text rest : List Char} (first : Sealed separator text)
    (second : Sealed separator rest) : Sealed separator (text ++ rest) := by
  rw [Sealed, scan_append, first]
  exact second

/-- Any character but a backslash closes what is open before it, and opens nothing itself. -/
theorem Unbroken.concat {text : List Char} (whole : Unbroken separator text) {c : Char}
    (plain : c ≠ '\\') (other : c ≠ separator) : Sealed separator (text ++ [c]) := by
  obtain ⟨isOpen, read⟩ := Option.isSome_iff_exists.mp whole
  rw [Sealed, scan_append, read]
  cases isOpen
  · simp [turn_bare plain other]
  · simp

theorem Sealed.intercalate {joint : Char} (plain : joint ≠ '\\') (other : joint ≠ separator)
    {texts : List (List Char)} (sealed : ∀ text ∈ texts, Sealed separator text) :
    Sealed separator (List.intercalate [joint] texts) := by
  induction texts with
  | nil => rfl
  | cons text texts ih =>
    have first := sealed text List.mem_cons_self
    have others := ih fun next among => sealed next (List.mem_cons_of_mem _ among)
    cases texts with
    | nil => simpa using first
    | cons next texts =>
      have joined : Sealed separator [joint] := by simp [Sealed, turn_bare plain other]
      rw [List.intercalate_cons_cons]
      exact (first.append joined).append others

end

/-! ### Cutting at bare separators -/

section

variable {separator : Char}

@[simp] theorem extend_cons (c : Char) (piece : List Char) (pieces : List (List Char)) :
    extend c (piece :: pieces) = (c :: piece) :: pieces := rfl

@[simp] theorem splitUnescaped_nil : splitUnescaped separator [] = [[]] := rfl

@[simp] theorem splitUnescaped_lone (plain : separator ≠ '\\') :
    splitUnescaped separator ['\\'] = [['\\']] := by
  simp [splitUnescaped, extend, plain.symm]

@[simp] theorem splitUnescaped_escaped (c : Char) (rest : List Char) :
    splitUnescaped separator ('\\' :: c :: rest) =
      extend '\\' (extend c (splitUnescaped separator rest)) := rfl

theorem splitUnescaped_separator (plain : separator ≠ '\\') (rest : List Char) :
    splitUnescaped separator (separator :: rest) = [] :: splitUnescaped separator rest := by
  rw [splitUnescaped, if_pos rfl]
  rintro _ _ rfl
  exact absurd rfl plain

theorem splitUnescaped_bare {c : Char} (plain : c ≠ '\\') (other : c ≠ separator)
    (rest : List Char) :
    splitUnescaped separator (c :: rest) = extend c (splitUnescaped separator rest) := by
  rw [splitUnescaped, if_neg other]
  rintro _ _ rfl
  exact absurd rfl plain

theorem exists_splitUnescaped (separator : Char) (text : List Char) :
    ∃ piece pieces, splitUnescaped separator text = piece :: pieces := by
  fun_induction splitUnescaped separator text with
  | case1 => exact ⟨[], [], rfl⟩
  | case2 c rest ih =>
    obtain ⟨piece, pieces, split⟩ := ih
    exact ⟨'\\' :: c :: piece, pieces, by simp [split]⟩
  | case3 => exact ⟨_, _, rfl⟩
  | case4 c rest _ _ ih =>
    obtain ⟨piece, pieces, split⟩ := ih
    exact ⟨c :: piece, pieces, by simp [split]⟩

theorem parts_ne_nil (text : List Char) : parts separator text ≠ [] := by
  obtain ⟨piece, pieces, split⟩ := exists_splitUnescaped separator text
  simp [parts, split]

/-- A sealed text goes in front of the first piece of what follows it. -/
theorem splitUnescaped_append {text : List Char} (sealed : Sealed separator text)
    (rest : List Char) :
    splitUnescaped separator (text ++ rest) =
      text.foldr extend (splitUnescaped separator rest) := by
  induction text using escape_induction with
  | nil => rfl
  | lone => simp [Sealed] at sealed
  | escaped c text ih =>
    have inner : Sealed separator text := by simpa [Sealed] using sealed
    simp [ih inner]
  | bare c text plain ih =>
    have other := (sealed.unbroken.of_cons plain).1
    have inner : Sealed separator text := by simpa [Sealed, turn_bare plain other] using sealed
    simp [splitUnescaped_bare plain other, ih inner]

theorem foldr_extend (text piece : List Char) (pieces : List (List Char)) :
    text.foldr extend (piece :: pieces) = (text ++ piece) :: pieces := by
  induction text with
  | nil => rfl
  | cons c text ih => simp [ih]

/-- Joining sealed texts and cutting gives the texts back. -/
theorem splitUnescaped_intercalate (plain : separator ≠ '\\') {texts : List (List Char)}
    (sealed : ∀ text ∈ texts, Sealed separator text) (filled : texts ≠ []) :
    splitUnescaped separator (List.intercalate [separator] texts) = texts := by
  induction texts with
  | nil => exact absurd rfl filled
  | cons text texts ih =>
    have first := sealed text List.mem_cons_self
    cases texts with
    | nil =>
      have alone := splitUnescaped_append first []
      simpa [foldr_extend] using alone
    | cons next texts =>
      have others := ih (fun next among => sealed next (List.mem_cons_of_mem _ among)) (by simp)
      rw [List.intercalate_cons_cons, List.append_assoc, splitUnescaped_append first,
        List.singleton_append, splitUnescaped_separator plain, foldr_extend, others,
        List.append_nil]

/-- What was joined is cut into its parts. -/
theorem parts_intercalate {separator : Char} (plain : separator ≠ '\\') {texts : List (List Char)}
    (sealed : ∀ text ∈ texts, Sealed separator text) (filled : texts ≠ []) :
    parts separator (List.intercalate [separator] texts) = texts.map trim := by
  rw [parts, splitUnescaped_intercalate plain sealed filled]

/-- No piece has a bare separator of those it was cut at, nor of another kind if the text had
    none. -/
theorem unbroken_of_mem_splitUnescaped (plain : separator ≠ '\\') {other : Char} {text : List Char}
    (whole : other = separator ∨ Unbroken other text) {piece : List Char}
    (member : piece ∈ splitUnescaped separator text) : Unbroken other piece := by
  induction text using escape_induction generalizing piece with
  | nil =>
    rw [splitUnescaped_nil, List.mem_singleton] at member
    rw [member]
    rfl
  | lone =>
    rw [splitUnescaped_lone plain, List.mem_singleton] at member
    rw [member]
    rfl
  | escaped c rest ih =>
    have inner : other = separator ∨ Unbroken other rest := by simpa [Unbroken] using whole
    -- What the backslash hides from this cut is hidden from the other separator too.
    obtain ⟨first, pieces, split⟩ := exists_splitUnescaped separator rest
    rw [splitUnescaped_escaped, split, extend_cons, extend_cons] at member
    rcases List.mem_cons.mp member with rfl | among
    · have member : first ∈ splitUnescaped separator rest := by simp [split]
      simpa [Unbroken] using ih inner member
    · exact ih inner (by simp [split, among])
  | bare c rest bare ih =>
    by_cases cut : c = separator
    · subst cut
      have inner : other = c ∨ Unbroken other rest := whole.imp_right fun w => (w.of_cons bare).2
      rw [splitUnescaped_separator plain] at member
      rcases List.mem_cons.mp member with rfl | among
      · rfl
      · exact ih inner among
    · have kept : c ≠ other ∧ (other = separator ∨ Unbroken other rest) := by
        rcases whole with rfl | whole
        · exact ⟨cut, Or.inl rfl⟩
        · exact ⟨(whole.of_cons bare).1, Or.inr (whole.of_cons bare).2⟩
      obtain ⟨first, pieces, split⟩ := exists_splitUnescaped separator rest
      rw [splitUnescaped_bare bare cut, split, extend_cons] at member
      rcases List.mem_cons.mp member with rfl | among
      · have member : first ∈ splitUnescaped separator rest := by simp [split]
        simpa [Unbroken, turn_bare bare kept.1] using ih kept.2 member
      · exact ih kept.2 (by simp [split, among])

/-! ### Blanks at the ends of what is cut -/

private theorem parts_cons_of_blank (dark : isBlank separator = false) {c : Char}
    (blank : isBlank c = true) (text : List Char) :
    parts separator (c :: text) = parts separator text := by
  have other : c ≠ separator := by
    rintro rfl
    rw [blank] at dark
    contradiction
  obtain ⟨piece, pieces, split⟩ := exists_splitUnescaped separator text
  simp only [parts, splitUnescaped_bare (ne_backslash_of_blank blank) other, split, extend_cons,
    List.map_cons, trim_cons_of_blank blank]

private theorem map_trimEnd_extend (c : Char) {pieces others : List (List Char)}
    (same : pieces.map trimEnd = others.map trimEnd) :
    (extend c pieces).map trimEnd = (extend c others).map trimEnd := by
  cases pieces with
  | nil =>
    have empty : others = [] := by simpa using same.symm
    rw [empty]
  | cons piece pieces =>
    cases others with
    | nil => simp at same
    | cons other others =>
      simp only [List.map_cons, List.cons.injEq] at same
      simp only [extend_cons, List.map_cons, trimEnd_cons, same.1, same.2]

private theorem map_trimEnd_split_concat (plain : separator ≠ '\\')
    (dark : isBlank separator = false) {c : Char} (blank : isBlank c = true) (text : List Char) :
    (splitUnescaped separator (text ++ [c])).map trimEnd =
      (splitUnescaped separator text).map trimEnd := by
  have other : c ≠ separator := by
    rintro rfl
    rw [blank] at dark
    contradiction
  induction text using escape_induction with
  | nil =>
    simp [splitUnescaped_bare (ne_backslash_of_blank blank) other, trimEnd_cons, blank]
  | lone =>
    -- The blank is the escaped character here, and is trimmed off all the same.
    simp [plain, trimEnd_cons, blank]
  | escaped d text ih =>
    simpa using map_trimEnd_extend '\\' (map_trimEnd_extend d ih)
  | bare d text bare ih =>
    by_cases cut : d = separator
    · subst cut
      simp [splitUnescaped_separator plain, ih]
    · simpa [splitUnescaped_bare bare cut] using map_trimEnd_extend d ih

private theorem parts_concat_of_blank (plain : separator ≠ '\\') (dark : isBlank separator = false)
    {c : Char} (blank : isBlank c = true) (text : List Char) :
    parts separator (text ++ [c]) = parts separator text := by
  have later : (trim : List Char → List Char) = trimStart ∘ trimEnd :=
    funext fun piece => (trimStart_trimEnd piece).symm
  rw [parts, parts, later, ← List.map_map, map_trimEnd_split_concat plain dark blank, List.map_map]

/-- Every part is trimmed, so it does not matter whether the whole was trimmed before. -/
theorem parts_trim (plain : separator ≠ '\\') (dark : isBlank separator = false)
    (text : List Char) : parts separator (trim text) = parts separator text := by
  have ended : ∀ text, parts separator (trimEnd text) = parts separator text := by
    intro text
    induction text using List.reverseRecOn with
    | nil => rfl
    | append_singleton text c ih =>
      by_cases blank : isBlank c = true
      · rw [trimEnd_concat_of_blank blank, ih, parts_concat_of_blank plain dark blank]
      · rw [trimEnd_concat_of_dark (by simpa using blank)]
  -- A blank in front becomes a part of the first piece, and only that one has to be looked at.
  rw [trim, ended]
  induction text with
  | nil => rfl
  | cons c text ih =>
    by_cases blank : isBlank c = true
    · rw [trimStart_cons_of_blank blank, ih, parts_cons_of_blank dark blank]
    · rw [trimStart_cons_of_dark (by simpa using blank)]

end

end NameService.DistinguishedName
