/-!
Texts cut at a character. Joining the pieces with that character gives the text back.
-/

namespace NameService.Text

/-- The text on either side of the first separator. -/
def cut (separator : Char) : List Char → Option (List Char × List Char)
  | [] => none
  | c :: rest =>
    if c = separator then some ([], rest)
    else (cut separator rest).map fun (before, after) => (c :: before, after)

theorem append_of_cut {separator : Char} {text before after : List Char}
    (found : cut separator text = some (before, after)) : text = before ++ separator :: after := by
  induction text generalizing before with
  | nil => simp [cut] at found
  | cons c rest ih =>
    by_cases here : c = separator
    · simp [cut, here] at found
      simp [here, found]
    · simp only [cut, if_neg here, Option.map_eq_some_iff, Prod.exists, Prod.mk.injEq] at found
      obtain ⟨before', after', inner, rfl, rfl⟩ := found
      simp [ih inner]

theorem notMem_of_cut {separator : Char} {text before after : List Char}
    (found : cut separator text = some (before, after)) : separator ∉ before := by
  induction text generalizing before with
  | nil => simp [cut] at found
  | cons c rest ih =>
    by_cases here : c = separator
    · simp [cut, here] at found
      simp [found]
    · simp only [cut, if_neg here, Option.map_eq_some_iff, Prod.exists, Prod.mk.injEq] at found
      obtain ⟨before', after', inner, rfl, rfl⟩ := found
      simp [Ne.symm here, ih inner]

theorem cut_append {separator : Char} {before : List Char} (absent : separator ∉ before)
    (after : List Char) : cut separator (before ++ separator :: after) = some (before, after) := by
  induction before with
  | nil => simp [cut]
  | cons c rest ih =>
    simp only [List.mem_cons, not_or] at absent
    simp [cut, Ne.symm absent.1, ih absent.2]

theorem cut_eq_none_iff {separator : Char} {text : List Char} :
    cut separator text = none ↔ separator ∉ text := by
  induction text with
  | nil => simp [cut]
  | cons c rest ih =>
    by_cases here : c = separator
    · simp [cut, here]
    · simp [cut, here, ih, Ne.symm here]

/-- Texts that end where a character first stands are told apart from what follows. -/
theorem append_cons_inj {separator : Char} {before before' after after' : List Char}
    (absent : separator ∉ before) (absent' : separator ∉ before')
    (same : before ++ separator :: after = before' ++ separator :: after') :
    before = before' ∧ after = after' := by
  have cuts := congrArg (cut separator) same
  rw [cut_append absent, cut_append absent'] at cuts
  simpa using cuts

/-- All pieces between separators; a text without one is its only piece. -/
def pieces (separator : Char) : List Char → List (List Char)
  | [] => [[]]
  | c :: rest =>
    if c = separator then [] :: pieces separator rest
    else match pieces separator rest with
      | [] => [[c]]
      | piece :: others => (c :: piece) :: others

/-- A text without a separator is its only piece. -/
theorem pieces_of_notMem {separator : Char} {text : List Char} (absent : separator ∉ text) :
    pieces separator text = [text] := by
  induction text with
  | nil => rfl
  | cons c rest ih =>
    rw [List.mem_cons, not_or] at absent
    rw [pieces, if_neg (Ne.symm absent.1), ih absent.2]

/-- Nothing but separators is lost by cutting. -/
theorem mem_pieces (separator : Char) {c : Char} {text : List Char} (member : c ∈ text) :
    c = separator ∨ ∃ piece ∈ pieces separator text, c ∈ piece := by
  induction text with
  | nil => simp at member
  | cons first rest ih =>
    by_cases here : first = separator
    · rw [pieces, if_pos here]
      rcases List.mem_cons.mp member with rfl | member
      · exact Or.inl here
      · rcases ih member with equal | ⟨piece, among, inside⟩
        · exact Or.inl equal
        · exact Or.inr ⟨piece, List.mem_cons_of_mem _ among, inside⟩
    · rw [pieces, if_neg here]
      cases split : pieces separator rest with
      | nil =>
        rcases List.mem_cons.mp member with rfl | member
        · exact Or.inr ⟨[c], by simp, by simp⟩
        · exact Or.inl (by simpa [split] using ih member)
      | cons piece others =>
        rcases List.mem_cons.mp member with rfl | member
        · exact Or.inr ⟨c :: piece, by simp, by simp⟩
        · rw [split] at ih
          -- The first piece of the rest is the one that becomes longer.
          rcases ih member with equal | ⟨found, among, inside⟩
          · exact Or.inl equal
          · rcases List.mem_cons.mp among with rfl | among
            · exact Or.inr ⟨first :: found, by simp, by simp [inside]⟩
            · exact Or.inr ⟨found, by simp [among], inside⟩

/-- What follows an expected opening, if the text has it. -/
def after? (opening : List Char) (text : List Char) : Option (List Char) :=
  if opening.isPrefixOf text then some (text.drop opening.length) else none

theorem after?_append (opening rest : List Char) :
    after? opening (opening ++ rest) = some rest := by
  simp [after?]

end NameService.Text
