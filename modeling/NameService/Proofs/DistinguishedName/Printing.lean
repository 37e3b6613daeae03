import NameService.Proofs.DistinguishedName.Escapes
import NameService.Proofs.Text.Traversal

/-!
Names that are printed and read again. Printing escapes every character that has a meaning inside a
name, so reading takes a printed name apart where it was put together; what can be lost is at the
ends of a value, because values are trimmed before their escapes are read. A printed space at the
head of a value is shielded by its backslash. A space at the end is not: the backslash stays and has
nothing to escape. Other blanks are not escaped at all.

## Main result

`parse_toText_iff`: a name that was read is read again from its printed form exactly when all its
values are `Firm`.
-/

namespace NameService

namespace Text

theorem eq_octets_of_decode? {octs : List UInt8} {text : String}
    (decoded : decode? octs = some text) : octs = octets text.toList := by
  have spelled : octs.toByteArray = text.toByteArray := by
    rw [decode?, String.fromUTF8?] at decoded
    split at decoded
    · rw [← Option.some.inj decoded]
      rfl
    · contradiction
  apply List.toByteArray_inj.mp
  obtain ⟨chars, rfl⟩ : ∃ chars, text = String.ofList chars := ⟨text.toList, by simp⟩
  rw [spelled]
  simp [octets, List.utf8Encode]

theorem decode_eq_ok_iff {octs : List UInt8} {text : String} :
    decode octs = .ok text ↔ octs = octets text.toList := by
  constructor
  · intro read
    unfold decode at read
    cases decoded : decode? octs with
    | none => simp [decoded] at read
    | some spelling =>
      have same : spelling = text := by simpa [decoded] using read
      exact same ▸ eq_octets_of_decode? decoded
  · rintro rfl
    simp [decode, decode?_octets]

end Text

namespace DistinguishedName

open NameService.Text

/-! ### What escapes are worth -/

theorem unescape_bare {c : Char} (plain : c ≠ '\\') (rest : List Char) :
    unescape (c :: rest) = (unescape rest).map (String.utf8EncodeChar c ++ ·) := by
  cases rest <;> simp [unescape, plain]

theorem unescape_escaped {c : Char} (letter : hexDigit? c = none) (rest : List Char) :
    unescape ('\\' :: c :: rest) = (unescape rest).map (String.utf8EncodeChar c ++ ·) := by
  cases rest with
  | nil => simp [unescape, letter, Except.map]
  | cons d rest => simp [unescape, letter]

/-- How many octets a text spells at most: those of its characters, less the backslashes that open
    an escape. -/
def spelled : Bool → List Char → Nat
  | _, [] => 0
  | isOpen, c :: rest =>
    if !isOpen && c == '\\' then spelled true rest else c.utf8Size + spelled false rest

theorem spelled_bare {c : Char} (plain : c ≠ '\\') (rest : List Char) :
    spelled false (c :: rest) = c.utf8Size + spelled false rest := by
  simp [spelled, plain]

theorem spelled_escaped (c : Char) (rest : List Char) :
    spelled false ('\\' :: c :: rest) = c.utf8Size + spelled false rest := by
  simp [spelled]

theorem spelled_append_le (isOpen : Bool) (front rest : List Char) :
    spelled isOpen front ≤ spelled isOpen (front ++ rest) := by
  induction front generalizing isOpen with
  | nil => exact Nat.zero_le _
  | cons c front ih =>
    rw [List.cons_append, spelled, spelled]
    split
    · exact ih true
    · exact Nat.add_le_add_left (ih false) _

theorem spelled_trim_le (text : List Char) : spelled false (trim text) ≤ spelled false text := by
  have started : spelled false (trimStart text) ≤ spelled false text := by
    induction text with
    | nil => exact Nat.le_refl _
    | cons c text ih =>
      by_cases blank : isBlank c = true
      · rw [trimStart_cons_of_blank blank, spelled_bare (ne_backslash_of_blank blank)]
        omega
      · exact Nat.le_of_eq (by rw [trimStart_cons_of_dark (by simpa using blank)])
  obtain ⟨rest, split⟩ := trimEnd_isPrefix (trimStart text)
  calc spelled false (trim text)
      ≤ spelled false (trim text ++ rest) := spelled_append_le false _ rest
    _ = spelled false (trimStart text) := by rw [trim, split]
    _ ≤ spelled false text := started

private theorem mapError_eq_ok_iff {ε α : Type} {f : ε → Fault} {result : Except ε α} {a : α} :
    result.mapError f = .ok a ↔ result = .ok a := by
  cases result with
  | error fault => constructor <;> intro impossible <;> cases impossible
  | ok found =>
    constructor
    · intro read
      rw [Except.ok.inj read]
    · rintro ⟨⟩
      rfl

/-- An octet given by two digits is one octet where the digits alone would be two. -/
theorem length_le_spelled {text : List Char} {octs : List UInt8}
    (read : unescape text = .ok octs) : octs.length ≤ spelled false text := by
  fun_induction unescape text generalizing octs with
  | case1 =>
    cases read
    exact Nat.zero_le _
  | case2 => contradiction
  | case3 => contradiction
  | case4 c letter =>
    cases read
    rw [spelled_escaped, String.length_utf8EncodeChar]
    omega
  | case5 c d rest letter ih =>
    obtain ⟨others, inner, rfl⟩ := map_eq_ok_iff.mp read
    rw [spelled_escaped, List.length_append, String.length_utf8EncodeChar]
    exact Nat.add_le_add_left (ih inner) _
  | case6 => contradiction
  | case7 c d rest high first low second ih =>
    -- Two digits. The second one is no backslash, so it counts on its own.
    obtain ⟨others, inner, rfl⟩ := map_eq_ok_iff.mp read
    have plain : d ≠ '\\' := by
      rintro rfl
      simp [show hexDigit? '\\' = none from rfl] at second
    have size := c.utf8Size_pos
    have rest_le := ih inner
    rw [spelled_escaped, spelled_bare plain, List.length_cons]
    omega
  | case8 c rest lone pair escape ih =>
    obtain ⟨others, inner, rfl⟩ := map_eq_ok_iff.mp read
    have plain : c ≠ '\\' := by
      rintro rfl
      match rest with
      | [] => exact lone rfl rfl
      | [d] => exact pair d rfl rfl
      | d :: e :: rest => exact escape d e rest rfl rfl
    rw [spelled_bare plain, List.length_append, String.length_utf8EncodeChar]
    exact Nat.add_le_add_left (ih inner) _

/-! ### Escaping -/

/-- A character is escaped, and is no digit that its backslash could be taken to go with, or it
    stands as it is and has no meaning of its own. The only blank that is ever escaped is a
    space. -/
theorem escapeFrom_cons (first : Bool) (c : Char) (rest : List Char) :
    (escapeFrom first (c :: rest) = '\\' :: c :: escapeFrom false rest ∧
        hexDigit? c = none ∧ (isBlank c = true → c = ' ')) ∨
      (escapeFrom first (c :: rest) = c :: escapeFrom false rest ∧
        c ≠ '\\' ∧ c ≠ ',' ∧ c ≠ '+' ∧ (first = true → c ≠ ' ')) := by
  by_cases escaped : needsEscape first rest.isEmpty c = true
  · refine Or.inl ⟨by simp [escapeFrom, escaped], ?_⟩
    simp only [needsEscape, Bool.or_eq_true, Bool.and_eq_true, beq_iff_eq] at escaped
    rcases escaped with ((((((((rfl | rfl) | rfl) | rfl) | rfl) | rfl) | rfl) | rfl) |
      ⟨-, rfl | rfl⟩) | ⟨-, rfl⟩ <;> decide
  · refine Or.inr ⟨by simp [escapeFrom, escaped], ?_⟩
    simp only [needsEscape, Bool.or_eq_true, Bool.and_eq_true, beq_iff_eq, not_or, not_and]
      at escaped
    tauto

theorem unescape_escapeFrom (first : Bool) (text : List Char) :
    unescape (escapeFrom first text) = .ok (octets text) := by
  induction text generalizing first with
  | nil => rfl
  | cons c rest ih =>
    rcases escapeFrom_cons first c rest with ⟨written, letter, -⟩ | ⟨written, plain, -⟩
    · rw [written, unescape_escaped letter, ih]
      rfl
    · rw [written, unescape_bare plain, ih]
      rfl

theorem spelled_escapeFrom (first : Bool) (text : List Char) :
    spelled false (escapeFrom first text) = (octets text).length := by
  induction text generalizing first with
  | nil => rfl
  | cons c rest ih =>
    rcases escapeFrom_cons first c rest with ⟨written, -⟩ | ⟨written, plain, -⟩
    · rw [written, spelled_escaped, ih]
      simp [octets, String.length_utf8EncodeChar]
    · rw [written, spelled_bare plain, ih]
      simp [octets, String.length_utf8EncodeChar]

/-- What is written before the last character spells the text before it; a backslash that belongs to
    the last character spells nothing. -/
theorem exists_escapeFrom_concat (first : Bool) (front : List Char) (c : Char) :
    ∃ written, escapeFrom first (front ++ [c]) = written ++ [c] ∧
      spelled false written = (octets front).length := by
  induction front generalizing first with
  | nil =>
    rcases escapeFrom_cons first c [] with ⟨written, -⟩ | ⟨written, -⟩
    · exact ⟨['\\'], written, rfl⟩
    · exact ⟨[], written, rfl⟩
  | cons d front ih =>
    obtain ⟨inner, split, length⟩ := ih false
    rcases escapeFrom_cons first d (front ++ [c]) with ⟨written, -⟩ | ⟨written, plain, -⟩
    · refine ⟨'\\' :: d :: inner, by simp [written, split], ?_⟩
      rw [spelled_escaped, length]
      simp [octets, String.length_utf8EncodeChar]
    · refine ⟨d :: inner, by simp [written, split], ?_⟩
      rw [spelled_bare plain, length]
      simp [octets, String.length_utf8EncodeChar]

theorem sealed_escapeFrom {separator : Char} (cuts : separator = ',' ∨ separator = '+')
    (first : Bool) (text : List Char) : Sealed separator (escapeFrom first text) := by
  induction text generalizing first with
  | nil => rfl
  | cons c rest ih =>
    have inner := ih false
    rcases escapeFrom_cons first c rest with ⟨written, -⟩ | ⟨written, plain, comma, plus, -⟩
    · rw [written]
      simpa [Sealed] using inner
    · have other : c ≠ separator := by rcases cuts with rfl | rfl <;> assumption
      rw [written]
      simpa [Sealed, turn_bare plain other] using inner

/-! ### Values -/

/-- A value that trimming leaves whole in print: an empty one, or one whose last character is not
    blank and whose first is not, or is a space, which is printed behind a backslash. -/
def Firm (value : String) : Prop :=
  value = "" ∨
    (∃ c ∈ value.toList.getLast?, isBlank c = false) ∧
      ∃ c ∈ value.toList.head?, c = ' ' ∨ isBlank c = false

-- Given in full, so that no search for one goes through all characters there are.
instance (value : String) : Decidable (Firm value) :=
  @instDecidableOr _ _ inferInstance <|
    @instDecidableAnd _ _ (Option.decidableExistsMem _) (Option.decidableExistsMem _)

theorem getLast?_escapeFrom (first : Bool) (text : List Char) :
    (escapeFrom first text).getLast? = text.getLast? := by
  rcases List.eq_nil_or_concat text with rfl | ⟨front, c, rfl⟩
  · rfl
  · obtain ⟨written, split, -⟩ := exists_escapeFrom_concat first front c
    rw [List.concat_eq_append, split, List.getLast?_concat, List.getLast?_concat]

theorem trim_escapeFrom_of_firm {value : String} (firm : Firm value) :
    trim (escapeFrom true value.toList) = escapeFrom true value.toList := by
  rcases firm with rfl | ⟨⟨last, isLast, last_dark⟩, head, isHead, head_kept⟩
  · rfl
  apply trim_eq_self
  · obtain ⟨rest, split⟩ : ∃ rest, value.toList = head :: rest :=
      List.head?_eq_some_iff.mp isHead
    rw [split]
    rcases escapeFrom_cons true head rest with ⟨written, -⟩ | ⟨written, -, -, -, no_space⟩
    · rw [written]
      intro c shown
      cases shown
      decide
    · rw [written]
      intro c shown
      cases shown
      exact head_kept.resolve_left (no_space rfl)
  · rw [getLast?_escapeFrom, isLast]
    intro c shown
    cases shown
    exact last_dark

theorem parseValue_eq_ok_iff {text : List Char} {value : String} :
    parseValue text = .ok value ↔ unescape text = .ok (octets value.toList) := by
  cases inner : unescape text with
  | error fault => simp [parseValue, inner, bind, Except.bind]
  | ok octs =>
    have told : parseValue text = .ok value ↔ decode octs = .ok value := by
      rw [parseValue, inner]
      exact mapError_eq_ok_iff
    rw [told, decode_eq_ok_iff, Except.ok.injEq]

/-- Blanks that trimming takes off a printed value are octets that nothing else can spell. -/
theorem spelled_trim_escapeFrom_lt {value : String} (loose : ¬ Firm value) :
    spelled false (trim (escapeFrom true value.toList)) < (octets value.toList).length := by
  have filled : value.toList ≠ [] := fun empty => loose (Or.inl (by simpa using empty))
  obtain ⟨front, c, split⟩ := (List.eq_nil_or_concat value.toList).resolve_left filled
  rw [List.concat_eq_append] at split
  by_cases blank : isBlank c = true
  · -- The last character is taken off, and the backslash before it is worth nothing.
    obtain ⟨written, printed, worth⟩ := exists_escapeFrom_concat true front c
    rw [split, printed, trim_concat_of_blank blank]
    calc spelled false (trim written)
        ≤ spelled false written := spelled_trim_le written
      _ = (octets front).length := worth
      _ < (octets (front ++ [c])).length := by
        simp [octets, String.length_utf8EncodeChar, c.utf8Size_pos]
  · -- The first character is taken off: it is a blank that printing does not escape.
    obtain ⟨head, rest, opened⟩ := List.exists_cons_of_ne_nil filled
    have head_blank : isBlank head = true ∧ head ≠ ' ' := by
      by_contra kept
      apply loose
      refine Or.inr ⟨⟨c, by simp [split], by simpa using blank⟩, head, by simp [opened], ?_⟩
      rwa [not_and_or, not_ne_iff, Bool.not_eq_true, or_comm] at kept
    rcases escapeFrom_cons true head rest with ⟨-, -, only_space⟩ | ⟨written, -⟩
    · exact absurd (only_space head_blank.1) head_blank.2
    · rw [opened, written, trim_cons_of_blank head_blank.1]
      calc spelled false (trim (escapeFrom false rest))
          ≤ spelled false (escapeFrom false rest) := spelled_trim_le _
        _ = (octets rest).length := spelled_escapeFrom false rest
        _ < (octets (head :: rest)).length := by
          simp [octets, String.length_utf8EncodeChar, head.utf8Size_pos]

theorem parseValue_escape_iff (value : String) :
    parseValue (trim (escapeFrom true value.toList)) = .ok value ↔ Firm value := by
  rw [parseValue_eq_ok_iff]
  constructor
  · -- There are too few octets left for the value.
    intro read
    by_contra loose
    have enough := length_le_spelled read
    have short := spelled_trim_escapeFrom_lt loose
    omega
  · intro firm
    rw [trim_escapeFrom_of_firm firm, unescape_escapeFrom]

end DistinguishedName

/-! ### Names as they are read -/

/-- What an assertion has that was read: its type is a trimmed text without an equals sign, and
    holds separators only behind a backslash. -/
structure Assertion.Sound (assertion : Assertion) : Prop where
  named : assertion.type.toList ≠ []
  trimmed : Text.trim assertion.type.toList = assertion.type.toList
  plain : '=' ∉ assertion.type.toList
  unbroken : ∀ separator, separator = ',' ∨ separator = '+' →
    DistinguishedName.Unbroken separator assertion.type.toList

structure DistinguishedName.Sound (name : DistinguishedName) : Prop where
  filled : name.steps ≠ []
  steps : ∀ step ∈ name.steps, step ≠ [] ∧ ∀ assertion ∈ step, assertion.Sound

namespace DistinguishedName

open NameService.Text

theorem unbroken_of_mem_parts {separator other : Char} (plain : separator ≠ '\\')
    {text part : List Char} (whole : other = separator ∨ Unbroken other text)
    (member : part ∈ parts separator text) : Unbroken other part := by
  obtain ⟨piece, among, rfl⟩ := List.mem_map.mp member
  exact (unbroken_of_mem_splitUnescaped plain whole among).trim

theorem sound_of_parseAssertion {text : List Char} {assertion : Assertion}
    (unbroken : ∀ separator, separator = ',' ∨ separator = '+' → Unbroken separator text)
    (read : parseAssertion text = .ok assertion) : assertion.Sound := by
  unfold parseAssertion at read
  split at read
  · contradiction
  next type value halves =>
    have text_eq := append_of_cut halves
    by_cases empty : (trim type).isEmpty
    · simp [empty, bind, Except.bind, throw, throwThe, MonadExceptOf.throw] at read
    · cases inner : parseValue (trim value) with
      | error fault => simp [empty, inner, bind, Except.bind] at read
      | ok spelling =>
        have same : ⟨String.ofList (trim type), spelling⟩ = assertion := by
          simpa [empty, inner, bind, Except.bind, pure, Except.pure] using read
        subst same
        refine ⟨by simpa using empty, by simp, ?_, ?_⟩
        · -- The text was cut at the first equals sign there is.
          have absent := notMem_of_cut halves
          simpa using fun inside => absent ((trim_sublist type).subset inside)
        · intro separator kind
          have front : type <+: text := ⟨_, text_eq.symm⟩
          simpa using ((unbroken separator kind).of_isPrefix front).trim

theorem sound_of_parse {text : String} {name : DistinguishedName}
    (parsed : parse text = .ok name) : name.Sound := by
  unfold parse at parsed
  by_cases empty : (trim text.toList).isEmpty
  · simp [empty] at parsed
  · cases read : (parts ',' (trim text.toList)).mapM
        fun step => (parts '+' step).mapM parseAssertion with
    | error fault => simp [empty, read, bind, Except.bind] at parsed
    | ok steps =>
      have same : ⟨steps⟩ = name := by
        simpa [empty, read, bind, Except.bind, pure, Except.pure] using parsed
      subst same
      refine ⟨ne_nil_of_mapM read (parts_ne_nil _), fun step among => ?_⟩
      obtain ⟨piece, piece_mem, inner⟩ := exists_of_mapM read among
      refine ⟨ne_nil_of_mapM inner (parts_ne_nil _), fun assertion inside => ?_⟩
      obtain ⟨part, part_mem, found⟩ := exists_of_mapM inner inside
      apply sound_of_parseAssertion _ found
      have comma : Unbroken ',' piece :=
        unbroken_of_mem_parts (by decide) (Or.inl rfl) piece_mem
      rintro separator (rfl | rfl)
      · exact unbroken_of_mem_parts (by decide) (Or.inr comma) part_mem
      · exact unbroken_of_mem_parts (by decide) (Or.inl rfl) part_mem

/-! ### Names as they are printed -/

theorem sealed_printAssertion {assertion : Assertion} (sound : assertion.Sound) {separator : Char}
    (cuts : separator = ',' ∨ separator = '+') : Sealed separator (printAssertion assertion) := by
  have other : '=' ≠ separator := by rcases cuts with rfl | rfl <;> decide
  have opened : Sealed separator (assertion.type.toList ++ ['=']) :=
    (sound.unbroken separator cuts).concat (by decide) other
  have written := opened.append (sealed_escapeFrom cuts true assertion.value.toList)
  simpa [printAssertion] using written

theorem parts_printStep {step : List Assertion} (filled : step ≠ [])
    (sound : ∀ assertion ∈ step, assertion.Sound) :
    parts '+' (printStep step) = step.map (trim ∘ printAssertion) := by
  rw [printStep, parts_intercalate (by decide), List.map_map]
  · simpa using fun assertion among => sealed_printAssertion (sound assertion among) (Or.inr rfl)
  · simpa using filled

theorem parts_print {name : DistinguishedName} (sound : name.Sound) :
    parts ',' name.print = name.steps.map (trim ∘ printStep) := by
  rw [print, parts_intercalate (by decide), List.map_map]
  · simp only [List.forall_mem_map]
    intro step among
    apply Sealed.intercalate (by decide) (by decide)
    simpa using fun assertion inside =>
      sealed_printAssertion ((sound.steps step among).2 assertion inside) (Or.inl rfl)
  · simpa using sound.filled

theorem trim_printAssertion {assertion : Assertion} (sound : assertion.Sound) :
    trim (printAssertion assertion) =
      assertion.type.toList ++ '=' :: trimEnd (escapeFrom true assertion.value.toList) := by
  obtain ⟨c, rest, typed, dark⟩ := exists_dark_head sound.trimmed sound.named
  rw [printAssertion, ← trimStart_trimEnd, trimEnd_append_of_dark (by decide), typed,
    List.cons_append, trimStart_cons_of_dark dark]

/-- An assertion is read as it was printed as soon as its value is. -/
theorem parseAssertion_print_iff {assertion : Assertion} (sound : assertion.Sound) :
    parseAssertion (trim (printAssertion assertion)) = .ok assertion ↔ Firm assertion.value := by
  have halves := cut_append sound.plain (trimEnd (escapeFrom true assertion.value.toList))
  have named : (assertion.type.toList).isEmpty = false := by simpa using sound.named
  rw [← parseValue_escape_iff, trim_printAssertion sound, parseAssertion, halves]
  simp only [sound.trimmed, named, trim_trimEnd, String.ofList_toList]
  cases parseValue (trim (escapeFrom true assertion.value.toList)) with
  | error fault => simp [bind, Except.bind]
  | ok value =>
    obtain ⟨type, original⟩ := assertion
    simp [bind, Except.bind, pure, Except.pure]

theorem trim_print_ne_nil {name : DistinguishedName} (sound : name.Sound) :
    trim name.print ≠ [] := by
  intro empty
  obtain ⟨step, among⟩ := List.exists_mem_of_ne_nil _ sound.filled
  obtain ⟨filled, assertions⟩ := sound.steps step among
  obtain ⟨assertion, inside⟩ := List.exists_mem_of_ne_nil _ filled
  -- The only part of an empty text is an empty one, but an assertion has its equals sign.
  have step_empty : trim (printStep step) = [] := by
    have member : trim (printStep step) ∈ parts ',' (trim name.print) := by
      rw [parts_trim (by decide) (by decide), parts_print sound]
      exact List.mem_map_of_mem among
    rw [empty] at member
    exact List.mem_singleton.mp member
  have assertion_empty : trim (printAssertion assertion) = [] := by
    have member : trim (printAssertion assertion) ∈ parts '+' (trim (printStep step)) := by
      rw [parts_trim (by decide) (by decide), parts_printStep filled assertions]
      exact List.mem_map_of_mem inside
    rw [step_empty] at member
    exact List.mem_singleton.mp member
  simp [trim_printAssertion (assertions assertion inside)] at assertion_empty

theorem parse_toText_eq {name : DistinguishedName} (sound : name.Sound) :
    parse name.toText =
      (name.steps.mapM fun step => (parts '+' (printStep step)).mapM parseAssertion).map mk := by
  have filled : (trim name.print).isEmpty = false := by simpa using trim_print_ne_nil sound
  have inner (step : List Assertion) :
      parts '+' (trim (printStep step)) = parts '+' (printStep step) :=
    parts_trim (by decide) (by decide) _
  rw [parse, toText, String.toList_ofList, if_neg (by simp [filled]),
    parts_trim (by decide) (by decide), parts_print sound, List.mapM_map]
  simp only [Function.comp_def, inner]
  cases name.steps.mapM fun step => (parts '+' (printStep step)).mapM parseAssertion <;> rfl

/-- What was read is read again from its printed form when nothing is trimmed off its values, and
    only then. -/
theorem parse_toText_iff {text : String} {name : DistinguishedName}
    (parsed : parse text = .ok name) :
    parse name.toText = .ok name ↔
      ∀ step ∈ name.steps, ∀ assertion ∈ step, Firm assertion.value := by
  have sound := sound_of_parse parsed
  have step_iff : ∀ step ∈ name.steps,
      ((parts '+' (printStep step)).mapM parseAssertion = .ok step ↔
        ∀ assertion ∈ step, Firm assertion.value) := by
    intro step among
    obtain ⟨filled, assertions⟩ := sound.steps step among
    rw [parts_printStep filled assertions, mapM_eq_ok_iff, List.forall₂_map_left_iff,
      List.forall₂_same]
    exact forall₂_congr fun assertion inside => parseAssertion_print_iff (assertions _ inside)
  calc parse name.toText = .ok name
      ↔ (name.steps.mapM fun step => (parts '+' (printStep step)).mapM parseAssertion) =
          .ok name.steps := by
        rw [parse_toText_eq sound]
        cases name.steps.mapM fun step => (parts '+' (printStep step)).mapM parseAssertion with
        | error fault => simp [Except.map]
        | ok steps => cases name; simp [Except.map]
    _ ↔ ∀ step ∈ name.steps, (parts '+' (printStep step)).mapM parseAssertion = .ok step := by
        rw [mapM_eq_ok_iff, List.forall₂_same]
    _ ↔ ∀ step ∈ name.steps, ∀ assertion ∈ step, Firm assertion.value :=
        forall₂_congr step_iff

/-- Delimiters, quotes, backslashes and a leading number sign in values, a leading space behind a
    backslash, an escape in a type, and a step of two assertions are all kept. -/
theorem parse_toText_of_escapes :
    ∃ name, parse "a\\,b = \\#1\\=\\\"\\+x\\\\ + c=\\ y, d=\\2C#" = .ok name ∧
      parse name.toText = .ok name := by
  have parsed : parse "a\\,b = \\#1\\=\\\"\\+x\\\\ + c=\\ y, d=\\2C#" =
      .ok ⟨[[⟨"a\\,b", "#1=\"+x\\"⟩, ⟨"c", " y"⟩], [⟨"d", ",#"⟩]]⟩ := by
    decide +kernel
  exact ⟨_, parsed, (parse_toText_iff parsed).mpr (by decide)⟩

-- The backslash before a last space is all that is left of the two.
example : parse "cn=x\\20,dc=y" = .ok ⟨[[⟨"cn", "x "⟩], [⟨"dc", "y"⟩]]⟩ ∧
    toText ⟨[[⟨"cn", "x "⟩], [⟨"dc", "y"⟩]]⟩ = "cn=x\\ ,dc=y" ∧
    parse "cn=x\\ ,dc=y" = .error .unterminatedEscape := by
  decide +kernel

end DistinguishedName

end NameService
