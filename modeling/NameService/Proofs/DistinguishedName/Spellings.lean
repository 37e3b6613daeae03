import NameService.Proofs.DistinguishedName.Printing

/-!
All the ways to write a name. Each character of a value has a spelling of its own: it stands as it
is, stands behind a backslash, or is given by its octets in hexadecimal digits. Blanks may stand
around every comma, plus sign and first equals sign. A name is cut at its bare separators before its
parts are trimmed, and trimmed before escapes are read; no spelling lets a separator be seen, none
has a blank at an end of a value, and each is worth the octets of its character.

## Main result

`parse_of_written`: whichever way a name is written, it is the name that is read.
-/

namespace NameService

namespace DistinguishedName

open NameService.Text

/-! ### Spellings of characters -/

/-- A backslash and two hexadecimal digits of either case. -/
inductive Pair (octet : UInt8) : List Char → Prop
  | intro {a b : Char} {high low : Nat} (first : hexDigit? a = some high)
    (second : hexDigit? b = some low) (worth : octet.toNat = high * 16 + low) :
    Pair octet ['\\', a, b]

/-- The ways to write a character of a value. A bare blank needs other characters on both sides of
    it, and behind a backslash a blank needs one after it, or it would be trimmed off. -/
inductive Spelling (first last : Bool) (c : Char) : List Char → Prop
  | bare (plain : c ≠ ',' ∧ c ≠ '+' ∧ c ≠ '\\')
    (inside : isBlank c = true → first = false ∧ last = false) : Spelling first last c [c]
  | escaped (letter : hexDigit? c = none) (inside : isBlank c = true → last = false) :
    Spelling first last c ['\\', c]
  | octets {pairs : List (List Char)}
    (spelled : List.Forall₂ Pair (String.utf8EncodeChar c) pairs) :
    Spelling first last c pairs.flatten

/-- A value, or the rest of one after its first character, with a spelling for each character. -/
inductive Spelled : Bool → List Char → List Char → Prop
  | nil (first : Bool) : Spelled first [] []
  | cons {first : Bool} {c : Char} {rest text more : List Char}
    (spelling : Spelling first rest.isEmpty c text) (others : Spelled false rest more) :
    Spelled first (c :: rest) (text ++ more)

section Spelling

variable {first last : Bool} {c : Char} {text : List Char} {octs : List UInt8}
  {pairs : List (List Char)}

theorem unescape_pairs (spelled : List.Forall₂ Pair octs pairs) (rest : List Char) :
    unescape (pairs.flatten ++ rest) = (unescape rest).map (octs ++ ·) := by
  induction spelled with
  | nil =>
    rw [List.flatten_nil, List.nil_append]
    cases unescape rest <;> rfl
  | cons pair _ ih =>
    obtain ⟨high, low, worth⟩ := pair
    simp only [List.flatten_cons, List.cons_append, List.nil_append, unescape, high, low, ih,
      ← worth, UInt8.ofNat_toNat]
    cases unescape rest <;> rfl

/-- Every spelling is worth the octets of its character. -/
theorem Spelling.unescape_append (spelling : Spelling first last c text) (rest : List Char) :
    unescape (text ++ rest) = (unescape rest).map (String.utf8EncodeChar c ++ ·) := by
  cases spelling with
  | bare plain => exact unescape_bare plain.2.2 rest
  | escaped letter => exact unescape_escaped letter rest
  | octets spelled => exact unescape_pairs spelled rest

theorem dark_of_hexDigit? {digit : Char} {value : Nat} (found : hexDigit? digit = some value) :
    isBlank digit = false := by
  have range : 48 ≤ digit.toNat ∧ digit.toNat ≤ 57 ∨ 97 ≤ digit.toNat ∧ digit.toNat ≤ 102 ∨
      65 ≤ digit.toNat ∧ digit.toNat ≤ 70 := by
    unfold hexDigit? at found
    split_ifs at found with decimal small capital
    · exact Or.inl decimal
    · exact Or.inr (Or.inl small)
    · exact Or.inr (Or.inr capital)
  simp only [isBlank, Bool.or_eq_false_iff, Bool.and_eq_false_iff, beq_eq_false_iff_ne,
    decide_eq_false_iff_not]
  omega

theorem sealed_pairs {separator : Char} (cuts : separator = ',' ∨ separator = '+')
    (spelled : List.Forall₂ Pair octs pairs) : Sealed separator pairs.flatten := by
  induction spelled with
  | nil => rfl
  | cons pair _ ih =>
    obtain @⟨a, b, high, low, -, second, -⟩ := pair
    have plain : b ≠ '\\' := by
      rintro rfl
      simp [show hexDigit? '\\' = none from rfl] at second
    have other : b ≠ separator := by
      rintro rfl
      rcases cuts with rfl | rfl <;> cases second
    have first : Sealed separator ['\\', a, b] := by simp [Sealed, turn_bare plain other]
    exact first.append ih

/-- No spelling shows a separator. -/
theorem Spelling.sealed {separator : Char} (cuts : separator = ',' ∨ separator = '+')
    (spelling : Spelling first last c text) : Sealed separator text := by
  cases spelling with
  | bare plain =>
    have other : c ≠ separator := by rcases cuts with rfl | rfl <;> simp [plain]
    simp [Sealed, turn_bare plain.2.2 other]
  | escaped => simp [Sealed]
  | octets spelled => exact sealed_pairs cuts spelled

/-- Pairs begin with a backslash and end with a digit. -/
theorem ends_of_pairs (spelled : List.Forall₂ Pair octs pairs) (filled : octs ≠ []) :
    ∃ inner digit, pairs.flatten = '\\' :: inner ++ [digit] ∧ isBlank digit = false := by
  induction spelled with
  | nil => contradiction
  | @cons octet pair octs pairs written rest ih =>
    obtain @⟨a, b, high, low, -, second, -⟩ := written
    by_cases more : octs = []
    · subst more
      cases rest
      exact ⟨[a], b, rfl, dark_of_hexDigit? second⟩
    · obtain ⟨inner, digit, split, dark⟩ := ih more
      exact ⟨a :: b :: '\\' :: inner, digit, by simp [split], dark⟩

theorem utf8EncodeChar_ne_nil (c : Char) : String.utf8EncodeChar c ≠ [] := by
  rw [← List.length_pos_iff, String.length_utf8EncodeChar]
  exact c.utf8Size_pos

theorem Spelling.ne_nil (spelling : Spelling first last c text) : text ≠ [] := by
  cases spelling with
  | bare => simp
  | escaped => simp
  | octets spelled =>
    obtain ⟨inner, digit, split, -⟩ := ends_of_pairs spelled (utf8EncodeChar_ne_nil c)
    simp [split]

theorem Spelling.head_dark (spelling : Spelling true last c text) :
    ∃ d rest, text = d :: rest ∧ isBlank d = false := by
  cases spelling with
  | bare _ inside => exact ⟨c, [], rfl, by simpa using inside⟩
  | escaped => exact ⟨'\\', [c], rfl, by decide⟩
  | octets spelled =>
    obtain ⟨inner, digit, split, -⟩ := ends_of_pairs spelled (utf8EncodeChar_ne_nil c)
    exact ⟨'\\', inner ++ [digit], split, by decide⟩

theorem Spelling.last_dark (spelling : Spelling first true c text) :
    ∃ front d, text = front ++ [d] ∧ isBlank d = false := by
  cases spelling with
  | bare _ inside => exact ⟨[], c, rfl, by simpa using inside⟩
  | escaped _ inside => exact ⟨['\\'], c, rfl, by simpa using inside⟩
  | octets spelled =>
    obtain ⟨inner, digit, split, dark⟩ := ends_of_pairs spelled (utf8EncodeChar_ne_nil c)
    exact ⟨'\\' :: inner, digit, split, dark⟩

end Spelling

/-! ### Values -/

namespace Spelled

variable {first : Bool} {value text : List Char}

theorem unescape (spelled : Spelled first value text) :
    DistinguishedName.unescape text = .ok (octets value) := by
  induction spelled with
  | nil => rfl
  | cons spelling _ ih =>
    rw [spelling.unescape_append, ih]
    rfl

theorem sealed {separator : Char} (cuts : separator = ',' ∨ separator = '+')
    (spelled : Spelled first value text) : Sealed separator text := by
  induction spelled with
  | nil => rfl
  | cons spelling _ ih => exact (spelling.sealed cuts).append ih

theorem head_dark (spelled : Spelled true value text) : ∀ c ∈ text.head?, isBlank c = false := by
  cases spelled with
  | nil => simp
  | cons spelling =>
    obtain ⟨d, rest, rfl, dark⟩ := spelling.head_dark
    simpa using dark

theorem last_dark (spelled : Spelled first value text) :
    ∀ c ∈ text.getLast?, isBlank c = false := by
  induction spelled with
  | nil => simp
  | @cons first c rest text more spelling others ih =>
    cases rest with
    | nil =>
      obtain ⟨front, d, rfl, dark⟩ := spelling.last_dark
      cases others
      simpa using dark
    | cons next rest =>
      -- Something is written for the next character, so the text does not end before that.
      have filled : more ≠ [] := by
        cases others with
        | cons spelling => simp [spelling.ne_nil]
      rwa [List.getLast?_append_of_ne_nil _ filled]

/-- Nothing is trimmed off a value, however it is spelled. -/
theorem trim_eq (spelled : Spelled true value text) : trim text = text :=
  trim_eq_self spelled.head_dark spelled.last_dark

theorem parseValue {value : String} (spelled : Spelled true value.toList text) :
    DistinguishedName.parseValue text = .ok value :=
  parseValue_eq_ok_iff.mpr spelled.unescape

end Spelled

/-! ### Assertions, steps and names -/

/-- The text of an assertion, with blanks around it and around its equals sign. -/
inductive WrittenAssertion (assertion : Assertion) : List Char → Prop
  | intro {before between between' behind value : List Char}
    (blank : Blanks before ∧ Blanks between ∧ Blanks between' ∧ Blanks behind)
    (spelled : Spelled true assertion.value.toList value) :
    WrittenAssertion assertion
      (before ++ assertion.type.toList ++ between ++ '=' :: (between' ++ value ++ behind))

inductive WrittenStep (step : List Assertion) : List Char → Prop
  | intro {texts : List (List Char)} (written : List.Forall₂ WrittenAssertion step texts) :
    WrittenStep step (List.intercalate ['+'] texts)

inductive Written (name : DistinguishedName) : List Char → Prop
  | intro {texts : List (List Char)} (written : List.Forall₂ WrittenStep name.steps texts) :
    Written name (List.intercalate [','] texts)

end DistinguishedName

/-- A type that is written as it is: blanks do not end it, and nothing in it could be taken for a
    separator or an escape. -/
structure Assertion.Plain (assertion : Assertion) : Prop where
  named : assertion.type.toList ≠ []
  trimmed : Text.trim assertion.type.toList = assertion.type.toList
  bare : ∀ c ∈ ['=', ',', '+', '\\'], c ∉ assertion.type.toList

instance (assertion : Assertion) : Decidable assertion.Plain :=
  have := List.decidableBAll (· ∉ assertion.type.toList) ['=', ',', '+', '\\']
  decidable_of_iff (assertion.type.toList ≠ [] ∧
      Text.trim assertion.type.toList = assertion.type.toList ∧
      ∀ c ∈ ['=', ',', '+', '\\'], c ∉ assertion.type.toList)
    ⟨fun ⟨named, trimmed, bare⟩ => ⟨named, trimmed, bare⟩,
      fun ⟨named, trimmed, bare⟩ => ⟨named, trimmed, bare⟩⟩

structure DistinguishedName.Plain (name : DistinguishedName) : Prop where
  filled : name.steps ≠ []
  steps : ∀ step ∈ name.steps, step ≠ [] ∧ ∀ assertion ∈ step, assertion.Plain

namespace DistinguishedName

open NameService.Text

theorem sealed_of_bare {separator : Char} {text : List Char}
    (bare : ∀ c ∈ text, c ≠ '\\' ∧ c ≠ separator) : Sealed separator text := by
  induction text with
  | nil => rfl
  | cons c rest ih =>
    rw [List.forall_mem_cons] at bare
    have inner := ih bare.2
    simpa [Sealed, turn_bare bare.1.1 bare.1.2] using inner

theorem sealed_of_blanks {separator : Char} (cuts : separator = ',' ∨ separator = '+')
    {text : List Char} (blank : Blanks text) : Sealed separator text := by
  have dark : isBlank separator = false := by rcases cuts with rfl | rfl <;> decide
  apply sealed_of_bare
  intro c among
  refine ⟨ne_backslash_of_blank (blank c among), ?_⟩
  rintro rfl
  exact blank.notMem dark among

section Written

variable {assertion : Assertion} {text : List Char}

theorem WrittenAssertion.sealed (written : WrittenAssertion assertion text)
    (plain : assertion.Plain) {separator : Char} (cuts : separator = ',' ∨ separator = '+') :
    Sealed separator text := by
  obtain ⟨⟨before, between, between', behind⟩, spelled⟩ := written
  have type : Sealed separator assertion.type.toList := by
    apply sealed_of_bare
    intro c among
    constructor
    · rintro rfl
      exact plain.bare _ (by simp) among
    · rintro rfl
      exact plain.bare _ (by rcases cuts with rfl | rfl <;> simp) among
  have equals : Sealed separator ['='] := by
    apply sealed_of_bare
    rcases cuts with rfl | rfl <;> simp
  have front := ((sealed_of_blanks cuts before).append type).append (sealed_of_blanks cuts between)
  have back := ((sealed_of_blanks cuts between').append (spelled.sealed cuts)).append
    (sealed_of_blanks cuts behind)
  exact front.append (equals.append back)

theorem WrittenAssertion.parse (written : WrittenAssertion assertion text)
    (plain : assertion.Plain) : parseAssertion (trim text) = .ok assertion := by
  obtain @⟨before, between, between', behind, value, blank, spelled⟩ := written
  obtain ⟨blankBefore, blankBetween, blankBetween', blankBehind⟩ := blank
  have dark : isBlank '=' = false := by decide
  have absent : '=' ∉ trimStart (before ++ assertion.type.toList ++ between) := by
    intro there
    have inside := (trimStart_suffix _).subset there
    simp only [List.mem_append, blankBefore.notMem dark, blankBetween.notMem dark, or_false,
      false_or] at inside
    exact plain.bare '=' (by simp) inside
  have type : trim (before ++ assertion.type.toList ++ between) = assertion.type.toList := by
    rw [blankBetween.trim_append_left, blankBefore.trim_append, plain.trimmed]
  have inner : trim (between' ++ value ++ behind) = value := by
    rw [blankBehind.trim_append_left, blankBetween'.trim_append, spelled.trim_eq]
  have named : assertion.type.toList.isEmpty = false := by simpa using plain.named
  generalize before ++ assertion.type.toList ++ between = front at *
  generalize between' ++ value ++ behind = back at *
  rw [trim_append_of_dark dark, parseAssertion, cut_append absent]
  simp [type, inner, named, spelled.parseValue, bind, Except.bind, pure, Except.pure]

theorem WrittenStep.sealed {step : List Assertion} (written : WrittenStep step text)
    (plain : ∀ assertion ∈ step, assertion.Plain) : Sealed ',' text := by
  obtain ⟨written⟩ := written
  apply Sealed.intercalate (by decide) (by decide)
  intro text among
  obtain ⟨assertion, inside, written⟩ := exists_of_forall₂ written among
  exact written.sealed (plain assertion inside) (Or.inl rfl)

/-- Texts that are read one by one are read from their join. -/
theorem mapM_parts_of_written {α : Type} {separator : Char} (plain : separator ≠ '\\')
    (dark : isBlank separator = false) {written : α → List Char → Prop}
    {read : List Char → Except Fault α} {values : List α} {texts : List (List Char)}
    (each : List.Forall₂ written values texts) (filled : values ≠ [])
    (sealed : ∀ value ∈ values, ∀ text, written value text → Sealed separator text)
    (reads : ∀ value ∈ values, ∀ text, written value text → read (trim text) = .ok value) :
    (parts separator (trim (List.intercalate [separator] texts))).mapM read = .ok values := by
  have sealed' : ∀ text ∈ texts, Sealed separator text := by
    intro text among
    obtain ⟨value, inside, written⟩ := exists_of_forall₂ each among
    exact sealed value inside text written
  have filled' : texts ≠ [] := by
    rintro rfl
    cases each
    contradiction
  have both := (List.forall₂_and_left _ _).mpr ⟨reads, each⟩
  rw [parts_trim plain dark, parts_intercalate plain sealed' filled', mapM_eq_ok_iff,
    List.forall₂_map_left_iff]
  exact both.flip.imp fun text value ⟨reads, written⟩ => reads text written

theorem WrittenStep.parse {step : List Assertion} (written : WrittenStep step text)
    (filled : step ≠ []) (plain : ∀ assertion ∈ step, assertion.Plain) :
    (parts '+' (trim text)).mapM parseAssertion = .ok step := by
  obtain ⟨written⟩ := written
  exact mapM_parts_of_written (by decide) (by decide) written filled
    (fun assertion inside _ written => written.sealed (plain assertion inside) (Or.inr rfl))
    (fun assertion inside _ written => written.parse (plain assertion inside))

theorem Written.parse {name : DistinguishedName} (written : Written name text)
    (plain : name.Plain) :
    (parts ',' (trim text)).mapM (fun step => (parts '+' step).mapM parseAssertion) =
      .ok name.steps := by
  obtain ⟨filled, steps⟩ := plain
  obtain ⟨written⟩ := written
  exact mapM_parts_of_written (by decide) (by decide) written filled
    (fun step inside _ written => written.sealed (steps step inside).2)
    (fun step inside _ written => written.parse (steps step inside).1 (steps step inside).2)

end Written

/-- Whichever way a name is written, it is the name that is read. -/
theorem parse_of_written {name : DistinguishedName} {text : String} (plain : name.Plain)
    (written : Written name text.toList) : parse text = .ok name := by
  have read := written.parse plain
  have filled : (trim text.toList).isEmpty = false := by
    -- Of an empty text nothing could be read.
    by_contra empty
    rw [Bool.not_eq_false, List.isEmpty_iff] at empty
    rw [empty] at read
    generalize name.steps = steps at read
    cases read
  rw [parse, if_neg (by simp [filled]), read]
  rfl

namespace Mixed

/-- The first value is written by octets in digits of either case and by an escape, the second has a
    raw blank inside, and there are blanks on both sides of an equals sign and of a plus sign. -/
def text : String := "cn = \\c3\\A9\\, + o=x y,dc=\\+"

def name : DistinguishedName := ⟨[[⟨"cn", "é,"⟩, ⟨"o", "x y"⟩], [⟨"dc", "+"⟩]]⟩

theorem plain : name.Plain where
  filled := by decide
  steps := by decide +kernel

theorem octets : Spelled true "é,".toList
    ([['\\', 'c', '3'], ['\\', 'A', '9']].flatten ++ (['\\', ','] ++ [])) := by
  have spelled : "é,".toList = ['é', ','] := by decide +kernel
  rw [spelled]
  refine .cons (.octets ?_) (.cons (.escaped (by decide) (by decide)) (.nil false))
  have code : String.utf8EncodeChar 'é' = [0xC3, 0xA9] := by decide +kernel
  rw [code]
  exact .cons (.intro rfl rfl rfl) (.cons (.intro rfl rfl rfl) .nil)

theorem raw : Spelled true "x y".toList (['x'] ++ ([' '] ++ (['y'] ++ []))) :=
  .cons (.bare (by decide) (by decide)) (.cons (.bare (by decide) (by decide))
    (.cons (.bare (by decide) (by decide)) (.nil false)))

theorem escape : Spelled true "+".toList (['\\', '+'] ++ []) :=
  .cons (.escaped (by decide) (by decide)) (.nil false)

theorem written : Written name text.toList := by
  have blank : Blanks [' '] := by simp [Blanks, isBlank]
  have none : Blanks [] := by simp [Blanks]
  have cn : WrittenAssertion ⟨"cn", "é,"⟩ _ := .intro ⟨none, blank, blank, blank⟩ octets
  have o : WrittenAssertion ⟨"o", "x y"⟩ _ := .intro ⟨blank, none, none, none⟩ raw
  have dc : WrittenAssertion ⟨"dc", "+"⟩ _ := .intro ⟨none, none, none, none⟩ escape
  exact .intro (.cons (.intro (.cons cn (.cons o .nil))) (.cons (.intro (.cons dc .nil)) .nil))

end Mixed

/-- All styles side by side. -/
theorem parse_of_written_mixed :
    Mixed.name.Plain ∧ Written Mixed.name Mixed.text.toList ∧ parse Mixed.text = .ok Mixed.name :=
  ⟨Mixed.plain, Mixed.written, parse_of_written Mixed.plain Mixed.written⟩

end DistinguishedName

end NameService
