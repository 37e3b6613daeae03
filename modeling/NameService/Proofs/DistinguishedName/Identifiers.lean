import NameService.Proofs.DistinguishedName.Printing

/-!
Unique identifiers behind names. An identifier is taken to begin at the first bare number sign that
has a character before it other than an equals sign; behind an equals sign a number sign opens a
value in hexadecimal digits. Printing escapes a number sign at the head of a value only, and knows
nothing of those in types, so a printed name can be cut where no identifier was added.

## Main results

- `uncut_print_iff`: a printed name is left whole exactly if all its number signs are guarded.
- `withoutUid_toText`: then the name comes back from behind an identifier too, unless its last value
  is empty, when the number sign before the identifier is read as part of the value.
-/

namespace NameService

namespace DistinguishedName

open NameService.Text

/-! ### Texts that are read on -/

/-- No number sign of a text is taken for the start of an identifier. -/
def Uncut (previous : Option Char) (text : List Char) : Prop := beforeUid? previous text = none

theorem beforeUid?_escaped (previous : Option Char) (c : Char) (rest : List Char) :
    beforeUid? previous ('\\' :: c :: rest) = (beforeUid? (some c) rest).map ('\\' :: c :: ·) := rfl

theorem beforeUid?_bare {c : Char} (plain : c ≠ '\\') (previous : Option Char) (rest : List Char) :
    beforeUid? previous (c :: rest) =
      if c = '#' ∧ previous.any (· != '=') then some []
      else (beforeUid? (some c) rest).map (c :: ·) := by
  rw [beforeUid?]
  rintro _ _ rfl
  exact absurd rfl plain

/-- It matters of what stands before a text only whether it lets an identifier begin. -/
theorem beforeUid?_congr {previous other : Option Char}
    (same : previous.any (· != '=') = other.any (· != '=')) (text : List Char) :
    beforeUid? previous text = beforeUid? other text := by
  cases text using escape_induction with
  | nil => rfl
  | lone => rfl
  | escaped c rest => rfl
  | bare c rest plain => rw [beforeUid?_bare plain, beforeUid?_bare plain, same]

/-- It matters only to a number sign. -/
theorem beforeUid?_of_ne {c : Char} (other : c ≠ '#') (previous previous' : Option Char)
    (rest : List Char) : beforeUid? previous (c :: rest) = beforeUid? previous' (c :: rest) := by
  by_cases mark : c = '\\'
  · subst mark
    cases rest <;> rfl
  · simp [beforeUid?_bare mark, other]

/-- A backslash is never bare, so nothing is asked here but whether the last one is open. -/
theorem Sealed.closed {separator : Char} {text : List Char} (sealed : Sealed separator text) :
    Sealed '\\' text := by
  have step {isOpen next : Bool} {c : Char} (read : turn separator isOpen c = some next) :
      turn '\\' isOpen c = some next := by
    unfold turn at read ⊢
    split_ifs at read ⊢ <;> simp_all
  have scanned (isOpen : Bool) (rest : List Char) (read : scan separator isOpen rest = some false) :
      scan '\\' isOpen rest = some false := by
    induction rest generalizing isOpen with
    | nil => exact read
    | cons c rest ih =>
      rw [scan_cons, Option.bind_eq_some_iff] at read ⊢
      obtain ⟨next, first, others⟩ := read
      exact ⟨next, step first, ih next others⟩
  exact scanned false text sealed

/-- A text is read before what follows it, of which only its last character is known by then. -/
theorem beforeUid?_append {text : List Char} (closed : Sealed '\\' text) (previous : Option Char)
    (rest : List Char) :
    beforeUid? previous (text ++ rest) = (beforeUid? previous text).or
      ((beforeUid? (text.getLast?.or previous) rest).map (text ++ ·)) := by
  induction text using escape_induction generalizing previous with
  | nil => simp [beforeUid?]
  | lone => simp [Sealed] at closed
  | escaped c text ih =>
    have inner : Sealed '\\' text := by simpa [Sealed] using closed
    -- An escaped character counts as the one before, whatever it is.
    have last : ('\\' :: c :: text).getLast?.or previous = text.getLast?.or (some c) := by
      cases last : text.getLast? <;> simp [List.getLast?_cons, last]
    rw [List.cons_append, List.cons_append, beforeUid?_escaped, beforeUid?_escaped, ih inner, last,
      Option.map_or, Option.map_map]
    rfl
  | bare c text plain ih =>
    have inner : Sealed '\\' text := by simpa [Sealed, turn_bare plain plain] using closed
    have last : (c :: text).getLast?.or previous = text.getLast?.or (some c) := by
      cases last : text.getLast? <;> simp [List.getLast?_cons, last]
    rw [List.cons_append, beforeUid?_bare plain, beforeUid?_bare plain, last]
    split
    · rfl
    · rw [ih inner, Option.map_or, Option.map_map]
      rfl

theorem uncut_append {text : List Char} (closed : Sealed '\\' text) {previous : Option Char}
    {rest : List Char} :
    Uncut previous (text ++ rest) ↔
      Uncut previous text ∧ Uncut (text.getLast?.or previous) rest := by
  simp [Uncut, beforeUid?_append closed]

/-! ### Names as they are printed -/

/-- A type is read on if no number sign stands bare in it: it has no equals sign that could stand
    before one. -/
theorem uncut_type_iff {type : List Char} (plain : '=' ∉ type) {previous : Option Char}
    (live : previous.any (· != '=')) :
    Uncut previous (type ++ ['=']) ↔ Unbroken '#' type := by
  induction type using escape_induction generalizing previous with
  | nil => simp [Uncut, beforeUid?, Unbroken]
  | lone => simp [Uncut, beforeUid?, Unbroken]
  | escaped c rest ih =>
    simp only [List.mem_cons, not_or] at plain
    have next : (some c).any (· != '=') := by simpa using Ne.symm plain.2.1
    simpa [Uncut, beforeUid?_escaped, Unbroken] using ih plain.2.2 next
  | bare c rest bare ih =>
    simp only [List.mem_cons, not_or] at plain
    -- No character of the type is an equals sign, so an identifier may begin behind each.
    have next : (some c).any (· != '=') := by simpa using Ne.symm plain.1
    rw [Uncut, List.cons_append, beforeUid?_bare bare]
    by_cases sign : c = '#'
    · simp [sign, live, Unbroken, turn]
    · simpa [sign, Unbroken, turn_bare bare sign, Uncut] using ih plain.2 next

/-- A type without a number sign at its head. -/
def unsigned : List Char → List Char
  | '#' :: rest => rest
  | type => type

/-- At the head of a name there is nothing before a number sign. -/
theorem uncut_first_type_iff {type : List Char} (plain : '=' ∉ type) :
    Uncut none (type ++ ['=']) ↔ Unbroken '#' (unsigned type) := by
  cases type with
  | nil => simp [Uncut, beforeUid?, Unbroken, unsigned]
  | cons c rest =>
    by_cases sign : c = '#'
    · subst sign
      have next : (some '#').any (· != '=') := rfl
      have inner := uncut_type_iff (fun there => plain (List.mem_cons_of_mem _ there)) next
      rw [unsigned, ← inner, Uncut, List.cons_append, beforeUid?_bare (by decide)]
      simp [Uncut]
    · have behind : Uncut none (c :: rest ++ ['=']) ↔ Uncut (some ',') (c :: rest ++ ['=']) := by
        rw [Uncut, Uncut, List.cons_append, beforeUid?_of_ne sign]
      have whole : unsigned (c :: rest) = c :: rest := by
        unfold unsigned
        split
        · simp_all
        · rfl
      rw [behind, uncut_type_iff plain rfl, whole]

/-- Every number sign in a value stands at its head or behind an equals sign. -/
def Hedged (value : List Char) : Prop := value.IsChain fun c d => d = '#' → c = '='

instance (value : List Char) : Decidable (Hedged value) :=
  inferInstanceAs (Decidable (List.IsChain _ value))

theorem hedged_behind_equals (value : List Char) : Hedged ('=' :: value) ↔ Hedged value := by
  cases value <;> simp [Hedged]

/-- A printed value is read on behind an equals sign. -/
theorem uncut_escapeFrom_iff {first : Bool} {c : Char} (opened : first = true → c = '=')
    (value : List Char) :
    Uncut (some c) (escapeFrom first value) ↔ Hedged (c :: value) := by
  induction value generalizing first c with
  | nil => simp [Uncut, escapeFrom, beforeUid?, Hedged]
  | cons d rest ih =>
    have inner : Uncut (some d) (escapeFrom false rest) ↔ Hedged (d :: rest) := ih (by simp)
    by_cases escaped : needsEscape first rest.isEmpty d = true
    · have written : escapeFrom first (d :: rest) = '\\' :: d :: escapeFrom false rest := by
        simp [escapeFrom, escaped]
      -- The only number sign that is escaped is one behind the equals sign of the assertion.
      have allowed : d = '#' → c = '=' := by
        rintro rfl
        apply opened
        simpa [needsEscape] using escaped
      rw [written, Uncut, beforeUid?_escaped, Option.map_eq_none_iff, ← Uncut, inner, Hedged,
        Hedged, List.isChain_cons_cons]
      exact (and_iff_right allowed).symm
    · have written : escapeFrom first (d :: rest) = d :: escapeFrom false rest := by
        simp [escapeFrom, escaped]
      have plain : d ≠ '\\' := by
        rintro rfl
        exact escaped rfl
      rw [written, Uncut, beforeUid?_bare plain, Hedged, List.isChain_cons_cons, ← Hedged, ← inner]
      by_cases cut : d = '#' ∧ c ≠ '='
      · simp [cut]
      · rw [if_neg (by simpa using cut), Option.map_eq_none_iff, ← Uncut, and_iff_right]
        simpa using cut

theorem uncut_assertion_iff {assertion : Assertion} (sound : assertion.Sound)
    {previous : Option Char} :
    Uncut previous (printAssertion assertion) ↔
      Uncut previous (assertion.type.toList ++ ['=']) ∧ Hedged assertion.value.toList := by
  have opened : Sealed ',' (assertion.type.toList ++ ['=']) :=
    (sound.unbroken ',' (Or.inl rfl)).concat (by decide) (by decide)
  have split : printAssertion assertion =
      (assertion.type.toList ++ ['=']) ++ escapeFrom true assertion.value.toList := by
    simp [printAssertion]
  rw [split, uncut_append opened.closed, List.getLast?_concat, Option.some_or,
    uncut_escapeFrom_iff fun _ => rfl, hedged_behind_equals]

/-- Behind a separator a text is read on whatever the separator is. -/
theorem uncut_intercalate_iff {joint : Char} (plain : joint ≠ '\\') (other : joint ≠ '#')
    {text : List Char} {texts : List (List Char)}
    (closed : ∀ one ∈ text :: texts, Sealed '\\' one) {previous : Option Char} :
    Uncut previous (List.intercalate [joint] (text :: texts)) ↔
      Uncut previous text ∧ ∀ one ∈ texts, Uncut (some joint) one := by
  induction texts generalizing text previous with
  | nil => simp
  | cons next texts ih =>
    have step {before : Option Char} (rest : List Char) :
        Uncut before (joint :: rest) ↔ Uncut (some joint) rest := by
      simp [Uncut, beforeUid?_bare plain, other]
    rw [List.intercalate_cons_cons, List.append_assoc, List.singleton_append,
      uncut_append (closed text List.mem_cons_self), step,
      ih fun one among => closed one (List.mem_cons_of_mem _ among), List.forall_mem_cons]

theorem closed_printAssertion {assertion : Assertion} (sound : assertion.Sound) :
    Sealed '\\' (printAssertion assertion) :=
  (sealed_printAssertion sound (Or.inl rfl)).closed

theorem closed_printStep {step : List Assertion} (sound : ∀ assertion ∈ step, assertion.Sound) :
    Sealed '\\' (printStep step) := by
  apply Sealed.intercalate (by decide) (by decide)
  simpa using fun assertion among => closed_printAssertion (sound assertion among)

theorem closed_print {name : DistinguishedName} (sound : name.Sound) : Sealed '\\' name.print := by
  apply Sealed.intercalate (by decide) (by decide)
  simpa using fun step among => closed_printStep (sound.steps step among).2

theorem uncut_printStep_iff {assertion : Assertion} {others : List Assertion}
    (sound : ∀ one ∈ assertion :: others, one.Sound) {previous : Option Char} :
    Uncut previous (printStep (assertion :: others)) ↔
      Uncut previous (printAssertion assertion) ∧
        ∀ one ∈ others, Uncut (some ',') (printAssertion one) := by
  have closed : ∀ text ∈ (assertion :: others).map printAssertion, Sealed '\\' text := by
    simpa using fun one among => closed_printAssertion (sound one among)
  have alike (text : List Char) : Uncut (some '+') text ↔ Uncut (some ',') text := by
    have same : (some '+').any (· != '=') = (some ',').any (· != '=') := by decide
    rw [Uncut, Uncut, beforeUid?_congr same]
  rw [printStep, List.map_cons, uncut_intercalate_iff (by decide) (by decide) closed]
  simp only [List.forall_mem_map, alike]

theorem uncut_print_cons_iff {assertion : Assertion} {others : List Assertion}
    {steps : List (List Assertion)} (sound : Sound ⟨(assertion :: others) :: steps⟩) :
    Uncut none (print ⟨(assertion :: others) :: steps⟩) ↔
      Uncut none (printAssertion assertion) ∧
        ∀ one ∈ others ++ steps.flatten, Uncut (some ',') (printAssertion one) := by
  have closed : ∀ text ∈ ((assertion :: others) :: steps).map printStep, Sealed '\\' text := by
    simpa using fun step among => closed_printStep (sound.steps step among).2
  have behind : ∀ step ∈ steps, (Uncut (some ',') (printStep step) ↔
      ∀ one ∈ step, Uncut (some ',') (printAssertion one)) := by
    intro step among
    obtain ⟨filled, sounds⟩ := sound.steps step (List.mem_cons_of_mem _ among)
    obtain ⟨first, rest, rfl⟩ := List.exists_cons_of_ne_nil filled
    rw [uncut_printStep_iff sounds, List.forall_mem_cons]
  rw [print, List.map_cons, uncut_intercalate_iff (by decide) (by decide) closed,
    uncut_printStep_iff (sound.steps _ List.mem_cons_self).2, and_assoc, List.forall_mem_map,
    forall₂_congr behind, List.forall_mem_append, List.forall_mem_flatten]

/-- What has to be true of the number signs in a name for none of them to be taken for the start of
    an identifier when the name is printed. -/
structure Guarded (name : DistinguishedName) : Prop where
  opening : ∀ assertion ∈ name.steps.flatten.head?,
    Unbroken '#' (unsigned assertion.type.toList)
  types : ∀ assertion ∈ name.steps.flatten.tail, Unbroken '#' assertion.type.toList
  values : ∀ assertion ∈ name.steps.flatten, Hedged assertion.value.toList

theorem guarded_iff {name : DistinguishedName} : name.Guarded ↔
    (∀ assertion ∈ name.steps.flatten.head?, Unbroken '#' (unsigned assertion.type.toList)) ∧
      (∀ assertion ∈ name.steps.flatten.tail, Unbroken '#' assertion.type.toList) ∧
      ∀ assertion ∈ name.steps.flatten, Hedged assertion.value.toList :=
  ⟨fun ⟨opening, types, values⟩ => ⟨opening, types, values⟩,
    fun ⟨opening, types, values⟩ => ⟨opening, types, values⟩⟩

instance (name : DistinguishedName) : Decidable name.Guarded := decidable_of_iff' _ guarded_iff

/-- A printed name is left whole exactly if its number signs are guarded. -/
theorem uncut_print_iff {name : DistinguishedName} (sound : name.Sound) :
    Uncut none name.print ↔ name.Guarded := by
  obtain ⟨steps⟩ := name
  obtain ⟨step, steps, rfl⟩ := List.exists_cons_of_ne_nil sound.filled
  obtain ⟨assertion, others, rfl⟩ :=
    List.exists_cons_of_ne_nil (sound.steps step List.mem_cons_self).1
  -- The first type stands at the head of the text; all other types stand behind a separator. What
  -- is between two of them does not matter.
  have flat : ((assertion :: others) :: steps).flatten =
      assertion :: (others ++ steps.flatten) := rfl
  have sounds : ∀ one ∈ assertion :: (others ++ steps.flatten), one.Sound := by
    intro one among
    obtain ⟨step, there, inside⟩ := List.mem_flatten.mp (flat ▸ among)
    exact (sound.steps step there).2 one inside
  rw [List.forall_mem_cons] at sounds
  obtain ⟨first, rest⟩ := sounds
  have behind : ∀ one ∈ others ++ steps.flatten, (Uncut (some ',') (printAssertion one) ↔
      Unbroken '#' one.type.toList ∧ Hedged one.value.toList) := fun one among => by
    rw [uncut_assertion_iff (rest one among), uncut_type_iff (rest one among).plain rfl]
  rw [uncut_print_cons_iff sound, uncut_assertion_iff first, uncut_first_type_iff first.plain,
    forall₂_congr behind]
  constructor
  · rintro ⟨⟨opening, value⟩, others⟩
    refine ⟨?_, fun one among => (others one among).1, ?_⟩
    · rintro _ ⟨⟩
      exact opening
    · rw [flat, List.forall_mem_cons]
      exact ⟨value, fun one among => (others one among).2⟩
  · rintro ⟨opening, types, values⟩
    rw [flat, List.forall_mem_cons] at values
    exact ⟨⟨opening assertion rfl, values.1⟩, fun one among =>
      ⟨types one among, values.2 one among⟩⟩

/-! ### Identifiers behind printed names -/

theorem getLast?_printAssertion (assertion : Assertion) :
    (printAssertion assertion).getLast? = some (assertion.value.toList.getLast?.getD '=') := by
  simp [printAssertion, List.getLast?_append, List.getLast?_cons, getLast?_escapeFrom]

theorem getLast?_intercalate (joint : Char) {texts : List (List Char)} {text : List Char}
    (last : texts.getLast? = some text) (filled : text ≠ []) :
    (List.intercalate [joint] texts).getLast? = text.getLast? := by
  induction texts with
  | nil => contradiction
  | cons first texts ih =>
    cases texts with
    | nil =>
      obtain rfl : first = text := by simpa using last
      simp
    | cons next texts =>
      have inner := ih (by simpa [List.getLast?_cons] using last)
      have ended : text.getLast? ≠ none := by simpa using filled
      obtain ⟨c, shown⟩ := Option.ne_none_iff_exists'.mp ended
      rw [List.intercalate_cons_cons, List.getLast?_append, inner, shown]
      rfl

/-- A name ends with its last value, or with an equals sign if that is empty. -/
theorem getLast?_print {name : DistinguishedName} (sound : name.Sound) {assertion : Assertion}
    (last : name.steps.flatten.getLast? = some assertion) :
    name.print.getLast? = some (assertion.value.toList.getLast?.getD '=') := by
  obtain ⟨steps⟩ := name
  obtain ⟨front, step, rfl⟩ := (List.eq_nil_or_concat' steps).resolve_left sound.filled
  obtain ⟨first, one, rfl⟩ := (List.eq_nil_or_concat' step).resolve_left
    (sound.steps step (by simp)).1
  obtain rfl : one = assertion := by simpa [← List.append_assoc] using last
  have shown := getLast?_printAssertion one
  have filled : printAssertion one ≠ [] := by
    intro empty
    simp [empty] at shown
  have ended : (printStep (first ++ [one])).getLast? = (printAssertion one).getLast? :=
    getLast?_intercalate '+' (by simp) filled
  have filled' : printStep (first ++ [one]) ≠ [] := by
    intro empty
    simp [empty, shown] at ended
  rw [print, getLast?_intercalate ',' (by simp) filled', ended, shown]

/-- What is made of a number sign behind a name is up to the character before it. -/
theorem beforeUid?_print {name : DistinguishedName} (sound : name.Sound) (guarded : name.Guarded)
    (uid : List Char) :
    beforeUid? none (name.print ++ '#' :: uid) =
      if name.print.getLast?.any (· != '=') then some name.print
      else (beforeUid? (some '#') uid).map (name.print ++ '#' :: ·) := by
  have uncut : beforeUid? none name.print = none := (uncut_print_iff sound).mpr guarded
  rw [beforeUid?_append (closed_print sound), uncut, Option.none_or, Option.or_none,
    beforeUid?_bare (by decide)]
  by_cases live : name.print.getLast?.any (· != '=')
  · simp [live]
  · simp [live, Function.comp_def]

theorem withoutUid_behind (name : DistinguishedName) (uid : String) :
    withoutUid (name.toText ++ "#" ++ uid) =
      ((beforeUid? none (name.print ++ '#' :: uid.toList)).map fun front =>
        String.ofList (trimEnd front)).getD (name.toText ++ "#" ++ uid) := by
  have spelled : (name.toText ++ "#" ++ uid).toList = name.print ++ '#' :: uid.toList := by
    simp [toText]
  rw [withoutUid, spelled]
  cases beforeUid? none (name.print ++ '#' :: uid.toList) <;> rfl

/-- A name whose number signs are guarded is left as it was printed, with an identifier behind it or
    without. Only behind an empty last value the number sign stays: it opens a value there. (Nothing
    is said of names in which other number signs stand bare, nor of a last value that ends in an
    equals sign.) -/
theorem withoutUid_toText {text : String} {name : DistinguishedName}
    (parsed : parse text = .ok name)
    (trimmed : ∀ step ∈ name.steps, ∀ assertion ∈ step,
      trim assertion.value.toList = assertion.value.toList)
    (guarded : name.Guarded) :
    withoutUid name.toText = name.toText ∧
      ∀ assertion ∈ name.steps.flatten.getLast?, ∀ uid : String,
        (assertion.value ≠ "" → assertion.value.toList.getLast? ≠ some '=' →
          withoutUid (name.toText ++ "#" ++ uid) = name.toText) ∧
        (assertion.value = "" →
          (name.toText ++ "#").toList <+: (withoutUid (name.toText ++ "#" ++ uid)).toList) := by
  have sound := sound_of_parse parsed
  have uncut : beforeUid? none name.print = none := (uncut_print_iff sound).mpr guarded
  constructor
  · rw [withoutUid, toText, String.toList_ofList, uncut]
  intro assertion last uid
  rw [withoutUid_behind, beforeUid?_print sound guarded, getLast?_print sound last]
  constructor
  · intro filled other
    obtain ⟨step, among, inside⟩ := List.mem_flatten.mp (List.mem_of_getLast? last)
    obtain ⟨front, c, spelled, dark⟩ :=
      exists_dark_last (trimmed step among assertion inside) (by simpa using filled)
    have ended : assertion.value.toList.getLast? = some c := by simp [spelled]
    have shown : name.print.getLast? = some c := by rw [getLast?_print sound last, ended]; rfl
    have live : c ≠ '=' := by simpa [ended] using other
    have whole : trimEnd name.print = name.print := by
      obtain ⟨before, split⟩ := List.getLast?_eq_some_iff.mp shown
      rw [split, trimEnd_concat_of_dark dark]
    simp [ended, live, whole, toText]
  · intro empty
    -- What is found behind the number sign is put behind it again.
    rw [if_neg (by simp [empty])]
    have kept : (name.toText ++ "#").toList = name.print ++ ['#'] := by simp [toText]
    rw [kept]
    cases beforeUid? (some '#') uid.toList with
    | none => simp [toText]
    | some rest =>
      have dark : isBlank '#' = false := by decide
      simp [trimEnd_append_of_dark dark]

/-- Number signs at the head of a type and of a value, and behind an equals sign that is in a
    value. -/
theorem withoutUid_toText_of_signs :
    ∃ name, parse "#t=\\#1\\=#2+c=y, d=z\\2B" = .ok name ∧ name.Guarded ∧
      withoutUid name.toText = name.toText ∧
      withoutUid (name.toText ++ "#" ++ "'0101'B") = name.toText := by
  have parsed : parse "#t=\\#1\\=#2+c=y, d=z\\2B" =
      .ok ⟨[[⟨"#t", "#1=#2"⟩, ⟨"c", "y"⟩], [⟨"d", "z+"⟩]]⟩ := by decide +kernel
  have guarded : Guarded ⟨[[⟨"#t", "#1=#2"⟩, ⟨"c", "y"⟩], [⟨"d", "z+"⟩]]⟩ := by decide +kernel
  obtain ⟨alone, behind⟩ := withoutUid_toText parsed (by decide +kernel) guarded
  exact ⟨_, parsed, guarded, alone, (behind ⟨"d", "z+"⟩ rfl "'0101'B").1 (by decide) (by decide)⟩

/-- A number sign opens the value that it stands at the head of, whatever is before it; one inside a
    value cuts the name, and one behind a value that ends in an equals sign does not. -/
theorem withoutUid_toText_misread :
    (parse "cn=" = .ok ⟨[[⟨"cn", ""⟩]]⟩ ∧ toText ⟨[[⟨"cn", ""⟩]]⟩ = "cn=" ∧
      withoutUid ("cn=" ++ "#" ++ "41,dc=x") = "cn=#41,dc=x") ∧
    (parse "cn=a#b,dc=x" = .ok ⟨[[⟨"cn", "a#b"⟩], [⟨"dc", "x"⟩]]⟩ ∧
      toText ⟨[[⟨"cn", "a#b"⟩], [⟨"dc", "x"⟩]]⟩ = "cn=a#b,dc=x" ∧
      withoutUid "cn=a#b,dc=x" = "cn=a") ∧
    (parse "cn=a\\=" = .ok ⟨[[⟨"cn", "a="⟩]]⟩ ∧ toText ⟨[[⟨"cn", "a="⟩]]⟩ = "cn=a\\=" ∧
      withoutUid ("cn=a\\=" ++ "#" ++ "'0101'B") = "cn=a\\=#'0101'B") := by
  decide +kernel

end DistinguishedName

end NameService
