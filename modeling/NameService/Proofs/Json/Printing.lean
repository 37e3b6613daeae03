import NameService.Json.Reader
import Mathlib.Data.List.TakeWhile

/-!
Values that are printed and read again. A printed text holds no blanks, so that every value, every
item and every member begins where the one before it ends; only a number has to be told from what
comes behind it.

## Main result

`read_print`: a value without flaws is what is read from its text.
-/

namespace NameService.Json

/-! ### Strings -/

/-- The piece as which a character is written. -/
def pieceOf (c : Char) : Piece :=
  if c.toNat < 0x20 ∧ c ∉ ['\n', '\r', '\t', '\x08', '\x0c'] then .unit c.toNat else .char c

theorem unit?_hexDigits :
    ∀ n < 0x20, unit? '0' '0' (Nat.digitChar (n / 16)) (Nat.digitChar (n % 16)) = some n := by
  decide

theorem pieces_escapeChar (c : Char) (rest : List Char) :
    pieces (escapeChar c ++ rest) = (pieceOf c :: (pieces rest).1, (pieces rest).2) := by
  by_cases special : c ∈ ['"', '\\', '\n', '\r', '\t', '\x08', '\x0c']
  · -- Each of these has a letter of its own.
    simp only [List.mem_cons, List.not_mem_nil, or_false] at special
    rcases special with rfl | rfl | rfl | rfl | rfl | rfl | rfl <;>
      simp [escapeChar, pieces, escaped?, pieceOf]
  simp only [List.mem_cons, List.not_mem_nil, or_false, not_or] at special
  obtain ⟨quote, backslash, newline, feed, tab, back, form⟩ := special
  by_cases control : c.toNat < 0x20
  · simp [escapeChar, pieces, hexDigits, unit?_hexDigits, pieceOf, *]
  · simp [escapeChar, pieces, pieceOf, *]

theorem pieces_quoted (text rest : List Char) :
    pieces (text.flatMap escapeChar ++ '"' :: rest) = (text.map pieceOf, .ok rest) := by
  induction text with
  | nil => simp [pieces]
  | cons c text ih =>
    rw [List.flatMap_cons, List.append_assoc, pieces_escapeChar, ih]
    rfl

/-- No control character is half of a surrogate pair. -/
theorem assemble_pieceOf (fault : Option Fault) (text : List Char) :
    assemble fault (text.map pieceOf) = match fault with
      | none => .ok text
      | some fault => .error fault := by
  induction text with
  | nil => rfl
  | cons c text ih =>
    rw [List.map_cons, pieceOf]
    split
    · next control =>
      have low : isLow c.toNat = false := by
        simp only [isLow, Bool.and_eq_false_iff, decide_eq_false_iff_not]
        omega
      have high : isHigh c.toNat = false := by
        simp only [isHigh, Bool.and_eq_false_iff, decide_eq_false_iff_not]
        omega
      rw [assemble.eq_def]
      simp only [low, high, ih]
      cases fault <;> simp [Char.ofNat_toNat, bind, Except.bind, pure, Except.pure]
    · simp only [assemble, ih]
      cases fault <;> rfl

theorem quoted_quote (text : String) (rest : List Char) :
    quoted (text.toList.flatMap escapeChar ++ '"' :: rest) = (.ok text, .ok rest) := by
  rw [quoted, pieces_quoted]
  dsimp only
  rw [assemble_pieceOf]
  simp [Except.map]

theorem quote_append (text : String) (rest : List Char) :
    quote text ++ rest = '"' :: (text.toList.flatMap escapeChar ++ '"' :: rest) := by
  simp [quote]

/-! ### Numbers -/

/-- What comes behind a number is no part of it. -/
def Parted (rest : List Char) : Prop :=
  ∀ c ∈ rest.head?, c.isDigit = false ∧ c ≠ '.' ∧ c ≠ 'e' ∧ c ≠ 'E'

theorem parted_nil : Parted [] := nofun

theorem parted_cons {c : Char} {rest : List Char} (digit : c.isDigit = false)
    (others : c ≠ '.' ∧ c ≠ 'e' ∧ c ≠ 'E') : Parted (c :: rest) := by
  rintro d ⟨⟩
  exact ⟨digit, others⟩

theorem readFraction_parted (n : Numeral) {rest : List Char} (parted : Parted rest) :
    readFraction n rest = (n.value, some rest) := by
  cases rest with
  | nil => rfl
  | cons c rest =>
    obtain ⟨-, point, small, capital⟩ := parted c rfl
    simp [readFraction, readExponent, point, small, capital]

theorem digits_ne_nil (n : Nat) : (toString n).toList ≠ [] := by
  rw [Nat.toString_eq_ofList_toDigits, String.toList_ofList]
  exact Nat.toDigits_ne_nil

theorem digitChar_ne_zero : ∀ n < 10, 0 < n → Nat.digitChar n ≠ '0' := by
  decide

/-- A number but zero does not begin with a zero. -/
theorem head_toDigits {n : Nat} (positive : 0 < n) (rest : List Char) :
    Nat.toDigits 10 n ≠ '0' :: rest := by
  induction n using Nat.strong_induction_on generalizing rest with
  | _ n ih =>
    by_cases small : n < 10
    · rw [Nat.toDigits_of_lt_base small]
      intro same
      exact digitChar_ne_zero n small positive (List.cons.inj same).1
    · rw [Nat.toDigits_of_base_le (by decide) (by omega)]
      intro same
      cases leading : Nat.toDigits 10 (n / 10) with
      | nil => exact Nat.toDigits_ne_nil leading
      | cons c others =>
        rw [leading] at same
        obtain ⟨rfl, -⟩ := List.cons.inj same
        exact ih (n / 10) (by omega) (by omega) others leading

theorem readNumber_digits (negative : Bool) (n : Nat) {rest : List Char} (parted : Parted rest) :
    readNumber negative ((toString n).toList ++ rest) =
      ((⟨negative, (toString n).toList, none, none⟩ : Numeral).value, some rest) := by
  have digits : ∀ c ∈ (toString n).toList, c.isDigit = true :=
    fun _ => Text.isDigit_of_mem_toString
  have behind : rest.takeWhile Char.isDigit = [] := by
    cases rest with
    | nil => rfl
    | cons c rest => simp [(parted c rfl).1]
  cases written : (toString n).toList with
  | nil => exact absurd written (digits_ne_nil n)
  | cons d others =>
    rw [written] at digits
    have taken : ((d :: others) ++ rest).takeWhile Char.isDigit = d :: others := by
      rw [List.takeWhile_append_of_pos digits, behind, List.append_nil]
    -- A number other than zero does not begin with zero, and so it is not cut short there.
    by_cases zero : n = 0
    · subst zero
      obtain ⟨rfl, rfl⟩ : d = '0' ∧ others = [] := by simpa using written.symm
      have single : (rest.head?.map Char.isDigit).getD false = false := by
        cases rest with
        | nil => rfl
        | cons c rest => simp [(parted c rfl).1]
      simp [readNumber, single, readFraction_parted _ parted]
    · have leading : d ≠ '0' := by
        rintro rfl
        rw [Nat.toString_eq_ofList_toDigits, String.toList_ofList] at written
        exact head_toDigits (by omega) others written
      rw [List.cons_append] at taken ⊢
      simp [readNumber, leading, taken, readFraction_parted _ parted]

/-! ### Values -/

/-- A value that can be written: nothing in it is flawed, and 64 bits hold every number. -/
inductive Sound : Json → Prop
  | null : Sound .null
  | bool (truth : Bool) : Sound (.bool truth)
  | natural {n : Nat} (kept : n < UInt64.size) : Sound (.integer n)
  | negative {n : Nat} (kept : 2 * n ≤ UInt64.size) (positive : 0 < n) : Sound (.integer (-n))
  | string (text : String) : Sound (.string text)
  | array {items : List Json} (sound : ∀ item ∈ items, Sound item) : Sound (.array items none)
  | object {members : List (String × Json)} (sound : ∀ member ∈ members, Sound member.2) :
    Sound (.object members none)

@[simp] theorem sound_bool (truth : Bool) : Sound (.bool truth) := .bool truth

@[simp] theorem sound_string (text : String) : Sound (.string text) := .string text

@[simp] theorem sound_uint8 (n : UInt8) : Sound (ofNat n.toNat) :=
  .natural (n.toNat_lt.trans (by decide))

@[simp] theorem sound_uint32 (n : UInt32) : Sound (ofNat n.toNat) :=
  .natural (n.toNat_lt.trans (by decide))

@[simp] theorem sound_uint64 (n : UInt64) : Sound (ofNat n.toNat) := .natural n.toNat_lt

@[simp] theorem sound_ofList {items : List Json} :
    Sound (ofList items) ↔ ∀ item ∈ items, Sound item := by
  constructor
  · rintro ⟨⟩
    assumption
  · exact .array

@[simp] theorem sound_ofMembers {members : List (String × Json)} :
    Sound (ofMembers members) ↔ ∀ member ∈ members, Sound member.2 := by
  constructor
  · rintro ⟨⟩
    assumption
  · exact .object

theorem value_natural {digits : List Char} {n : Nat} (worth : Text.decimal digits = n)
    (kept : n < UInt64.size) : (⟨false, digits, none, none⟩ : Numeral).value = .integer n := by
  simp [Numeral.value, Numeral.isWhole, worth, kept]

theorem value_negative {digits : List Char} {n : Nat} (worth : Text.decimal digits = n)
    (kept : 2 * n ≤ UInt64.size) (positive : 0 < n) :
    (⟨true, digits, none, none⟩ : Numeral).value = .integer (-n) := by
  simp [Numeral.value, Numeral.isWhole, worth, kept, positive]

/-- The sign and the digits of a number below zero. -/
theorem toString_negative {n : Nat} (positive : 0 < n) :
    (toString (-n : Int)).toList = '-' :: (toString n).toList := by
  cases n with
  | zero => cases positive
  | succ n =>
    change ("-" ++ toString (n + 1)).toList = _
    rw [String.toList_append]
    rfl

/-- A digit is neither a blank nor the beginning of anything but a number. -/
theorem ne_of_isDigit {c d : Char} (digit : c.isDigit = true) (other : d.isDigit = false) :
    c ≠ d := by
  rintro rfl
  rw [digit] at other
  cases other

theorem dark_of_isDigit {c : Char} (digit : c.isDigit = true) : isBlank c = false := by
  have ne (d : Char) (other : d.isDigit = false) : (c == d) = false :=
    beq_eq_false_iff_ne.mpr (ne_of_isDigit digit other)
  simp [isBlank, ne]

theorem exists_digits (n : Nat) : ∃ c rest, (toString n).toList = c :: rest ∧ c.isDigit = true := by
  cases written : (toString n).toList with
  | nil => exact absurd written (digits_ne_nil n)
  | cons c rest =>
    refine ⟨c, rest, rfl, ?_⟩
    apply Text.isDigit_of_mem_toString
    rw [written]
    exact List.mem_cons_self

/-- A text that begins with a value begins with no blank, and does not end an array. -/
theorem print_head {v : Json} (sound : Sound v) :
    ∃ c rest, print v = c :: rest ∧ isBlank c = false ∧ c ≠ ']' := by
  cases sound with
  | null => exact ⟨_, _, rfl, by decide, by decide⟩
  | bool truth => cases truth <;> exact ⟨_, _, rfl, by decide, by decide⟩
  | @natural n kept =>
    obtain ⟨c, rest, written, digit⟩ := exists_digits n
    exact ⟨c, rest, written, dark_of_isDigit digit, ne_of_isDigit digit (by decide)⟩
  | @negative n kept positive => exact ⟨_, _, toString_negative positive, by decide, by decide⟩
  | string text => exact ⟨_, _, rfl, by decide, by decide⟩
  | array sound => exact ⟨_, _, rfl, by decide, by decide⟩
  | object sound => exact ⟨_, _, rfl, by decide, by decide⟩

theorem skipBlanks_of_head {c : Char} {rest : List Char} (dark : isBlank c = false) :
    skipBlanks (c :: rest) = c :: rest := by
  simp [skipBlanks, dark]

section Heads

variable {fuel : Nat} {rest : List Char}

theorem value_digits {n : Nat} (kept : n < UInt64.size) (parted : Parted rest) :
    value (fuel + 1) ((toString n).toList ++ rest) = (.integer n, some rest) := by
  have read := readNumber_digits false n parted
  rw [value_natural (Text.decimal_toString n) kept] at read
  obtain ⟨c, others, written, digit⟩ := exists_digits n
  rw [written, List.cons_append] at read ⊢
  have ne (d : Char) (other : d.isDigit = false) : c ≠ d := ne_of_isDigit digit other
  rw [value, skipBlanks_of_head (dark_of_isDigit digit)]
  simpa [ne, digit] using read

theorem value_sign {n : Nat} (kept : 2 * n ≤ UInt64.size) (positive : 0 < n)
    (parted : Parted rest) :
    value (fuel + 1) ('-' :: (toString n).toList ++ rest) = (.integer (-n), some rest) := by
  have read := readNumber_digits true n parted
  rw [value_negative (Text.decimal_toString n) kept positive] at read
  rw [List.cons_append, value, skipBlanks_of_head (by decide)]
  exact read

theorem value_bracket {c : Char} (dark : isBlank c = false) (other : c ≠ ']') :
    value (fuel + 1) ('[' :: c :: rest) =
      (.array (items fuel (c :: rest)).entries (items fuel (c :: rest)).flaw,
        (items fuel (c :: rest)).rest) := by
  rw [value, skipBlanks_of_head (by decide)]
  simp [skipBlanks_of_head dark, other]

theorem value_brace {c : Char} (dark : isBlank c = false) (other : c ≠ '\x7d') :
    value (fuel + 1) ('\x7b' :: c :: rest) =
      (.object (members fuel (c :: rest)).entries (members fuel (c :: rest)).flaw,
        (members fuel (c :: rest)).rest) := by
  rw [value, skipBlanks_of_head (by decide)]
  simp [skipBlanks_of_head dark, other]

theorem items_last {text : List Char} {v : Json}
    (read : value fuel text = (v, some (']' :: rest))) :
    items (fuel + 1) text = ⟨[v], none, some rest⟩ := by
  rw [items, read]
  simp [skipBlanks_of_head (show isBlank ']' = false by decide)]

theorem items_next {text others : List Char} {v : Json} {more : List Json}
    (read : value fuel text = (v, some (',' :: others)))
    (follow : items fuel others = ⟨more, none, some rest⟩) :
    items (fuel + 1) text = ⟨v :: more, none, some rest⟩ := by
  rw [items, read]
  simp [skipBlanks_of_head (show isBlank ',' = false by decide), follow]

theorem members_last {key : String} {text : List Char} {v : Json}
    (read : value fuel text = (v, some ('\x7d' :: rest))) :
    members (fuel + 1) (quote key ++ ':' :: text) = ⟨[(key, v)], none, some rest⟩ := by
  rw [quote_append, members, skipBlanks_of_head (by decide)]
  simp [quoted_quote, skipBlanks_of_head (show isBlank ':' = false by decide),
    skipBlanks_of_head (show isBlank '\x7d' = false by decide), read]

theorem members_next {key : String} {text others : List Char} {v : Json}
    {more : List (String × Json)} (read : value fuel text = (v, some (',' :: others)))
    (follow : members fuel others = ⟨more, none, some rest⟩) :
    members (fuel + 1) (quote key ++ ':' :: text) = ⟨(key, v) :: more, none, some rest⟩ := by
  rw [quote_append, members, skipBlanks_of_head (by decide)]
  simp [quoted_quote, skipBlanks_of_head (show isBlank ':' = false by decide),
    skipBlanks_of_head (show isBlank ',' = false by decide), read, follow]

end Heads

theorem parted_comma (rest : List Char) : Parted (',' :: rest) :=
  parted_cons (by decide) (by decide)

theorem parted_bracket (rest : List Char) : Parted (']' :: rest) :=
  parted_cons (by decide) (by decide)

theorem parted_brace (rest : List Char) : Parted ('\x7d' :: rest) :=
  parted_cons (by decide) (by decide)

theorem printItems_cons (item next : Json) (items : List Json) :
    printItems (item :: next :: items) = print item ++ ',' :: printItems (next :: items) := rfl

theorem printMembers_cons (key : String) (v : Json) (next : String × Json)
    (members : List (String × Json)) :
    printMembers ((key, v) :: next :: members) =
      quote key ++ ':' :: print v ++ ',' :: printMembers (next :: members) := rfl

theorem printItems_head {item : Json} (sound : Sound item) (items : List Json) :
    ∃ c rest, printItems (item :: items) = c :: rest ∧ isBlank c = false ∧ c ≠ ']' := by
  obtain ⟨c, rest, written, head⟩ := print_head sound
  cases items with
  | nil => exact ⟨c, rest, written, head⟩
  | cons next items =>
    rw [printItems_cons, written]
    exact ⟨c, _, rfl, head⟩

theorem printMembers_head (member : String × Json) (members : List (String × Json)) :
    ∃ rest, printMembers (member :: members) = '"' :: rest := by
  cases members with
  | nil => exact ⟨_, rfl⟩
  | cons next members => exact ⟨_, rfl⟩

mutual
/-- The fuel goes down by one at each value, item and member, each of which has a character of its
    own and, but for the last, one that parts it from the next. -/
theorem value_print : ∀ (v : Json) (fuel : Nat) (rest : List Char), Sound v →
    2 * (print v).length ≤ fuel → Parted rest → value fuel (print v ++ rest) = (v, some rest)
  | v, 0, rest, sound, enough, _ => by
    obtain ⟨c, others, written, -⟩ := print_head sound
    simp [written] at enough
  | .null, fuel + 1, rest, _, _, _ => by
    simp [print, value, skipBlanks, isBlank, readWord]
  | .bool true, fuel + 1, rest, _, _, _ => by
    simp [print, value, skipBlanks, isBlank, readWord]
  | .bool false, fuel + 1, rest, _, _, _ => by
    simp [print, value, skipBlanks, isBlank, readWord]
  | .string text, fuel + 1, rest, _, _, _ => by
    rw [print, quote_append, value, skipBlanks_of_head (by decide)]
    simp [quoted_quote]
  | .integer number, fuel + 1, rest, sound, _, parted => by
    cases sound with
    | natural kept => exact value_digits kept parted
    | negative kept positive =>
      rw [print, toString_negative positive]
      exact value_sign kept positive parted
  | .array [] flaw, fuel + 1, rest, sound, _, _ => by
    cases sound
    simp [print, printItems, value, skipBlanks, isBlank]
  | .array (item :: list) flaw, fuel + 1, rest, sound, enough, _ => by
    cases sound with | array sound =>
    have text : print (.array (item :: list) none) ++ rest =
        '[' :: (printItems (item :: list) ++ ']' :: rest) := by
      simp [print]
    -- The brackets pay for the step that reads them.
    have within : 2 * (printItems (item :: list)).length + 1 ≤ fuel := by
      simp only [print, List.length_append, List.length_cons, List.length_nil] at enough
      omega
    have read := items_print (item :: list) fuel rest nofun sound within
    obtain ⟨c, others, written, dark, other⟩ := printItems_head (sound item List.mem_cons_self) list
    rw [written, List.cons_append] at read
    rw [text, written, List.cons_append, value_bracket dark other, read]
  | .object [] flaw, fuel + 1, rest, sound, _, _ => by
    cases sound
    simp [print, printMembers, value, skipBlanks, isBlank]
  | .object (member :: list) flaw, fuel + 1, rest, sound, enough, _ => by
    cases sound with | object sound =>
    -- Members are read as items are, each behind its name.
    have text : print (.object (member :: list) none) ++ rest =
        '\x7b' :: (printMembers (member :: list) ++ '\x7d' :: rest) := by
      simp [print]
    have within : 2 * (printMembers (member :: list)).length + 1 ≤ fuel := by
      simp only [print, List.length_append, List.length_cons, List.length_nil] at enough
      omega
    have read := members_print (member :: list) fuel rest nofun sound within
    obtain ⟨others, written⟩ := printMembers_head member list
    rw [written, List.cons_append] at read
    rw [text, written, List.cons_append, value_brace (by decide) (by decide), read]
  | .decimal literal, _, _, sound, _, _ => by cases sound
  | .flawed flaw, _, _, sound, _, _ => by cases sound

theorem items_print : ∀ (list : List Json) (fuel : Nat) (rest : List Char), list ≠ [] →
    (∀ item ∈ list, Sound item) → 2 * (printItems list).length + 1 ≤ fuel →
    items fuel (printItems list ++ ']' :: rest) = ⟨list, none, some rest⟩
  | _, 0, _, _, _, enough => by simp at enough
  | [item], fuel + 1, rest, _, sound, enough => by
    apply items_last
    apply value_print item fuel _ (sound item List.mem_cons_self) _ (parted_bracket rest)
    simpa [printItems] using enough
  | item :: next :: list, fuel + 1, rest, _, sound, enough => by
    rw [printItems_cons] at enough ⊢
    simp only [List.length_append, List.length_cons] at enough
    rw [List.append_assoc]
    refine items_next (value_print item fuel _ (sound item List.mem_cons_self) (by omega)
      (parted_comma _)) ?_
    exact items_print (next :: list) fuel rest nofun
      (fun other member => sound other (.tail _ member)) (by omega)

theorem members_print : ∀ (list : List (String × Json)) (fuel : Nat) (rest : List Char),
    list ≠ [] → (∀ member ∈ list, Sound member.2) → 2 * (printMembers list).length + 1 ≤ fuel →
    members fuel (printMembers list ++ '\x7d' :: rest) = ⟨list, none, some rest⟩
  | _, 0, _, _, _, enough => by simp at enough
  | [(key, v)], fuel + 1, rest, _, sound, enough => by
    simp only [printMembers, List.length_append, List.length_cons] at enough ⊢
    rw [List.append_assoc, List.cons_append]
    apply members_last
    exact value_print v fuel _ (sound _ List.mem_cons_self) (by omega) (parted_brace rest)
  | (key, v) :: next :: list, fuel + 1, rest, _, sound, enough => by
    rw [printMembers_cons] at enough ⊢
    simp only [List.length_append, List.length_cons] at enough
    simp only [List.append_assoc, List.cons_append]
    refine members_next (value_print v fuel _ (sound _ List.mem_cons_self) (by omega)
      (parted_comma _)) ?_
    exact members_print (next :: list) fuel rest nofun
      (fun other member => sound other (.tail _ member)) (by omega)
end

/-- A value is read from its text, and nothing is left of the text. -/
theorem read_print {v : Json} (sound : Sound v) : read (print v) = (v, none) := by
  have found := value_print v (2 * (print v).length + 2) [] sound (by omega) parted_nil
  rw [List.append_nil] at found
  rw [read, found]
  rfl

end NameService.Json
