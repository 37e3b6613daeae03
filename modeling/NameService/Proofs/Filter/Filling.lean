import NameService.Proofs.Filter.Grammar
import NameService.Proofs.Text.Traversal
import NameService.Text.Octets

/-!
What values become in a filled template. A template is a row of plain characters and of conversions.
Plain characters are copied, and a conversion gives way to the written form of a value: the value of
a text can be read from it again, and no character of it has a meaning in a filter.

## Main result

`render_confines`: a template can be filled, or not, with all arguments of one shape alike, and the
filters that come of it differ inside of values only.
-/

namespace NameService.Filter

open NameService.Text

/-! ### Templates -/

/-- A part of a template: a character, or a conversion that takes a value of some kind. -/
inductive Piece where
  | plain (c : Char)
  | conversion (kind : Char)
deriving DecidableEq, Repr

namespace Piece

/-- A percent sign that stands for itself is written twice. -/
def written : Piece → List Char
  | plain c => if c = '%' then ['%', '%'] else [c]
  | conversion kind => ['%', kind]

def WellFormed : Piece → Prop
  | plain _ => True
  | conversion kind => kind ≠ '%'

def kind? : Piece → Option Char
  | plain _ => none
  | conversion kind => some kind

end Piece

/-- The kinds of value that pieces ask for, in order. -/
def kinds (pieces : List Piece) : List Char := pieces.filterMap Piece.kind?

@[simp] theorem kinds_plain (c : Char) (pieces : List Piece) :
    kinds (.plain c :: pieces) = kinds pieces := rfl

@[simp] theorem kinds_conversion (kind : Char) (pieces : List Piece) :
    kinds (.conversion kind :: pieces) = kind :: kinds pieces := rfl

structure Spells (pieces : List Piece) (template : List Char) : Prop where
  formed : ∀ piece ∈ pieces, piece.WellFormed
  written : template = pieces.flatMap Piece.written

/-- The template ends in a percent sign that begins nothing. -/
def EndsOpen (template : List Char) : Prop :=
  ∃ pieces whole, Spells pieces whole ∧ template = whole ++ ['%']

/-- Templates are taken apart as they are filled: a percent sign goes with what is after it. -/
@[elab_as_elim]
theorem template_induction {motive : List Char → Prop} (nil : motive []) (lone : motive ['%'])
    (doubled : ∀ rest, motive rest → motive ('%' :: '%' :: rest))
    (conversion : ∀ kind rest, kind ≠ '%' → motive rest → motive ('%' :: kind :: rest))
    (plain : ∀ c rest, c ≠ '%' → motive rest → motive (c :: rest)) (template : List Char) :
    motive template := by
  -- What is behind a percent sign is taken away with it, also when it is another one.
  match template with
  | [] => exact nil
  | c :: rest =>
    by_cases sign : c = '%'
    · subst sign
      match rest with
      | [] => exact lone
      | kind :: rest =>
        have ih := template_induction nil lone doubled conversion plain rest
        by_cases twice : kind = '%'
        · subst twice
          exact doubled rest ih
        · exact conversion kind rest twice ih
    · exact plain c rest sign (template_induction nil lone doubled conversion plain rest)

/-- The pieces of a template, if all of them are whole. -/
def pieces? : List Char → Option (List Piece)
  | [] => some []
  | ['%'] => none
  | '%' :: '%' :: rest => (pieces? rest).map (.plain '%' :: ·)
  | '%' :: kind :: rest => (pieces? rest).map (.conversion kind :: ·)
  | c :: rest => (pieces? rest).map (.plain c :: ·)

theorem pieces?_plain {c : Char} (plain : c ≠ '%') (rest : List Char) :
    pieces? (c :: rest) = (pieces? rest).map (.plain c :: ·) := by
  rw [pieces?] <;> simp [plain]

theorem pieces?_conversion {kind : Char} (other : kind ≠ '%') (rest : List Char) :
    pieces? ('%' :: kind :: rest) = (pieces? rest).map (.conversion kind :: ·) := by
  rw [pieces?]
  simpa using other

theorem pieces?_written {piece : Piece} (formed : piece.WellFormed) (rest : List Char) :
    pieces? (piece.written ++ rest) = (pieces? rest).map (piece :: ·) := by
  cases piece with
  | plain c =>
    by_cases sign : c = '%'
    · subst sign
      rfl
    · simpa [Piece.written, sign] using pieces?_plain sign rest
  | conversion kind => exact pieces?_conversion formed rest

/-- The pieces that a template begins with are read first. -/
theorem Spells.pieces?_append {pieces : List Piece} {template : List Char}
    (spells : Spells pieces template) (rest : List Char) :
    pieces? (template ++ rest) = (pieces? rest).map (pieces ++ ·) := by
  obtain ⟨formed, rfl⟩ := spells
  induction pieces with
  | nil => simp
  | cons piece pieces ih =>
    simp only [List.mem_cons, forall_eq_or_imp] at formed
    rw [List.flatMap_cons, List.append_assoc, pieces?_written formed.1, ih formed.2, Option.map_map]
    rfl

theorem Spells.cons (piece : Piece) {pieces : List Piece} {template : List Char}
    (formed : piece.WellFormed) (spells : Spells pieces template) :
    Spells (piece :: pieces) (piece.written ++ template) where
  formed := by simpa using ⟨formed, spells.formed⟩
  written := by rw [spells.written, List.flatMap_cons]

theorem pieces?_eq_some_iff {template : List Char} {pieces : List Piece} :
    pieces? template = some pieces ↔ Spells pieces template := by
  constructor
  · intro read
    induction template using template_induction generalizing pieces with
    | nil =>
      cases read
      exact ⟨by simp, rfl⟩
    | lone => cases read
    | doubled rest ih =>
      obtain ⟨others, inner, rfl⟩ := Option.map_eq_some_iff.mp read
      exact (ih inner).cons (.plain '%') trivial
    | conversion kind rest other ih =>
      rw [pieces?_conversion other] at read
      obtain ⟨others, inner, rfl⟩ := Option.map_eq_some_iff.mp read
      exact (ih inner).cons (.conversion kind) other
    | plain c rest plain ih =>
      rw [pieces?_plain plain] at read
      obtain ⟨others, inner, rfl⟩ := Option.map_eq_some_iff.mp read
      simpa [Piece.written, plain] using (ih inner).cons (.plain c) trivial
  · -- The pieces of a template are those it was written from, since nothing is left to be read.
    intro spells
    simpa [pieces?] using spells.pieces?_append []

theorem EndsOpen.append (piece : Piece) {template : List Char} (formed : piece.WellFormed)
    (ends : EndsOpen template) : EndsOpen (piece.written ++ template) := by
  obtain ⟨pieces, whole, spells, rfl⟩ := ends
  exact ⟨piece :: pieces, piece.written ++ whole, spells.cons piece formed, by simp⟩

/-- A template has pieces unless its last percent sign begins nothing. -/
theorem pieces?_eq_none_iff {template : List Char} :
    pieces? template = none ↔ EndsOpen template := by
  constructor
  · intro unread
    induction template using template_induction with
    | nil => cases unread
    | lone => exact ⟨[], [], ⟨by simp, rfl⟩, rfl⟩
    | doubled rest ih =>
      exact (ih (Option.map_eq_none_iff.mp unread)).append (.plain '%') trivial
    | conversion kind rest other ih =>
      rw [pieces?_conversion other] at unread
      exact (ih (Option.map_eq_none_iff.mp unread)).append (.conversion kind) other
    | plain c rest plain ih =>
      rw [pieces?_plain plain] at unread
      simpa [Piece.written, plain] using
        (ih (Option.map_eq_none_iff.mp unread)).append (.plain c) trivial
  · rintro ⟨pieces, whole, spells, rfl⟩
    simpa [pieces?] using spells.pieces?_append ['%']

/-! ### Values as they are written -/

/-- The octets of a written value: those of its characters, and those given by their digits. -/
def unescape : List Char → Option (List UInt8)
  | [] => some []
  | '\\' :: high :: low :: rest => do
    let high ← hexDigit? high
    let low ← hexDigit? low
    return UInt8.ofNat (high * 16 + low) :: (← unescape rest)
  | c :: rest => if c = '\\' then none else (unescape rest).map (String.utf8EncodeChar c ++ ·)

/-- The text that a written value stands for. -/
def decode? (written : List Char) : Option String := (unescape written).bind Text.decode?

/-- A character is escaped, or it is written as it is and has no meaning. -/
theorem escapeChar_cases (c : Char) :
    (∃ high low, escapeChar c = ['\\', high, low] ∧ ∃ h l, hexDigit? high = some h ∧
      hexDigit? low = some l ∧ String.utf8EncodeChar c = [UInt8.ofNat (h * 16 + l)]) ∨
    (escapeChar c = [c] ∧ c ≠ '\\' ∧ c ≠ '*' ∧ c ≠ '(' ∧ c ≠ ')' ∧ c ≠ '\x00') := by
  -- Five characters mean something in a filter, and each of them is one octet.
  unfold escapeChar
  split
  · next star =>
    subst star
    exact .inl ⟨'2', 'a', rfl, 2, 10, rfl, rfl, by decide +kernel⟩
  split
  · next opening =>
    subst opening
    exact .inl ⟨'2', '8', rfl, 2, 8, rfl, rfl, by decide +kernel⟩
  split
  · next closing =>
    subst closing
    exact .inl ⟨'2', '9', rfl, 2, 9, rfl, rfl, by decide +kernel⟩
  split
  · next backslash =>
    subst backslash
    exact .inl ⟨'5', 'c', rfl, 5, 12, rfl, rfl, by decide +kernel⟩
  split
  · next null =>
    subst null
    exact .inl ⟨'0', '0', rfl, 0, 0, rfl, rfl, by decide +kernel⟩
  · next star opening closing backslash null =>
    exact .inr ⟨rfl, backslash, star, opening, closing, null⟩

theorem unescape_bare {c : Char} (plain : c ≠ '\\') (rest : List Char) :
    unescape (c :: rest) = (unescape rest).map (String.utf8EncodeChar c ++ ·) := by
  rw [unescape] <;> simp [plain]

theorem unescape_flatMap (value : List Char) :
    unescape (value.flatMap escapeChar) = some (octets value) := by
  induction value with
  | nil => rfl
  | cons c value ih =>
    rw [List.flatMap_cons]
    rcases escapeChar_cases c with
      ⟨high, low, escaped, h, l, digit, digit', octet⟩ | ⟨bare, plain, -⟩
    · simp [escaped, unescape, digit, digit', ih, octets, octet]
    · simp [bare, unescape_bare plain, ih, octets]

theorem decode?_escape (value : String) : decode? (escape value) = some value := by
  rw [decode?, escape, unescape_flatMap, Option.bind_some, decode?_octets, String.ofList_toList]

theorem isValue_escape (value : String) : isValue (escape value) = true := by
  rw [escape]
  induction value.toList with
  | nil => rfl
  | cons c value ih =>
    rw [List.flatMap_cons]
    rcases escapeChar_cases c with
      ⟨high, low, escaped, h, l, digit, digit', -⟩ | ⟨bare, plain, rest⟩
    · simp [escaped, isValue, digit, digit', ih]
    · rw [bare, List.singleton_append, isValue]
      · simp [plain, rest, ih]
      · simp [plain]

/-! ### Operands -/

/-- A value for a conversion. Where there is none, anything matches. -/
inductive Operand where
  | text (value : String)
  | anything
  | number (value : Int)
deriving DecidableEq, Repr

namespace Operand

def ofPart : Option String → Operand
  | some value => text value
  | none => anything

/-- The kind of conversion that takes the operand. -/
def kind : Operand → Char
  | text _ | anything => 's'
  | number _ => 'd'

def argument : Operand → Argument
  | text value => .ofText value
  | anything => .text ['*']
  | number value => .number value

def written : Operand → List Char
  | text value => escape value
  | anything => ['*']
  | number value => (toString value).toList

/-- What an operand may become in a filter. A text can be read again, and every backslash of it
    begins an escape. -/
def Becomes : Operand → List Char → Prop
  | text value, written => isValue written = true ∧ decode? written = some value
  | anything, written => written = ['*']
  | number value, written => written = (toString value).toList

/-- The operand without its value. -/
def blank : Operand → Operand
  | text _ => text ""
  | anything => anything
  | number _ => number 0

theorem becomes_written (operand : Operand) : operand.Becomes operand.written := by
  cases operand with
  | text value => exact ⟨isValue_escape value, decode?_escape value⟩
  | anything => rfl
  | number value => rfl

theorem argument_ofPart (part : Option String) :
    (Operand.ofPart part).argument = Argument.ofPart part := by
  cases part <;> rfl

@[simp] theorem kind_blank (operand : Operand) : operand.blank.kind = operand.kind := by
  cases operand <;> rfl

end Operand

theorem substitute_plain {c : Char} (plain : c ≠ '%') (rest : List Char)
    (arguments : List Argument) :
    substitute (c :: rest) arguments = (substitute rest arguments).map (c :: ·) := by
  rw [substitute] <;> simp [plain]

theorem substitute_conversion_nil {kind : Char} (other : kind ≠ '%') (rest : List Char) :
    substitute ('%' :: kind :: rest) [] = .error (.unmatched kind) := by
  rw [substitute] <;> simp [other]

/-- A text without conversions is left as it is, and takes nothing from what comes after it. -/
theorem substitute_append {text : List Char} (plain : '%' ∉ text) (after : List Char)
    (arguments : List Argument) :
    substitute (text ++ after) arguments = (substitute after arguments).map (text ++ ·) := by
  induction text with
  | nil =>
    change substitute after arguments = _
    cases substitute after arguments <;> rfl
  | cons c rest ih =>
    simp only [List.mem_cons, not_or] at plain
    rw [List.cons_append, substitute_plain (Ne.symm plain.1), ih plain.2]
    cases substitute after arguments <;> rfl

theorem substitute_text {text : List Char} (plain : '%' ∉ text) (arguments : List Argument) :
    substitute text arguments = .ok text := by
  simpa [substitute, Except.map] using substitute_append plain [] arguments

/-- The only conversion of a template gives way to the text. -/
theorem substitute_between (before written after : List Char) (plain : '%' ∉ before)
    (plain' : '%' ∉ after) : substitute (before ++ '%' :: 's' :: after) [.text written] =
      .ok (before ++ written ++ after) := by
  rw [substitute_append plain, substitute, substitute_text plain']
  simp [Except.map]

theorem render_between {template : String} {before after : List Char}
    (parts : template.toList = before ++ '%' :: 's' :: after) (plain : '%' ∉ before)
    (plain' : '%' ∉ after) (value : String) : render template (.text value) =
      .ok (String.ofList (before ++ escape value ++ after)) := by
  simp [render, fill, Argument.ofText, parts, substitute_between before (escape value) after plain
    plain', Except.map, Except.mapError]

/-- The value that stands in a filter between some beginning and two parentheses. -/
def valueAfter? (before : List Char) (filter : String) : Option String :=
  if before.isPrefixOf filter.toList then
    decode? (filter.toList.drop before.length).dropLast.dropLast
  else none

/-- A value that was inserted is found again. -/
theorem valueAfter?_escape (before : List Char) (value : String) :
    valueAfter? before (String.ofList (before ++ escape value ++ [')', ')'])) = some value := by
  simp [valueAfter?, decode?_escape]

/-- A conversion takes the next operand, which has to be of its kind. -/
theorem substitute_conversion {kind : Char} (other : kind ≠ '%') (rest : List Char)
    (operand : Operand) (operands : List Operand) :
    substitute ('%' :: kind :: rest) ((operand :: operands).map Operand.argument) =
      if operand.kind = kind then
        (substitute rest (operands.map Operand.argument)).map (operand.written ++ ·)
      else .error (.unmatched kind) := by
  split
  · next fits =>
    subst fits
    cases operand <;> rfl
  · next misfit =>
    -- No clause but the last is for an operand before a conversion of another kind.
    cases operand <;> rw [List.map_cons, substitute] <;>
      grind [Operand.kind, Operand.argument, Argument.ofText]

/-- A text made of pieces: each conversion gives way to what the next operand becomes. -/
inductive Filling : List Piece → List Operand → List Char → Prop
  | done (operands : List Operand) : Filling [] operands []
  | plain {pieces : List Piece} {operands : List Operand} {text : List Char} (c : Char)
    (rest : Filling pieces operands text) : Filling (.plain c :: pieces) operands (c :: text)
  | value {pieces : List Piece} {operands : List Operand} {written text : List Char}
    {operand : Operand} (becomes : operand.Becomes written) (rest : Filling pieces operands text) :
    Filling (.conversion operand.kind :: pieces) (operand :: operands) (written ++ text)

variable {template : List Char}

theorem filling_of_substitute {operands : List Operand} {text : List Char}
    (filled : substitute template (operands.map Operand.argument) = .ok text) :
    ∃ pieces, Spells pieces template ∧ Filling pieces operands text := by
  simp only [← pieces?_eq_some_iff]
  -- The operands that are left, and the text that is to come, change with the template.
  induction template using template_induction generalizing operands text with
  | nil =>
    cases filled
    exact ⟨[], rfl, .done operands⟩
  | lone => simp [substitute] at filled
  | doubled rest ih =>
    obtain ⟨inner, rest_filled, rfl⟩ := map_eq_ok_iff.mp filled
    obtain ⟨pieces, reads, filling⟩ := ih rest_filled
    exact ⟨_, by rw [pieces?, reads]; rfl, filling.plain '%'⟩
  | conversion kind rest other ih =>
    cases operands with
    | nil => simp [substitute_conversion_nil other] at filled
    | cons operand operands =>
      rw [substitute_conversion other] at filled
      split at filled
      · next fits =>
        obtain ⟨inner, rest_filled, rfl⟩ := map_eq_ok_iff.mp filled
        obtain ⟨pieces, reads, filling⟩ := ih rest_filled
        refine ⟨.conversion kind :: pieces, by rw [pieces?_conversion other, reads]; rfl, ?_⟩
        exact fits ▸ filling.value operand.becomes_written
      · cases filled
  | plain c rest plain ih =>
    rw [substitute_plain plain] at filled
    obtain ⟨inner, rest_filled, rfl⟩ := map_eq_ok_iff.mp filled
    obtain ⟨pieces, reads, filling⟩ := ih rest_filled
    exact ⟨_, by rw [pieces?_plain plain, reads]; rfl, filling.plain c⟩

/-- A template can be filled when it is whole and there is an operand for each conversion. -/
theorem substitute_isOk_iff {operands : List Operand} :
    (∃ text, substitute template (operands.map Operand.argument) = .ok text) ↔
      ∃ pieces, Spells pieces template ∧ kinds pieces <+: operands.map Operand.kind := by
  simp only [← pieces?_eq_some_iff]
  induction template using template_induction generalizing operands with
  | nil => simp [substitute, pieces?, kinds]
  | lone => simp [substitute, pieces?]
  | doubled rest ih => simpa [substitute, pieces?, map_eq_ok_iff] using ih
  | conversion kind rest other ih =>
    cases operands with
    | nil => simp [substitute_conversion_nil other, pieces?_conversion other]
    | cons operand operands =>
      rw [substitute_conversion other, pieces?_conversion other]
      split
      · next fits => simpa [map_eq_ok_iff, fits] using ih
      · -- The first kind is not the one that is asked for, so there is no common beginning.
        next misfit => simp [Ne.symm misfit]
  | plain c rest plain ih =>
    simpa [substitute_plain plain, pieces?_plain plain, map_eq_ok_iff] using ih

/-! ### Structure -/

theorem null_notMem_of_isValue {text : List Char} (valued : isValue text = true) :
    '\x00' ∉ text := by
  -- Where zero is stood for, it is by digits.
  have digit {c : Char} (hex : (hexDigit? c).isSome = true) : '\x00' ≠ c := by
    rintro rfl
    revert hex
    decide
  induction text using isValue.induct with
  | case1 => simp
  | case2 high low rest ih =>
    simp only [isValue, Bool.and_eq_true] at valued
    simp [digit valued.1.1, digit valued.1.2, ih valued.2]
  | case3 first rest _ ih =>
    rw [isValue] at valued
    · simp only [Bool.and_eq_true, bne_iff_ne, ne_eq] at valued
      simp [Ne.symm valued.1.2, ih valued.2]
    · assumption

/-- Characters that group filters, or match anything. -/
def isStructural (c : Char) : Bool := c == '(' || c == ')' || c == '*'

/-- What is left of a text when all is taken out of it that is not structural. -/
def outline (text : List Char) : List Char := text.filter isStructural

@[simp] theorem outline_append (text more : List Char) :
    outline (text ++ more) = outline text ++ outline more :=
  List.filter_append text more

theorem outline_eq_nil {text : List Char} (plain : ∀ c ∈ text, c ≠ '(' ∧ c ≠ ')' ∧ c ≠ '*') :
    outline text = [] := by
  simpa [outline, isStructural, and_assoc] using plain

/-- Numbers are written in digits, with a sign perhaps. -/
theorem sign_or_digit_of_mem {value : Int} {c : Char} (member : c ∈ (toString value).toList) :
    c = '-' ∨ c.isDigit = true := by
  have digits {n : Nat} (member : c ∈ n.repr.toList) : c.isDigit = true := by
    rw [Nat.toList_repr] at member
    exact Nat.isDigit_of_mem_toDigits (by decide) (by decide) member
  cases value with
  | ofNat n => exact .inr (digits member)
  | negSucc n =>
    have member : c ∈ ("-" ++ (n + 1).repr).toList := member
    rw [String.toList_append] at member
    rcases List.mem_append.mp member with sign | member
    · exact .inl (by simpa using sign)
    · exact .inr (digits member)

namespace Operand

/-- The structure of what an operand becomes does not depend on its value. -/
theorem outline_written (operand : Operand) :
    outline operand.written = outline operand.blank.written := by
  -- Texts and numbers leave nothing, and where anything matches there is no value to differ in.
  have plain (value : String) : outline (escape value) = [] :=
    outline_eq_nil fun _ member => plain_of_mem_value (isValue_escape value) member
  have unsigned (value : Int) : outline (toString value).toList = [] := by
    refine outline_eq_nil fun c member => ?_
    rcases sign_or_digit_of_mem member with rfl | digit
    · decide
    · refine ⟨?_, ?_, ?_⟩ <;> rintro rfl <;> revert digit <;> decide
  cases operand with
  | text value => exact (plain value).trans (plain "").symm
  | anything => rfl
  | number value => exact (unsigned value).trans (unsigned 0).symm

theorem Becomes.null_notMem {operand : Operand} {written : List Char}
    (becomes : operand.Becomes written) : '\x00' ∉ written := by
  cases operand with
  | text value => exact null_notMem_of_isValue becomes.1
  | anything =>
    rw [becomes]
    decide
  | number value =>
    intro member
    rw [becomes] at member
    rcases sign_or_digit_of_mem member with sign | digit
    · cases sign
    · revert digit
      decide

end Operand

/-- All zero characters of a filled template are its own. -/
theorem Filling.count_null {pieces : List Piece} {operands : List Operand} {text : List Char}
    (filling : Filling pieces operands text) :
    text.count '\x00' = (pieces.flatMap Piece.written).count '\x00' := by
  induction filling with
  | done operands => rfl
  | plain c rest ih =>
    have once : (Piece.plain c).written.count '\x00' = [c].count '\x00' := by
      by_cases sign : c = '%'
      · subst sign
        rfl
      · simp [Piece.written, sign]
    rw [List.flatMap_cons, List.count_append, once, ← ih, ← List.count_append]
    rfl
  | @value pieces operands written text operand becomes rest ih =>
    have none : (Piece.conversion operand.kind).written.count '\x00' = 0 := by
      cases operand <;> rfl
    rw [List.flatMap_cons, List.count_append, List.count_append, none, ← ih,
      List.count_eq_zero.mpr becomes.null_notMem]

/-- Two texts that are put together of parts with the same structure have the same structure. -/
theorem outline_joined {first second rest others : Except Misfit (List Char)}
    (alike : first.map outline = second.map outline)
    (same : rest.map outline = others.map outline) :
    (first.bind fun part => rest.map (part ++ ·)).map outline =
      (second.bind fun part => others.map (part ++ ·)).map outline := by
  cases first <;> cases second <;> cases rest <;> cases others <;>
    simp_all [Except.map, Except.bind]

/-- Values have no part in the structure of a filled template, nor in whether it can be filled. -/
theorem substitute_blank (template : List Char) (operands : List Operand) :
    (substitute template (operands.map Operand.argument)).map outline =
      (substitute template ((operands.map Operand.blank).map Operand.argument)).map outline := by
  have front (text blank : List Char) {first second : Except Misfit (List Char)}
      (alike : outline text = outline blank) (same : first.map outline = second.map outline) :
      (first.map (text ++ ·)).map outline = (second.map (blank ++ ·)).map outline := by
    have joined : (Except.ok text : Except Misfit (List Char)).map outline =
        (Except.ok blank).map outline := congrArg Except.ok alike
    exact outline_joined joined same
  -- A blank operand is of the same kind, so both texts fail at the same conversion or at none.
  induction template using template_induction generalizing operands with
  | nil => rfl
  | lone => rfl
  | doubled rest ih => exact front ['%'] ['%'] rfl (ih operands)
  | conversion kind rest other ih =>
    cases operands with
    | nil => rfl
    | cons operand operands =>
      rw [List.map_cons (f := Operand.blank), substitute_conversion other,
        substitute_conversion other, Operand.kind_blank]
      split
      · exact front _ _ operand.outline_written (ih operands)
      · rfl
  | plain c rest plain ih =>
    rw [substitute_plain plain, substitute_plain plain]
    exact front [c] [c] rfl (ih operands)

/-! ### Arguments -/

namespace Args

/-- The operands of each filling of the template. -/
def rows : Args → List (List Operand)
  | .none => [[]]
  | .text value => [[.text value]]
  | .number value => [[.number value]]
  | .texts first second => [[.text first, .text second]]
  | .numberAndText n value => [[.number n, .text value]]
  | .triple host user domain => [[.ofPart host, .ofPart user, .ofPart domain]]
  | .anyOf values | .allOf values => values.map fun value => [.text value]

/-- What joins the fillings of the template, if it is filled for each of many values. -/
def operator? : Args → Option Char
  | .anyOf _ => some '|'
  | .allOf _ => some '&'
  | _ => Option.none

/-- The arguments without their values: what is left is their shape. -/
def blank : Args → Args
  | .none => .none
  | .text _ => .text ""
  | .number _ => .number 0
  | .texts _ _ => .texts "" ""
  | .numberAndText _ _ => .numberAndText 0 ""
  | .triple host user domain =>
    .triple (host.map fun _ => "") (user.map fun _ => "") (domain.map fun _ => "")
  | .anyOf values => .anyOf (values.map fun _ => "")
  | .allOf values => .allOf (values.map fun _ => "")

theorem rows_blank (args : Args) : args.blank.rows = args.rows.map (·.map Operand.blank) := by
  have part (value : Option String) :
      Operand.ofPart (value.map fun _ => "") = (Operand.ofPart value).blank := by
    cases value <;> rfl
  cases args <;> simp [blank, rows, Operand.blank, part, Function.comp_def]

theorem operator?_blank (args : Args) : args.blank.operator? = args.operator? := by
  cases args <;> rfl

end Args

/-- The fillings of a template in parentheses, if they are joined by an operator. -/
def enclose : Option Char → List Char → List Char
  | none, text => text
  | some operator, text => '(' :: operator :: text ++ [')']

/-- The fillings of a template, one for each row of operands. -/
def fillings (template : List Char) (rows : List (List Operand)) :
    Except Misfit (List (List Char)) :=
  rows.mapM fun operands => substitute template (operands.map Operand.argument)

theorem fill_eq (template : List Char) (args : Args) : fill template args =
    (fillings template args.rows).map fun parts => enclose args.operator? parts.flatten := by
  -- All arguments but lists fill the template once, and then there is nothing to be joined.
  have once (operands : List Operand) : substitute template (operands.map Operand.argument) =
      (fillings template [operands]).map fun parts => enclose none parts.flatten := by
    cases filled : substitute template (operands.map Operand.argument) <;>
      simp [fillings, filled, enclose, Except.map, bind, Except.bind, pure, Except.pure]
  have many (operator : Char) (values : List String) : aggregate operator template values =
      (fillings template (values.map fun value => [.text value])).map
        fun parts => enclose (some operator) parts.flatten := by
    rw [aggregate, fillings, List.mapM_map]
    rfl
  cases args with
  | triple host user domain =>
    simp only [fill, ← Operand.argument_ofPart]
    exact once [.ofPart host, .ofPart user, .ofPart domain]
  | anyOf values => exact many '|' values
  | allOf values => exact many '&' values
  | none => exact once []
  | text value => exact once [.text value]
  | number value => exact once [.number value]
  | texts first second => exact once [.text first, .text second]
  | numberAndText number value => exact once [.number number, .text value]

theorem fillings_eq_ok_iff {template : List Char} {rows : List (List Operand)}
    {parts : List (List Char)} : fillings template rows = .ok parts ↔
      List.Forall₂ (fun operands part =>
        substitute template (operands.map Operand.argument) = .ok part) rows parts :=
  mapM_eq_ok_iff

theorem fillings_cons (template : List Char) (operands : List Operand)
    (rows : List (List Operand)) : (fillings template (operands :: rows)).map List.flatten =
      (substitute template (operands.map Operand.argument)).bind fun part =>
        ((fillings template rows).map List.flatten).map (part ++ ·) := by
  rw [fillings, List.mapM_cons, ← fillings]
  cases substitute template (operands.map Operand.argument) with
  | error misfit => rfl
  | ok part => cases fillings template rows <;> rfl

theorem fillings_blank (template : List Char) (rows : List (List Operand)) :
    ((fillings template rows).map List.flatten).map outline =
      ((fillings template (rows.map (·.map Operand.blank))).map List.flatten).map outline := by
  induction rows with
  | nil => rfl
  | cons operands rows ih =>
    rw [List.map_cons, fillings_cons, fillings_cons]
    exact outline_joined (substitute_blank template operands) ih

theorem outline_enclose (operator : Option Char) {text other : List Char}
    (alike : outline text = outline other) :
    outline (enclose operator text) = outline (enclose operator other) := by
  cases operator with
  | none => exact alike
  | some operator =>
    have split (text : List Char) : outline (enclose (some operator) text) =
        outline ['(', operator] ++ outline text ++ outline [')'] := by
      rw [← outline_append, ← outline_append]
      rfl
    rw [split, split, alike]

theorem fill_blank (template : List Char) (args : Args) :
    (fill template args).map outline = (fill template args.blank).map outline := by
  have same := fillings_blank template args.rows
  rw [fill_eq, fill_eq, Args.rows_blank, Args.operator?_blank]
  cases first : fillings template args.rows with
  | error misfit =>
    cases second : fillings template (args.rows.map (·.map Operand.blank)) <;>
      simp_all [Except.map]
  | ok parts =>
    cases second : fillings template (args.rows.map (·.map Operand.blank)) with
    | error misfit => simp [first, second, Except.map] at same
    | ok others =>
      have alike : outline parts.flatten = outline others.flatten := by
        simpa [first, second, Except.map] using same
      exact congrArg Except.ok (outline_enclose _ alike)

theorem map_render (template : String) (args : Args) {α : Type} (f : List Char → α) :
    (render template args).map (fun text => f text.toList) =
      ((fill template.toList args).map f).mapError (Misfit.toError template) := by
  rw [render]
  cases fill template.toList args <;> simp [Except.map, Except.mapError]

theorem render_eq_ok_iff {template : String} {args : Args} {text : String} :
    render template args = .ok text ↔ ∃ parts, fillings template.toList args.rows = .ok parts ∧
      text.toList = enclose args.operator? parts.flatten := by
  rw [render, fill_eq]
  cases fillings template.toList args.rows with
  | error misfit => simp [Except.map, Except.mapError]
  | ok parts =>
    simp only [Except.map, Except.mapError, Except.ok.injEq, exists_eq_left']
    constructor
    · rintro rfl
      simp
    · intro same
      simp [← same]

theorem Spells.not_endsOpen {pieces : List Piece} {template : List Char}
    (spells : Spells pieces template) : ¬ EndsOpen template := by
  rw [← pieces?_eq_none_iff, pieces?_eq_some_iff.mpr spells]
  exact nofun

/-- A template can be filled for all rows of operands when it can be filled for each. -/
theorem fillings_isOk_iff {template : List Char} {rows : List (List Operand)} :
    (∃ parts, fillings template rows = .ok parts) ↔ ∀ operands ∈ rows,
      ¬ EndsOpen template ∧
        ∃ pieces, Spells pieces template ∧ kinds pieces <+: operands.map Operand.kind := by
  have whole (operands : List Operand) :
      (¬ EndsOpen template ∧
        ∃ pieces, Spells pieces template ∧ kinds pieces <+: operands.map Operand.kind) ↔
      ∃ part, substitute template (operands.map Operand.argument) = .ok part := by
    -- Without operands it still matters that the template is whole.
    rw [substitute_isOk_iff]
    exact ⟨And.right, fun fits => ⟨fits.choose_spec.1.not_endsOpen, fits⟩⟩
  simp only [whole, fillings_eq_ok_iff]
  induction rows with
  | nil => simp
  | cons operands rows ih =>
    simp only [List.forall_mem_cons, ← ih]
    constructor
    · rintro ⟨_, first | ⟨first, rest⟩⟩
      exact ⟨⟨_, first⟩, ⟨_, rest⟩⟩
    · rintro ⟨⟨part, first⟩, ⟨parts, rest⟩⟩
      exact ⟨part :: parts, .cons first rest⟩

/-- The rows of a filled template are made of its pieces. -/
def Made (template : List Char) (operands : List Operand) (part : List Char) : Prop :=
  ∃ pieces, Spells pieces template ∧ Filling pieces operands part

theorem made_of_fillings {template : List Char} {rows : List (List Operand)}
    {parts : List (List Char)} (filled : fillings template rows = .ok parts) :
    List.Forall₂ (Made template) rows parts :=
  (fillings_eq_ok_iff.mp filled).imp fun _ _ => filling_of_substitute

theorem Made.count_null {template part : List Char} {operands : List Operand}
    (made : Made template operands part) : part.count '\x00' = template.count '\x00' := by
  obtain ⟨pieces, spells, filling⟩ := made
  rw [filling.count_null, ← spells.written]

theorem count_null_enclose (args : Args) (text : List Char) :
    (enclose args.operator? text).count '\x00' = text.count '\x00' := by
  cases args <;> simp [Args.operator?, enclose]

theorem count_null_flatten {template : List Char} {rows : List (List Operand)}
    {parts : List (List Char)} (made : List.Forall₂ (Made template) rows parts) :
    parts.flatten.count '\x00' = rows.length * template.count '\x00' := by
  induction made with
  | nil => simp
  | cons first rest ih =>
    rw [List.flatten_cons, List.count_append, first.count_null, ih, List.length_cons,
      Nat.succ_mul, Nat.add_comm]

/-- Values stay where they are put. Whether a template can be filled, and what the structure of the
    filter is, depends on the shape of the arguments alone; there have to be operands of the right
    kinds for all conversions; and the filter is made of the template and of what the operands
    become, with no zero characters but those of the template. -/
theorem render_confines (template : String) {args other : Args}
    (alike : args.blank = other.blank) :
    (render template args).map (fun text => outline text.toList) =
        (render template other).map (fun text => outline text.toList) ∧
      ((∃ text, render template args = .ok text) ↔ ∀ operands ∈ args.rows,
        ¬ EndsOpen template.toList ∧ ∃ pieces, Spells pieces template.toList ∧
          kinds pieces <+: operands.map Operand.kind) ∧
      ∀ text, render template args = .ok text →
        text.toList.count '\x00' = args.rows.length * template.toList.count '\x00' ∧
        ∃ parts, text.toList = enclose args.operator? parts.flatten ∧
          List.Forall₂ (Made template.toList) args.rows parts := by
  refine ⟨?_, ?_, ?_⟩
  · -- Both are what the shape comes to.
    rw [map_render, map_render, fill_blank, alike, ← fill_blank]
  · rw [← fillings_isOk_iff]
    constructor
    · rintro ⟨text, rendered⟩
      obtain ⟨parts, filled, -⟩ := render_eq_ok_iff.mp rendered
      exact ⟨parts, filled⟩
    · rintro ⟨parts, filled⟩
      exact ⟨_, render_eq_ok_iff.mpr ⟨parts, filled, String.toList_ofList⟩⟩
  · intro text rendered
    obtain ⟨parts, filled, same⟩ := render_eq_ok_iff.mp rendered
    have made := made_of_fillings filled
    refine ⟨?_, parts, same, made⟩
    rw [same, count_null_enclose, count_null_flatten made]

/-- Two values that would close a filter and open another one, or be read as a template. -/
theorem render_confines_hostile :
    let template := "(|(memberUid=%s)(uniqueMember=%s))"
    let hostile := Args.texts "j*)(uid=%s" "\\2a"
    let plain := Args.texts "jdoe" "uid=jdoe"
    hostile.blank = plain.blank ∧
      render template hostile =
        .ok "(|(memberUid=j\\2a\\29\\28uid=%s)(uniqueMember=\\5c2a))" ∧
      (render template hostile).map (fun text => outline text.toList) =
        (render template plain).map (fun text => outline text.toList) ∧
      ∃ parts, "(|(memberUid=j\\2a\\29\\28uid=%s)(uniqueMember=\\5c2a))".toList =
          enclose none parts.flatten ∧
        List.Forall₂ (Made template.toList) [[.text "j*)(uid=%s", .text "\\2a"]] parts := by
  intro template hostile plain
  have rendered : render template hostile =
      .ok "(|(memberUid=j\\2a\\29\\28uid=%s)(uniqueMember=\\5c2a))" := by decide +kernel
  have same : hostile.blank = plain.blank := rfl
  obtain ⟨alike, -, made⟩ := render_confines template same
  exact ⟨same, rendered, alike, (made _ rendered).2⟩

end NameService.Filter
