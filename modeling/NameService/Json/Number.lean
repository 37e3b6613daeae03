import NameService.Json
import NameService.Text.Numeral

/-!
Numbers of a JSON text. They keep their value when they are 64-bit integers written without a point
or an exponent, and their spelling otherwise; no number may lie beyond the largest double.
-/

namespace NameService.Json

/-- A number in its written parts: the exponent has its sign, the fraction has its digits. -/
structure Numeral where
  negative : Bool
  whole : List Char
  fraction : Option (List Char)
  exponent : Option (Bool × List Char)

namespace Numeral

def literal (n : Numeral) : List Char :=
  (if n.negative then ['-'] else []) ++ n.whole
    ++ (match n.fraction with
      | none => []
      | some digits => '.' :: digits)
    ++ (match n.exponent with
      | none => []
      | some (negative, digits) => 'e' :: (if negative then ['-'] else []) ++ digits)

/-- Digits taken on top of a number as long as 64 bits hold it, and how many digits that leaves. -/
def absorb (number : Nat) : List Char → Nat × Nat
  | [] => (number, 0)
  | digit :: digits =>
    let next := number * 10 + Text.decimal [digit]
    if next < UInt64.size then absorb next digits else (number, digits.length + 1)

/-- The nearest number of 53 binary digits and zeros after them; of two, the one that is even in its
    last digit. -/
def nearestDouble (n : Nat) : Nat :=
  let unit := Nat.pow 2 (Nat.log2 n + 1 - 53)
  let quotient := n / unit
  let rest := 2 * (n % unit)
  if unit < rest ∨ (rest = unit ∧ quotient % 2 = 1) then (quotient + 1) * unit
  else quotient * unit

/-- Beyond the largest double. The digits that 64 bits hold make a double of their own, which is
    scaled by the double of a power of ten; a product is beyond when it reaches 2 ^ 1024 less half a
    unit. -/
def isHuge (n : Numeral) : Bool :=
  let fraction := n.fraction.getD []
  let (whole, dropped) := absorb 0 n.whole
  let (significand, ignored) := absorb whole fraction
  let written : Int := match n.exponent with
    | none => 0
    | some (negative, digits) =>
      if negative then -(Text.decimal digits : Int) else Text.decimal digits
  let exponent := written + dropped + ignored - fraction.length
  if significand = 0 ∨ exponent < 0 then false
  else if 308 < exponent then true
  else
    Nat.pow 2 1024 - Nat.pow 2 970
      ≤ nearestDouble significand * nearestDouble (Nat.pow 10 exponent.toNat)

def isWhole (n : Numeral) : Bool := n.fraction.isNone && n.exponent.isNone

def value (n : Numeral) : Json :=
  let number := Text.decimal n.whole
  if n.isWhole && !n.negative && number < UInt64.size then .integer number
  else if n.isWhole && n.negative && 0 < number && 2 * number ≤ UInt64.size then
    .integer (-(number : Int))
  else if n.isHuge then .flawed ⟨.malformed, none, .other⟩
  else .decimal (String.ofList n.literal)

end Numeral

/-- A number that breaks off at the end of the text is truncated; its extent is malformed. -/
def badNumber (rest : List Char) : Json × Option (List Char) :=
  (.flawed ⟨if rest.isEmpty then .truncated else .malformed, some .malformed, .other⟩, none)

/-- The exponent of a number, from its letter on. -/
def readExponent (n : Numeral) (text : List Char) : Json × Option (List Char) :=
  match text with
  | c :: rest =>
    if c = 'e' || c = 'E' then
      let negative := rest.head? == some '-'
      let body := if negative || rest.head? == some '+' then rest.drop 1 else rest
      let digits := body.takeWhile Char.isDigit
      if digits.isEmpty then badNumber body
      else (({ n with exponent := some (negative, digits) }).value, some (body.drop digits.length))
    else (n.value, some text)
  | [] => (n.value, some [])

def readFraction (n : Numeral) (text : List Char) : Json × Option (List Char) :=
  match text with
  | '.' :: rest =>
    let digits := rest.takeWhile Char.isDigit
    if digits.isEmpty then badNumber rest
    else readExponent { n with fraction := some digits } (rest.drop digits.length)
  | _ => readExponent n text

/-- A number after its sign. A leading zero stands alone. -/
def readNumber (negative : Bool) (text : List Char) : Json × Option (List Char) :=
  match text with
  | '0' :: rest =>
    if (rest.head?.map Char.isDigit).getD false then
      (stop .other .malformed, none)
    else readFraction ⟨negative, ['0'], none, none⟩ rest
  | _ =>
    let digits := text.takeWhile Char.isDigit
    if digits.isEmpty then badNumber text
    else readFraction ⟨negative, digits, none, none⟩ (text.drop digits.length)

end NameService.Json
