import NameService.Text.Numeral
import NameService.Text.Split

/-!
Labels of a domain spelled in ASCII alone. What such a label has in ASCII stands first, up to the
last hyphen. A row of numbers follows, one for each other character: it counts the ways to insert a
character at any place, from the way that was taken last, with the characters in the order of their
numbers.
-/

namespace NameService.Domain.Punycode

/-- The value of a digit to the base 36, in small letters. -/
def digit? (c : Char) : Option Nat :=
  if 'a' ≤ c ∧ c ≤ 'z' then some (c.toNat - 'a'.toNat)
  else if '0' ≤ c ∧ c ≤ '9' then some (c.toNat - '0'.toNat + 26)
  else none

/-- The least digit that is followed by another, at a place of a number. Places are counted in steps
    of 36, from 36 on. -/
def threshold (bias place : Nat) : Nat :=
  if place ≤ bias then 1 else if bias + 26 ≤ place then 26 else place - bias

/-- The bias that suits numbers of about the size of `delta`. -/
def biasFor (delta : Nat) : Nat :=
  if 455 < delta then 36 + biasFor (delta / 35) else 36 * delta / (delta + 38)
termination_by delta
decreasing_by omega

/-- The bias for the next number. A first number is as a rule far larger than those after it, and
    a longer label spreads its insertions wider. -/
def adapted (first : Bool) (delta size : Nat) : Nat :=
  let share := if first then delta / 700 else delta / 2
  biasFor (share + share / size)

/-- A label in the making, and the number that is being read: its sum so far on top of `start`, and
    the weight and the place of its next digit. -/
structure Draft where
  text : List Char
  code : Nat
  bias : Nat
  start : Nat
  sum : Nat
  weight : Nat
  place : Nat
deriving DecidableEq, Repr

namespace Draft

def ofText (text : List Char) : Draft := ⟨text, 0x80, 72, 0, 0, 1, 36⟩

/-- The character that a complete number stands for, at its place. -/
def insert? (draft : Draft) : Option Draft :=
  let size := draft.text.length + 1
  let code := draft.code + draft.sum / size
  let index := draft.sum % size
  if code.isValidChar then
    some {
      text := draft.text.insertIdx index (Char.ofNat code)
      code := code
      bias := adapted (draft.start == 0) (draft.sum - draft.start) size
      start := index + 1
      sum := index + 1
      weight := 1
      place := 36 }
  else none

/-- One more digit. Sums and weights have to fit 32 bits. -/
def push? (draft : Draft) (c : Char) : Option Draft := do
  let digit ← digit? c
  let sum := draft.sum + digit * draft.weight
  let least := threshold draft.bias draft.place
  let weight := draft.weight * (36 - least)
  if UInt32.size ≤ sum then none
  else if digit < least then ({ draft with sum := sum }).insert?
  else if UInt32.size ≤ weight then none
  else some { draft with sum := sum, weight := weight, place := draft.place + 36 }

/-- No number has been begun without being ended. -/
def isComplete (draft : Draft) : Bool := draft.place == 36

end Draft

/-- A label's ASCII part and the digits after it. A hyphen at the very start divides nothing. -/
def divided (label : List Char) : List Char × List Char :=
  match Text.cut '-' label.reverse with
  | some (digits, c :: text) => ((c :: text).reverse, digits.reverse)
  | _ => ([], label)

/-- The label that is meant. -/
def decode? (label : List Char) : Option (List Char) := do
  let (text, digits) := divided label
  let draft ← digits.foldlM Draft.push? (.ofText text)
  if draft.isComplete then some draft.text else none

end NameService.Domain.Punycode
