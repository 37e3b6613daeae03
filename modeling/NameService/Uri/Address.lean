import NameService.Text.Numeral
import NameService.Text.Split

/-!
Numeric addresses of servers. The strict forms are four decimal parts between dots, and eight groups
of hexadecimal digits between colons; the lax form has up to four parts in any of three bases.
-/

namespace NameService.Uri

def isHexDigit (c : Char) : Bool := (Text.hexDigit? c).isSome

/-- One of four decimal parts below 256, without a leading zero. -/
def isQuarter (text : List Char) : Bool :=
  match text with
  | [] => false
  | first :: rest =>
    text.all Char.isDigit && text.length ≤ 3 && (first != '0' || rest.isEmpty)
      && Text.decimal text < 256

def isDotted (text : List Char) : Bool :=
  let parts := Text.pieces '.' text
  parts.length == 4 && parts.all isQuarter

/-- Groups of up to four hexadecimal digits, eight in all. `squeezed` says that a double colon has
    stood for some of them; the last two groups may be a dotted address. -/
def isGroups (fuel : Nat) (squeezed : Bool) (count : Nat) (text : List Char) : Bool :=
  match fuel, text with
  | _, [] => squeezed || count == 8
  | 0, _ :: _ => false
  | fuel + 1, c :: rest =>
    if count == 8 then false
    else if c == ':' then !squeezed && isGroups fuel true (count + 1) rest
    else
      let digits := (text.take 4).takeWhile isHexDigit
      match text.drop digits.length with
      | [] => squeezed || count + 1 == 8
      | '.' :: _ =>
        !digits.isEmpty && count ≤ 6 && isDotted text && (squeezed || count + 2 == 8)
      | ':' :: next => !next.isEmpty && isGroups fuel squeezed (count + 1) next
      | _ => false

def isIpv6 (text : List Char) : Bool :=
  match text with
  | ':' :: ':' :: rest => isGroups text.length true 1 rest
  | ':' :: _ => false
  | _ => 2 ≤ text.length && isGroups text.length false 0 text

/-- A digit of the base. -/
def digit? (radix : Nat) (c : Char) : Option Nat :=
  (Text.hexDigit? c).filter (· < radix)

/-- The number in a part of a lax address, in octal after a zero and hexadecimal after 0x.
    The outer level is absent when the part is no number; the inner, when it is too large. -/
def laxPart (text : List Char) : Option (Option Nat) :=
  let (radix, body) := match text with
    | '0' :: 'x' :: rest | '0' :: 'X' :: rest => (16, rest)
    | '0' :: c :: rest => (8, c :: rest)
    | _ => (10, text)
  if text.isEmpty then none
  else (body.mapM (digit? radix)).map fun digits =>
    (some (Text.positional radix digits)).filter (· < UInt32.size)

/-- The parts between dots; one dot may end them. -/
def laxParts (host : List Char) : List (List Char) :=
  let parts := Text.pieces '.' host
  if 1 < parts.length && parts.getLast? == some [] then parts.dropLast else parts

def endsInNumber (host : List Char) : Bool :=
  match (laxParts host).getLast? with
  | none | some [] => false
  | some last => last.all Char.isDigit || (laxPart last).isSome

/-- The last part fills all octets that the others leave. -/
def isIpv4 (host : List Char) : Bool :=
  let parts := laxParts host
  parts.length ≤ 4 &&
    match (parts.mapM fun part => (laxPart part).bind id) with
    | none | some [] => false
    | some numbers =>
      numbers.dropLast.all (· < 256)
        && numbers.getLastD 0 < Nat.pow 256 (5 - numbers.length)

end NameService.Uri
