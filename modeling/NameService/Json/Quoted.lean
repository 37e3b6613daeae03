import NameService.Json
import NameService.Text.Numeral
import NameService.Text.Octets

/-!
Strings between quotes. A string has two readings: its extent, which is all the text up to the
closing quote, and its meaning, which needs every escape to stand for a character.
-/

namespace NameService.Json

/-- What stands between quotes: a character, or a UTF-16 unit given by its number. -/
inductive Piece where
  | char (c : Char)
  | unit (n : Nat)
deriving DecidableEq, Repr

/-- The UTF-16 unit that four hexadecimal digits give. -/
def unit? (a b c d : Char) : Option Nat :=
  ([a, b, c, d].mapM Text.hexDigit?).map (Text.positional 16)

/-- The character that a backslash and a letter stand for. -/
def escaped? : Char → Option Char
  | '"' => some '"'
  | '\\' => some '\\'
  | '/' => some '/'
  | 'b' => some '\x08'
  | 'f' => some '\x0c'
  | 'n' => some '\n'
  | 'r' => some '\r'
  | 't' => some '\t'
  | _ => none

/-- The pieces up to the closing quote, and the text after it or the fault that hides it. -/
def pieces : List Char → List Piece × Except Fault (List Char)
  | [] => ([], .error .truncated)
  | '"' :: rest => ([], .ok rest)
  | '\\' :: 'u' :: a :: b :: c :: d :: rest =>
    match unit? a b c d with
    | none => ([], .error .malformed)
    | some n => let (others, end_) := pieces rest; (.unit n :: others, end_)
  | '\\' :: 'u' :: short =>
    ([], .error (if (Text.octets short).length < 4 then .truncated else .malformed))
  | '\\' :: letter :: rest =>
    match escaped? letter with
    | none => ([], .error .malformed)
    | some c => let (others, end_) := pieces rest; (.char c :: others, end_)
  | ['\\'] => ([], .error .truncated)
  | c :: rest =>
    if c.toNat < 0x20 then ([], .error .malformed)
    else let (others, end_) := pieces rest; (.char c :: others, end_)

def isHigh (n : Nat) : Bool := 0xD800 ≤ n && n ≤ 0xDBFF

def isLow (n : Nat) : Bool := 0xDC00 ≤ n && n ≤ 0xDFFF

/-- Units make characters: half of a surrogate pair makes none. `fault` says why there are no more
    pieces, when that is not the closing quote. -/
def assemble (fault : Option Fault) : List Piece → Except Fault (List Char)
  | [] => match fault with
    | none => .ok []
    | some fault => .error fault
  | .char c :: rest => do return c :: (← assemble fault rest)
  | .unit n :: rest =>
    if isLow n then .error .malformed
    else if isHigh n then
      match rest with
      | [] => .error (fault.getD .malformed)
      | .unit m :: rest =>
        if isLow m then do
          return Char.ofNat ((n - 0xD800) * 0x400 + (m - 0xDC00) + 0x10000) ::
            (← assemble fault rest)
        else .error .malformed
      | .char _ :: _ => .error .malformed
    else do return Char.ofNat n :: (← assemble fault rest)

/-- A string after its opening quote: its meaning, and the text after it. -/
def quoted (text : List Char) : Except Fault String × Except Fault (List Char) :=
  match pieces text with
  | (found, .ok rest) => ((assemble none found).map String.ofList, .ok rest)
  | (found, .error fault) => ((assemble (some fault) found).map String.ofList, .error fault)

end NameService.Json
