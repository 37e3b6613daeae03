import NameService.Text.Normal
import NameService.Text.Numeral
import NameService.Text.Octets
import NameService.Text.Split
import NameService.Error

/-!
Distinguished names: the path of an entry in the tree, from the entry up. Every step holds one or
more assertions about an attribute. A backslash takes away the meaning of the character after it, or
gives an octet by its two hexadecimal digits.
-/

namespace NameService

structure Assertion where
  type : String
  value : String
deriving DecidableEq, Repr, Inhabited

structure DistinguishedName where
  steps : List (List Assertion)
deriving DecidableEq, Repr, Inhabited

namespace DistinguishedName

inductive Fault where
  | empty
  | invalidComponent (text : String)
  | missingAttribute (text : String)
  | unterminatedEscape
deriving DecidableEq, Repr

namespace Fault

def message : Fault → String
  | empty => "distinguished name cannot be empty"
  | invalidComponent text => "invalid distinguished name component: " ++ text
  | missingAttribute text => "distinguished name component missing attribute: " ++ text
  | unterminatedEscape => "distinguished name contains an unterminated escape sequence"

/-- A name that cannot be read names nothing. -/
def toError (fault : Fault) : Error := .notFound fault.message

end Fault

/-- A character put in front of the first piece. -/
def extend (c : Char) : List (List Char) → List (List Char)
  | [] => [[c]]
  | piece :: pieces => (c :: piece) :: pieces

/-- The pieces of a text between separators that no backslash precedes. -/
def splitUnescaped (separator : Char) : List Char → List (List Char)
  | [] => [[]]
  | '\\' :: c :: rest => extend '\\' (extend c (splitUnescaped separator rest))
  | c :: rest =>
    if c = separator then [] :: splitUnescaped separator rest
    else extend c (splitUnescaped separator rest)

def parts (separator : Char) (text : List Char) : List (List Char) :=
  (splitUnescaped separator text).map Text.trim

/-- The octets of a value. A hexadecimal digit after a backslash needs a second one after it. -/
def unescape : List Char → Except Fault (List UInt8)
  | [] => .ok []
  | ['\\'] => .error .unterminatedEscape
  | ['\\', c] =>
    if (Text.hexDigit? c).isSome then .error .unterminatedEscape else .ok (String.utf8EncodeChar c)
  | '\\' :: c :: d :: rest =>
    match Text.hexDigit? c with
    | none => (unescape (d :: rest)).map (String.utf8EncodeChar c ++ ·)
    | some high => match Text.hexDigit? d with
      | none => .error .unterminatedEscape
      | some low => (unescape rest).map (UInt8.ofNat (high * 16 + low) :: ·)
  | c :: rest => (unescape rest).map (String.utf8EncodeChar c ++ ·)

def parseValue (text : List Char) : Except Fault String := do
  (Text.decode (← unescape text)).mapError fun fault => .invalidComponent fault.message

def parseAssertion (text : List Char) : Except Fault Assertion :=
  match Text.cut '=' text with
  | none => .error (.invalidComponent (String.ofList text))
  | some (type, value) => do
    let type := Text.trim type
    if type.isEmpty then throw (.missingAttribute (String.ofList text))
    return ⟨String.ofList type, ← parseValue (Text.trim value)⟩

def parse (text : String) : Except Fault DistinguishedName :=
  let name := Text.trim text.toList
  if name.isEmpty then .error .empty
  else do
    let steps ← (parts ',' name).mapM fun step => (parts '+' step).mapM parseAssertion
    return ⟨steps⟩

/-- A character that has to be escaped because of what it is or because of where it stands: a space
    at either end of a value, or a number sign at its head. -/
def needsEscape (first last : Bool) (c : Char) : Bool :=
  c == ',' || c == '+' || c == '"' || c == '\\' || c == '<' || c == '>' || c == ';' || c == '='
    || (first && (c == ' ' || c == '#')) || (last && c == ' ')

def escapeFrom (first : Bool) : List Char → List Char
  | [] => []
  | c :: rest =>
    (if needsEscape first rest.isEmpty c then ['\\', c] else [c]) ++ escapeFrom false rest

def printAssertion (assertion : Assertion) : List Char :=
  assertion.type.toList ++ '=' :: escapeFrom true assertion.value.toList

def printStep (step : List Assertion) : List Char :=
  List.intercalate ['+'] (step.map printAssertion)

def print (name : DistinguishedName) : List Char :=
  List.intercalate [','] (name.steps.map printStep)

def toText (name : DistinguishedName) : String := String.ofList name.print

/-- The assertions about the entry itself. -/
def leading (name : DistinguishedName) : List Assertion := name.steps.headD []

def find? (assertions : List Assertion) (type : String) : Option String :=
  (assertions.find? fun assertion => Text.same assertion.type type).map (·.value)

def leadingValue? (name : DistinguishedName) (type : String) : Option String :=
  find? name.leading type

def value? (name : DistinguishedName) (type : String) : Option String :=
  find? name.steps.flatten type

/-- The text before an unescaped number sign that does not open a value. -/
def beforeUid? (previous : Option Char) : List Char → Option (List Char)
  | [] => none
  | '\\' :: c :: rest => (beforeUid? (some c) rest).map ('\\' :: c :: ·)
  | c :: rest =>
    if c = '#' ∧ previous.any (· != '=') then some []
    else (beforeUid? (some c) rest).map (c :: ·)

/-- A member's name without the unique identifier that may follow it. -/
def withoutUid (member : String) : String :=
  match beforeUid? none member.toList with
  | some name => String.ofList (Text.trimEnd name)
  | none => member

end DistinguishedName

end NameService
