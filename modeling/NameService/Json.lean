/-!
JSON values as a reader meets them. A text that breaks off, or that holds something no value can be
made of, is a value too: it keeps what came before the flaw, so that whoever reads it in order
meets the flaw where it stands and not before. These modules stand for a general JSON library, with
the classes of its errors; configurations are read and written with it.
-/

namespace NameService

/-- Why a document is of no use: its text is not JSON, its text ends too early, or it is not the
    kind of document that was asked for. -/
inductive Json.Fault where
  | malformed
  | truncated
  | unsuitable
deriving DecidableEq, Repr

/-- What a reader meets first at a flaw: the end of the text, the word null, a string, or anything
    else. A flaw after a comma is anything else to whoever waits for the end of an object. -/
inductive Json.Opening where
  | nothing
  | null
  | string
  | other
deriving DecidableEq, Repr

/-- A flaw in a text. Reading it for its meaning always fails; passing over it fails only where even
    the end of the value cannot be found. -/
structure Json.Flaw where
  meaning : Json.Fault
  extent : Option Json.Fault
  opening : Json.Opening := .other
deriving DecidableEq, Repr

inductive Json where
  | null
  | bool (truth : Bool)
  | integer (number : Int)
  /-- A number that is no 64-bit integer, in its plainest spelling. -/
  | decimal (literal : String)
  | string (text : String)
  | array (items : List Json) (flaw : Option Json.Fault)
  | object (members : List (String × Json)) (flaw : Option Json.Flaw)
  | flawed (flaw : Json.Flaw)
deriving Repr, Inhabited

namespace Json

def ofList (items : List Json) : Json := .array items none

def ofMembers (members : List (String × Json)) : Json := .object members none

def ofNat (n : Nat) : Json := .integer n

/-- A flaw that stops every reader. -/
def Flaw.stop (opening : Opening) (fault : Fault) : Flaw := ⟨fault, some fault, opening⟩

def stop (opening : Opening) (fault : Fault) : Json := .flawed (.stop opening fault)

mutual
/-- The fault that is met on the way over a value, if its end cannot be found. -/
def extent : Json → Option Fault
  | .array items flaw => (extents items).or flaw
  | .object members flaw => (memberExtents members).or (flaw.bind Flaw.extent)
  | .flawed flaw => flaw.extent
  | _ => none

def extents : List Json → Option Fault
  | [] => none
  | item :: items => item.extent.or (extents items)

def memberExtents : List (String × Json) → Option Fault
  | [] => none
  | (_, value) :: members => value.extent.or (memberExtents members)
end

def get? : Json → String → Option Json
  | .object members _, key => (members.find? (·.1 == key)).map (·.2)
  | _, _ => none

/-- The four hexadecimal digits of a control character. -/
def hexDigits (c : Char) : List Char :=
  ['0', '0', Nat.digitChar (c.toNat / 16), Nat.digitChar (c.toNat % 16)]

def escapeChar (c : Char) : List Char :=
  if c = '"' then ['\\', '"']
  else if c = '\\' then ['\\', '\\']
  else if c = '\n' then ['\\', 'n']
  else if c = '\r' then ['\\', 'r']
  else if c = '\t' then ['\\', 't']
  else if c = '\x08' then ['\\', 'b']
  else if c = '\x0c' then ['\\', 'f']
  else if c.toNat < 0x20 then '\\' :: 'u' :: hexDigits c
  else [c]

def quote (text : String) : List Char := '"' :: text.toList.flatMap escapeChar ++ ['"']

mutual
/-- The shortest text of a value. A flaw has no text. -/
def print : Json → List Char
  | .null => "null".toList
  | .bool true => "true".toList
  | .bool false => "false".toList
  | .integer number => (toString number).toList
  | .decimal literal => literal.toList
  | .string text => quote text
  | .array items _ => '[' :: printItems items ++ [']']
  | .object members _ => '\x7b' :: printMembers members ++ ['\x7d']
  | .flawed _ => []

def printItems : List Json → List Char
  | [] => []
  | [item] => print item
  | item :: items => print item ++ ',' :: printItems items

def printMembers : List (String × Json) → List Char
  | [] => []
  | [(key, value)] => quote key ++ ':' :: print value
  | (key, value) :: members => quote key ++ ':' :: print value ++ ',' :: printMembers members
end

end Json

end NameService
