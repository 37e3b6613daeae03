import NameService.Json.Number
import NameService.Json.Quoted

/-!
JSON text read from left to right. The reader never fails: a fault in the text becomes a flawed
value at the place where it stands, and nothing after it is read.
-/

namespace NameService.Json

def isBlank (c : Char) : Bool := c == ' ' || c == '\n' || c == '\t' || c == '\r'

def skipBlanks (text : List Char) : List Char := text.dropWhile isBlank

/-- A literal word after its first letter. -/
def readWord (value : Json) (opening : Opening) :
    List Char → List Char → Json × Option (List Char)
  | [], rest => (value, some rest)
  | _ :: _, [] => (stop opening .truncated, none)
  | c :: word, d :: rest =>
    if c = d then readWord value opening word rest else (stop opening .malformed, none)

/-- The members of an object, or the items of an array, with what follows its end. -/
structure Run (α β : Type) where
  entries : List α
  flaw : Option β
  rest : Option (List Char)

mutual
/-- The value at the head of a text and the text after it. Fuel bounds the depth: twice the length
    of the text is enough, because a value starts with a character of its own and every entry of
    an array or object ends with one. -/
def value : Nat → List Char → Json × Option (List Char)
  | 0, _ => (stop .other .malformed, none)
  | fuel + 1, text =>
    match skipBlanks text with
    | [] => (stop .nothing .truncated, none)
    | 'n' :: rest => readWord .null .null ['u', 'l', 'l'] rest
    | 't' :: rest => readWord (.bool true) .other ['r', 'u', 'e'] rest
    | 'f' :: rest => readWord (.bool false) .other ['a', 'l', 's', 'e'] rest
    | '"' :: rest =>
      match quoted rest with
      | (.ok text, .ok rest) => (.string text, some rest)
      | (.error fault, .ok rest) => (.flawed ⟨fault, none, .string⟩, some rest)
      | (.ok _, .error fault) => (stop .string fault, none)
      | (.error meaning, .error fault) => (.flawed ⟨meaning, some fault, .string⟩, none)
    | '-' :: rest => readNumber true rest
    | '[' :: rest =>
      match skipBlanks rest with
      | [] => (.array [] (some .truncated), none)
      | ']' :: rest => (.array [] none, some rest)
      | rest => let run := items fuel rest; (.array run.entries run.flaw, run.rest)
    | '\x7b' :: rest =>
      match skipBlanks rest with
      | '\x7d' :: rest => (.object [] none, some rest)
      | rest => let run := members fuel rest; (.object run.entries run.flaw, run.rest)
    | c :: rest =>
      if c.isDigit then readNumber false (c :: rest) else (stop .other .malformed, none)

def items : Nat → List Char → Run Json Fault
  | 0, _ => ⟨[], some .malformed, none⟩
  | fuel + 1, text =>
    match value fuel text with
    | (item, none) => ⟨[item], none, none⟩
    | (item, some rest) =>
      match skipBlanks rest with
      | [] => ⟨[item], some .truncated, none⟩
      | ']' :: rest => ⟨[item], none, some rest⟩
      | ',' :: rest => let run := items fuel rest; { run with entries := item :: run.entries }
      | _ => ⟨[item], some .malformed, none⟩

def members : Nat → List Char → Run (String × Json) Flaw
  | 0, _ => ⟨[], some (.stop .other .malformed), none⟩
  | fuel + 1, text =>
    match skipBlanks text with
    | [] => ⟨[], some (.stop .other .truncated), none⟩
    | '"' :: rest =>
      match quoted rest with
      | (.ok _, .error fault) => ⟨[], some (.stop .other fault), none⟩
      | (.error meaning, .error fault) => ⟨[], some ⟨meaning, some fault, .other⟩, none⟩
      | (key, .ok rest) =>
        let (value, rest) := match skipBlanks rest with
          | [] => (stop .nothing .truncated, none)
          | ':' :: rest => value fuel rest
          | _ => (stop .other .malformed, none)
        let others : Run (String × Json) Flaw := match rest with
          | none => ⟨[], none, none⟩
          | some rest =>
            match skipBlanks rest with
            | [] => ⟨[], some (.stop .nothing .truncated), none⟩
            | '\x7d' :: rest => ⟨[], none, some rest⟩
            | ',' :: rest => members fuel rest
            | _ => ⟨[], some (.stop .other .malformed), none⟩
        match key with
        | .ok key => { others with entries := (key, value) :: others.entries }
        | .error meaning =>
          let extent := value.extent.or ((memberExtents others.entries).or
            (others.flaw.bind Flaw.extent))
          ⟨[], some ⟨meaning, extent, .other⟩, others.rest⟩
    | _ => ⟨[], some (.stop .other .malformed), none⟩
end

/-- The value of a whole text, and the fault of what follows the value. -/
def read (text : List Char) : Json × Option Fault :=
  match value (2 * text.length + 2) text with
  | (found, none) => (found, none)
  | (found, some rest) => (found, if (skipBlanks rest).isEmpty then none else some .malformed)

end NameService.Json
