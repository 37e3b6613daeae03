import NameService.Text.Normal
import NameService.Text.Split
import NameService.Error

/-!
Members of netgroups. A member is the name of another netgroup, or a triple of a host, a user and a
domain in parentheses, any of which may be left open. The values of an entry are read as one text,
so a member may stand anywhere in it.
-/

namespace NameService

structure Triple where
  host : Option String
  user : Option String
  domain : Option String
deriving DecidableEq, Repr, Inhabited

namespace Triple

/-- The first word of a part; a part without a word matches anything. -/
def part (text : List Char) : Option String :=
  match Text.word (Text.trimStart text) with
  | [] => none
  | found => some (String.ofList found)

def ofParts (host user domain : List Char) : Triple := ⟨part host, part user, part domain⟩

end Triple

namespace Netgroup

inductive Member where
  | group (name : String)
  | triple (triple : Triple)
deriving DecidableEq, Repr

/-- The inside of a pair of parentheses: two commas part it, and any others belong to the domain. -/
def triple? (inside : List Char) : Option Triple := do
  let (host, rest) ← Text.cut ',' inside
  let (user, domain) ← Text.cut ',' rest
  return .ofParts host user domain

/-- The member at the head of a text, and the text after it. -/
def take? (text : List Char) : Option (Member × List Char) :=
  match Text.trimStart text with
  | [] => none
  | '(' :: rest => do
    let (inside, after) ← Text.cut ')' rest
    return (.triple (← triple? inside), after)
  | token => some (.group (String.ofList (Text.word token)), token.drop (Text.word token).length)

/-- Reads the members of a netgroup one by one. Nothing is left to read after the text has come to
    its end or to something that is no member. -/
structure Cursor where
  rest : Option (List Char)
  first : Bool := true
deriving DecidableEq, Repr

namespace Cursor

def empty : Cursor := ⟨none, true⟩

def ofValues (values : List String) : Cursor :=
  match List.intercalate [' '] ((values.filter (!·.isEmpty)).map String.toList) with
  | [] => empty
  | text => ⟨some text, true⟩

/-- The next member. A netgroup that does not even begin with a member cannot be found. -/
def next (cursor : Cursor) : Except Error Member × Cursor :=
  match cursor.rest with
  | none => (.error .endOfEnumeration, cursor)
  | some text =>
    match take? text with
    | some (member, rest) => (.ok member, ⟨some rest, false⟩)
    | none =>
      (.error (if cursor.first then .notFound "malformed netgroup" else .endOfEnumeration),
        ⟨none, cursor.first⟩)

end Cursor

theorem length_trimStart_le (text : List Char) : (Text.trimStart text).length ≤ text.length :=
  (List.dropWhile_sublist _).length_le

/-- What follows a member is shorter than what it was taken from. -/
theorem length_lt_of_take? {text rest : List Char} {member : Member}
    (found : take? text = some (member, rest)) : rest.length < text.length := by
  have shorter := length_trimStart_le text
  unfold take? at found
  split at found
  · simp at found
  · rename_i body head
    rw [head] at shorter
    simp only [Option.pure_def, Option.bind_eq_bind, Option.bind_eq_some_iff, Prod.exists,
      Option.some.injEq, Prod.mk.injEq] at found
    obtain ⟨inside, after, cutting, triple, -, -, rfl⟩ := found
    have whole := congrArg List.length (Text.append_of_cut cutting)
    simp only [List.length_append, List.length_cons] at whole shorter
    omega
  · rename_i nonempty _
    simp only [Option.some.injEq, Prod.mk.injEq] at found
    obtain ⟨-, rfl⟩ := found
    -- A name has one character at least, since the text does not begin with a blank.
    cases token : Text.trimStart text with
    | nil => exact absurd token nonempty
    | cons c tail =>
      have visible : Text.isBlank c = false := by
        have := List.head?_dropWhile_not Text.isBlank text
        unfold Text.trimStart at token
        rw [token] at this
        simpa using this
      rw [token] at shorter
      simp only [Text.word, List.takeWhile_cons, visible, Bool.not_false, if_true,
        List.length_cons, List.length_drop] at shorter ⊢
      omega

/-- All members of a text, up to its end or to something that is no member. -/
def members (text : List Char) : List Member :=
  match _found : take? text with
  | none => []
  | some (member, rest) => member :: members rest
termination_by text.length
decreasing_by exact length_lt_of_take? _found

def Cursor.members (cursor : Cursor) : List Member :=
  match cursor.rest with
  | none => []
  | some text => Netgroup.members text

end Netgroup

end NameService
