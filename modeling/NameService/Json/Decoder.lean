import NameService.Json.Reader
import NameService.Pairs

/-!
Documents of a known kind read from JSON. A decoder goes through a value in the order of its text
and stops at the first fault, be it a flaw of the text or a value of the wrong kind.
-/

namespace NameService.Json

abbrev Decoder (α : Type) := Json → Except Fault α

namespace Decoder

def bool : Decoder Bool
  | .bool truth => .ok truth
  | .flawed flaw => .error flaw.meaning
  | _ => .error .unsuitable

def text : Decoder String
  | .string text => .ok text
  | .flawed flaw => .error flaw.meaning
  | _ => .error .unsuitable

/-- A whole number below a bound. -/
def natural (bound : Nat) : Decoder Nat
  | .integer number =>
    if 0 ≤ number ∧ number < bound then .ok number.toNat else .error .unsuitable
  | .flawed flaw => .error flaw.meaning
  | _ => .error .unsuitable

/-- A null, or what the decoder makes of anything else. A value that opens like null is never
    offered to the decoder. -/
def optional {α : Type} (decode : Decoder α) : Decoder (Option α)
  | .null => .ok none
  | .flawed ⟨meaning, extent, opening⟩ =>
    if opening = .null then .error meaning
    else (decode (.flawed ⟨meaning, extent, opening⟩)).map some
  | value => (decode value).map some

def list {α : Type} (decode : Decoder α) : Decoder (List α)
  | .array items flaw => do
    let found ← items.mapM decode
    match flaw with
    | none => return found
    | some fault => throw fault
  | .flawed flaw => .error flaw.meaning
  | _ => .error .unsuitable

/-- One of a few words. A word may also stand as the only key of an object, over a null. Nothing but
    a string, an object or the end of the text is looked at beyond its first character. -/
def choice {α : Type} (find : String → Option α) : Decoder α
  | .string text => match find text with
    | some found => .ok found
    | none => .error .unsuitable
  | .object [] flaw => .error ((flaw.map Flaw.meaning).getD .malformed)
  | .object ((key, value) :: members) flaw => do
    let some found := find key | throw .unsuitable
    match value with
    | .null => pure ()
    | .flawed flaw => throw flaw.meaning
    | _ => throw .unsuitable
    if !members.isEmpty then throw .malformed
    match flaw with
    | none => return found
    | some flaw => throw (if flaw.opening = .nothing then flaw.meaning else .malformed)
  | .flawed flaw =>
    .error (if flaw.opening = .nothing ∨ flaw.opening = .string then flaw.meaning else .malformed)
  | _ => .error .malformed

def dictionaryFrom {κ α : Type} [BEq κ] (find : String → Option κ) (decode : Decoder α)
    (known : List (κ × α)) : List (String × Json) → Except Fault (List (κ × α))
  | [] => .ok known
  | (key, value) :: members => do
    let some key := find key | throw .unsuitable
    let value ← decode value
    dictionaryFrom find decode (Pairs.insert key value known) members

/-- An object whose keys are data. Of two members with one key the later counts. -/
def dictionary {κ α : Type} [BEq κ] (find : String → Option κ) (decode : Decoder α) :
    Decoder (List (κ × α))
  | .object members flaw => do
    let found ← dictionaryFrom find decode [] members
    match flaw with
    | none => return found
    | some flaw => throw flaw.meaning
  | .flawed flaw => .error flaw.meaning
  | _ => .error .unsuitable

/-- A field of a record: a record starts out with every field at its default. -/
structure Field (ρ : Type) where
  name : String
  required : Bool
  read : Json → ρ → Except Fault ρ

def field {ρ α : Type} (name : String) (decode : Decoder α) (set : ρ → α → ρ) : Field ρ :=
  ⟨name, false, fun value record => (decode value).map (set record)⟩

def Field.needed {ρ : Type} (f : Field ρ) : Field ρ := { f with required := true }

/-- Members in any order: unknown ones are passed over, and no known one may come twice. -/
def recordFrom {ρ : Type} (fields : List (Field ρ)) (seen : List String) (record : ρ) :
    List (String × Json) → Except Fault (ρ × List String)
  | [] => .ok (record, seen)
  | (key, value) :: members =>
    match fields.find? (·.name == key) with
    -- Only the extent of an unknown member matters.
    | none => match value.extent with
      | some fault => .error fault
      | none => recordFrom fields seen record members
    | some f => do
      if seen.contains key then throw .unsuitable
      recordFrom fields (key :: seen) (← f.read value record) members

/-- Items in the order of the fields; those at the end may be left out. -/
def recordOfItems {ρ : Type} (flaw : Option Fault) :
    List (Field ρ) → ρ → List Json → Except Fault ρ
  | [], record, [] => match flaw with
    | none => .ok record
    | some fault => .error fault
  | [], _, _ :: _ => .error .malformed
  | f :: fields, record, [] => match flaw with
    | some fault => .error fault
    | none => if f.required then .error .unsuitable else recordOfItems none fields record []
  | f :: fields, record, item :: items => do
    recordOfItems flaw fields (← f.read item record) items

def record {ρ : Type} (fields : List (Field ρ)) (blank : ρ) : Decoder ρ
  | .object members flaw => do
    let (found, seen) ← recordFrom fields [] blank members
    match flaw with
    | some flaw => throw flaw.meaning
    | none =>
      if fields.any fun f => f.required && !seen.contains f.name then throw .unsuitable
      return found
  | .array items flaw => recordOfItems flaw fields blank items
  | .flawed flaw => .error flaw.meaning
  | _ => .error .unsuitable

end Decoder

/-- A document is one value and nothing after it. -/
def decodeText {α : Type} (decode : Decoder α) (text : String) : Except Fault α :=
  let (value, trailing) := read text.toList
  match decode value, trailing with
  | .error fault, _ => .error fault
  | .ok _, some fault => .error fault
  | .ok found, none => .ok found

end NameService.Json
