import NameService.Arena.Allocation
import NameService.DistinguishedName
import NameService.Entry

/-!
Records made of entries: what a caller reads out of an entry, and how its parts get into the
caller's memory.
-/

namespace NameService

namespace Entry

def lacks (entry : Entry) (type : String) : Error := .notFound (entry.name ++ " has no " ++ type)

/-- The first value of an attribute, in memory. -/
def storeFirst (entry : Entry) (type : String) : Marshal StoredText :=
  match entry.first? type with
  | some value => Arena.pushText value
  | none => throw (entry.lacks type)

/-- All values of an attribute but one. -/
def storeAll (entry : Entry) (type : String) (left : Option String) : Marshal StoredList :=
  Arena.pushList (entry.values type) left

/-- A value that may be set for all entries, or for entries that have none. -/
def storeFirstOr (entry : Entry) (type : String) (always otherwise : Option String) :
    Marshal StoredText :=
  match (always.or (entry.first? type)).or otherwise with
  | some value => Arena.pushText value
  | none => throw (entry.lacks type)

/-- The value by which the entry is named, or else its first. -/
def storeNaming (entry : Entry) (type : String) : Marshal StoredText :=
  match DistinguishedName.parse entry.name with
  | .error _ => entry.storeFirst type
  | .ok name => match name.leadingValue? type with
    | some value => Arena.pushText value
    | none => entry.storeFirst type

end Entry

/-- Which of the records in an entry is wanted: the one for a key, or one by its number. Without a
    number the entry is new. -/
inductive Position where
  | byKey (key : String)
  | byIndex (index : Option Nat)
deriving DecidableEq, Repr

namespace Position

def start : Position := .byIndex none

/-- There is no further record in the entry at hand. -/
def needsEntry : Position → Bool
  | .byIndex (some _) => false
  | _ => true

end Position

/-- The end of an attempt to read a record. An entry without the record wanted gives none. -/
structure Parse (ρ : Type) where
  outcome : Except Error (Option ρ)
  position : Position
  arena : Arena

/-- A way to read a record out of an entry into memory. What it does depends on nothing else: there
    is no state of its own that it could keep from one entry to the next. -/
abbrev RecordParser (ρ : Type) := Entry → Position → Arena → Parse ρ

/-- What has become of a wish for a record. -/
structure Reading (ρ : Type) where
  result : Except Error ρ
  arena : Arena

/-- A record, and how many octets of memory it took. -/
structure Sized (ρ : Type) where
  record : ρ
  size : Nat
deriving DecidableEq, Repr

namespace Reading

variable {ρ : Type}

def record (reading : Reading (Sized ρ)) : Reading ρ :=
  ⟨reading.result.map Sized.record, reading.arena⟩

def size (reading : Reading (Sized ρ)) : Nat :=
  match reading.result with
  | .ok sized => sized.size
  | .error _ => 0

@[simp] theorem ofResult_record (reading : Reading (Sized ρ)) :
    Status.ofResult reading.record.result = .ofResult reading.result := by
  cases found : reading.result <;> simp [record, found, Except.map, Status.ofResult]

end Reading

/-- The first record among entries. An entry that holds none leaves no trace in memory; a record
    that does not fit ends the search, because a larger memory would give it. -/
def RecordParser.first {ρ : Type} (parser : RecordParser ρ) (position : Position) (missing : Error)
    (arena : Arena) : List Entry → Reading (Sized ρ)
  | [] => ⟨.error missing, arena⟩
  | entry :: entries =>
    let parse := parser entry position arena
    match parse.outcome with
    | .ok (some record) => ⟨.ok ⟨record, parse.arena.used - arena.used⟩, parse.arena⟩
    | .error (.bufferTooSmall requested remaining) =>
      ⟨.error (.bufferTooSmall requested remaining), parse.arena.rollback arena.mark⟩
    | .ok none | .error _ =>
      first parser position missing (parse.arena.rollback arena.mark) entries

end NameService
