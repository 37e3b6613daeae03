import NameService.Failover
import NameService.Lookup
import NameService.Record

/-!
Answers to questions. A question is put to the parts of the tree one after the other, until one of
them has an answer; all of that happens at one server, and begins again when the server is lost.
-/

namespace NameService

namespace Lookup

open Engine

variable {σ : Type} [Service σ]

/-- The answer of the first part that has one. A part in which nothing matches is passed over. -/
def searchTargets (lookup : Lookup) (config : Config) : List Target → Action σ (List Entry)
  | [] => return []
  | target :: targets => do
    let search ← lookup.search config target
    let connection ← connection
    match ← lift (perform (.search connection search)) with
    | .ok [] => searchTargets lookup config targets
    | .ok entries => return entries
    | .error error =>
      if error.status = .notFound then searchTargets lookup config targets
      else throw error

def searchOnce (lookup : Lookup) : Action σ (List Entry) := do
  let config ← config
  lookup.searchTargets config (lookup.targets config)

/-- All entries of an answer. -/
def entries (lookup : Lookup) : Action σ (List Entry) := Failover.run lookup.searchOnce

/-- Puts the question to one part of the tree, a page at a time if the configuration says so. -/
def startPage (lookup : Lookup) (index : Nat) (cookie : List UInt8) :
    Action σ (Option MessageId) := do
  let config ← config
  match ← lookup.search? config index with
  | none => return none
  | some search =>
    let search := { search with page := config.page? cookie }
    let connection ← connection
    return some (← ExceptT.mk (perform (.start connection search)))

/-- Starts to receive an answer message by message. -/
def start (lookup : Lookup) (index : Nat) : Action σ (Option MessageId) :=
  Failover.run (lookup.startPage index [])

/-- No entry of the database holds a record that answers the question. -/
def unanswered (lookup : Lookup) : Error :=
  .notFound ("no " ++ lookup.database.name ++ " entry matched")

/-- The one record that answers a question. -/
def one {ρ : Type} (lookup : Lookup) (parser : RecordParser ρ) (arena : Arena) :
    Engine σ (Reading (Sized ρ)) := do
  match ← lookup.entries.run with
  | .error error => return ⟨.error error, arena⟩
  | .ok entries =>
    let position := .byKey (lookup.args.key?.getD "")
    return parser.first position lookup.unanswered arena entries

end Lookup

namespace Entry

open Engine

variable {σ : Type} [Service σ]

def readOnce (name : String) (attributes : List String) : Action σ (Option Entry) := do
  let config ← config
  let connection ← connection
  match ← lift (perform (.search connection (.read name attributes config.timeLimit))) with
  | .ok entries => return entries.head?
  | .error error => if error.status = .notFound then return none else throw error

/-- The entry of this name, if there is one. -/
def read (name : String) (attributes : List String) : Action σ (Option Entry) :=
  Failover.run (readOnce name attributes)

end Entry

end NameService
