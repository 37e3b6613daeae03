import NameService.Membership.Group
import NameService.Membership.Netgroup
import NameService.Membership.User

/-!
What a name service asks of a directory, with answers in its own terms: every call gives a status,
and what was found goes with it. Who belongs to what is asked for in one way, whether it is the
members of a group, the groups of a user or the triples of a netgroup.
-/

namespace NameService

open Engine

variable {σ : Type} [Service σ]

namespace Membership

inductive Seed where
  /-- The users in the group of this entry name. -/
  | group (name : String)
  /-- The groups of a user, other than his primary group. -/
  | user (name : String) (primaryGid : Option Nat)
  | netgroup (name : String)
deriving DecidableEq, Repr

/-- The members of a group, the groups of a user or the triples of a netgroup. -/
def expand (patience : Nat) (seed : Seed) (policy : Policy) : Venture σ Walk := do
  attempt Session.ensureReady
  let plan := Plan.ofConfig (← attempt config) policy
  match seed with
  | .group name => expandGroup plan name
  | .user name primary => attempt (expandUser plan patience name primary)
  | .netgroup name => attempt (expandNetgroup plan name)

end Membership

namespace Directory

/-- A record that was asked for by its key, and how many octets of memory it took. -/
def lookup {ρ : Type} (question : Lookup) (parser : RecordParser ρ) (arena : Arena) :
    Engine σ (Status × Nat × Reading ρ) := do
  let reading ← question.one parser arena
  return (.ofResult reading.result, reading.size, reading.record)

def enumerateStart (question : Lookup) (e : Enumeration) : Engine σ (Status × Enumeration) := do
  let (result, e) ← e.start question
  return (.ofResult result, e)

def enumerateNext {ρ : Type} (patience : Nat) (parser : RecordParser ρ) (e : Enumeration)
    (arena : Arena) : Engine σ (Status × Reading ρ × Enumeration) := do
  let (reading, e) ← Enumeration.next parser patience e arena
  return (.ofResult reading.result, reading, e)

def enumerateEnd (e : Enumeration) : Engine σ Enumeration := e.stop

/-- An answer that a limit has cut short is to be asked for again. -/
def expand (patience : Nat) (seed : Membership.Seed) (policy : Membership.Policy) :
    Brittle σ (Status × List Membership.Member) := do
  match ← lift (Membership.expand patience seed policy).run with
  | .ok walk => return (if walk.limitReached then .tryAgain else .success, walk.members)
  | .error (.error error) => return (error.status, [])
  | .error (.panic panic) => throw panic

/-- The configuration as it is now. -/
def config : Action σ Config := do
  Session.ensureReady
  Engine.config

def close : Engine σ Unit := Engine.close

/-- To be called in a child process before it makes any other call. -/
def resetAfterFork : Engine σ Unit := update Session.markForked

end Directory

end NameService
