import NameService.Session.Opening
import NameService.Session.Readiness

/-!
Operations that survive the loss of a server. A trial opens a connection to one server and carries
out the operation there. When the server turns out to be of no use, the next one is tried, and after
the last of them the first again, for as many attempts as the policy allows.
-/

namespace NameService.Failover

open Engine

variable {σ α : Type} [Service σ]

/-- The end of a round through the servers. -/
inductive Round (α : Type) where
  | settled (result : Except Error α)
  | exhausted (last : Option Error)

def trial (operation : Action σ α) : Action σ α := do
  Session.establish
  operation

/-- One trial for each of the next servers, up to the first that is of use. -/
def round (operation : Action σ α) (last : Option Error) : Nat → Engine σ (Round α)
  | 0 => return .exhausted last
  | servers + 1 => do
    match ← (trial operation).run with
    | .ok value =>
      touch
      return .settled (.ok value)
    | .error error =>
      if error.isUnavailable then
        close
        update Session.advance
        round operation (some error) servers
      else return .settled (.error error)

/-- No server was of use; the last of them has said why. -/
def unreachable (last : Option Error) : Error :=
  .unavailable ((last.map Error.message).getD "no attempts made")

/-- The wait that the policy asks for before an attempt. -/
def wait (policy : Policy) (attempt : Nat) : Engine σ Unit := do
  if 0 < attempt then
    if let some seconds := policy.delay attempt then
      perform (.sleep seconds)

/-- Rounds from an attempt on, each after its wait. -/
def rounds (policy : Policy) (servers : Nat) (operation : Action σ α) (last : Option Error)
    (attempt : Nat) : Nat → Action σ α
  | 0 => throw (unreachable last)
  | attempts + 1 => do
    lift (wait policy attempt)
    match ← lift (round operation last servers) with
    | .settled (.ok value) => return value
    | .settled (.error error) => throw error
    | .exhausted last => rounds policy servers operation last (attempt + 1) attempts

/-- How many rounds there may be. A soft policy, or a soft host, allows one. -/
def budget (policy : Policy) (soft : Bool) : Nat :=
  if soft || !policy.isHard then 1 else max 1 policy.attempts

/-- Carries out an operation at the first server that is of use. -/
def run (operation : Action σ α) : Action σ α := do
  Session.ensureReady
  let config ← config
  let soft ← lift (observe Service.isSoft)
  rounds config.failover (max 1 config.uris.length) operation none 0
    (budget config.failover soft)

end NameService.Failover
