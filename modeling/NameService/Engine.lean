import NameService.Session

/-!
Actions of a session in its world. An action changes the session, calls on the world, or both, and
everything that passes between the two is kept in a history. The ways to part with a connection are
here as well: after each of them the session holds none.
-/

namespace NameService

/-- How things stand with a session at some time. -/
structure Stand where
  session : Session
  /-- How many connections have been made. -/
  connections : Nat
  view : View

/-- What a walk through groups comes to, and on which level. -/
inductive Visit where
  /-- The members of a group are gone through. -/
  | scan (level : Nat) (group : String)
  /-- The groups above some names are asked for, all in one question. -/
  | chase (level : Nat) (names : List String)
  /-- A netgroup is looked up. -/
  | find (level : Nat) (netgroup : String)
deriving DecidableEq, Repr

structure Event where
  call : Call
  answer : call.Answer
  /-- How things stood when the call was made. -/
  stand : Stand
  /-- How things stood when hazards were last looked for before it. -/
  look : Option Stand

/-- A session in its world, and all that has happened between them, the latest first. -/
structure World (σ : Type) where
  outside : σ
  session : Session := {}
  /-- How many connections have been made. -/
  connections : Nat := 0
  history : List Event := []
  /-- How things stood when hazards were last looked for. -/
  look : Option Stand := none
  /-- What walks through groups have come to, the latest first. -/
  visits : List Visit := []

def World.stand {σ : Type} [Service σ] (world : World σ) : Stand :=
  ⟨world.session, world.connections, Service.view world.outside⟩

/-- What the session does. There is no result when a server keeps it waiting longer than the caller
    has patience for. -/
abbrev Engine (σ : Type) := StateT (World σ) Option

/-- An action that may fail. What it has done by then stays done. -/
abbrev Fallible (ε σ : Type) := ExceptT ε (Engine σ)

/-- An action that may fail with an error. -/
abbrev Action (σ : Type) := Fallible Error σ

/-- An action that may panic. -/
abbrev Brittle (σ : Type) := Fallible Panic σ

/-- An action that may do both. -/
abbrev Venture (σ : Type) := Fallible Failure σ

namespace Engine

variable {σ : Type}

def outOfPatience {α : Type} : Engine σ α := fun _ => none

def session : Engine σ Session := do return (← get).session

def update (change : Session → Session) : Engine σ Unit :=
  modify fun world => { world with session := change world.session }

/-- An action that cannot fail among actions that can. -/
def lift {ε α : Type} (engine : Engine σ α) : Fallible ε σ α := ExceptT.lift engine

/-- An action that does not panic among actions that may. -/
def attempt {α : Type} (action : Action σ α) : Venture σ α := ExceptT.adapt .error action

def risk {α : Type} (brittle : Brittle σ α) : Venture σ α := ExceptT.adapt .panic brittle

def noteVisit (visit : Visit) : Engine σ Unit :=
  modify fun world => { world with visits := visit :: world.visits }

/-- What can be seen of the world. -/
def observe {α : Type} (look : σ → α) : Engine σ α := do return look (← get).outside

/-- The configuration in use. -/
def config : Action σ Config := do
  match (← lift session).loaded with
  | some loaded => return loaded.config
  | none => throw (.configuration "directory session not initialized")

/-- The connection at hand. -/
def connection : Action σ Connection := do
  match (← lift session).link with
  | some link => return link.connection
  | none => throw (.unavailable "no directory connection")

variable [Service σ]

/-- Remembers that hazards are looked for now. -/
def noteLook : Engine σ Unit :=
  modify fun world => { world with look := some world.stand }

def perform (call : Call) : Engine σ call.Answer := do
  let world ← get
  let (answer, outside) := Service.answer call world.outside
  let event := { call, answer, stand := world.stand, look := world.look }
  set { world with outside := outside, history := event :: world.history }
  return answer

/-- Takes leave of the server. The session is rid of the connection even if that fails. -/
def close : Engine σ Unit := do
  if let some connection := (← session).connection then
    let _ ← perform (.unbind connection)
  update Session.dropLink

def disconnect : Engine σ Unit := do
  if let some connection := (← session).connection then
    perform (.disconnect connection)
  update Session.dropLink

def forget : Engine σ Unit := do
  if let some connection := (← session).connection then
    perform (.forget connection)
  update Session.dropLink

/-- The connection has just done a service. -/
def touch : Engine σ Unit := do
  let now ← observe Service.clock
  update (Session.touch · now)

end Engine

end NameService
