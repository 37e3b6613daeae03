import NameService.Engine

/-!
Whether a session may use what it holds. A connection can go bad while nobody looks: the process may
have forked, the application may have closed the socket or put it to other use, the user may have
changed. `ensureReady` looks for all of that before anything is sent.
-/

namespace NameService

namespace Link

variable {σ : Type} [Service σ]

/-- The socket is not the one the connection was made on. -/
def isStolen (link : Link) (outside : σ) : Bool :=
  link.socket.isSome && Service.socket link.connection outside != link.socket

/-- The connection was bound for the superuser and is no longer used by him, or the reverse. -/
def isForOther (link : Link) (outside : σ) : Bool :=
  let user := Service.effectiveUser outside
  link.user.any fun bound => bound != user && (bound == 0 || user == 0)

/-- The connection has done nothing for longer than it may. -/
def isIdle (link : Link) (limit : Option Nat) (outside : σ) : Bool :=
  match limit, link.lastActivity with
  | some seconds, some last => seconds * 1000 < Service.clock outside - last
  | _, _ => false

end Link

namespace Session

open Engine

variable {σ : Type} [Service σ]

/-- The connection was made by another process. -/
def isInherited (session : Session) (link : Link) (outside : σ) : Bool :=
  session.forked || link.owner != some (Service.processId outside)

def idleLimit (session : Session) : Option Nat :=
  session.loaded.bind fun loaded => loaded.config.idleTimeLimit

/-- Reads the configuration. A change while it is read will be noticed later. -/
def load : Action σ Unit := do
  -- The time is taken before the text, so that it is never too late.
  let modified ← lift (observe Service.modified)
  let config ← ExceptT.mk (perform .load)
  if config.uris.isEmpty then throw (.configuration "no directory URIs configured")
  lift (update (Session.adopt · ⟨config, modified⟩))

/-- Gives up a connection that must not be used any more. -/
def dropUnfit : Engine σ Unit := do
  let session ← session
  if let some link := session.held then
    let outside ← observe id
    if link.isStolen outside || Service.isClosed link.connection outside then forget
    else if session.isInherited link outside || link.isForOther outside then disconnect

def closeIdle : Engine σ Unit := do
  let session ← session
  if let some link := session.link then
    if link.isIdle session.idleLimit (← observe id) then close

def loadFirst : Action σ Unit := do
  if (← lift session).loaded.isNone then load

/-- Looks for hazards, and parts with a connection that has met one of them. -/
def inspect : Engine σ Unit := do
  noteLook
  dropUnfit
  -- Whatever was held across a fork is gone by now.
  update clearFork
  -- Only a connection of this process may be closed in words.
  closeIdle

/-- Begins anew when the source of the configuration has changed. -/
def refresh : Action σ Unit := do
  let modified ← lift (observe Service.modified)
  if (← lift session).loaded.bind Loaded.modified != modified then
    lift close
    load

/-- Has a configuration that is up to date, and holds a connection only if it can be used. -/
def ensureReady : Action σ Unit := do
  loadFirst
  lift inspect
  refresh

/-- Gives up a connection that belongs to another process, and says whether it did. -/
def releaseInherited : Engine σ Bool := do
  let session ← session
  match session.held with
  | none => return false
  | some link =>
    if session.isInherited link (← observe id) then
      disconnect
      update clearFork
      return true
    else return false

end Session

end NameService
