import NameService.Pairs
import NameService.Service
import NameService.Text.Normal

/-!
What a session with a directory remembers: the configuration it has loaded, the one connection it
holds, and what it has learned on that connection.
-/

namespace NameService

/-- A connection that is held, and what the session has on record about it. -/
structure Link where
  connection : Connection
  socket : Option Socket
  owner : Option Nat
  user : Option Nat
  lastActivity : Option Nat
deriving DecidableEq, Repr

/-- A configuration, and when its source had last changed before it was read. -/
structure Loaded where
  config : Config
  modified : Option Nat
deriving DecidableEq, Repr

inductive Session.State where
  /-- No configuration has been loaded yet. -/
  | uninitialized
  /-- There is a configuration, but no connection. -/
  | initialized
  /-- There is a connection, and the server knows who is calling. -/
  | connected
deriving DecidableEq, Repr

structure Session where
  loaded : Option Loaded := none
  connection : Option Connection := none
  state : Session.State := .uninitialized
  /-- The server that is tried first. -/
  endpoint : Nat := 0
  /-- When the connection last did a service, in milliseconds. -/
  lastActivity : Option Nat := none
  /-- The process that has made the connection. -/
  owner : Option Nat := none
  /-- The user that the connection was bound for. -/
  user : Option Nat := none
  /-- The socket that the connection was made on. -/
  socket : Option Socket := none
  /-- How many connections have been bound. -/
  generation : Nat := 0
  /-- The process is known to have forked. -/
  forked : Bool := false
  /-- User names by the folded names of their entries. -/
  uids : List (String × String) := []
deriving DecidableEq, Repr

namespace Session

def isConnected (session : Session) : Bool :=
  session.state = .connected && session.connection.isSome

/-- The connection that is held, with what is on record about it. -/
def held (session : Session) : Option Link :=
  session.connection.map fun connection => {
    connection
    socket := session.socket
    owner := session.owner
    user := session.user
    lastActivity := session.lastActivity }

/-- The connection that may be used. -/
def link (session : Session) : Option Link :=
  if session.state = .connected then session.held else none

/-- Begins anew with a configuration: at its first server, and with nothing learned. -/
def adopt (session : Session) (loaded : Loaded) : Session :=
  { session with
    loaded := some loaded
    endpoint := 0
    uids := []
    state := if session.state = .uninitialized then .initialized else session.state }

/-- Holds a connection that has been bound. -/
def hold (session : Session) (link : Link) : Session :=
  { session with
    connection := some link.connection
    socket := link.socket
    owner := link.owner
    user := link.user
    lastActivity := link.lastActivity
    generation := session.generation + 1
    state := .connected }

/-- Without a connection there is nothing that was learned on it. Who made it stays on record. -/
def dropLink (session : Session) : Session :=
  { session with
    connection := none
    uids := []
    socket := none
    lastActivity := none
    user := none
    state := if session.state = .connected then .initialized else session.state }

def touch (session : Session) (now : Nat) : Session := { session with lastActivity := some now }

/-- Goes on to the next server, and after the last to the first. -/
def advance (session : Session) : Session :=
  let count := match session.loaded with
    | some loaded => max 1 loaded.config.uris.length
    | none => 1
  { session with endpoint := (session.endpoint + 1) % count }

/-- The process has forked: the connection belongs to the parent. -/
def markForked (session : Session) : Session := { session with forked := true }

/-- What there was of the fork has been dealt with. -/
def clearFork (session : Session) : Session := { session with forked := false }

def uid? (session : Session) (name : String) : Option String :=
  session.uids.lookup (Text.fold name)

/-- How many user names are remembered at most. -/
def uidLimit : Nat := 4096

/-- When there is no room for another name, all are forgotten first. -/
def learn (session : Session) (name uid : String) : Session :=
  let known := if uidLimit ≤ session.uids.length then [] else session.uids
  { session with uids := Pairs.insert (Text.fold name) uid known }

end Session

end NameService
