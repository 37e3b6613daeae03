import NameService.Config
import NameService.Entry

/-!
The world around a directory session: the servers it talks to, the source of its configuration, and
the process it runs in. A session acts on the world only through calls, and every call has one
answer. What it can see without a call, it sees in the state of the world. How a call gets to a
server, how long it takes and what is logged of it belong to the world.
-/

namespace NameService

/-- A connection that was made. Connections are numbered from one in the order of their making. -/
structure Connection where
  number : Nat
deriving DecidableEq, Repr

/-- A search in progress, under the name its connection gave it. -/
structure MessageId where
  number : Int
deriving DecidableEq, Repr

/-- The two ends of the socket under a connection. -/
structure Socket where
  near : String
  far : String
deriving DecidableEq, Repr

structure ConnectOptions where
  uri : String
  tls : Tls
  protocolVersion : Nat
  /-- In seconds, as is the next. -/
  connectTimeout : Option Nat
  operationTimeout : Option Nat
deriving DecidableEq, Repr

/-- The end of a search, or of one page of it. -/
structure Done where
  code : Nat
  reason : String
  cookie : Option (List UInt8)
deriving DecidableEq, Repr

/-- There is a further page only after a cookie that is not empty. -/
def Done.nextPage? (done : Done) : Option (List UInt8) :=
  done.cookie.filter fun cookie => !cookie.isEmpty

inductive Message where
  | entry (entry : Entry)
  | reference
  | done (done : Done)
deriving DecidableEq, Repr

inductive Call where
  | load
  | connect (options : ConnectOptions)
  | bind (connection : Connection) (name password : String)
  | search (connection : Connection) (search : Search)
  | start (connection : Connection) (search : Search)
  | next (connection : Connection) (id : MessageId)
  | abandon (connection : Connection) (id : MessageId)
  /-- Says goodbye to the server. -/
  | unbind (connection : Connection)
  /-- Gives up a connection that another process still uses; nothing is sent. -/
  | disconnect (connection : Connection)
  /-- Gives up a connection whose socket is no longer its own; nothing is sent or closed. -/
  | forget (connection : Connection)
  | sleep (seconds : Nat)
deriving DecidableEq, Repr

@[reducible] def Call.Answer : Call → Type
  | load => Except Error Config
  | connect _ | bind _ _ _ | abandon _ _ | unbind _ => Except Error Unit
  | search _ _ => Except Error (List Entry)
  | start _ _ => Except Error MessageId
  | next _ _ => Except Error Message
  | disconnect _ | forget _ | sleep _ => Unit

/-- A world with states in `σ`. -/
class Service (σ : Type) where
  answer : (call : Call) → σ → call.Answer × σ
  processId : σ → Nat
  effectiveUser : σ → Nat
  /-- In milliseconds. -/
  clock : σ → Nat
  /-- The host asks for no second attempts, whatever the policy. -/
  isSoft : σ → Bool
  socket : Connection → σ → Option Socket
  isClosed : Connection → σ → Bool
  /-- When the configuration was last changed, if its source can tell. -/
  modified : σ → Option Nat

/-- What a session can see of the world. -/
structure View where
  processId : Nat
  effectiveUser : Nat
  clock : Nat
  socket : Connection → Option Socket
  isClosed : Connection → Bool
  modified : Option Nat

def Service.view {σ : Type} [Service σ] (outside : σ) : View where
  processId := Service.processId outside
  effectiveUser := Service.effectiveUser outside
  clock := Service.clock outside
  socket connection := Service.socket connection outside
  isClosed connection := Service.isClosed connection outside
  modified := Service.modified outside

end NameService
