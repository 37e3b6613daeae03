import NameService.Engine

/-!
How a session comes to a connection. A connection is held only after the server has accepted who is
calling; one that the server has refused is given back at once.
-/

namespace NameService

/-- TLS on an open connection came with the third version of the protocol. -/
def ConnectOptions.ofConfig (config : Config) (uri : String) : ConnectOptions where
  uri := uri
  tls := config.tls
  protocolVersion :=
    if config.tls.mode = .startTls then max 3 config.protocolVersion.toNat
    else config.protocolVersion.toNat
  connectTimeout := config.bindTimeLimit
  operationTimeout := config.timeLimit

/-- A connection as the world shows it at the moment. -/
def Link.ofConnection {σ : Type} [Service σ] (connection : Connection) (user : Nat) (outside : σ) :
    Link where
  connection := connection
  socket := Service.socket connection outside
  owner := some (Service.processId outside)
  user := some user
  lastActivity := some (Service.clock outside)

namespace Session

open Engine

variable {σ : Type} [Service σ]

def connect (options : ConnectOptions) : Action σ Connection := do
  ExceptT.mk (perform (.connect options))
  modifyGet fun world =>
    let number := world.connections + 1
    (⟨number⟩, { world with connections := number })

/-- Connects to the server at hand and says who is calling, unless there is a connection. -/
def establish : Action σ Unit := do
  let session ← lift session
  if session.isConnected then return
  let config ← config
  let some uri := config.uris[session.endpoint]?
    | throw (.configuration ("no endpoint " ++ toString session.endpoint))
  let connection ← connect (.ofConfig config uri)
  let user ← lift (observe Service.effectiveUser)
  let credentials := config.credentialsFor user
  match ← lift (perform (.bind connection credentials.bindName credentials.bindPassword)) with
  | .error error =>
    let _ ← lift (perform (.unbind connection))
    throw error
  | .ok () =>
    let link ← lift (observe (Link.ofConnection connection user))
    lift (update (Session.hold · link))

end Session

end NameService
