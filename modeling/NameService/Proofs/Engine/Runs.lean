import NameService.Session.Opening
import NameService.Session.Readiness

/-!
What the actions of a session come to. Every action is a function from a world to a value and a
world, if there is an end to it; the lemmas of this module say which function for the actions that
all others are made of, so that nothing else has to open them.
-/

namespace NameService

namespace Call

/-- The connection that a call is about. -/
def connection? : Call → Option Connection
  | load | connect _ | sleep _ => none
  | bind connection _ _ | search connection _ | start connection _ | next connection _
  | abandon connection _ | unbind connection | disconnect connection | forget connection =>
    some connection

/-- The call is about entries of the directory. -/
def isQuery : Call → Bool
  | search _ _ | start _ _ | next _ _ => true
  | _ => false

/-- The connection on which a query has lost the server. -/
def loses? : (call : Call) → call.Answer → Option Connection
  | search connection _, .error error | start connection _, .error error
  | next connection _, .error error => if error.isUnavailable then some connection else none
  | _, _ => none

end Call

namespace Session

variable {session : Session} {link : Link}

theorem link_eq_some_iff :
    session.link = some link ↔ session.state = .connected ∧ session.held = some link := by
  simp [Session.link]

/-- A connection that may be used is one that is held. -/
theorem held_of_link (linked : session.link = some link) : session.held = some link :=
  (link_eq_some_iff.mp linked).2

theorem link_of_bare (bare : session.held = none) : session.link = none := by
  simp [Session.link, bare]

theorem isConnected_eq (session : Session) : session.isConnected = session.link.isSome := by
  unfold isConnected Session.link held
  by_cases connected : session.state = .connected <;> simp [connected]

theorem connection_of_held (held : session.held = some link) :
    session.connection = some link.connection := by
  obtain ⟨connection, kept, rfl⟩ := Option.map_eq_some_iff.mp held
  exact kept

theorem connection_eq_none_iff : session.connection = none ↔ session.held = none :=
  Option.map_eq_none_iff.symm

theorem isSome_held : session.held.isSome = session.connection.isSome :=
  Option.isSome_map

@[simp] theorem held_new : ({} : Session).held = none := rfl

@[simp] theorem link_new : ({} : Session).link = none := rfl

section Changes

variable (session : Session)

@[simp] theorem adopt_held (loaded : Loaded) : (session.adopt loaded).held = session.held := rfl

@[simp] theorem adopt_link (loaded : Loaded) : (session.adopt loaded).link = session.link := by
  cases stood : session.state <;> simp [Session.link, adopt, held, stood]

@[simp] theorem hold_held (link : Link) : (session.hold link).held = some link := rfl

@[simp] theorem hold_link (link : Link) : (session.hold link).link = some link := rfl

@[simp] theorem dropLink_held : session.dropLink.held = none := rfl

@[simp] theorem dropLink_link : session.dropLink.link = none := link_of_bare rfl

@[simp] theorem advance_held : session.advance.held = session.held := rfl

@[simp] theorem advance_link : session.advance.link = session.link := rfl

@[simp] theorem learn_held (name uid : String) : (session.learn name uid).held = session.held := rfl

@[simp] theorem learn_link (name uid : String) : (session.learn name uid).link = session.link := rfl

@[simp] theorem clearFork_held : session.clearFork.held = session.held := rfl

@[simp] theorem clearFork_link : session.clearFork.link = session.link := rfl

@[simp] theorem touch_held (now : Nat) : (session.touch now).held =
    session.held.map fun link => { link with lastActivity := some now } := by
  cases kept : session.connection <;> simp [held, touch, kept]

@[simp] theorem touch_link (now : Nat) : (session.touch now).link =
    session.link.map fun link => { link with lastActivity := some now } := by
  have stood : (session.touch now).state = session.state := rfl
  unfold Session.link
  rw [stood, touch_held]
  split <;> rfl

end Changes

end Session

variable {σ : Type}

namespace Engine

section Sequences

variable {ε α β : Type} (world : World σ)

@[simp] theorem run_pure (a : α) : (pure a : Engine σ α) world = some (a, world) := rfl

@[simp] theorem run_bind (m : Engine σ α) (f : α → Engine σ β) :
    (m >>= f) world = (m world).bind fun out => f out.1 out.2 := by
  cases ended : m world <;> simp [bind, StateT.bind, ended]

@[simp] theorem run_map (f : α → β) (m : Engine σ α) :
    (f <$> m) world = (m world).map fun out => (f out.1, out.2) := by
  cases ended : m world <;> simp [Functor.map, StateT.map, ended]

@[simp] theorem run_session : session world = some (world.session, world) := rfl

@[simp] theorem run_observe (look : σ → α) :
    observe look world = some (look world.outside, world) := rfl

@[simp] theorem run_update (change : Session → Session) :
    update change world = some ((), { world with session := change world.session }) := rfl

@[simp] theorem run_noteVisit (visit : Visit) :
    noteVisit visit world = some ((), { world with visits := visit :: world.visits }) := rfl

@[simp] theorem run_action_pure (a : α) :
    (pure a : Fallible ε σ α).run world = some (.ok a, world) := rfl

@[simp] theorem run_throw (error : ε) :
    (throw error : Fallible ε σ α).run world = some (.error error, world) := rfl

@[simp] theorem run_action_bind (m : Fallible ε σ α) (f : α → Fallible ε σ β) :
    (m >>= f).run world = (m.run world).bind fun out => match out.1 with
      | .ok a => (f a).run out.2
      | .error error => some (.error error, out.2) := by
  rw [ExceptT.run_bind, run_bind]
  congr
  funext out
  cases out.1 <;> rfl

@[simp] theorem run_lift (m : Engine σ α) :
    (lift m : Fallible ε σ α).run world = (m world).map fun out => (.ok out.1, out.2) := by
  cases ended : m world <;>
    simp [lift, ExceptT.lift, ExceptT.run, ExceptT.mk, Functor.map, StateT.map, bind, ended]

@[simp] theorem mapError_ok {δ : Type} (f : ε → δ) (a : α) :
    (Except.ok a).mapError f = .ok a := rfl

@[simp] theorem mapError_error {δ : Type} (f : ε → δ) (error : ε) :
    (.error error : Except ε α).mapError f = .error (f error) := rfl

@[simp] theorem run_attempt (m : Action σ α) :
    (attempt m).run world = (m.run world).map fun out => (out.1.mapError .error, out.2) :=
  run_map world (Except.mapError Failure.error) m.run

/-- What is attempted succeeds as it would otherwise. -/
theorem run_attempt_eq_ok_iff {m : Action σ α} {a : α} {later : World σ} :
    (attempt m).run world = some (.ok a, later) ↔ m.run world = some (.ok a, later) := by
  rw [run_attempt]
  rcases ran : m.run world with _ | ⟨_ | _, _⟩ <;> simp

@[simp] theorem run_risk (m : Brittle σ α) :
    (risk m).run world = (m.run world).map fun out => (out.1.mapError .panic, out.2) :=
  run_map world (Except.mapError Failure.panic) m.run

@[simp] theorem run_except (result : Except Error α) :
    (liftM result : Action σ α).run world = some (result, world) := by
  cases result <;> rfl

@[simp] theorem run_mk (m : Engine σ (Except ε α)) : (ExceptT.mk m).run world = m world := rfl

@[simp] theorem run_action_modifyGet (f : World σ → α × World σ) :
    (modifyGet f : Action σ α).run world = some (.ok (f world).1, (f world).2) := rfl

@[simp] theorem run_action_ite {c : Prop} [Decidable c] (m n : Fallible ε σ α) :
    (if c then m else n).run world = if c then m.run world else n.run world := by
  split <;> rfl

@[simp] theorem run_config : (config : Action σ Config).run world = match world.session.loaded with
    | some loaded => some (.ok loaded.config, world)
    | none => some (.error (.configuration "directory session not initialized"), world) := by
  cases found : world.session.loaded <;> simp [config, found]

@[simp] theorem run_connection : (connection : Action σ Connection).run world =
    match world.session.link with
    | some link => some (.ok link.connection, world)
    | none => some (.error (.unavailable "no directory connection"), world) := by
  cases found : world.session.link <;> simp [connection, found]

end Sequences

end Engine

variable [Service σ]

namespace World

/-- The answer that the world has for a call. -/
def answer (world : World σ) (call : Call) : call.Answer := (Service.answer call world.outside).1

/-- The world after it has answered a call. -/
def after (world : World σ) (call : Call) : World σ :=
  { world with
    outside := (Service.answer call world.outside).2
    history := ⟨call, world.answer call, world.stand, world.look⟩ :: world.history }

/-- The world after it has made a connection. -/
def connected (world : World σ) (options : ConnectOptions) : World σ :=
  { world.after (.connect options) with connections := world.connections + 1 }

@[simp] theorem after_session (world : World σ) (call : Call) :
    (world.after call).session = world.session := rfl

@[simp] theorem after_connections (world : World σ) (call : Call) :
    (world.after call).connections = world.connections := rfl

@[simp] theorem after_look (world : World σ) (call : Call) :
    (world.after call).look = world.look := rfl

@[simp] theorem connected_session (world : World σ) (options : ConnectOptions) :
    (world.connected options).session = world.session := rfl

@[simp] theorem connected_connections (world : World σ) (options : ConnectOptions) :
    (world.connected options).connections = world.connections + 1 := rfl

@[simp] theorem connected_look (world : World σ) (options : ConnectOptions) :
    (world.connected options).look = world.look := rfl

/-- The world after the session has parted with the connection it held. -/
def drop (world : World σ) (part : Connection → Call) : World σ :=
  match world.session.held with
  | some link => { world.after (part link.connection) with session := world.session.dropLink }
  | none => { world with session := world.session.dropLink }

/-- The world after the session has given up a connection of another process. -/
def released (world : World σ) : World σ :=
  let dropped := world.drop .disconnect
  { dropped with session := dropped.session.clearFork }

/-- The connection that was made last. -/
def newest (world : World σ) : Connection := ⟨world.connections⟩

def user (world : World σ) : Nat := Service.effectiveUser world.outside

/-- Says on the connection that was made last who is calling. -/
def greeting (world : World σ) (config : Config) : Call :=
  .bind world.newest (config.credentialsFor world.user).bindName
    (config.credentialsFor world.user).bindPassword

/-- The world after the server has refused the caller, and has got its connection back. -/
def rejected (world : World σ) (config : Config) : World σ :=
  (world.after (world.greeting config)).after (.unbind world.newest)

/-- The world after the server has accepted the caller. -/
def welcomed (world : World σ) (config : Config) : World σ :=
  let later := world.after (world.greeting config)
  { later with
    session := world.session.hold (.ofConnection world.newest world.user later.outside) }

end World

namespace Engine

variable (world : World σ)

@[simp] theorem run_perform (call : Call) :
    perform call world = some (world.answer call, world.after call) := rfl

@[simp] theorem run_noteLook :
    noteLook world = some ((), { world with look := some world.stand }) := rfl

@[simp] theorem run_touch :
    touch world =
      some ((), { world with session := world.session.touch (Service.clock world.outside) }) := rfl

@[simp] theorem run_close : close world = some ((), world.drop .unbind) := by
  cases held : world.session.connection <;>
    simp [close, World.drop, Session.held, World.after, held]

@[simp] theorem run_disconnect : disconnect world = some ((), world.drop .disconnect) := by
  cases held : world.session.connection <;>
    simp [disconnect, World.drop, Session.held, World.after, held]

@[simp] theorem run_forget : forget world = some ((), world.drop .forget) := by
  cases held : world.session.connection <;>
    simp [forget, World.drop, Session.held, World.after, held]

end Engine

namespace Session

open Engine

variable {world : World σ}

theorem run_load : (load : Action σ Unit).run world =
    match world.answer .load with
    | .error error => some (.error error, world.after .load)
    | .ok config =>
      if config.uris.isEmpty then
        some (.error (.configuration "no directory URIs configured"), world.after .load)
      else some (.ok (), { world.after .load with
        session := world.session.adopt ⟨config, Service.modified world.outside⟩ }) := by
  cases answered : world.answer .load with
  | error error => simp [load, answered]
  | ok config => by_cases empty : config.uris = [] <;> simp [load, answered, empty]

theorem run_dropUnfit_bare (bare : world.session.held = none) :
    dropUnfit world = some ((), world) := by
  simp [dropUnfit, bare]

theorem run_dropUnfit {link : Link} (held : world.session.held = some link) :
    dropUnfit world = some ((),
      if link.isStolen world.outside ∨ Service.isClosed link.connection world.outside then
        world.drop .forget
      else if world.session.isInherited link world.outside ∨ link.isForOther world.outside then
        world.drop .disconnect
      else world) := by
  simp only [dropUnfit, run_bind, run_session, run_observe, Option.bind_some, held,
    Bool.or_eq_true, id_eq]
  split
  · simp
  · split <;> simp

theorem run_closeIdle_free (free : world.session.link = none) :
    closeIdle world = some ((), world) := by
  simp [closeIdle, free]

theorem run_closeIdle {link : Link} (held : world.session.link = some link) :
    closeIdle world = some ((),
      if link.isIdle world.session.idleLimit world.outside then world.drop .unbind else world) := by
  simp only [closeIdle, run_bind, run_session, run_observe, Option.bind_some, held, id_eq]
  split <;> simp

theorem run_releaseInherited_bare (bare : world.session.held = none) :
    releaseInherited world = some (false, world) := by
  simp [releaseInherited, bare]

theorem run_releaseInherited {link : Link} (held : world.session.held = some link) :
    releaseInherited world = some (if world.session.isInherited link world.outside then
      (true, world.released) else (false, world)) := by
  simp only [releaseInherited, run_bind, run_session, run_observe, Option.bind_some, held, id_eq]
  split <;> simp [World.released]

theorem run_connect (options : ConnectOptions) : (connect options).run world =
    match world.answer (.connect options) with
    | .error error => some (.error error, world.after (.connect options))
    | .ok () => some (.ok (world.connected options).newest, world.connected options) := by
  cases opened : world.answer (.connect options) with
  | error error => simp [connect, opened]
  | ok _ =>
    simp only [connect, run_action_bind, run_mk, run_perform, run_action_modifyGet, opened]
    rfl

theorem run_establish_held (held : world.session.link.isSome) :
    (establish : Action σ Unit).run world = some (.ok (), world) := by
  simp [establish, isConnected_eq, held]

/-- The ways in which an attempt to connect can end. -/
theorem run_establish {loaded : Loaded} (free : world.session.link = none)
    (configured : world.session.loaded = some loaded) :
    (establish : Action σ Unit).run world =
      match loaded.config.uris[world.session.endpoint]? with
      | none => some (.error (.configuration
          ("no endpoint " ++ toString world.session.endpoint)), world)
      | some uri =>
        let options := ConnectOptions.ofConfig loaded.config uri
        let made := world.connected options
        match world.answer (.connect options) with
        | .error error => some (.error error, world.after (.connect options))
        | .ok () =>
          match made.answer (made.greeting loaded.config) with
          | .error error => some (.error error, made.rejected loaded.config)
          | .ok () => some (.ok (), made.welcomed loaded.config) := by
  cases found : loaded.config.uris[world.session.endpoint]? with
  | none => simp [establish, isConnected_eq, free, configured, found]
  | some uri =>
    let options := ConnectOptions.ofConfig loaded.config uri
    cases opened : world.answer (.connect options) with
    | error error =>
      simp only [options] at opened
      simp [establish, isConnected_eq, free, configured, found, run_connect, opened]
    | ok _ =>
      cases bound : (world.connected options).answer
          ((world.connected options).greeting loaded.config)
      all_goals
        simp only [options] at opened bound
        -- The statement speaks of `made`, and the unfolded program of what it is made of.
        have told := bound
        simp only [World.greeting, World.user] at told
        simp only [bound]
        simp [establish, isConnected_eq, free, configured, found, run_connect, opened, told]
        rfl

end Session

end NameService
