import NameService.Proofs.Engine.Runs

/-!
What makes a session fit to use the connection it holds, and what keeps it so. A session is fit from
the moment when it has looked for hazards; it stays fit through the calls that follow, because a
call leaves the process what it is. That a connection suits the user and the configuration is known
as long as the host is steady.
-/

namespace NameService

namespace Service

variable (σ : Type) [Service σ]

/-- A call leaves the process what it is. -/
def KeepsProcess : Prop :=
  ∀ (call : Call) (outside : σ), processId (answer call outside).2 = processId outside

/-- A call leaves the process, its user and the source of the configuration what they are. -/
structure Steady : Prop where
  process : KeepsProcess σ
  user : ∀ (call : Call) (outside : σ),
    effectiveUser (answer call outside).2 = effectiveUser outside
  modified : ∀ (call : Call) (outside : σ), modified (answer call outside).2 = modified outside

end Service

/-- A connection passes when it is looked at: it is held by the process that made it, it is open on
    the socket that it was made on, and it has not been idle for too long. -/
def Stand.Passes (stand : Stand) (connection : Connection) : Prop :=
  ∃ link last, stand.session.link = some link ∧ link.connection = connection ∧
    stand.session.forked = false ∧ link.owner = some stand.view.processId ∧
    stand.view.isClosed connection = false ∧
    (link.socket.isSome → stand.view.socket connection = link.socket) ∧
    link.lastActivity = some last ∧
    ∀ limit, stand.session.idleLimit = some limit → stand.view.clock - last ≤ limit * 1000

/-- Sessions that differ in nothing that decides whether the connection may be used. -/
structure Session.Alike (session other : Session) : Prop where
  loaded : other.loaded = session.loaded
  forked : other.forked = session.forked
  state : other.state = session.state
  held : ∀ link', other.held = some link' → ∃ link, session.held = some link ∧
    link.connection = link'.connection ∧ link.socket = link'.socket ∧ link.owner = link'.owner ∧
    link.user = link'.user ∧ (link.lastActivity.isSome → link'.lastActivity.isSome)

@[simp] theorem Session.dropLink_loaded (session : Session) :
    session.dropLink.loaded = session.loaded := rfl

@[simp] theorem Session.dropLink_forked (session : Session) :
    session.dropLink.forked = session.forked := rfl

theorem Session.Alike.of_held {session other : Session} (loaded : other.loaded = session.loaded)
    (forked : other.forked = session.forked) (state : other.state = session.state)
    (held : other.held = session.held) : session.Alike other :=
  ⟨loaded, forked, state, fun link' held' => ⟨link', held ▸ held', rfl, rfl, rfl, rfl, id⟩⟩

theorem Session.alike_touch (session : Session) (now : Nat) :
    session.Alike (session.touch now) := by
  refine ⟨rfl, rfl, rfl, ?_⟩
  intro link' touched
  rw [touch_held] at touched
  obtain ⟨link, held, rfl⟩ := Option.map_eq_some_iff.mp touched
  exact ⟨link, held, rfl, rfl, rfl, rfl, fun _ => rfl⟩

variable {σ : Type} [Service σ]

namespace World

/-- Without a configuration there is no connection. -/
def Coherent (world : World σ) : Prop := world.session.held.isSome → world.session.loaded.isSome

/-- A connection that is held is bound, and it is known when it last did a service. -/
structure Regular (world : World σ) : Prop where
  coherent : world.Coherent
  bound : world.session.held.isSome → world.session.state = .connected
  timed : ∀ link, world.session.held = some link → link.lastActivity.isSome

/-- A connection that is held belongs to the process. -/
structure Owning (world : World σ) : Prop extends world.Regular where
  own : ∀ link, world.session.held = some link →
    world.session.isInherited link world.outside = false

/-- The session has looked for hazards, and none of them has come to the connection it holds. -/
structure Fit (world : World σ) : Prop extends world.Regular where
  configured : world.session.loaded.isSome
  unforked : world.session.forked = false
  own : ∀ link, world.session.held = some link →
    link.owner = some (Service.processId world.outside)
  looked : ∃ look, world.look = some look ∧ look.connections ≤ world.connections ∧
    ∀ link, world.session.held = some link →
      look.connections < link.connection.number ∨ look.Passes link.connection
  familiar : Service.Steady σ → ∀ link, world.session.held = some link →
    link.isForOther world.outside = false

/-- What the session holds may be used. -/
structure Ready (world : World σ) : Prop extends world.Fit where
  current : Service.Steady σ →
    world.session.loaded.bind Loaded.modified = Service.modified world.outside

end World

namespace World

variable {world : World σ}

omit [Service σ] in
/-- Of what is held, all may be used. -/
theorem Regular.link_eq (regular : world.Regular) : world.session.link = world.session.held := by
  cases held : world.session.held with
  | none => exact Session.link_of_bare held
  | some link => exact Session.link_eq_some_iff.mpr ⟨regular.bound (by simp [held]), held⟩

omit [Service σ] in
/-- It is the session that is regular. -/
theorem Regular.of_session {later : World σ} (regular : world.Regular)
    (same : later.session = world.session) : later.Regular := by
  obtain ⟨coherent, bound, timed⟩ := regular
  constructor <;> simpa only [Coherent, same]

omit [Service σ] in
theorem Regular.of_bare (bare : world.session.held = none) : world.Regular := by
  constructor <;> simp [Coherent, bare]

theorem Fit.owning (fit : world.Fit) : world.Owning where
  toRegular := fit.toRegular
  own link held := by simp [Session.isInherited, fit.unforked, fit.own link held]

@[simp] theorem drop_session (part : Connection → Call) :
    (world.drop part).session = world.session.dropLink := by
  unfold drop
  split <;> rfl

@[simp] theorem drop_connections (part : Connection → Call) :
    (world.drop part).connections = world.connections := by
  unfold drop
  split <;> rfl

@[simp] theorem drop_look (part : Connection → Call) : (world.drop part).look = world.look := by
  unfold drop
  split <;> rfl

theorem drop_regular (part : Connection → Call) : (world.drop part).Regular :=
  .of_bare (by simp)

/-- Without a connection there is little to be fit. -/
theorem fit_of_bare {look : Stand} (bare : world.session.held = none)
    (configured : world.session.loaded.isSome) (unforked : world.session.forked = false)
    (looked : world.look = some look) (before : look.connections ≤ world.connections) :
    world.Fit where
  toRegular := .of_bare bare
  configured := configured
  unforked := unforked
  own := by simp [bare]
  looked := ⟨look, looked, before, by simp [bare]⟩
  familiar := by simp [bare]

theorem Fit.drop (fit : world.Fit) (part : Connection → Call) : (world.drop part).Fit := by
  obtain ⟨look, looked, before, -⟩ := fit.looked
  refine fit_of_bare ?_ ?_ ?_ ((drop_look part).trans looked) (by simpa using before)
  · simp
  · simpa using fit.configured
  · simpa using fit.unforked

section Calls

variable (keeps : Service.KeepsProcess σ)
include keeps

theorem Owning.after (owning : world.Owning) (call : Call) : (world.after call).Owning where
  toRegular := owning.toRegular.of_session rfl
  own link held := by
    have own := owning.own link held
    simpa [Session.isInherited, World.after, keeps call world.outside] using own

theorem Ready.after (ready : world.Ready) (call : Call) : (world.after call).Ready where
  toRegular := ready.toRegular.of_session rfl
  configured := ready.configured
  unforked := ready.unforked
  own link held := by
    rw [World.after, keeps call world.outside]
    exact ready.own link held
  looked := ready.looked
  familiar steady link held := by
    simp only [Link.isForOther, World.after, steady.user call world.outside]
    exact ready.familiar steady link held
  current steady := by
    rw [World.after, steady.modified call world.outside]
    exact ready.current steady

theorem Ready.connected (ready : world.Ready) (options : ConnectOptions) :
    (world.connected options).Ready := by
  obtain ⟨⟨regular, configured, unforked, own, looked, familiar⟩, current⟩ :=
    ready.after keeps (.connect options)
  obtain ⟨look, looked, before, passed⟩ := looked
  exact ⟨⟨regular.of_session rfl, configured, unforked, own,
    ⟨look, looked, Nat.le_succ_of_le before, passed⟩, familiar⟩, current⟩

/-- A connection that was made after the look needs no look. -/
theorem Ready.welcomed (ready : world.Ready) (options : ConnectOptions) (config : Config) :
    ((world.connected options).welcomed config).Ready := by
  let made := world.connected options
  have later := (ready.connected keeps options).after keeps (made.greeting config)
  obtain ⟨look, looked, before, -⟩ := ready.looked
  -- The number of the new connection is above all that the look has counted.
  have regular : ((world.connected options).welcomed config).Regular := by
    refine ⟨fun _ => later.configured, fun _ => rfl, ?_⟩
    rintro link ⟨⟩
    rfl
  refine ⟨⟨regular, later.configured, later.unforked, ?_,
    ⟨look, looked, Nat.le_succ_of_le before, ?_⟩, ?_⟩, later.current⟩
  · rintro link ⟨⟩
    rfl
  · rintro link ⟨⟩
    exact Or.inl (Nat.lt_succ_of_le before)
  · rintro steady link ⟨⟩
    -- The user was asked for before the bind, and a steady host keeps it.
    have same : Service.effectiveUser (made.after (made.greeting config)).outside = made.user :=
      steady.user _ _
    simp [Link.isForOther, Link.ofConnection, World.welcomed, Session.hold, made, same]

end Calls

omit [Service σ] in
theorem Regular.tend (regular : world.Regular) {session : Session}
    (alike : world.session.Alike session) : Regular { world with session := session } where
  coherent holds := by
    obtain ⟨link', held'⟩ := Option.isSome_iff_exists.mp holds
    obtain ⟨link, held, -⟩ := alike.held link' held'
    rw [alike.loaded]
    exact regular.coherent (by simp [held])
  bound holds := by
    obtain ⟨link', held'⟩ := Option.isSome_iff_exists.mp holds
    obtain ⟨link, held, -⟩ := alike.held link' held'
    rw [alike.state]
    exact regular.bound (by simp [held])
  timed link' held' := by
    obtain ⟨link, held, -, -, -, -, timed⟩ := alike.held link' held'
    exact timed (regular.timed link held)

theorem Ready.tend (ready : world.Ready) {session : Session} (alike : world.session.Alike session) :
    Ready { world with session := session } where
  toRegular := ready.toRegular.tend alike
  configured := by
    rw [alike.loaded]
    exact ready.configured
  unforked := alike.forked.trans ready.unforked
  own link' held' := by
    obtain ⟨link, held, -, -, owner, -⟩ := alike.held link' held'
    rw [← owner]
    exact ready.own link held
  looked := by
    obtain ⟨look, looked, before, passed⟩ := ready.looked
    refine ⟨look, looked, before, ?_⟩
    intro link' held'
    obtain ⟨link, held, connection, -⟩ := alike.held link' held'
    rw [← connection]
    exact passed link held
  familiar steady link' held' := by
    obtain ⟨link, held, -, -, -, user, -⟩ := alike.held link' held'
    rw [Link.isForOther, ← user]
    exact ready.familiar steady link held
  current steady := by
    rw [alike.loaded]
    exact ready.current steady

theorem Ready.drop (ready : world.Ready) (part : Connection → Call) : (world.drop part).Ready where
  toFit := ready.toFit.drop part
  current steady := by
    have current := ready.current steady
    unfold World.drop
    split
    · next link _ =>
      rw [← steady.modified (part link.connection) world.outside] at current
      exact current
    · exact current

end World

end NameService
