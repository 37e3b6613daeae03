import NameService.Proofs.Directory.Trace
import NameService.Proofs.Engine.Host
import NameService.Proofs.Enumeration.Values

/-!
Queries and the connections they go to. A connection goes bad while nobody looks, and a session
looks for that in one place only; so every path to a query has to lead through it.

## Main result

`run_queries_healthy`: in every run, a query goes out on a connection that was made or has passed
after the last look for hazards, and that is bound for who is calling now, under the configuration
of now.
-/

namespace NameService.Directory

open World

/-- How a connection was made, by whom and for whom. -/
structure Introduced (trace : List Happening) (connection : Connection) (loaded : Loaded)
    (owner : Nat) (credentials : Credentials) : Prop where
  opened : ∃ uri stand look,
    .called ⟨.connect (.ofConfig loaded.config uri), .ok (), stand, look⟩ ∈ trace ∧
      connection.number = stand.connections + 1 ∧ stand.session.loaded = some loaded ∧
      stand.view.processId = owner
  bound : ∃ stand look,
    .called ⟨.bind connection credentials.bindName credentials.bindPassword, .ok (), stand, look⟩ ∈
        trace ∧
      stand.session.loaded = some loaded ∧ stand.view.processId = owner

/-- A connection that a query may go to. -/
structure Healthy (event : Event) (connection : Connection) (past : List Happening) : Prop where
  /-- It was made after the last look for hazards in the same request, or it passed then. -/
  looked : ∃ look, event.look = some look ∧
    (look.connections < connection.number ∨ look.Passes connection)
  /-- It was made under the configuration in use, which is up to date, and it was bound for the user
      who is calling. -/
  introduced : ∃ loaded, event.stand.session.loaded = some loaded ∧
    loaded.modified = event.stand.view.modified ∧
    Introduced past connection loaded event.stand.view.processId
      (loaded.config.credentialsFor event.stand.view.effectiveUser)

def QueriesHealthy : Happening → List Happening → Prop
  | .called event, past => event.call.isQuery →
    ∃ connection, event.call.connection? = some connection ∧ Healthy event connection past
  | .forked _, _ => True

theorem Introduced.cons {trace : List Happening} {connection : Connection} {loaded : Loaded}
    {owner : Nat} {credentials : Credentials} (entry : Happening)
    (introduced : Introduced trace connection loaded owner credentials) :
    Introduced (entry :: trace) connection loaded owner credentials := by
  obtain ⟨⟨uri, stand, look, member, rest⟩, ⟨stand', look', member', rest'⟩⟩ := introduced
  exact ⟨⟨uri, stand, look, .tail _ member, rest⟩, ⟨stand', look', .tail _ member', rest'⟩⟩

/-- What a session holds was introduced under its configuration. -/
structure Acquainted (trace : List Happening) (session : Session) : Prop where
  healthy : Always QueriesHealthy trace
  introduced : ∀ link, session.held = some link → ∃ loaded owner user,
    session.loaded = some loaded ∧ link.owner = some owner ∧ link.user = some user ∧
      Introduced trace link.connection loaded owner (loaded.config.credentialsFor user)

variable {σ : Type} [Service σ]

/-- The superuser is the only user that has credentials of its own. -/
theorem credentialsFor_eq {link : Link} {user : Nat} {outside : σ} (bound : link.user = some user)
    (familiar : link.isForOther outside = false) (config : Config) :
    config.credentialsFor user = config.credentialsFor (Service.effectiveUser outside) := by
  -- Either the user has not changed, or neither of the two is the superuser.
  have same : user = 0 ↔ Service.effectiveUser outside = 0 := by
    simp only [Link.isForOther, bound, Option.any_some, Bool.and_eq_false_iff,
      bne_eq_false_iff_eq, Bool.or_eq_false_iff, beq_eq_false_iff_ne] at familiar
    rcases familiar with same | ⟨neither, nor⟩
    · rw [same]
    · exact iff_of_false neither nor
  simp [Config.credentialsFor, same]

namespace Acquainted

variable {world : World σ} {past : List Happening}

theorem of_bare {trace : List Happening} {session : Session}
    (healthy : Always QueriesHealthy trace) (bare : session.held = none) :
    Acquainted trace session :=
  ⟨healthy, by simp [bare]⟩

theorem cons {trace : List Happening} {session : Session} (acquainted : Acquainted trace session)
    {entry : Happening} (healthy : QueriesHealthy entry trace) :
    Acquainted (entry :: trace) session := by
  refine ⟨⟨healthy, acquainted.healthy⟩, ?_⟩
  intro link held
  obtain ⟨loaded, owner, user, configured, owned, bound, introduced⟩ :=
    acquainted.introduced link held
  exact ⟨loaded, owner, user, configured, owned, bound, introduced.cons entry⟩

theorem after (acquainted : Acquainted (traced world past) world.session) (call : Call)
    (quiet : call.isQuery = false) :
    Acquainted (traced (world.after call) past) (world.after call).session :=
  acquainted.cons (by simp [QueriesHealthy, quiet])

theorem connected (acquainted : Acquainted (traced world past) world.session)
    (options : ConnectOptions) :
    Acquainted (traced (world.connected options) past) (world.connected options).session :=
  acquainted.after (.connect options) rfl

theorem drop (acquainted : Acquainted (traced world past) world.session)
    {part : Connection → Call} (quiet : ∀ connection, (part connection).isQuery = false) :
    Acquainted (traced (world.drop part) past) (world.drop part).session := by
  refine of_bare ?_ (by simp)
  cases held : world.session.held with
  | none =>
    rw [traced_drop_bare world past held]
    exact acquainted.healthy
  | some link =>
    rw [traced_drop world past held]
    exact (acquainted.after _ (quiet link.connection)).healthy

theorem tend {trace : List Happening} {session other : Session}
    (acquainted : Acquainted trace session) (alike : session.Alike other) :
    Acquainted trace other := by
  refine ⟨acquainted.healthy, ?_⟩
  intro link' held'
  obtain ⟨link, held, connection, -, owner, user, -⟩ := alike.held link' held'
  rw [alike.loaded, ← connection, ← owner, ← user]
  exact acquainted.introduced link held

/-- A query of a session that is ready is a healthy one. -/
theorem query (steady : Service.Steady σ)
    (acquainted : Acquainted (traced world past) world.session) (ready : world.Ready) {link : Link}
    (held : world.session.held = some link) {call : Call}
    (target : call.connection? = some link.connection) :
    Acquainted (traced (world.after call) past) (world.after call).session := by
  obtain ⟨loaded, owner, user, configured, owned, bound, introduced⟩ :=
    acquainted.introduced link held
  obtain ⟨look, looked, -, passed⟩ := ready.looked
  have current : loaded.modified = Service.modified world.outside := by
    simpa [configured] using ready.current steady
  -- The connection was introduced for its owner and its user. They are the ones of now.
  obtain rfl : Service.processId world.outside = owner :=
    Option.some.inj ((ready.own link held).symm.trans owned)
  rw [credentialsFor_eq bound (ready.familiar steady link held)] at introduced
  refine acquainted.cons fun _ => ⟨link.connection, target, ?_⟩
  exact ⟨⟨look, looked, passed link held⟩, ⟨loaded, configured, current, introduced⟩⟩

theorem welcomed (steady : Service.Steady σ)
    (acquainted : Acquainted (traced world past) world.session) {loaded : Loaded} {uri : String}
    (configured : world.session.loaded = some loaded)
    (answered : world.answer (.connect (.ofConfig loaded.config uri)) = .ok ())
    (accepted : (world.connected (.ofConfig loaded.config uri)).answer
      ((world.connected (.ofConfig loaded.config uri)).greeting loaded.config) = .ok ()) :
    Acquainted
      (traced ((world.connected (.ofConfig loaded.config uri)).welcomed loaded.config) past)
      ((world.connected (.ofConfig loaded.config uri)).welcomed loaded.config).session := by
  let made := world.connected (.ofConfig loaded.config uri)
  have opened : Acquainted (traced made past) made.session := acquainted.connected _
  have bound : Always QueriesHealthy (traced (made.welcomed loaded.config) past) :=
    (opened.after (made.greeting loaded.config) rfl).healthy
  refine ⟨bound, ?_⟩
  rintro link ⟨⟩
  have connects : happening world (.connect (.ofConfig loaded.config uri)) =
      .called ⟨.connect (.ofConfig loaded.config uri), .ok (), world.stand, world.look⟩ := by
    rw [happening, answered]
  have greets : happening made (made.greeting loaded.config) =
      .called ⟨made.greeting loaded.config, .ok (), made.stand, made.look⟩ := by
    rw [happening, accepted]
  have owner : Service.processId (made.after (made.greeting loaded.config)).outside =
      Service.processId made.outside := steady.process _ _
  have before : Service.processId made.outside = Service.processId world.outside :=
    steady.process _ _
  -- The link is the connection made in `world`, and bound in the world after that.
  refine ⟨loaded, _, _, configured, rfl, rfl,
    ⟨uri, world.stand, world.look, ?_, rfl, configured, ?_⟩,
    ⟨made.stand, made.look, ?_, configured, owner.symm⟩⟩
  · rw [traced_welcomed, traced_connected, connects]
    exact .tail _ (.head _)
  · exact (owner.trans before).symm
  · rw [traced_welcomed, greets]
    exact .head _

theorem move (steady : Service.Steady σ) {later : World σ} (move : Move world later)
    (acquainted : Acquainted (traced world past) world.session) :
    Acquainted (traced later past) later.session := by
  cases move with
  | read => exact acquainted.after _ rfl
  | adopt bare => exact of_bare acquainted.healthy (by simpa using bare)
  | look | visit => exact acquainted
  | forget => exact acquainted.drop fun _ => rfl
  | disconnect => exact acquainted.drop fun _ => rfl
  | clear => exact ⟨acquainted.healthy, acquainted.introduced⟩
  | unbind => exact acquainted.drop fun _ => rfl
  | abandon => exact acquainted.after _ rfl
  -- The one move that has to show something of the call it makes.
  | query ready held query target =>
    exact acquainted.query steady ready (Session.held_of_link held) target
  | refused => exact acquainted.after _ rfl
  | rejected => exact ((acquainted.connected _).after _ rfl).after _ rfl
  -- The one move that has to introduce a connection.
  | welcomed _ configured answered accepted =>
    exact acquainted.welcomed steady configured answered accepted
  | sleep => exact acquainted.after _ rfl
  | tend alike => exact acquainted.tend alike

end Acquainted

/-- Queries only ever go out on a connection that is healthy and bound for who is calling. -/
theorem run_queries_healthy (steady : Service.Steady σ) {allowed : Request → Prop}
    {trace : List Happening} {world : World σ} {contexts : Contexts}
    (run : Run allowed trace world contexts) : Always QueriesHealthy trace := by
  refine (run.invariant steady.process (fun trace session _ => Acquainted trace session)
    (Acquainted.of_bare trivial rfl) ?_ ?_ ?_).2.healthy
  · exact fun past step acquainted => acquainted.move steady step
  · exact fun _ world past acquainted => acquainted.drop fun _ => rfl
  · intro trace session connections acquainted
    have told : Acquainted (.forked session :: trace) session := acquainted.cons trivial
    exact ⟨told.healthy, told.introduced⟩

/-- The connection of a query. -/
def queried? : Happening → Option Connection
  | .called event => if event.call.isQuery then event.call.connection? else none
  | .forked _ => none

/-- The process forks while an answer is being received, and later the user changes. -/
def changes : List (Step Small.Outside) :=
  [.ask (.start 0 Small.users), .ask (.next 0 (.ofValues "uid") (.fresh 0 16) 8),
    .change fun host => { host with process := 2 },
    .ask (.next 0 (.ofValues "uid") (.fresh 0 16) 8),
    .ask (.lookup Small.users (.ofValues "uid") (.fresh 0 16)),
    .change fun host => { host with user := 1000 }, .ask (.start 0 Small.users), .ask .close]

theorem run_queries_healthy_small :
    ∃ (trace : List Happening) (world : World Small.Outside) (contexts : Contexts),
      Service.Steady Small.Outside ∧ Run (fun _ => True) trace world contexts ∧
      trace.filterMap queried? = [⟨3⟩, ⟨2⟩, ⟨1⟩, ⟨1⟩, ⟨1⟩] ∧ Always QueriesHealthy trace := by
  have ran : (replay changes [] { outside := {} } fun _ => {}).map (·.1.filterMap queried?) =
      some [⟨3⟩, ⟨2⟩, ⟨1⟩, ⟨1⟩, ⟨1⟩] := by decide +kernel
  obtain ⟨⟨trace, world, contexts⟩, replayed, queries⟩ := Option.map_eq_some_iff.mp ran
  have begun : Run (fun _ => True) [] ({ outside := {} } : World Small.Outside) fun _ => {} :=
    .begin _
  have run := begun.of_replay (fun _ _ => trivial) replayed
  exact ⟨trace, world, contexts, Host.still.steady, run, queries,
    run_queries_healthy Host.still.steady run⟩

end NameService.Directory
