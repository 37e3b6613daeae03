import NameService.Proofs.Directory.Inheritance
import NameService.Proofs.Membership.Deeds

/-!
What becomes of connections. Whatever the host does, a session has at most one connection in hand;
every other one it ever came to was given up once, and has been left alone since.

## Main results

- `Request.serve_deeds`: a request is a row of deeds.
- `Run.upheld`: what no deed and no mark of a fork can end is true after every run.
- `Ledger.deed`: the ledger of connections is one of those things.
-/

namespace NameService

/-- The world as a request finds it. -/
def World.fresh {σ : Type} (world : World σ) : World σ := { world with history := [], look := none }

@[simp] theorem World.fresh_session {σ : Type} (world : World σ) :
    world.fresh.session = world.session := rfl

namespace Directory

open Engine World

section Runs

variable {σ : Type} [Service σ]

theorem Request.serve_endures {holds : World σ → Prop} (enduring : World.Enduring holds)
    (request : Request) (contexts : Contexts) :
    Upholds holds (request.serve contexts : Engine σ Contexts) := by
  cases request with
  | lookup question parser arena =>
    have looks := (Lookup.one_lasts (enduring.asks question) parser arena).upholds
    exact (looks.bind fun _ => .pure _).bind fun _ => .pure _
  | start context question =>
    have starts := enduring.starts (contexts context) question
    exact (starts.bind fun _ => .pure _).bind fun _ => .pure _
  | next context parser arena patience =>
    have goesOn := Enumeration.next_endures enduring parser patience (contexts context) arena
    exact (goesOn.bind fun _ => .pure _).bind fun _ => .pure _
  | stop context => exact (enduring.stops (contexts context)).bind fun _ => .pure _
  | expand seed policy patience =>
    have expands : Upholds holds (Directory.expand patience seed policy : Brittle σ _).run := by
      have expands := Membership.expand_endures enduring patience seed policy
      refine expands.lift.action_bind fun result => ?_
      rcases result with (error | panic) | walk <;> exact .pure _
    exact expands.bind fun _ => .pure _
  | config =>
    exact Upholds.bind (enduring.ready.upholds.action_bind fun _ => .config) fun _ => .pure _
  | close => exact enduring.closes.bind fun _ => .pure _

theorem Request.serve_upholds {holds : World σ → Prop} (upheld : World.Upheld holds)
    (request : Request) (contexts : Contexts) :
    Upholds holds (request.serve contexts : Engine σ Contexts) :=
  serve_endures upheld.enduring request contexts

/-- A request is a row of deeds, whatever the host does in the middle of it. -/
theorem Request.serve_deeds {world : World σ} (coherent : world.Coherent) (request : Request)
    (contexts : Contexts) :
    Ends world (request.serve contexts : Engine σ Contexts) fun _ later => Deeds world later := by
  have start : Deeds world world ∧ world.Coherent := ⟨.refl, coherent⟩
  exact (serve_upholds (Deeds.upheld world) request contexts world start).mono
    fun _ _ reached => reached.1

variable {holds : List Happening → Session → Nat → Prop}

/-- What no deed and no mark of a fork can end is true after every run. -/
theorem Run.upheld (begin : holds [] {} 0)
    (deed : ∀ {world later : World σ} (past : List Happening), Deed world later →
      holds (traced world past) world.session world.connections →
      holds (traced later past) later.session later.connections)
    (coherent : ∀ {trace : List Happening} {session : Session} {connections : Nat},
      holds trace session connections → session.held.isSome → session.loaded.isSome)
    (fork : ∀ {trace : List Happening} {session : Session} {connections : Nat},
      holds trace session connections →
      holds (.forked session :: trace) session.markForked connections)
    {allowed : Request → Prop} {trace : List Happening} {world : World σ} {contexts : Contexts}
    (run : Run allowed trace world contexts) : holds trace world.session world.connections := by
  induction run with
  | begin outside => exact begin
  | change outside run kept => exact kept
  | @ask past world later contexts contexts' request run asked served kept =>
    have known : world.fresh.Coherent := coherent kept
    have deeds := Request.serve_deeds known request contexts contexts' later served
    -- A request begins with an empty history, so that the trace until now is its past.
    have began : holds (traced world.fresh past) world.session world.connections := kept
    exact deeds.keeps (fun step => deed past step) began
  | @fork past world later contexts run told kept =>
    obtain rfl : { world with session := world.session.markForked } = later := by
      simpa [resetAfterFork] using told
    exact fork kept

end Runs

def Opened (trace : List Happening) (connection : Connection) : Prop :=
  ∃ process, OpenedBy trace connection process

/-- Nothing is done to a connection that was given up. -/
def LeavesAlone (entry : Happening) (past : List Happening) : Prop :=
  ∀ connection, concerned? entry = some connection → ¬ Released past connection

/-- How often a connection was given up. -/
def releases (trace : List Happening) (connection : Connection) : Nat :=
  trace.countP fun entry => released? entry = some connection

theorem releases_eq_zero_iff {trace : List Happening} {connection : Connection} :
    releases trace connection = 0 ↔ ¬ Released trace connection := by
  simp [releases, Released, List.countP_eq_zero]

/-- What is left alone once it is given up is given up once. -/
theorem releases_eq_one {trace : List Happening} (alone : Always LeavesAlone trace)
    {connection : Connection} (released : Released trace connection) :
    releases trace connection = 1 := by
  induction trace with
  | nil => simp [Released] at released
  | cons entry past ih =>
    obtain ⟨leaves, alone⟩ := alone
    by_cases here : released? entry = some connection
    · -- The connection is given up by the latest entry, so it was not before.
      have before := leaves connection (concerned_of_released here)
      have none : releases past connection = 0 := releases_eq_zero_iff.mpr before
      simpa [releases, here] using none
    · have before : Released past connection := by simpa [here] using released
      simpa [releases, here] using ih alone before

/-- What has become of the connections in a trace. At most one of them is in hand. -/
structure Ledger (trace : List Happening) (hand : Option Connection) (connections : Nat) :
    Prop where
  alone : Always LeavesAlone trace
  numbered : ∀ entry ∈ trace, ∀ connection, concerned? entry = some connection →
    connection.number ≤ connections
  inHand : ∀ connection, hand = some connection →
    Opened trace connection ∧ ¬ Released trace connection
  settled : ∀ connection, Opened trace connection →
    Released trace connection ∨ hand = some connection

namespace Ledger

variable {trace : List Happening} {hand : Option Connection} {connections : Nat}
  {entry : Happening} {connection : Connection}

theorem opened_cons : Opened (entry :: trace) connection ↔
    (∃ process, opening? entry = some (connection, process)) ∨ Opened trace connection := by
  simp [Opened, exists_or]

theorem begin : Ledger [] none 0 where
  alone := trivial
  numbered := by simp
  inHand := nofun
  settled := by simp [Opened, OpenedBy]

/-- Nothing is known of a connection before it is made. -/
theorem fresh (ledger : Ledger trace hand connections) (new : connections < connection.number) :
    ¬ Released trace connection ∧ ¬ Opened trace connection := by
  constructor
  · rintro ⟨entry, member, released⟩
    have := ledger.numbered entry member _ (concerned_of_released released)
    omega
  · rintro ⟨process, entry, member, opening⟩
    have := ledger.numbered entry member _ (concerned_of_opening opening)
    omega

theorem number_le (ledger : Ledger trace (some connection) connections) :
    connection.number ≤ connections := by
  obtain ⟨⟨process, entry, member, opening⟩, -⟩ := ledger.inHand connection rfl
  exact ledger.numbered entry member _ (concerned_of_opening opening)

theorem numbered_cons (ledger : Ledger trace hand connections) {limit : Nat}
    (grown : connections ≤ limit)
    (known : ∀ connection, concerned? entry = some connection → connection.number ≤ limit) :
    ∀ entry' ∈ entry :: trace, ∀ connection, concerned? entry' = some connection →
      connection.number ≤ limit := by
  intro entry' member connection concerned
  rcases List.mem_cons.mp member with rfl | member
  · exact known connection concerned
  · exact Nat.le_trans (ledger.numbered entry' member connection concerned) grown

/-- What is about no connection changes nothing. -/
theorem around (ledger : Ledger trace hand connections) (idle : concerned? entry = none) :
    Ledger (entry :: trace) hand connections := by
  have released (connection : Connection) : released? entry ≠ some connection := by
    intro released
    rw [concerned_of_released released] at idle
    cases idle
  have opening (connection : Connection) (process : Nat) :
      opening? entry ≠ some (connection, process) := by
    intro opening
    rw [concerned_of_opening opening] at idle
    cases idle
  refine ⟨⟨by simp [LeavesAlone, idle], ledger.alone⟩, ?_, ?_, ?_⟩
  · exact ledger.numbered_cons (Nat.le_refl _) (by simp [idle])
  · intro connection held
    simpa [opened_cons, opening, released] using ledger.inHand connection held
  · intro connection opened
    have before : Opened trace connection := by simpa [opened_cons, opening] using opened
    simpa [released] using ledger.settled connection before

/-- A connection is made, and no other is in hand. -/
theorem opened (ledger : Ledger trace none connections) {process : Nat}
    (opening : opening? entry = some (⟨connections + 1⟩, process)) :
    Ledger (entry :: trace) (some ⟨connections + 1⟩) (connections + 1) := by
  have concerned := concerned_of_opening opening
  obtain ⟨unreleased, -⟩ := ledger.fresh (Nat.lt_succ_self connections)
  -- What makes a connection is not what gives one up.
  have kept (connection : Connection) : released? entry ≠ some connection := by
    unfold opening? at opening
    split at opening
    · exact nofun
    · cases opening
  refine ⟨⟨?_, ledger.alone⟩, ?_, ?_, ?_⟩
  · intro connection concerned'
    obtain rfl := Option.some.inj (concerned.symm.trans concerned')
    exact unreleased
  · refine ledger.numbered_cons (Nat.le_succ _) fun connection concerned' => ?_
    obtain rfl := Option.some.inj (concerned.symm.trans concerned')
    exact Nat.le_refl _
  · rintro connection ⟨⟩
    exact ⟨opened_cons.mpr (Or.inl ⟨process, opening⟩), by simp [kept, unreleased]⟩
  · intro connection opened
    rcases opened_cons.mp opened with ⟨other, same⟩ | before
    · -- The one that is made now is the one in hand.
      obtain ⟨rfl, -⟩ := Prod.mk.inj (Option.some.inj (opening.symm.trans same))
      exact Or.inr rfl
    · rcases ledger.settled connection before with released | held
      · exact Or.inl (released_cons.mpr (Or.inr released))
      · cases held

section InHand

variable (ledger : Ledger trace (some connection) connections)
  (concerned : concerned? entry = some connection)
include ledger concerned

private theorem alone_cons : Always LeavesAlone (entry :: trace) := by
  refine ⟨fun other concerned' => ?_, ledger.alone⟩
  obtain rfl := Option.some.inj (concerned.symm.trans concerned')
  exact (ledger.inHand connection rfl).2

private theorem known : ∀ entry' ∈ entry :: trace, ∀ other, concerned? entry' = some other →
    other.number ≤ connections := by
  refine ledger.numbered_cons (Nat.le_refl _) fun other concerned' => ?_
  obtain rfl := Option.some.inj (concerned.symm.trans concerned')
  exact ledger.number_le

variable (silent : opening? entry = none)
include silent

/-- What is done to the connection in hand leaves it there. -/
theorem told (kept : released? entry = none) :
    Ledger (entry :: trace) (some connection) connections := by
  refine ⟨ledger.alone_cons concerned, ledger.known concerned, ?_, ?_⟩
  · rintro other ⟨⟩
    simpa [opened_cons, silent, kept] using ledger.inHand connection rfl
  · intro other opened
    have before : Opened trace other := by simpa [opened_cons, silent] using opened
    simpa [kept] using ledger.settled other before

/-- When the connection in hand is given up, none is left. -/
theorem parted (released : released? entry = some connection) :
    Ledger (entry :: trace) none connections := by
  refine ⟨ledger.alone_cons concerned, ledger.known concerned, nofun, ?_⟩
  intro other opened
  have before : Opened trace other := by simpa [opened_cons, silent] using opened
  -- All but the one in hand were given up before, and that one is given up now.
  refine Or.inl (released_cons.mpr ?_)
  rcases ledger.settled other before with earlier | held
  · exact Or.inr earlier
  · obtain rfl := Option.some.inj held
    exact Or.inl released

end InHand

section Deeds

variable {σ : Type} [Service σ] {world later : World σ} {past : List Happening}

private theorem drop
    (ledger : Ledger (traced world past) world.session.connection world.connections)
    {part : Connection → Call}
    (target : ∀ connection, (part connection).connection? = some connection)
    (released : ∀ connection, released? (happening world (part connection)) = some connection) :
    Ledger (traced (world.drop part) past) (world.drop part).session.connection
      (world.drop part).connections := by
  rw [drop_session, drop_connections]
  cases held : world.session.held with
  | none =>
    rw [Session.connection_eq_none_iff.mpr held] at ledger
    rw [traced_drop_bare world past held]
    exact ledger
  | some link =>
    rw [Session.connection_of_held held] at ledger
    rw [traced_drop world past held]
    exact ledger.parted (concerned_of_target world (target _))
      (opening_of_target world (target _)) (released _)

/-- A connection is made, and the server is told on it who is calling. -/
private theorem greeted
    (ledger : Ledger (traced world past) world.session.connection world.connections)
    (bare : world.session.connection = none) {options : ConnectOptions}
    (answered : world.answer (.connect options) = .ok ()) (config : Config) :
    let made := world.connected options
    Ledger (traced (made.after (made.greeting config)) past) (some made.newest)
      made.connections := by
  intro made
  rw [bare] at ledger
  have opened : Ledger (traced made past) (some made.newest) made.connections :=
    ledger.opened (Guarded.opening_connect answered)
  refine opened.told (concerned_of_target made rfl) (opening_of_target made rfl) ?_
  rfl

/-- Every deed leaves the ledger in order, where all that is held may be used. -/
theorem deed (step : Deed world later) (bound : world.session.link = none →
      world.session.connection = none)
    (ledger : Ledger (traced world past) world.session.connection world.connections) :
    Ledger (traced later past) later.session.connection later.connections := by
  cases step with
  | read => exact ledger.around rfl
  | adopt bare answered some modified => exact ledger.around rfl
  | look => exact ledger
  | unbind => exact ledger.drop (fun _ => rfl) fun _ => rfl
  | disconnect => exact ledger.drop (fun _ => rfl) fun _ => rfl
  | forget => exact ledger.drop (fun _ => rfl) fun _ => rfl
  | clear => exact ledger
  | query held query target =>
    have connection := Session.connection_of_held (Session.held_of_link held)
    rw [connection] at ledger
    rw [after_session, connection]
    exact ledger.told (concerned_of_target world target) (opening_of_target world target)
      (released_of_query world query)
  | @abandon link held id =>
    have connection := Session.connection_of_held (Session.held_of_link held)
    rw [connection] at ledger
    rw [after_session, connection]
    have target : (Call.abandon link.connection id).connection? = some link.connection := rfl
    exact ledger.told (concerned_of_target world target) (opening_of_target world target) rfl
  | refused answered =>
    exact ledger.around (by simp [answered, concerned?, opening?, Call.connection?])
  | @rejected free options answered config error refused =>
    -- The connection is given back to the server, and is in hand no more.
    let made := world.connected options
    let told := made.after (made.greeting config)
    have greeted := ledger.greeted (bound free) answered config
    have target : (Call.unbind made.newest).connection? = some made.newest := rfl
    have parted := greeted.parted (concerned_of_target told target) (opening_of_target told target)
      rfl
    rw [← bound free] at parted
    exact parted
  | welcomed free configured answered accepted => exact ledger.greeted (bound free) answered _
  | sleep => exact ledger.around rfl
  | touch => exact ledger
  | advance => exact ledger
  | visit => exact ledger
  | learn => exact ledger

end Deeds

end Ledger

end Directory

end NameService
