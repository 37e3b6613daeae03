import NameService.Proofs.Engine.Host
import NameService.Proofs.Enumeration.Stage
import NameService.Proofs.Session.Success

/-!
Questions to a directory that has one answer to every search, whoever asks and when. What comes of a
question there is a function of the question.

## Main results

- `Lookup.run_entries`: the entries of an answer, from any session.
- `Lookup.run_start`: an answer that comes message by message is started on a calm session.
-/

namespace NameService

open Engine

/-- A host on which no call fails that has to do with connections and no hazard comes, with fixed
    contents: `find` has the answer to each search, and no server is lost by one. -/
structure Service.Supplies (σ : Type) [Service σ] (config : Config)
    (find : Search → Except Error (List Entry)) : Prop extends Opens σ config, Placid σ config where
  finds : ∀ (connection : Connection) (search : Search) (outside : σ),
    (Service.answer (.search connection search) outside).1 = find search
  settled : ∀ (search : Search) (error : Error), find search = .error error →
    error.isUnavailable = false
  starts : ∀ (connection : Connection) (search : Search) (outside : σ),
    ∃ id, (Service.answer (.start connection search) outside).1 = .ok id

namespace Lookup

/-- The answer of the first of some parts of the tree that has one. -/
def answerIn (find : Search → Except Error (List Entry)) (lookup : Lookup) (config : Config) :
    List Target → Except Error (List Entry)
  | [] => .ok []
  | target :: targets => do
    let search ← lookup.search config target
    match find search with
    | .ok [] => answerIn find lookup config targets
    | .ok entries => .ok entries
    | .error error =>
      if error.status = .notFound then answerIn find lookup config targets else .error error

/-- A question that can be put to a part is answered there, or in the parts after it. -/
theorem answerIn_asked {find : Search → Except Error (List Entry)} {lookup : Lookup}
    {config : Config} {target : Target} {targets : List Target} {search : Search}
    (searches : lookup.search config target = .ok search) :
    lookup.answerIn find config (target :: targets) =
      match find search with
      | .ok [] => lookup.answerIn find config targets
      | .ok entries => .ok entries
      | .error error =>
        if error.status = .notFound then lookup.answerIn find config targets else .error error := by
  simp only [answerIn, searches]
  rfl

theorem answerIn_refused {find : Search → Except Error (List Entry)} {lookup : Lookup}
    {config : Config} {target : Target} {targets : List Target} {error : Error}
    (refused : lookup.search config target = .error error) :
    lookup.answerIn find config (target :: targets) = .error error := by
  simp only [answerIn, refused]
  rfl

/-- The answer to a question. -/
def answer (find : Search → Except Error (List Entry)) (lookup : Lookup) (config : Config) :
    Except Error (List Entry) :=
  lookup.answerIn find config (lookup.targets config)

end Lookup

variable {σ : Type} [Service σ] {config : Config} {find : Search → Except Error (List Entry)}

namespace Lookup

/-- Each search that the question may be made of is answered with what `find` has for it. -/
def Asks (σ : Type) [Service σ] (lookup : Lookup) (config : Config)
    (find : Search → Except Error (List Entry)) : Prop :=
  ∀ target ∈ lookup.targets config, ∀ search, lookup.search config target = .ok search →
    ∀ (connection : Connection) (outside : σ),
      (Service.answer (.search connection search) outside).1 = find search

theorem run_searchTargets (lookup : Lookup) {link : Link} (targets : List Target)
    (asks : ∀ target ∈ targets, ∀ search, lookup.search config target = .ok search →
      ∀ (connection : Connection) (outside : σ),
        (Service.answer (.search connection search) outside).1 = find search)
    {world : World σ} (held : world.session.link = some link) :
    ∃ later, (lookup.searchTargets config targets : Action σ (List Entry)).run world =
      some (lookup.answerIn find config targets, later) := by
  induction targets generalizing world with
  | nil => exact ⟨world, rfl⟩
  | cons target targets ih =>
    cases searched : lookup.search config target with
    | error error =>
      rw [answerIn_refused searched]
      exact ⟨world, by simp [searchTargets, searched]⟩
    | ok search =>
      have answered : world.answer (.search link.connection search) = find search :=
        asks target List.mem_cons_self search searched _ _
      have kept : (world.after (.search link.connection search)).session.link = some link := held
      obtain ⟨later, rest⟩ := ih (fun other there => asks other (List.mem_cons_of_mem _ there)) kept
      rw [answerIn_asked searched]
      simp only [searchTargets, searched, run_action_bind, run_except, run_connection, held,
        run_lift, run_perform, Option.bind_some, Option.map_some, answered]
      -- A part without entries leaves the question to the parts after it.
      rcases find search with error | (_ | ⟨entry, entries⟩)
      · dsimp only
        split
        · exact ⟨later, rest⟩
        · exact ⟨_, rfl⟩
      · exact ⟨later, rest⟩
      · exact ⟨_, rfl⟩

/-- A question that is put on a connection has its answer. -/
theorem run_searchOnce_of_asks {lookup : Lookup} (asks : lookup.Asks σ config find)
    {world : World σ} {loaded : Loaded} {link : Link}
    (configured : world.session.loaded = some loaded) (same : loaded.config = config)
    (held : world.session.link = some link) :
    ∃ later, (lookup.searchOnce : Action σ (List Entry)).run world =
      some (lookup.answer find config, later) := by
  obtain ⟨later, ran⟩ := run_searchTargets lookup (lookup.targets config) asks held
  exact ⟨later, by simp [searchOnce, configured, same, ran, answer]⟩

/-- The entries of an answer, whatever becomes of the connection meanwhile. -/
theorem run_entries_of_asks (opens : Service.Opens σ config) {lookup : Lookup}
    (asks : lookup.Asks σ config find) {entries : List Entry}
    (answered : lookup.answer find config = .ok entries) {world : World σ}
    (suits : world.session.Suits config) :
    ∃ later, (lookup.entries : Action σ (List Entry)).run world = some (.ok entries, later) ∧
      later.session.Suits config := by
  have serves : Failover.Serves config (lookup.searchOnce : Action σ (List Entry))
      (.ok entries) := by
    intro world loaded link configured same held
    exact answered ▸ run_searchOnce_of_asks asks configured same held
  obtain ⟨later, ran⟩ := Failover.run_of_serves opens serves suits
  have lasts := Failover.run_lasts (Session.suits_lasting opens).world
    (lookup.searchOnce_lasts fun _ _ _ kept => kept)
  exact ⟨later, ran, lasts.ends suits _ later ran⟩

end Lookup

/-- A session at a server, with nothing to fear. -/
structure World.Served (config : Config) (world : World σ) : Prop where
  calm : world.Calm
  configured : ∃ loaded, world.session.loaded = some loaded ∧ loaded.config = config
  held : ∃ link, world.session.link = some link

namespace Failover

variable {α : Type} {operation : Action σ α}

/-- After a value the time is noted. -/
def noted : Except Error α → World σ → World σ
  | .ok _, ended => ended.touched
  | .error _, ended => ended

/-- What settles an operation at the first server settles it. -/
theorem run_of_settled {world begun served ended : World σ} {loaded : Loaded}
    {result : Except Error α}
    (ready : (Session.ensureReady : Action σ Unit).run world = some (.ok (), begun))
    (configured : begun.session.loaded = some loaded)
    (established : (Session.establish : Action σ Unit).run begun = some (.ok (), served))
    (ran : operation.run served = some (result, ended)) (settled : unsettled result = false) :
    (run operation).run world = some (result, noted result ended) := by
  obtain ⟨servers, attempts, outcome⟩ := run_eq_trial operation ready configured
  have tried : (trial operation).run begun = some (result, ended) := by
    simp [trial, established, ran]
  rw [outcome, tried]
  cases result with
  | ok value => rfl
  | error error =>
    have settled : error.isUnavailable = false := settled
    simp [settle, settled, noted]

/-- A session that has a connection uses it. -/
theorem run_of_held {world ended : World σ} (served : world.Served config)
    {result : Except Error α} (ran : operation.run world.looked = some (result, ended))
    (settled : unsettled result = false) :
    (run operation).run world = some (result, noted result ended) := by
  obtain ⟨loaded, configured, -⟩ := served.configured
  obtain ⟨link, held⟩ := served.held
  have ready := Session.run_ensureReady_calm served.calm (by simp [configured])
  have connected : world.looked.session.link.isSome := by simp [World.looked, held]
  exact run_of_settled ready configured (Session.run_establish_held connected) ran settled

theorem served_looked {world : World σ} (served : world.Served config) :
    world.looked.Served config :=
  ⟨served.calm.looked, served.configured, served.held⟩

end Failover

section Supplied

variable (supplies : Service.Supplies σ config find)
include supplies

/-- Every session comes to a server. -/
theorem Session.ready_served {world : World σ} (suits : world.session.Suits config) :
    ∃ begun loaded served, (ensureReady : Action σ Unit).run world = some (.ok (), begun) ∧
      begun.session.loaded = some loaded ∧ loaded.config = config ∧ begun.session.Suits config ∧
      (establish : Action σ Unit).run begun = some (.ok (), served) ∧ served.Served config := by
  obtain ⟨begun, loaded, ready, configured, same, suits'⟩ :=
    ensureReady_suits supplies.toOpens suits
  have calm := ensureReady_calms supplies.toOpens supplies.toPlacid.toSteady world _ begun ready
  obtain ⟨served, established, calm', held, kept⟩ :=
    establish_calm supplies.toOpens supplies.toPlacid calm suits' configured
  exact ⟨begun, loaded, served, ready, configured, same, suits', established, calm',
    ⟨loaded, kept, same⟩, Option.isSome_iff_exists.mp held⟩

namespace Lookup

theorem answerIn_settled (lookup : Lookup) : ∀ targets : List Target,
    Failover.unsettled (lookup.answerIn find config targets) = false
  | [] => rfl
  | target :: targets => by
    cases searched : lookup.search config target with
    | error error =>
      rw [answerIn_refused searched]
      exact isUnavailable_of_search searched
    | ok search =>
      rw [answerIn_asked searched]
      split
      · exact answerIn_settled lookup targets
      · rfl
      · next error refused =>
        split
        · exact answerIn_settled lookup targets
        · exact supplies.settled search error refused

theorem run_searchOnce (lookup : Lookup) {world : World σ} (served : world.Served config) :
    ∃ later, (lookup.searchOnce : Action σ (List Entry)).run world =
      some (lookup.answer find config, later) := by
  obtain ⟨loaded, configured, same⟩ := served.configured
  obtain ⟨link, held⟩ := served.held
  have asks : lookup.Asks σ config find := fun _ _ _ _ _ _ => supplies.finds _ _ _
  exact run_searchOnce_of_asks asks configured same held

/-- The entries of an answer are what the directory has, from any session. -/
theorem run_entries (lookup : Lookup) {world : World σ} (suits : world.session.Suits config) :
    ∃ later, (lookup.entries : Action σ (List Entry)).run world =
      some (lookup.answer find config, later) := by
  obtain ⟨begun, loaded, served, ready, configured, -, -, established, served'⟩ :=
    Session.ready_served supplies suits
  obtain ⟨ended, ran⟩ := run_searchOnce supplies lookup served'
  exact ⟨_, Failover.run_of_settled ready configured established ran
    (answerIn_settled supplies lookup _)⟩

theorem run_entries_held (lookup : Lookup) {world : World σ} (served : world.Served config) :
    ∃ later, (lookup.entries : Action σ (List Entry)).run world =
      some (lookup.answer find config, later) := by
  obtain ⟨ended, ran⟩ := run_searchOnce supplies lookup (Failover.served_looked served)
  exact ⟨_, Failover.run_of_held served ran (answerIn_settled supplies lookup _)⟩

/-- No server is lost by a question. -/
theorem entries_unlost (lookup : Lookup) (count : Nat) :
    Lasts (fun world : World σ => world.losses = count)
      (lookup.entries : Action σ (List Entry)).run := by
  refine Failover.run_lasts (World.losses_lasting count) (lookup.searchOnce_lasts ?_)
  rintro world connection search same
  refine (World.losses_after_of_spared ?_).trans same
  have answered : world.answer (.search connection search) = find search := supplies.finds _ _ _
  rw [answered]
  cases found : find search with
  | ok entries => rfl
  | error error => exact supplies.settled search error found

/-- An answer that comes message by message is started, and no hazard comes meanwhile. -/
theorem run_start (lookup : Lookup) {search : Search}
    (searches : lookup.search? config 0 = .ok (some search)) {world : World σ}
    (suits : world.session.Suits config) :
    ∃ id later, (lookup.start 0 : Action σ (Option MessageId)).run world =
      some (.ok (some id), later) ∧ later.Served config := by
  obtain ⟨begun, loaded, served, ready, configured, -, -, established, served'⟩ :=
    Session.ready_served supplies suits
  obtain ⟨loaded', configured', rfl⟩ := served'.configured
  obtain ⟨link, held⟩ := served'.held
  have ran := Enumeration.run_startPage configured' held searches []
  obtain ⟨id, accepted⟩ :=
    supplies.starts link.connection { search with page := loaded'.config.page? [] } served.outside
  have told : served.answer
    (.start link.connection { search with page := loaded'.config.page? [] }) = .ok id := accepted
  simp only [told] at ran
  have calm := supplies.toPlacid.calm_after served'.calm (by simp [configured'])
    (.start link.connection { search with page := loaded'.config.page? [] })
  refine ⟨id, _, Failover.run_of_settled ready configured established ran rfl, calm.touched,
    ⟨loaded', configured', rfl⟩, ?_⟩
  simp [Failover.noted, World.touched, held]

end Lookup

end Supplied

/-- A host on which nothing goes wrong gives what it has. -/
theorem Host.supplies {reply : Search → Reply} (located : config.uris ≠ []) :
    Service.Supplies (Host config reply) config
      fun search => .ok (reply search).messages.reduceOption where
  toOpens := ⟨located, fun _ => rfl, fun _ _ => rfl, fun _ _ _ _ => rfl⟩
  toSteady := still.steady
  socket _ _ _ := rfl
  opened _ _ := rfl
  timely := .inr fun call outside => congrArg View.clock (still call outside)
  finds _ _ _ := rfl
  settled _ _ := nofun
  starts _ _ outside := ⟨⟨outside.started⟩, rfl⟩

end NameService
