import NameService.Proofs.Directory.Chronicle
import NameService.Proofs.Directory.Parting
import NameService.Proofs.Enumeration.Faults
import NameService.Proofs.Failover.Mending

/-!
What becomes of a connection when its server is lost. A query that ends in such an error is the last
one on its connection, because leave is taken of the server before anything else is done. One query
is left out: when an enumeration has come to the end of a page, or of a part of the tree, it starts
the search for what follows. If that loses the server the enumeration is over, but the connection
stays in hand, and the next query goes out on it again.

## Main result

`Chronicle.lost_severed_iff`: a connection is given up by the request that has lost its server, and
is left alone from then on, exactly if it was not lost in going on with an enumeration.
-/

namespace NameService

open Engine World

def Event.loses? (event : Event) : Option Connection := event.call.loses? event.answer

/-- A search is started when the messages of another have come to their end. -/
def Event.goesOn (event : Event) (past : List Event) : Bool :=
  match event.call, past.head?.map Event.call with
  | .start _ _, some (.next _ _) => true
  | _, _ => false

/-- The server of a connection was lost, but not in going on with an enumeration. -/
def Lost (connection : Connection) : List Event → Prop
  | [] => False
  | event :: past => event.loses? = some connection ∧ event.goesOn past = false ∨
      Lost connection past

/-- Leave was taken of every server that was lost, as soon as it was. -/
inductive Heeded : List Event → Prop
  | nil : Heeded []
  | other {event : Event} {past : List Event}
    (spared : ∀ connection, event.loses? = some connection → event.goesOn past = true)
    (heeded : Heeded past) : Heeded (event :: past)
  | parted {event loss : Event} {past : List Event} {connection : Connection}
    (lost : loss.loses? = some connection) (left : event.call = .unbind connection)
    (heeded : Heeded past) : Heeded (event :: loss :: past)

theorem lost_of_loses {newer past : List Event} {event : Event} {connection : Connection}
    (lost : event.loses? = some connection) (other : event.goesOn past = false) :
    Lost connection (newer ++ event :: past) := by
  induction newer with
  | nil => exact .inl ⟨lost, other⟩
  | cons first newer ih => exact .inr ih

/-- No server was lost in going on with an enumeration. -/
def Unbroken : List Event → Prop
  | [] => True
  | event :: past =>
    (∀ connection, event.loses? = some connection → event.goesOn past = false) ∧ Unbroken past

theorem Unbroken.of_append {newer past : List Event} {event : Event}
    (unbroken : Unbroken (newer ++ event :: past)) {connection : Connection}
    (lost : event.loses? = some connection) : event.goesOn past = false := by
  induction newer with
  | nil => exact unbroken.1 connection lost
  | cons first newer ih => exact ih unbroken.2

theorem Call.query_of_loses {call : Call} {answer : call.Answer} {connection : Connection}
    (lost : call.loses? answer = some connection) :
    call.isQuery ∧ call.connection? = some connection := by
  unfold loses? at lost
  split at lost
  all_goals first | cases lost | skip
  all_goals
    split at lost
    · exact ⟨rfl, lost⟩
    · cases lost

theorem Event.loses_of_quiet (event : Event) (quiet : event.call.isQuery = false) :
    event.loses? = none := by
  cases lost : event.loses? with
  | none => rfl
  | some connection =>
    have query := (Call.query_of_loses lost).1
    simp [quiet] at query

/-- A query takes no leave, so what was heeded was heeded before it. -/
theorem Heeded.of_query {newer past : List Event} {event : Event}
    (heeded : Heeded (newer ++ event :: past)) (query : event.call.isQuery) : Heeded past := by
  generalize same : newer ++ event :: past = history at heeded
  induction heeded generalizing newer with
  | nil => simp at same
  | other spared heeded ih =>
    cases newer with
    | nil =>
      obtain ⟨rfl, rfl⟩ := List.cons.inj same
      exact heeded
    | cons first newer => exact ih (List.cons.inj same).2
  | parted lost left heeded ih =>
    match newer, same with
    | [], same =>
      obtain ⟨rfl, -⟩ := List.cons.inj same
      simp [left, Call.isQuery] at query
    | [first], same =>
      obtain ⟨-, rfl⟩ := List.cons.inj (List.cons.inj same).2
      exact heeded
    | first :: second :: newer, same => exact ih (List.cons.inj (List.cons.inj same).2).2

theorem Heeded.left {history : List Event} (heeded : Heeded history) {connection : Connection}
    (lost : Lost connection history) : ∃ event ∈ history, event.call = .unbind connection := by
  induction heeded with
  | nil => exact lost.elim
  | other spared heeded ih =>
    rcases lost with ⟨here, broke⟩ | before
    · simp [spared _ here] at broke
    · obtain ⟨event, member, left⟩ := ih before
      exact ⟨event, List.mem_cons_of_mem _ member, left⟩
  | @parted event loss past other gone left heeded ih =>
    rcases lost with ⟨here, -⟩ | ⟨here, -⟩ | before
    · simp [Event.loses_of_quiet event (by rw [left]; rfl)] at here
    · obtain rfl : other = connection := Option.some.inj (gone.symm.trans here)
      exact ⟨event, List.mem_cons_self, left⟩
    · obtain ⟨event, member, left⟩ := ih before
      exact ⟨event, List.mem_cons_of_mem _ (List.mem_cons_of_mem _ member), left⟩

variable {σ : Type} [Service σ] {world : World σ} {unbroken : Prop}

/-- The server of the connection in hand was lost just now. -/
def JustLost (world : World σ) : Prop :=
  ∃ event past connection, world.history = event :: past ∧ event.loses? = some connection ∧
    Heeded past ∧ world.session.connection = some connection

/-- Every server that was lost has been left. If an enumeration never lost one in going on, it has
    not since. -/
structure Severed (unbroken : Prop) (world : World σ) : Prop where
  heeded : Heeded world.history
  unbroken : unbroken → Unbroken world.history

/-- An enumeration has just lost its server in going on, and the connection is still in hand. -/
structure Broken (unbroken : Prop) (world : World σ) : Prop where
  heeded : Heeded world.history
  held : ∃ event past connection, world.history = event :: past ∧
    event.loses? = some connection ∧ (unbroken → Unbroken past) ∧
    world.session.connection = some connection

namespace Severed

theorem after (severed : Severed unbroken world) {call : Call}
    (spared : call.loses? (world.answer call) = none) : Severed unbroken (world.after call) := by
  have none (connection : Connection) : Event.loses? ⟨call, world.answer call, world.stand,
      world.look⟩ ≠ some connection := by simp [Event.loses?, spared]
  exact ⟨.other (fun connection lost => absurd lost (none connection)) severed.heeded,
    fun whole => ⟨fun connection lost => absurd lost (none connection), severed.unbroken whole⟩⟩

theorem quiet (severed : Severed unbroken world) (call : Call) (quiet : call.isQuery = false) :
    Severed unbroken (world.after call) :=
  severed.after (Event.loses_of_quiet ⟨call, world.answer call, world.stand, world.look⟩ quiet)

theorem lasting (unbroken : Prop) : World.Lasting (Severed (σ := σ) unbroken) where
  after _ call quiet severed := severed.quiet call quiet
  made _ _ severed := ⟨severed.heeded, severed.unbroken⟩
  hold _ _ severed := ⟨severed.heeded, severed.unbroken⟩
  look _ _ severed := ⟨severed.heeded, severed.unbroken⟩
  dropLink _ severed := ⟨severed.heeded, severed.unbroken⟩
  clearFork _ severed := ⟨severed.heeded, severed.unbroken⟩
  touch _ _ severed := ⟨severed.heeded, severed.unbroken⟩
  advance _ severed := ⟨severed.heeded, severed.unbroken⟩
  adopt _ _ _ _ severed := ⟨(severed.quiet .load rfl).heeded, (severed.quiet .load rfl).unbroken⟩

/-- A server that was lost while a message was awaited from it has been left. -/
theorem closed {link : Link} {id : MessageId} (severed : Severed unbroken world)
    (held : world.session.link = some link)
    (loses : Call.loses? (.next link.connection id) (world.answer (.next link.connection id)) =
      some link.connection) :
    Severed unbroken ((world.after (.next link.connection id)).drop .unbind) := by
  have told : (world.after (.next link.connection id)).session.held = some link :=
    Session.held_of_link held
  have quiet (event : Event) (called : event.call = .unbind link.connection)
      (connection : Connection) (lost : event.loses? = some connection) : False := by
    simp [Event.loses_of_quiet event (by rw [called]; rfl)] at lost
  constructor
  · rw [drop_history told]
    exact .parted loses rfl severed.heeded
  · intro whole
    rw [drop_history told]
    exact ⟨fun connection lost => (quiet _ rfl connection lost).elim, fun _ _ => rfl,
      severed.unbroken whole⟩

end Severed

/-- Every server that was lost has been left. -/
abbrev Heeding (world : World σ) : Prop := Severed False world

omit [Service σ] in
theorem heeding_of {world : World σ} (heeded : Heeded world.history) : Heeding world :=
  ⟨heeded, False.elim⟩

theorem heeding_mending : World.Mending (σ := σ) Heeding JustLost where
  toLasting := Severed.lasting False
  mended world := by
    rintro ⟨event, past, connection, since, lost, heeded, hand⟩
    obtain ⟨link, held, rfl⟩ : ∃ link, world.session.held = some link ∧
        link.connection = connection := by
      simp [Session.held, hand]
    refine heeding_of ?_
    rw [drop_history held, since]
    exact .parted lost rfl heeded

/-- A query that fails has lost the server, or nothing has changed. -/
theorem owed_of_query {α : Type} {after : α → World σ → Prop} {link : Link} {call : Call}
    {error : Error} (heeding : Heeding world) (held : world.session.link = some link)
    (loses : call.loses? (world.answer call) =
      if error.isUnavailable then some link.connection else none) :
    Owed Heeding JustLost after (.error error) (world.after call) := by
  by_cases lost : error.isUnavailable
  · rw [if_pos lost] at loses
    have hand := Session.connection_of_held (Session.held_of_link held)
    exact .inr ⟨lost, _, _, _, rfl, loses, heeding.heeded, hand⟩
  · rw [if_neg lost] at loses
    exact .inl (heeding.after loses)

/-- That nothing matches is an answer, also when it is told as an error. -/
theorem spared_of_missing {connection : Connection} {search : Search} {error : Error}
    (answered : world.answer (.search connection search) = .error error)
    (missing : error.status = .notFound) :
    Call.loses? (.search connection search) (world.answer (.search connection search)) = none := by
  rw [answered]
  simp [Call.loses?, Error.isUnavailable, missing]

namespace Lookup

theorem searchTargets_owes (lookup : Lookup) (config : Config) (targets : List Target) :
    Owes Heeding JustLost (lookup.searchTargets config targets : Action σ (List Entry))
      fun _ later => Heeding later := by
  induction targets with
  | nil => exact fun world heeding => .pure heeding
  | cons target targets ih =>
    rw [searchTargets]
    intro world heeding
    cases asked : lookup.search config target with
    | error error => exact .of_run rfl (.inl heeding)
    | ok search =>
      refine .action_bind_run rfl
        (connection_owes (fun world link heeding held => ?_) world heeding)
      let call := Call.search link.connection search
      have sent : (lift (perform call) : Action σ _).run world =
          some (.ok (world.answer call), world.after call) := by
        simp
      refine .action_bind_run sent ?_
      cases answered : world.answer call with
      | ok entries =>
        have heeding : Heeding (world.after call) := heeding.after (by rw [answered]; rfl)
        cases entries with
        | nil => exact ih _ heeding
        | cons entry entries => exact .pure heeding
      | error error =>
        -- A server that has no such entry is not lost, and the next target is tried.
        by_cases missing : error.status = .notFound
        · simp only [missing, if_true]
          exact ih _ (heeding.after (spared_of_missing answered missing))
        · simp only [missing, if_false]
          exact .of_run (run_throw _ error) (owed_of_query heeding held (by rw [answered]; rfl))

theorem searchOnce_owes (lookup : Lookup) :
    Owes Heeding JustLost (lookup.searchOnce : Action σ (List Entry))
      fun _ later => Heeding later :=
  config_owes fun config => lookup.searchTargets_owes config _

end Lookup

theorem Entry.readOnce_owes (name : String) (attributes : List String) :
    Owes Heeding JustLost (readOnce name attributes : Action σ (Option Entry))
      fun _ later => Heeding later := by
  refine config_owes fun config => connection_owes fun world link heeding held => ?_
  let call := Call.search link.connection (.read name attributes config.timeLimit)
  have sent : (lift (perform call) : Action σ _).run world =
      some (.ok (world.answer call), world.after call) := by
    simp
  refine .action_bind_run sent ?_
  cases answered : world.answer call with
  | ok entries => exact .pure (heeding.after (by rw [answered]; rfl))
  | error error =>
    by_cases missing : error.status = .notFound
    · simp only [missing, if_true]
      exact .pure (heeding.after (spared_of_missing answered missing))
    · simp only [missing, if_false]
      exact .of_run (run_throw _ error) (owed_of_query heeding held (by rw [answered]; rfl))

theorem Lookup.startPage_owes (lookup : Lookup) (index : Nat) (cookie : List UInt8) :
    Owes Heeding JustLost (lookup.startPage index cookie : Action σ (Option MessageId))
      fun _ later => Heeding later := by
  refine fun world heeding => (lookup.startPage_ends index cookie world).mono ?_
  rintro result later (⟨rfl, -⟩ | ⟨link, search, held, rfl, rfl⟩)
  · cases result with
    | ok id => exact heeding
    | error error => exact .inl heeding
  · cases answered : world.answer (.start link.connection search) with
    | ok id => exact heeding.after (by rw [answered]; rfl)
    | error error => exact owed_of_query heeding held (by rw [answered]; rfl)

namespace Enumeration

/-- An enumeration goes on right after the last message. -/
theorem startNext_severs (severed : Severed unbroken world)
    (received : ∃ event past connection id, world.history = event :: past ∧
      event.call = .next connection id) (e : Enumeration) :
    Ends world e.startNext fun out later => Severed unbroken later ∨
      Broken unbroken later ∧ ∃ error, out.1 = .error error := by
  unfold startNext
  split
  · exact .pure (.inl severed)
  · next lookup _ =>
    refine (lookup.startPage_ends e.index e.cookie world).bind fun result later ended => ?_
    rcases ended with ⟨rfl, -⟩ | ⟨link, search, held, rfl, rfl⟩
    · cases result <;> exact .pure (.inl severed)
    · cases answered : world.answer (.start link.connection search) with
      | ok id => exact .pure (.inl (severed.after (by rw [answered]; rfl)))
      | error error =>
        by_cases lost : error.isUnavailable
        · -- The search for the next page follows a received message, and that is how such a loss is
          -- told from any other.
          obtain ⟨last, past, connection, id, since, receives⟩ := received
          let event : Event := ⟨.start link.connection search,
            world.answer (.start link.connection search), world.stand, world.look⟩
          have loses : event.loses? = some link.connection := by
            simp [event, Event.loses?, answered, Call.loses?, lost]
          have goesOn : event.goesOn world.history = true := by
            simp [event, Event.goesOn, since, receives]
          refine .pure (.inr ⟨⟨.other (fun _ _ => goesOn) severed.heeded, ?_⟩, error, rfl⟩)
          have hand := Session.connection_of_held (Session.held_of_link held)
          exact ⟨event, _, _, rfl, loses, severed.unbroken, hand⟩
        · exact .pure (.inl (severed.after (by rw [answered]; simp [Call.loses?, lost])))

theorem finish_severs (severed : Severed unbroken world)
    (received : ∃ event past connection id, world.history = event :: past ∧
      event.call = .next connection id) (e : Enumeration) (done : Done) :
    Ends world (e.finish done) fun out later => Severed unbroken later ∨
      Broken unbroken later ∧ ∃ error, out.1 = .error error := by
  unfold finish
  dsimp only
  split
  · exact .pure (.inl severed)
  split
  · exact startNext_severs severed received _
  · refine (startNext_severs severed received _).bind fun out later ended => ?_
    split
    · next done _ =>
      refine .pure (.inl (ended.resolve_right fun broken => ?_))
      simp [done] at broken
    · exact .pure ended

theorem fetch_severs (severed : Severed unbroken world) (e : Enumeration) :
    Ends world e.fetch fun out later => Severed unbroken later ∨
      Broken unbroken later ∧ ∃ error, out.1 = .error error := by
  unfold fetch
  split
  · next id _ =>
    refine ((Session.ensureReady_lasts (Severed.lasting unbroken)).ends severed).bind ?_
    intro result ready severed
    match result with
    | .error error => exact .pure (.inl severed)
    | .ok () =>
      refine .bind_run (run_session ready) ?_
      split
      · next link held =>
        split
        · exact .pure (.inl severed)
        let call := Call.next link.connection id
        refine .bind_run (run_perform ready call) ?_
        cases answered : ready.answer call with
        | error error =>
          dsimp only
          split
          · next lost =>
            -- The connection on which the message was awaited is closed at once.
            refine .bind_run (run_close _) (.pure (.inl ?_))
            refine severed.closed held ?_
            rw [answered]
            simp [Call.loses?, lost]
          · next settled =>
            refine .pure (.inl (severed.after ?_))
            rw [answered]
            simp [Call.loses?, call, settled]
        | ok message =>
          have severed : Severed unbroken (ready.after call) :=
            severed.after (by rw [answered]; rfl)
          cases message with
          | entry entry => exact .pure (.inl severed)
          | reference => exact .pure (.inl severed)
          | done done => exact finish_severs severed ⟨_, _, _, _, rfl, rfl⟩ e done
      · exact .pure (.inl severed)
  · exact .pure (.inl severed)

theorem start_heeds (e : Enumeration) (lookup : Lookup) :
    Upholds Heeding (e.start lookup : Engine σ (Except Error Unit × Enumeration)) := by
  have starts : Upholds Heeding (lookup.start 0 : Action σ (Option MessageId)).run :=
    Failover.run_mends_upholds heeding_mending (lookup.startPage_owes 0 [])
  refine (abandon_lasts (Severed.lasting False).toTended e).upholds.bind fun e => ?_
  refine starts.bind fun result => ?_
  split
  · exact .pure _
  · refine .with_session fun world heeding => ?_
    dsimp only
    split <;> exact .pure heeding

/-- Until a record is given, nothing is lost without the enumeration being over. -/
theorem next_severs {ρ : Type} (parser : RecordParser ρ) (patience : Nat) (e : Enumeration)
    (arena : Arena) (severed : Severed unbroken world) :
    Ends world (next parser patience e arena) fun _ later =>
      Severed unbroken later ∨ Broken unbroken later := by
  induction patience generalizing e arena world with
  | zero =>
    intro result later ran
    cases ran
  | succ patience ih =>
    rw [next]
    split
    · refine (fetch_severs severed e).bind fun out later ended => ?_
      split
      · exact .pure (ended.imp_right And.left)
      · next e =>
        exact ih e arena (ended.resolve_right (by simp))
    · split
      · refine .bind_run (run_touch world) (.pure (.inl ?_))
        exact (Severed.lasting unbroken).touch _ _ severed
      · exact .pure (.inl severed)
      · exact ih _ _ severed

end Enumeration

/-- Every server that is lost is left, whatever was asked of it. -/
theorem heeding_enduring : World.Enduring (σ := σ) Heeding := by
  have lasting : World.Lasting (σ := σ) Heeding := Severed.lasting False
  have reads (name : String) (attributes : List String) :
      Lasts Heeding (Entry.read name attributes : Action σ (Option Entry)).run :=
    .of_ends (Entry.read_halts name attributes)
      (Failover.run_mends_upholds heeding_mending (Entry.readOnce_owes name attributes))
  exact {
    ready := Session.ensureReady_lasts lasting
    asks lookup := .of_ends lookup.entries_halts
      (Failover.run_mends_upholds heeding_mending lookup.searchOnce_owes)
    reads := reads
    resolves := Membership.resolve_lasts reads fun _ _ _ heeding => heeding_of heeding.heeded
    visits := fun _ _ heeding => heeding_of heeding.heeded
    touches := (touch_lasts lasting.toTended).upholds
    closes := (close_lasts lasting.toTended).upholds
    starts := Enumeration.start_heeds
    fetches e world heeding := (e.fetch_severs heeding).mono fun _ _ ended =>
      ended.elim id fun broken => heeding_of broken.1.heeded
    stops e := (e.stop_lasts lasting.toTended).upholds }

namespace Directory

section Runs

variable {episodes : List Episode} {contexts contexts' : Contexts} {later : World σ}
  {request : Request}

/-- A chronicle is of a run. -/
theorem Chronicle.run (chronicle : Chronicle episodes world contexts) :
    ∃ trace, Run (fun _ => True) trace world contexts ∧
      ∀ episode ∈ episodes, ∀ event ∈ episode.history, .called event ∈ trace := by
  induction chronicle with
  | begin outside =>
    exact ⟨[], .begin outside, fun _ member => absurd member List.not_mem_nil⟩
  | change outside chronicle ih =>
    obtain ⟨trace, run, told⟩ := ih
    exact ⟨trace, run.change outside, told⟩
  | fork chronicle told ih =>
    obtain ⟨trace, run, known⟩ := ih
    exact ⟨_, run.fork told, fun episode member event happened =>
      List.mem_cons_of_mem _ (known episode member event happened)⟩
  | @ask past world later contexts contexts' request chronicle served ih =>
    obtain ⟨trace, run, known⟩ := ih
    refine ⟨_, run.ask trivial served, fun episode member event happened => ?_⟩
    rcases List.mem_cons.mp member with rfl | member
    · exact List.mem_append_left trace (List.mem_map_of_mem happened)
    · exact List.mem_append_right _ (known episode member event happened)

theorem Chronicle.heeded (chronicle : Chronicle episodes world contexts) :
    ∀ episode ∈ episodes, Heeded episode.history := by
  induction chronicle with
  | begin => exact fun _ member => absurd member List.not_mem_nil
  | change _ _ heeded => exact heeded
  | fork _ _ heeded => exact heeded
  | @ask past world later contexts contexts' request chronicle served heeded =>
    intro episode member
    rcases List.mem_cons.mp member with rfl | member
    · have start : Heeding world.fresh := heeding_of .nil
      exact (Request.serve_endures heeding_enduring request contexts _ start _ _ served).heeded
    · exact heeded episode member

theorem released_of_unbind {event : Event} {connection : Connection}
    (left : event.call = .unbind connection) : released? (.called event) = some connection := by
  obtain ⟨call, answer, stand, look⟩ := event
  subst left
  rfl

/-- A connection whose server was lost is left alone from then on and is given up before the request
    is over, unless it was lost in going on with an enumeration. In that case it is still in hand
    when the next record has been asked for. -/
theorem Chronicle.lost_severed_iff (chronicle : Chronicle episodes world contexts)
    (served : request.serve contexts world.fresh = some (contexts', later)) :
    (∀ newer event past connection, later.history = newer ++ event :: past →
      event.call.isQuery → event.call.connection? = some connection →
      ¬ Lost connection past ∧ ∀ episode ∈ episodes, ¬ Lost connection episode.history) ∧
    (∀ connection, Lost connection later.history → later.session.connection ≠ some connection ∧
      ∃ event ∈ later.history, event.call = .unbind connection) ∧
    ∀ (context : Nat) (ρ : Type) (parser : RecordParser ρ) (arena : Arena) (patience : Nat),
      request = .next context parser arena patience →
      ∀ newer event past connection, later.history = newer ++ event :: past →
        event.loses? = some connection →
        (later.session.connection ≠ some connection ↔ event.goesOn past = false) := by
  obtain ⟨trace, run, known⟩ := chronicle.run
  have heeded : Heeded later.history :=
    (Request.serve_endures heeding_enduring request contexts _ (heeding_of .nil) _ _ served).heeded
  have ledger := (run.ask trivial served).books.ledger
  have left (connection : Connection) (lost : Lost connection later.history) :
      later.session.connection ≠ some connection ∧
        ∃ event ∈ later.history, event.call = .unbind connection := by
    obtain ⟨event, member, left⟩ := heeded.left lost
    refine ⟨fun hand => (ledger.inHand connection hand).2 ?_, event, member, left⟩
    exact ⟨_, List.mem_append_left trace (List.mem_map_of_mem member), released_of_unbind left⟩
  refine ⟨?_, left, ?_⟩
  · intro newer event past connection since query target
    have cut : traced later trace =
        (newer ++ [event]).map .called ++ (past.map .called ++ trace) := by
      simp [traced, since]
    -- What comes after the end of a connection is about other connections.
    have unreleased : ¬ Released (past.map .called ++ trace) connection := fun released =>
      other_of_released released (cut ▸ ledger.alone) (.called event)
        (List.mem_map_of_mem (by simp)) (concerned_of_connection target)
    constructor
    · intro lost
      obtain ⟨leave, member, left⟩ := (since ▸ heeded).of_query query |>.left lost
      exact unreleased ⟨_, List.mem_append_left trace (List.mem_map_of_mem member),
        released_of_unbind left⟩
    · intro episode member lost
      obtain ⟨leave, happened, left⟩ := (chronicle.heeded episode member).left lost
      exact unreleased ⟨_, List.mem_append_right _ (known episode member leave happened),
        released_of_unbind left⟩
  · rintro context ρ parser arena patience rfl newer event past connection since lost
    have ended : Severed True later ∨ Broken True later := by
      have start : Severed True world.fresh := ⟨.nil, fun _ => trivial⟩
      have ends : Ends world.fresh ((Request.next context parser arena patience).serve contexts)
          fun _ later => Severed True later ∨ Broken True later := by
        have goesOn := Enumeration.next_severs parser patience (contexts context) arena start
        exact (goesOn.bind fun _ _ ended => .pure ended).bind fun _ _ ended => .pure ended
      exact ends _ _ served
    refine ⟨fun free => ?_, fun other => (left connection (since ▸ lost_of_loses lost other)).1⟩
    rcases ended with severed | broken
    · exact (since ▸ severed.unbroken trivial).of_append lost
    · obtain ⟨latest, before, other, same, gone, unbroken, hand⟩ := broken.held
      rw [since] at same
      cases newer with
      | nil =>
        obtain ⟨rfl, rfl⟩ := List.cons.inj same
        obtain rfl : connection = other := Option.some.inj (lost.symm.trans gone)
        exact absurd hand free
      | cons first newer =>
        obtain ⟨-, rfl⟩ := List.cons.inj same
        exact (unbroken trivial).of_append lost

end Runs

/-- A server is lost while a record is awaited from it, and its connection is given up. -/
theorem lost_severed_waiting :
    ∃ (episodes : List Episode) (world later : World (Frail Small.Outside (resetAt 4)))
      (contexts contexts' : Contexts) (newer past : List Event) (event : Event),
      Chronicle episodes world contexts ∧
      (Request.next 0 (.ofValues "uid") (.fresh 0 16) 8).serve contexts world.fresh =
        some (contexts', later) ∧
      later.history = newer ++ event :: past ∧ event.loses? = some ⟨1⟩ ∧
      event.goesOn past = false ∧ later.session.connection ≠ some ⟨1⟩ := by
  have ran : ((serveAll [.start 0 Small.users] []
      ({ outside := ⟨{}, 0⟩ } : World (Frail Small.Outside (resetAt 4))) fun _ => {}).bind
        fun (_, world, contexts) =>
          (Request.next 0 (.ofValues "uid") (.fresh 0 16) 8).serve contexts world.fresh).map
        (fun (_, later) => later.history.map Event.loses?) = some [none, some ⟨1⟩] := by
    decide +kernel
  obtain ⟨⟨contexts', later⟩, both, shown⟩ := Option.map_eq_some_iff.mp ran
  obtain ⟨⟨episodes, world, contexts⟩, started, served⟩ := Option.bind_eq_some_iff.mp both
  have begun := Chronicle.begin (⟨{}, 0⟩ : Frail Small.Outside (resetAt 4))
  have chronicle := begun.of_serveAll started
  obtain ⟨leave, rest, since, -, shown⟩ := List.map_eq_cons_iff.mp shown
  obtain ⟨event, past, rfl, lost, shown⟩ := List.map_eq_cons_iff.mp shown
  obtain rfl : past = [] := List.map_eq_nil_iff.mp shown
  have first : event.goesOn [] = false := by simp [Event.goesOn]
  refine ⟨episodes, world, later, contexts, contexts', [leave], [], event, chronicle, served, since,
    lost, first, ?_⟩
  obtain ⟨-, -, waiting⟩ := chronicle.lost_severed_iff served
  exact (waiting 0 _ _ _ _ rfl [leave] event [] ⟨1⟩ since lost).mpr first

/-- A server is lost when the second page is asked for, and is asked again on the connection that
    was lost. -/
theorem lost_severed_going_on :
    ∃ (later earlier first : Episode) (world : World (Frail Small.Outside (resetAt 7)))
      (contexts : Contexts), Chronicle [later, earlier, first] world contexts ∧
      (∃ event ∈ earlier.history, event.loses? = some ⟨1⟩) ∧
      ∃ event ∈ later.history, event.call.isQuery ∧ event.call.connection? = some ⟨1⟩ := by
  have ran : (serveAll [.start 0 Small.users, .next 0 (.ofValues "mail") (.fresh 0 16) 8,
      .lookup Small.users (.ofValues "uid") (.fresh 0 16)] []
      ({ outside := ⟨{}, 0⟩ } : World (Frail Small.Outside (resetAt 7))) fun _ => {}).map
        (fun out => out.1.map fun episode =>
          (episode.history.any (fun event => event.loses? = some ⟨1⟩),
            episode.history.any fun event =>
              event.call.isQuery ∧ event.call.connection? = some ⟨1⟩)) =
      some [(false, true), (true, true), (false, true)] := by decide +kernel
  obtain ⟨⟨episodes, world, contexts⟩, served, shown⟩ := Option.map_eq_some_iff.mp ran
  -- The second call loses the connection, and the third one still asks on it.
  obtain ⟨later, rest, rfl, here, shown⟩ := List.map_eq_cons_iff.mp shown
  obtain ⟨earlier, rest, rfl, before, shown⟩ := List.map_eq_cons_iff.mp shown
  obtain ⟨first, rest, rfl, -, shown⟩ := List.map_eq_cons_iff.mp shown
  obtain rfl : rest = [] := List.map_eq_nil_iff.mp shown
  have begun := Chronicle.begin (⟨{}, 0⟩ : Frail Small.Outside (resetAt 7))
  have chronicle := begun.of_serveAll served
  obtain ⟨lost, -⟩ := Prod.mk.inj before
  obtain ⟨-, asked⟩ := Prod.mk.inj here
  exact ⟨later, earlier, first, world, contexts, chronicle, by simpa using lost,
    by simpa using asked⟩

end Directory

end NameService
