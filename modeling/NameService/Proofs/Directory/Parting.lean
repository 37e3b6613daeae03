import NameService.Proofs.Directory.Accounting
import NameService.Proofs.Enumeration.Dialogue
import NameService.Proofs.Enumeration.Entries

/-!
How a directory parts with a connection that it may not speak on. Whatever asks for entries looks
for hazards first, and gives up a connection that has met one without a word. Three requests do not
look, or look for less: to close the directory is to take leave of the server whatever has become of
the connection, and a search that is given up is told to the server unless another process made the
connection.

## Main results

- `close_promised_iff`: to close a directory is to speak on the connection it holds, so a promise to
  speak only where it may is kept exactly when it may speak there.
- `lost_spared_iff`: on a connection that was lost, an enumeration begins in silence exactly when it
  has no search in progress there or another process made the connection; it ends in silence exactly
  when another process made it, or no search is in progress and the directory stays open after use.
-/

namespace NameService

open Engine World

/-- What has happened on a connection, the latest first. -/
def callsOn (connection : Connection) (history : List Event) : List Call :=
  (history.map Event.call).filter fun call => call.connection? = some connection

@[simp] theorem callsOn_nil (connection : Connection) : callsOn connection [] = [] := rfl

theorem callsOn_cons {event : Event} {connection : Connection}
    (target : event.call.connection? = some connection) (history : List Event) :
    callsOn connection (event :: history) = event.call :: callsOn connection history := by
  simp [callsOn, target]

variable {σ : Type} [Service σ]

/-- The application has closed the socket under a connection, or has put it to other use. -/
def Link.IsLost (link : Link) (outside : σ) : Prop :=
  link.isStolen outside ∨ Service.isClosed link.connection outside

/-- A connection may be spoken on if it belongs to the process and is not lost. -/
structure Session.Sound (session : Session) (link : Link) (outside : σ) : Prop where
  own : session.isInherited link outside = false
  kept : ¬ link.IsLost outside

namespace World

theorem drop_history {world : World σ} {link : Link} (held : world.session.held = some link)
    (part : Connection → Call) : (world.drop part).history =
      ⟨part link.connection, world.answer (part link.connection), world.stand, world.look⟩ ::
        world.history := by
  simp [drop, held, after]

theorem callsOn_drop {world : World σ} {link : Link} (held : world.session.held = some link)
    {part : Connection → Call}
    (target : ∀ connection, (part connection).connection? = some connection) :
    callsOn link.connection (world.drop part).history =
      part link.connection :: callsOn link.connection world.history := by
  rw [drop_history held, callsOn_cons (target _)]

/-- The world after a look has found a connection that was lost. -/
def forgotten (world : World σ) : World σ := { world with look := some world.stand }.drop .forget

end World

theorem Session.run_dropUnfit_lost {world : World σ} {link : Link}
    (held : world.session.held = some link) (lost : link.IsLost world.outside) :
    dropUnfit world = some ((), world.drop .forget) := by
  rw [run_dropUnfit held, if_pos]
  exact lost

/-- A connection that was lost is given up before anything else is done. -/
theorem Session.ensureReady_forgets {world : World σ} {link : Link}
    (held : world.session.held = some link) (configured : world.session.loaded.isSome)
    (lost : link.IsLost world.outside) :
    Ends world (ensureReady : Action σ Unit).run fun _ later =>
      world.forgotten.history <:+ later.history := by
  have lasting := grown_lasting (σ := σ) world.forgotten.history
  refine .action_bind_run (run_loadFirst configured) ?_
  have inspects : Ends world inspect fun _ later =>
      world.forgotten.history <:+ later.history := by
    refine .bind_run (run_noteLook world) (.bind_run (run_dropUnfit_lost held lost) ?_)
    -- What follows has no connection to speak on, and adds to what has happened at most.
    have rest : Lasts (fun later : World σ => world.forgotten.history <:+ later.history)
        (update Session.clearFork >>= fun _ => closeIdle : Engine σ Unit) :=
      (Lasts.update lasting.clearFork).bind fun _ => closeIdle_lasts lasting.toTended
    exact rest.ends (List.suffix_refl _)
  exact inspects.lift_bind fun _ later grown => (refresh_lasts lasting).ends grown

namespace Failover

variable {α : Type} {operation : Action σ α} {holds : World σ → Prop}

/-- What is true when the session is ready is true at the end, if nothing that follows ends it. -/
theorem run_ends (tended : World.Tended holds) (lasts : Lasts holds operation.run)
    {world : World σ}
    (ready : Ends world (Session.ensureReady : Action σ Unit).run fun _ => holds) :
    Ends world (run operation).run fun _ => holds := by
  have rest : Lasts holds (do
      let config ← config
      let soft ← lift (observe Service.isSoft)
      rounds config.failover (max 1 config.uris.length) operation none 0
        (budget config.failover soft)).run :=
    Lasts.config.action_bind fun _ => (Lasts.observe _).lift.action_bind fun _ =>
      rounds_lasts tended lasts _ _ _ _ _
  exact ready.action_bind (fun _ later kept => rest.ends kept) fun _ _ kept => kept

end Failover

namespace Enumeration

variable {world : World σ} {link : Link} (e : Enumeration) (lookup : Lookup)

/-- An enumeration begins with the search for its first entry, when the one before is given up. -/
theorem start_ends {abandoned : Enumeration} {first : World σ} {holds : World σ → Prop}
    (ran : e.abandon world = some (abandoned, first))
    (starts : Ends first (lookup.start 0 : Action σ (Option MessageId)).run fun _ => holds) :
    Ends world (e.start lookup) fun _ => holds := by
  refine .bind_run ran (starts.bind fun result later kept => ?_)
  split
  · exact .pure kept
  · refine .bind_run (run_session later) ?_
    dsimp only
    split <;> exact .pure kept

end Enumeration

namespace Directory

/-- Nothing is sent on a connection. -/
def Silent (connection : Connection) (history : List Event) : Prop :=
  ∀ call ∈ callsOn connection history, talks call = false

theorem not_silent {connection : Connection} {history : List Event} {call : Call}
    (member : call ∈ callsOn connection history) (speaks : talks call = true) :
    ¬ Silent connection history := by
  intro silent
  rw [silent call member] at speaks
  cases speaks

theorem concerned_of_connection {event : Event} {connection : Connection}
    (target : event.call.connection? = some connection) :
    concerned? (.called event) = some connection := by
  obtain ⟨call, answer, stand, look⟩ := event
  cases call <;> simp_all [concerned?, opening?, Call.connection?]

/-- What happens after a connection was given up is about other connections. -/
theorem other_of_released {trace newer : List Happening} {connection : Connection}
    (released : Released trace connection) (alone : Always LeavesAlone (newer ++ trace)) :
    ∀ entry ∈ newer, concerned? entry ≠ some connection := by
  induction newer with
  | nil => simp
  | cons first newer ih =>
    -- When the latest entry is made, the connection is among those that were given up.
    obtain ⟨leaves, alone⟩ := alone
    intro entry member concerned
    rcases List.mem_cons.mp member with rfl | member
    · obtain ⟨entry', member', released⟩ := released
      exact leaves connection concerned ⟨entry', List.mem_append_right newer member', released⟩
    · exact ih alone entry member concerned

omit [Service σ] in
theorem callsOn_of_released {later : World σ} {past : List Happening} {base : List Event}
    {connection : Connection} (alone : Always LeavesAlone (traced later past))
    (grown : base <:+ later.history)
    (released : ∃ event ∈ base, released? (.called event) = some connection) :
    callsOn connection later.history = callsOn connection base := by
  obtain ⟨newer, same⟩ := grown
  have cut : traced later past = newer.map .called ++ (base.map .called ++ past) := by
    rw [traced, ← same, List.map_append, List.append_assoc]
  have before : Released (base.map .called ++ past) connection := by
    obtain ⟨event, member, released⟩ := released
    exact ⟨.called event, List.mem_append_left past (List.mem_map_of_mem member), released⟩
  have others := other_of_released before (cut ▸ alone)
  -- None of the newer calls is about the connection.
  have none : callsOn connection newer = [] := by
    refine List.filter_eq_nil_iff.mpr fun call member => ?_
    obtain ⟨event, happened, rfl⟩ := List.mem_map.mp member
    intro target
    have concerned := concerned_of_connection (of_decide_eq_true target)
    exact others _ (List.mem_map_of_mem happened) concerned
  rw [← same, callsOn, List.map_append, List.filter_append]
  exact (congrArg (· ++ callsOn connection base) none).trans (List.nil_append _)

section Closing

variable {allowed : Request → Prop} {past : List Happening} {world : World σ}
  {contexts : Contexts}

/-- To close a directory is to take leave of the server on the connection that is held. What a
    session goes by is true of that connection, but it is not gone by here. -/
theorem close_promised_iff (run : Run allowed past world contexts) :
    ∃ later, Request.close.serve contexts world.fresh = some (contexts, later) ∧
      later.session.held = none ∧
      later.history.map Event.call = (world.session.connection.map Call.unbind).toList ∧
      (∀ link, world.session.held = some link → Faithful σ past link) ∧
      ((∀ link, world.session.held = some link → ¬ world.session.Sound link world.outside →
          Silent link.connection later.history) ↔
        ∀ link, world.session.held = some link → world.session.Sound link world.outside) := by
  have calls : (world.fresh.drop .unbind).history.map Event.call =
      (world.session.connection.map Call.unbind).toList := by
    cases kept : world.session.connection <;>
      simp [World.drop, World.fresh, World.after, Session.held, kept]
  refine ⟨world.fresh.drop .unbind, ?_, by simp, calls, run.books.recorded.faithful, ?_, ?_⟩
  · simp [Request.serve, Directory.close]
  · intro promise link held
    by_contra unsound
    -- The one thing that happens on the connection is that something is sent on it.
    have member : .unbind link.connection ∈ callsOn link.connection
        (world.fresh.drop .unbind).history := by
      simp [callsOn, calls, Session.connection_of_held held, Call.connection?]
    exact not_silent member rfl (promise link held unsound)
  · intro sound link held unsound
    exact absurd (sound link held) unsound

end Closing

/-- A lookup, and a fork that the process is not told of. -/
def inheriting : List (Step Small.Outside) :=
  [.ask (.lookup Small.users (.ofValues "uid") (.fresh 0 16)),
    .change fun host => { host with process := 2 }]

/-- The process that made the connection says goodbye on it when it closes the directory. -/
theorem close_promised_own :
    ∃ (past : List Happening) (world : World Small.Outside) (contexts : Contexts),
      Run (fun _ => True) past world contexts ∧ world.session.connection = some ⟨1⟩ ∧
      ∃ later, Request.close.serve contexts world.fresh = some (contexts, later) ∧
        later.history.map Event.call = [.unbind ⟨1⟩] := by
  have ran : (replay (inheriting.take 1) [] { outside := {} } fun _ => {}).map
      (·.2.1.session.connection) = some (some ⟨1⟩) := by decide +kernel
  obtain ⟨⟨past, world, contexts⟩, replayed, hand⟩ := Option.map_eq_some_iff.mp ran
  have begun : Run (fun _ => True) [] ({ outside := {} } : World Small.Outside) fun _ => {} :=
    .begin _
  have run := begun.of_replay (fun _ _ => trivial) replayed
  obtain ⟨later, served, -, calls, -⟩ := close_promised_iff run
  have hand : world.session.connection = some ⟨1⟩ := hand
  rw [hand] at calls
  exact ⟨past, world, contexts, run, hand, later, served, calls⟩

/-- So does any other process that holds the connection after a fork. -/
theorem close_promised_inherited :
    ∃ (past : List Happening) (world : World Small.Outside) (contexts : Contexts) (link : Link),
      Run (fun _ => True) past world contexts ∧ world.session.held = some link ∧
      ¬ world.session.Sound link world.outside ∧
      ∃ later, Request.close.serve contexts world.fresh = some (contexts, later) ∧
        ¬ Silent link.connection later.history := by
  have ran : (replay inheriting [] { outside := {} } fun _ => {}).map (fun out =>
      out.2.1.session.held.map fun link =>
        (out.2.1.session.isInherited link out.2.1.outside)) = some (some true) := by
    decide +kernel
  obtain ⟨⟨past, world, contexts⟩, replayed, shown⟩ := Option.map_eq_some_iff.mp ran
  obtain ⟨link, held, inherited⟩ := Option.map_eq_some_iff.mp shown
  have begun : Run (fun _ => True) [] ({ outside := {} } : World Small.Outside) fun _ => {} :=
    .begin _
  have run := begun.of_replay (fun _ _ => trivial) replayed
  have unsound : ¬ world.session.Sound link world.outside := by
    intro sound
    rw [sound.own] at inherited
    cases inherited
  refine ⟨past, world, contexts, link, run, held, unsound, world.fresh.drop .unbind, ?_, ?_⟩
  · simp [Request.serve, Directory.close]
  · have fresh : world.fresh.session.held = some link := held
    have calls : callsOn link.connection (world.fresh.drop .unbind).history =
        [.unbind link.connection] := callsOn_drop fresh fun _ => rfl
    have said : .unbind link.connection ∈ callsOn link.connection
        (world.fresh.drop .unbind).history := by
      simp [calls]
    exact not_silent said rfl

section Enumerating

variable {past : List Happening} {world : World σ} {contexts : Contexts} {link : Link}

/-- What is told on the connection when a search in progress is given up. -/
def told (e : Enumeration) (session : Session) (link : Link) : Option Call :=
  (e.outstanding session).map (Call.abandon link.connection)

theorem talks_of_told {e : Enumeration} {session : Session} {call : Call}
    (tells : told e session link = some call) : talks call = true := by
  obtain ⟨id, -, rfl⟩ := Option.map_eq_some_iff.mp tells
  rfl

/-- When an enumeration begins, the one before is given up first. -/
theorem start_grown {context : Nat} {question : Lookup} {base : List Event}
    {abandoned : Enumeration} {first later : World σ} {contexts' : Contexts}
    (ran : (contexts context).abandon world.fresh = some (abandoned, first))
    (starts : Ends first (question.start 0 : Action σ (Option MessageId)).run fun _ later =>
      base <:+ later.history)
    (served : (Request.start context question).serve contexts world.fresh =
      some (contexts', later)) : base <:+ later.history := by
  have begins := Enumeration.start_ends (contexts context) question ran starts
  have ends : Ends world.fresh ((Request.start context question).serve contexts) fun _ later =>
      base <:+ later.history :=
    (begins.bind fun _ _ grown => .pure grown).bind fun _ _ grown => .pure grown
  exact ends _ _ served

theorem page_grows (base : List Event) (question : Lookup) :
    Lasts (fun world : World σ => base <:+ world.history)
      (question.startPage 0 [] : Action σ (Option MessageId)).run :=
  Lookup.startPage_lasts (fun _ _ _ grown => grown.trans (List.suffix_cons _ _)) question 0 []

theorem search_grows (base : List Event) (question : Lookup) :
    Lasts (fun world : World σ => base <:+ world.history)
      (question.start 0 : Action σ (Option MessageId)).run :=
  Failover.run_lasts (grown_lasting base) (page_grows base question)

theorem start_served (world : World σ) (contexts : Contexts) (context : Nat) (question : Lookup) :
    ∃ contexts' later, (Request.start context question).serve contexts world =
      some (contexts', later) := by
  have starts := (contexts context).start_lasts question (lasting_true (σ := σ))
    fun _ _ _ _ => trivial
  exact ((starts.bind fun _ => .pure _).bind fun _ => .pure _).halts world

variable (run : Run (fun _ => True) past world contexts) (held : world.session.link = some link)
include run held

/-- What happens on a connection that was lost when an enumeration begins. It is given up in silence
    in the search for the first entry, if it is not given up, or spoken on, before. -/
theorem start_calls (lost : link.IsLost world.outside) {context : Nat} {question : Lookup}
    {later : World σ} {contexts' : Contexts}
    (served : (Request.start context question).serve contexts world.fresh =
      some (contexts', later)) :
    (world.session.isInherited link world.outside = true →
      callsOn link.connection later.history = [.disconnect link.connection]) ∧
    (world.session.isInherited link world.outside = false →
      told (contexts context) world.session link = none →
        callsOn link.connection later.history = [.forget link.connection]) ∧
    (world.session.isInherited link world.outside = false →
      ∀ call, told (contexts context) world.session link = some call →
        call ∈ callsOn link.connection later.history) := by
  have fresh : world.fresh.session.link = some link := held
  have alone : Always LeavesAlone (traced later past) := (run.ask trivial served).books.ledger.alone
  -- By whom the connection was made decides, and then whether there is something to tell.
  refine ⟨fun inherited => ?_, fun own silent => ?_, fun own call tells => ?_⟩
  · have ran := (contexts context).run_abandon_inherited fresh inherited
    have grown := start_grown ran ((search_grows _ question).ends (List.suffix_refl _)) served
    -- The connection is left to the process that made it, and the next one has another number.
    have parted : world.fresh.released.history = [⟨.disconnect link.connection, _, _, _⟩] :=
      drop_history (Session.held_of_link fresh) .disconnect
    rw [callsOn_of_released alone grown ⟨_, parted ▸ List.mem_singleton_self _, rfl⟩, parted]
    exact callsOn_cons rfl []
  · have ran := (contexts context).run_abandon_own fresh own
    rw [World.fresh_session, Option.map_eq_none_iff.mp silent] at ran
    have configured : world.fresh.session.loaded.isSome :=
      run.books.recorded.configured (by simp [Session.held_of_link held])
    have starts : Ends world.fresh (question.start 0 : Action σ (Option MessageId)).run
        fun _ later => world.fresh.forgotten.history <:+ later.history :=
      Failover.run_ends (grown_lasting _).toTended (page_grows _ question)
        (Session.ensureReady_forgets (Session.held_of_link fresh) configured lost)
    have grown := start_grown ran starts served
    have looked : ({ world.fresh with look := some world.fresh.stand } : World σ).session.held =
        some link := Session.held_of_link held
    have parted : world.fresh.forgotten.history = [⟨.forget link.connection, _, _, _⟩] :=
      drop_history looked .forget
    rw [callsOn_of_released alone grown ⟨_, parted ▸ List.mem_singleton_self _, rfl⟩, parted]
    exact callsOn_cons rfl []
  · obtain ⟨id, pending, rfl⟩ := Option.map_eq_some_iff.mp tells
    have ran := (contexts context).run_abandon_own fresh own
    rw [World.fresh_session, pending] at ran
    have grown := start_grown ran ((search_grows _ question).ends (List.suffix_refl _)) served
    -- The server was told before hazards were looked for.
    have first := grown.subset (List.mem_cons_self)
    simpa [callsOn, Call.connection?] using ⟨_, first, rfl⟩

omit run in
/-- What happens on a connection when an enumeration ends, whatever has become of the connection. -/
theorem stop_calls (context : Nat) :
    ∃ contexts' later, (Request.stop context).serve contexts world.fresh = some (contexts', later) ∧
      callsOn link.connection later.history =
        if world.session.isInherited link world.outside then [.disconnect link.connection]
        else (if world.session.isOneShot then [.unbind link.connection] else []) ++
          (told (contexts context) world.session link).toList := by
  have fresh : world.fresh.session.link = some link := held
  -- To end an enumeration is to give up its search, and to close after use where that is asked for.
  have serves {abandoned : Enumeration} {first : World σ}
      (ran : (contexts context).abandon world.fresh = some (abandoned, first))
      (kept : first.session.loaded = world.session.loaded) :
      (Request.stop context).serve contexts world.fresh =
        some (Function.update contexts context { abandoned.reset with lookup := none },
          if world.session.isOneShot then first.drop .unbind else first) := by
    simp only [Request.serve, enumerateEnd, run_bind, (contexts context).run_stop ran kept,
      Option.bind_some, run_pure]
    rfl
  cases inherited : world.session.isInherited link world.outside with
  | true =>
    have ran := (contexts context).run_abandon_inherited fresh inherited
    have bare : world.fresh.released.session.held = none := by simp [World.released]
    -- There is nothing left to take leave of.
    have dropped : (world.fresh.released.drop .unbind).history = world.fresh.released.history := by
      simp [World.drop, bare]
    have calls : callsOn link.connection world.fresh.released.history =
        [.disconnect link.connection] := callsOn_drop (Session.held_of_link fresh) fun _ => rfl
    refine ⟨_, _, serves ran ?_, ?_⟩
    · simp [World.released, Session.clearFork]
    · split <;> simp [dropped, calls]
  | false =>
    have ran := (contexts context).run_abandon_own fresh inherited
    cases pending : (contexts context).outstanding world.session with
    | none =>
      rw [World.fresh_session, pending] at ran
      have calls : callsOn link.connection (world.fresh.drop .unbind).history =
          [.unbind link.connection] := callsOn_drop (Session.held_of_link fresh) fun _ => rfl
      refine ⟨_, _, serves ran rfl, ?_⟩
      split
      · simp [told, pending, calls]
      · simp [told, pending, World.fresh]
    | some id =>
      rw [World.fresh_session, pending] at ran
      let spoken := world.fresh.after (.abandon link.connection id)
      have calls : callsOn link.connection spoken.history = [.abandon link.connection id] :=
        callsOn_cons rfl []
      have still : spoken.session.link = some link := held
      have dropped : callsOn link.connection (spoken.drop .unbind).history =
          [.unbind link.connection, .abandon link.connection id] := by
        rw [callsOn_drop (Session.held_of_link still) fun _ => rfl, calls]
      refine ⟨_, _, serves ran rfl, ?_⟩
      split
      · simpa [told, pending] using dropped
      · simpa [told, pending] using calls

/-- Only a part of what may be sent on a connection that was lost is kept back when an enumeration
    begins or ends. -/
theorem lost_spared_iff (lost : link.IsLost world.outside) (context : Nat) (question : Lookup) :
    let inherited := world.session.isInherited link world.outside = true
    let telling := told (contexts context) world.session link
    (∃ contexts' later, (Request.start context question).serve contexts world.fresh =
        some (contexts', later) ∧
      (Silent link.connection later.history ↔ inherited ∨ telling = none) ∧
      (callsOn link.connection later.history = [.forget link.connection] ↔
        ¬ inherited ∧ telling = none)) ∧
    ∃ contexts' later, (Request.stop context).serve contexts world.fresh =
        some (contexts', later) ∧
      (Silent link.connection later.history ↔
        inherited ∨ telling = none ∧ ¬ world.session.isOneShot) ∧
      callsOn link.connection later.history = if inherited then [.disconnect link.connection]
        else (if world.session.isOneShot then [.unbind link.connection] else []) ++
          telling.toList := by
  intro inherited telling
  constructor
  · obtain ⟨contexts', later, served⟩ := start_served world.fresh contexts context question
    obtain ⟨left, forgot, spoke⟩ := start_calls run held lost served
    refine ⟨contexts', later, served, ?_⟩
    cases other : world.session.isInherited link world.outside with
    | true => simp [inherited, other, Silent, left other, talks]
    | false =>
      cases tells : telling with
      | none => simp [inherited, other, Silent, forgot other tells, talks]
      | some call =>
        -- What is told to the server is neither nothing nor a parting without a word.
        have member := spoke other call tells
        have speaks := talks_of_told tells
        refine ⟨iff_of_false (not_silent member speaks) (by simp [inherited, other]),
          iff_of_false ?_ (by simp)⟩
        intro calls
        rw [calls] at member
        obtain rfl := List.mem_singleton.mp member
        cases speaks
  · obtain ⟨contexts', later, served, calls⟩ := stop_calls held context
    refine ⟨contexts', later, served, ?_, calls⟩
    cases other : world.session.isInherited link world.outside with
    | true => simp [inherited, other, Silent, calls, talks]
    | false =>
      cases tells : telling with
      | none =>
        cases once : world.session.isOneShot <;>
          simp [inherited, other, Silent, calls, once, show told _ _ _ = none from tells, talks]
      | some call =>
        have member : call ∈ callsOn link.connection later.history := by
          simp [calls, other, show told _ _ _ = some call from tells]
        exact iff_of_false (not_silent member (talks_of_told tells)) (by simp [inherited, other])

end Enumerating

/-- An enumeration has begun, and then the application closes the socket. -/
def closures : List (Step (Exposed Small.Outside)) :=
  [.ask (.start 0 Small.users), .change fun exposed => { exposed with isClosed := true }]

theorem closures_reach :
    ∃ (past : List Happening) (world : World (Exposed Small.Outside)) (contexts : Contexts)
      (link : Link), Run (fun _ => True) past world contexts ∧ world.session.link = some link ∧
      link.IsLost world.outside ∧ world.session.isInherited link world.outside = false ∧
      told (contexts 0) world.session link = some (.abandon link.connection ⟨0⟩) ∧
      told (contexts 1) world.session link = none := by
  have ran : (replay closures [] { outside := ⟨{}, none, false⟩ } fun _ => {}).map (fun out =>
      (out.2.1.outside.isClosed, (out.2.2 0).outstanding out.2.1.session,
        (out.2.2 1).outstanding out.2.1.session, out.2.1.session.link.map fun link =>
          out.2.1.session.isInherited link out.2.1.outside)) =
      some (true, some ⟨0⟩, none, some false) := by decide +kernel
  obtain ⟨⟨past, world, contexts⟩, replayed, shown⟩ := Option.map_eq_some_iff.mp ran
  obtain ⟨closed, first, second, shown⟩ : _ ∧ _ ∧ _ ∧ _ := by simpa using shown
  obtain ⟨link, held, own⟩ := shown
  have begun : Run (fun _ => True) []
      ({ outside := ⟨{}, none, false⟩ } : World (Exposed Small.Outside)) fun _ => {} :=
    .begin _
  have run := begun.of_replay (fun _ _ => trivial) replayed
  refine ⟨past, world, contexts, link, run, held, Or.inr closed, own, ?_, ?_⟩
  · simp [told, first]
  · simp [told, second]

/-- Where no search is in progress, a connection that was lost is given up without a word. -/
theorem lost_spared_idle :
    ∃ (past : List Happening) (world : World (Exposed Small.Outside)) (contexts : Contexts)
      (link : Link), Run (fun _ => True) past world contexts ∧ world.session.link = some link ∧
      link.IsLost world.outside ∧
      ∃ contexts' later, (Request.start 1 Small.users).serve contexts world.fresh =
          some (contexts', later) ∧
        callsOn link.connection later.history = [.forget link.connection] := by
  obtain ⟨past, world, contexts, link, run, held, lost, own, -, idle⟩ := closures_reach
  obtain ⟨contexts', later, served, -, forgot⟩ := (lost_spared_iff run held lost 1 Small.users).1
  exact ⟨past, world, contexts, link, run, held, lost, contexts', later, served,
    forgot.mpr ⟨by simp [own], idle⟩⟩

/-- Where one is in progress, the server is told on the socket of somebody else. -/
theorem lost_spared_busy :
    ∃ (past : List Happening) (world : World (Exposed Small.Outside)) (contexts : Contexts)
      (link : Link), Run (fun _ => True) past world contexts ∧ world.session.link = some link ∧
      link.IsLost world.outside ∧
      (∃ contexts' later, (Request.start 0 Small.users).serve contexts world.fresh =
          some (contexts', later) ∧ ¬ Silent link.connection later.history) ∧
      ∃ contexts' later, (Request.stop 0).serve contexts world.fresh = some (contexts', later) ∧
        ¬ Silent link.connection later.history := by
  obtain ⟨past, world, contexts, link, run, held, lost, own, busy, -⟩ := closures_reach
  obtain ⟨started, begun, starts⟩ := start_served world.fresh contexts 0 Small.users
  obtain ⟨stopped, ended, stops, calls⟩ := stop_calls held 0
  refine ⟨past, world, contexts, link, run, held, lost, ⟨started, begun, starts, ?_⟩,
    stopped, ended, stops, ?_⟩
  · exact not_silent ((start_calls run held lost starts).2.2 own _ busy) rfl
  · have told : .abandon link.connection ⟨0⟩ ∈ callsOn link.connection ended.history := by
      simp [calls, own, busy]
    exact not_silent told rfl

end Directory

end NameService
