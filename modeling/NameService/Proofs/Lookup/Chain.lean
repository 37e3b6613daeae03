import NameService.Proofs.Engine.Host
import NameService.Proofs.Failover.Mending
import NameService.Proofs.Lookup.Faults

/-!
The chain of searches for an answer. The parts of the tree are searched one after the other, all of
them on one connection: when its server is lost, the next one is asked about every part again. So an
answer never has one part from one server and another from the next, and no part is left out.

## Main result

`Lookup.entries_chain`: the entries of an answer are what one search gave, and before it every part
that comes first was searched on the same connection and had none.
-/

namespace NameService

namespace Lookup

variable (lookup : Lookup) (config : Config) (connection : Connection)

/-- The parts of the tree that come before an index were searched on a connection, one after the
    other, and nothing matched in them. The latest search comes first. -/
inductive Passed : Nat → List Event → Prop
  | begin : Passed 0 []
  | pass {index : Nat} {search : Search} {event : Event} {events : List Event}
    (passed : Passed index events) (asks : lookup.search? config index = .ok (some search))
    (sent : event.call = .search connection search) (silent : event.gives? = some []) :
    Passed (index + 1) (event :: events)

/-- The searches that were sent on a connection for an answer, the latest first. -/
inductive Chain : List Entry → List Event → Prop
  | unmatched {events : List Event}
    (passed : Passed lookup config connection (lookup.targets config).length events) :
    Chain [] events
  | matched {index : Nat} {search : Search} {entries : List Entry} {stand : Stand}
    {look : Option Stand} {events : List Event} (found : entries ≠ [])
    (asks : lookup.search? config index = .ok (some search))
    (passed : Passed lookup config connection index events) :
    Chain entries (⟨.search connection search, .ok entries, stand, look⟩ :: events)

variable {lookup config connection}

theorem search?_of_target {target : Target} {index : Nat}
    (there : (lookup.targets config)[index]? = some target) :
    lookup.search? config index = (lookup.search config target).map some := by
  rw [search?, there]

theorem lt_of_search? {index : Nat} {search : Search}
    (asks : lookup.search? config index = .ok (some search)) :
    index < (lookup.targets config).length := by
  refine Nat.lt_of_not_le fun beyond => ?_
  have missing := List.getElem?_eq_none beyond
  simp [search?, missing] at asks

theorem Passed.le {index : Nat} {events : List Event}
    (passed : Passed lookup config connection index events) :
    index ≤ (lookup.targets config).length := by
  cases passed with
  | begin => exact Nat.zero_le _
  | pass _ asks => exact lt_of_search? asks

/-- A part of the tree that a question names itself is the only one it is asked about, and so is the
    one that is set for all databases if none is set for its own. -/
theorem targets_single (lookup : Lookup) (config : Config)
    (plain : config.descriptors lookup.database = []) :
    lookup.targets config = [⟨lookup.base.getD config.base, config.scope, none⟩] := by
  rw [targets, plain]

theorem targets_under (lookup : Lookup) (config : Config) (base : String) :
    (lookup.under base).targets config = [⟨base, config.scope, none⟩] :=
  targets_single _ config rfl

open Engine World

variable {σ : Type} [Service σ]

/-- What is left of the parts is searched where those before it were. -/
theorem searchTargets_chain {link : Link} {older : List Event} (targets : List Target) {index : Nat}
    {events : List Event} {world : World σ} (held : world.session.link = some link)
    (rest : (lookup.targets config).drop index = targets)
    (passed : Passed lookup config link.connection index events)
    (since : world.history = events ++ older) :
    Ends world (lookup.searchTargets config targets : Action σ (List Entry)).run
      fun result later => later.session = world.session ∧ ∀ entries, result = .ok entries →
        ∃ searches, later.history = searches ++ older ∧
          Chain lookup config link.connection entries searches := by
  induction targets generalizing index events world with
  | nil =>
    -- All parts have been passed.
    obtain rfl : index = (lookup.targets config).length :=
      Nat.le_antisymm passed.le (List.drop_eq_nil_iff.mp rest)
    refine .pure ⟨rfl, ?_⟩
    rintro _ ⟨⟩
    exact ⟨events, since, .unmatched passed⟩
  | cons target targets ih =>
    have there : (lookup.targets config)[index]? = some target := by
      rw [← List.head?_drop, rest, List.head?_cons]
    have rest : (lookup.targets config).drop (index + 1) = targets := by
      rw [← List.tail_drop, rest, List.tail_cons]
    rw [searchTargets]
    cases asked : lookup.search config target with
    | error error => exact .of_run rfl ⟨rfl, by simp⟩
    | ok search =>
      have asks : lookup.search? config index = .ok (some search) := by
        rw [search?_of_target there, asked]
        rfl
      let call := Call.search link.connection search
      have sent : (lift (perform call) : Action σ _).run world =
          some (.ok (world.answer call), world.after call) := by
        simp
      refine .action_bind_run rfl (.action_bind_run (by rw [run_connection, held]) ?_)
      refine .action_bind_run sent ?_
      let event : Event := ⟨call, world.answer call, world.stand, world.look⟩
      have since : (world.after call).history = event :: (events ++ older) := by
        rw [← since]
        rfl
      -- The next part is searched only if there was nothing in this one.
      have goesOn (silent : event.gives? = some []) :
          Ends (world.after call) (lookup.searchTargets config targets : Action σ _).run
            fun result later => later.session = world.session ∧ ∀ entries, result = .ok entries →
              ∃ searches, later.history = searches ++ older ∧
                Chain lookup config link.connection entries searches :=
        ih held rest (passed.pass asks rfl silent) since
      cases answered : world.answer call with
      | ok entries =>
        cases entries with
        | nil => exact goesOn (by simp [event, Event.gives?, answered, Call.gives?, call])
        | cons entry entries =>
          refine .pure ⟨rfl, ?_⟩
          rintro _ ⟨⟩
          simp only [event, answered] at since
          exact ⟨_, since, .matched (List.cons_ne_nil _ _) asks passed⟩
      | error error =>
        by_cases missing : error.status = .notFound
        · simp only [missing, if_true]
          exact goesOn (by simp [event, Event.gives?, answered, Call.gives?, call, missing])
        · simp only [missing, if_false]
          exact .of_run (run_throw _ error) ⟨rfl, by simp⟩

/-- The searches for an answer, after all that had happened before them, are on the connection that
    is held now. -/
def Answered (lookup : Lookup) (base : List Event) (entries : List Entry) (later : World σ) :
    Prop :=
  ∃ loaded link searches older, later.session.loaded = some loaded ∧
    later.session.link = some link ∧ base <:+ older ∧ later.history = searches ++ older ∧
    Chain lookup loaded.config link.connection entries searches

/-- Without a connection there is no answer. -/
theorem searchTargets_free {world : World σ} (free : world.session.link = none)
    (targets : List Target) (any : targets ≠ []) :
    Ends world (lookup.searchTargets config targets : Action σ (List Entry)).run
      fun result _ => ∀ entries, result ≠ .ok entries := by
  obtain ⟨target, targets, rfl⟩ := List.exists_cons_of_ne_nil any
  rw [searchTargets]
  cases asked : lookup.search config target with
  | error error => exact .of_run rfl (by simp)
  | ok search =>
    have fails {rest : Connection → Action σ (List Entry)} : (connection >>= rest).run world =
        some (.error (.unavailable "no directory connection"), world) := by
      simp [free]
    exact .action_bind_run rfl (.of_run fails (by simp))

theorem searchOnce_chain (lookup : Lookup) (base : List Event) :
    Yields (fun world : World σ => base <:+ world.history) lookup.searchOnce
      (lookup.Answered base) := by
  intro world grown
  have grows : Ends world (lookup.searchOnce : Action σ (List Entry)).run fun _ later =>
      base <:+ later.history :=
    (searchOnce_lasts (fun _ _ _ grown => grown.trans (List.suffix_cons _ _)) lookup).ends grown
  have answers : Ends world (lookup.searchOnce : Action σ (List Entry)).run fun result later =>
      ∀ entries, result = .ok entries → lookup.Answered base entries later := by
    cases configured : world.session.loaded with
    | none =>
      have ran : (lookup.searchOnce : Action σ (List Entry)).run world =
          some (.error (.configuration "directory session not initialized"), world) := by
        simp [searchOnce, configured]
      exact .of_run ran (by simp)
    | some loaded =>
      refine .action_bind_run (by rw [run_config, configured]) ?_
      -- Without a connection there is no answer, whatever is asked.
      cases held : world.session.link with
      | none =>
        refine (searchTargets_free held _ (lookup.targets_ne_nil _)).mono ?_
        exact fun result _ failed entries same => absurd same (failed entries)
      | some link =>
        refine (searchTargets_chain _ held rfl .begin rfl).mono ?_
        rintro result later ⟨same, chain⟩ entries answered
        obtain ⟨searches, since, chain⟩ := chain entries answered
        exact ⟨loaded, link, searches, world.history, by rw [same, configured], by rw [same, held],
          grown, since, chain⟩
  exact fun result later ran => ⟨grows result later ran, answers result later ran⟩

/-- An answer comes from one server, which was asked about all parts of the tree that come before
    the one where something matched, or about all parts if nothing did. -/
theorem entries_chain (lookup : Lookup) :
    (∀ world : World σ, ∃ result later, (lookup.entries : Action σ (List Entry)).run world =
        some (result, later) ∧ ∀ entries, result = .ok entries →
      ∃ loaded link searches older, later.session.loaded = some loaded ∧
        later.session.link = some link ∧ world.history <:+ older ∧
        later.history = searches ++ older ∧
        Chain lookup loaded.config link.connection entries searches) ∧
    (∀ config, config.descriptors lookup.database = [] →
      lookup.targets config = [⟨lookup.base.getD config.base, config.scope, none⟩]) ∧
    ∀ config base, (lookup.under base).targets config = [⟨base, config.scope, none⟩] := by
  refine ⟨fun world => ?_, lookup.targets_single, lookup.targets_under⟩
  obtain ⟨result, later, ran⟩ := lookup.entries_halts world
  have answers : Yields (fun later : World σ => world.history <:+ later.history) lookup.entries
      (lookup.Answered world.history) := by
    refine Failover.run_mends (grown_lasting _).mending (lookup.searchOnce_chain _).leads.owes ?_
    -- To note the time changes no connection.
    rintro entries world now ⟨loaded, link, searches, older, configured, held, rest⟩
    exact ⟨loaded, { link with lastActivity := now }, searches, older, configured,
      by simp [held], rest⟩
  exact ⟨result, later, ran, (answers world (List.suffix_refl _) result later ran).2⟩

/-- Nobody is on the staff. -/
def unstaffed (search : Search) : Reply :=
  match search.scope with
  | .subtree => ⟨[], 0, "", none⟩
  | _ => ⟨[some Small.bob], 0, "", none⟩

/-- The connections that searches were sent on. -/
def searchedOn (history : List Event) : List Connection :=
  history.filterMap fun event => if event.call.isQuery then event.call.connection? else none

/-- The first server is lost when it is asked about the second part of the tree, and the second
    server is asked about both. -/
theorem entries_chain_anew :
    ∃ (later : World (Frail (Host Small.config unstaffed) (resetAt 4))) (loaded : Loaded)
      (searches older : List Event),
      (Small.users.entries : Action _ _).run { outside := ⟨{}, 0⟩ } =
        some (.ok [Small.bob], later) ∧
      searchedOn later.history = [⟨2⟩, ⟨2⟩, ⟨1⟩, ⟨1⟩] ∧ later.history = searches ++ older ∧
      Chain Small.users loaded.config ⟨2⟩ [Small.bob] searches := by
  obtain ⟨result, later, ran, chain⟩ := (entries_chain Small.users).1
    ({ outside := ⟨{}, 0⟩ } : World (Frail (Host Small.config unstaffed) (resetAt 4)))
  have shown : ((Small.users.entries : Action _ _).run
      ({ outside := ⟨{}, 0⟩ } : World (Frail (Host Small.config unstaffed) (resetAt 4)))).map
        (fun (result, later) =>
          (result.toOption, later.session.link.map Link.connection, searchedOn later.history)) =
      some (some [Small.bob], some ⟨2⟩, [⟨2⟩, ⟨2⟩, ⟨1⟩, ⟨1⟩]) := by decide +kernel
  rw [ran] at shown
  obtain ⟨answer, ⟨link, held, same⟩, asked⟩ : _ ∧ _ ∧ _ := by simpa using shown
  obtain rfl : result = .ok [Small.bob] := by
    cases result with
    | ok entries => exact congrArg _ (Option.some.inj answer)
    | error error => cases answer
  obtain ⟨loaded, link', searches, older, -, held', -, since, chain⟩ := chain _ rfl
  obtain rfl : link' = link := by simpa [held] using held'.symm
  exact ⟨later, loaded, searches, older, ran, asked, since, same ▸ chain⟩

end Lookup

end NameService
