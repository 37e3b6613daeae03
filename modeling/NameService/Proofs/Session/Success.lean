import NameService.Proofs.Session.Opens

/-!
Operations that have succeeded. Whatever was tried before, the last trial was made in one go at one
server, and after it the session has only noted the time. What lasts is true when that trial begins.
Where no call fails that has to do with connections, an operation comes to what it comes to at every
server.

## Main results

- `run_succeeds`: what has succeeded at some server has succeeded there as a whole.
- `run_toOption`: what an operation comes to wherever it is tried, it comes to.
-/

namespace NameService.Failover

open Engine

variable {σ α : Type} [Service σ] {operation : Action σ α}

/-- The operation has come to an end with a value, and the time was noted. -/
def Succeeded (operation : Action σ α) (value : α) (later : World σ) : Prop :=
  ∃ begun ended, operation.run begun = some (.ok value, ended) ∧
    later = { ended with session := ended.session.touch (Service.clock ended.outside) }

/-- The operation has succeeded from a world on of which something is known. -/
def SucceededFrom (holds : World σ → Prop) (operation : Action σ α) (value : α)
    (later : World σ) : Prop :=
  ∃ begun ended, holds begun ∧ operation.run begun = some (.ok value, ended) ∧
    later = { ended with session := ended.session.touch (Service.clock ended.outside) }

section Succeeding

variable {holds : World σ → Prop} (lasting : World.Lasting holds)
  (keeps : ∀ world, holds world → Ends world operation.run fun _ => holds)
include lasting keeps

theorem trial_succeeds {world : World σ} (start : holds world) :
    Ends world (trial operation).run fun result later => holds later ∧
      ∀ value, result = .ok value →
        ∃ begun, holds begun ∧ operation.run begun = some (.ok value, later) := by
  have connects := (Session.establish_lasts lasting.toSteady).ends start
  refine connects.action_bind ?_ ?_
  · intro _ begun start result later ran
    refine ⟨keeps begun start result later ran, ?_⟩
    rintro value rfl
    exact ⟨begun, start, ran⟩
  · intro error later kept
    exact ⟨kept, nofun⟩

theorem round_succeeds (last : Option Error) (servers : Nat) {world : World σ}
    (start : holds world) : Ends world (round operation last servers) fun result later =>
      holds later ∧
        ∀ value, result = .settled (.ok value) → SucceededFrom holds operation value later := by
  induction servers generalizing last world with
  | zero => exact .pure ⟨start, by simp⟩
  | succ servers ih =>
    refine (trial_succeeds lasting keeps start).bind fun result later tried => ?_
    obtain ⟨kept, tried⟩ := tried
    cases result with
    | ok value =>
      obtain ⟨begun, start, ran⟩ := tried value rfl
      refine .bind_run (run_touch later) (.pure ⟨lasting.touch later _ kept, ?_⟩)
      rintro _ ⟨⟩
      exact ⟨begun, later, start, ran, rfl⟩
    | error error =>
      dsimp only
      split
      · -- The server is lost. What lasts is not touched by the way to the next one.
        have closed := (close_lasts lasting.toTended).ends kept
        refine closed.bind fun _ closed kept => .bind_run (run_update closed _) ?_
        exact ih (some error) (lasting.advance closed kept)
      · exact .pure ⟨kept, by simp⟩

theorem rounds_succeed (policy : Policy) (servers : Nat) (last : Option Error)
    (attempt attempts : Nat) {world : World σ} (start : holds world) :
    Ends world (rounds policy servers operation last attempt attempts).run fun result later =>
      ∀ value, result = .ok value → SucceededFrom holds operation value later := by
  induction attempts generalizing last attempt world with
  | zero => exact .of_run (run_throw world (unreachable last)) (by simp)
  | succ attempts ih =>
    rw [rounds]
    -- The wait before an attempt has no part in its result.
    have waits := (wait_lasts lasting.toTended policy attempt).ends start
    refine waits.lift_bind fun _ world start => ?_
    refine (round_succeeds lasting keeps last servers start).lift_bind ?_
    rintro result later ⟨kept, settled⟩
    cases result with
    | exhausted last => exact ih last (attempt + 1) kept
    | settled result =>
      cases result with
      | error error => exact .of_run (run_throw later error) (by simp)
      | ok value =>
        refine .pure ?_
        rintro _ ⟨⟩
        exact settled value rfl

/-- What has succeeded at some server has succeeded there as a whole, from a world on that was what
    all worlds are. -/
theorem run_succeeds_from {world : World σ} (start : holds world) :
    Ends world (run operation).run fun result later =>
      ∀ value, result = .ok value → SucceededFrom holds operation value later := by
  have ready := (Session.ensureReady_lasts lasting).ends start
  refine ready.action_bind (fun _ world start => ?_) (by simp)
  refine (Lasts.config.ends start).action_bind (fun config world start => ?_) (by simp)
  refine ((Lasts.observe _).lift.ends start).action_bind (fun soft world start => ?_) (by simp)
  exact rounds_succeed lasting keeps _ _ none 0 _ start

end Succeeding

/-- What has succeeded at some server has succeeded there as a whole. -/
theorem run_succeeds (world : World σ) : Ends world (run operation).run fun result later =>
    ∀ value, result = .ok value → Succeeded operation value later := by
  have keeps (begun : World σ) (_ : True) : Ends begun operation.run fun _ _ => True := .any
  have start : (fun _ : World σ => True) world := trivial
  refine (run_succeeds_from World.lasting_true keeps start).mono fun _ _ succeeded value same => ?_
  obtain ⟨begun, ended, -, ran, noted⟩ := succeeded value same
  exact ⟨begun, ended, ran, noted⟩

/-! ### Operations with one result -/

variable {config : Config}

/-- Wherever it has a connection, the operation comes to this result. -/
def Serves (config : Config) (operation : Action σ α) (result : Except Error α) : Prop :=
  ∀ (world : World σ) (loaded : Loaded) (link : Link), world.session.loaded = some loaded →
    loaded.config = config → world.session.link = some link →
      ∃ later, operation.run world = some (result, later)

variable (opens : Service.Opens σ config)
include opens

/-- What lasts is true when the operation is tried with a connection at hand. A value that it gives
    there is given. -/
theorem run_once (operation : Action σ α) {holds : World σ → Prop}
    (lasting : World.Lasting holds) {world : World σ}
    (suits : world.session.Suits config) (start : holds world) :
    ∃ connected loaded link, holds connected ∧ connected.session.loaded = some loaded ∧
      loaded.config = config ∧ connected.session.link = some link ∧
      ∀ value ended, operation.run connected = some (.ok value, ended) →
        (run operation).run world = some (.ok value, ended.touched) := by
  obtain ⟨begun, loaded, ready, configured, same, suits⟩ := Session.ensureReady_suits opens suits
  obtain ⟨connected, ran, held, configured'⟩ :=
    Session.establish_opens opens configured suits.placed
  obtain ⟨link, held⟩ := Option.isSome_iff_exists.mp held
  have start := (Session.ensureReady_lasts lasting).ends start _ begun ready
  have start := (Session.establish_lasts lasting.toSteady).ends start _ connected ran
  refine ⟨connected, loaded, link, start, configured', same, held, fun value ended served => ?_⟩
  have tried : (trial operation).run begun = some (.ok value, ended) := by
    simp [trial, ran, served]
  exact run_of_trial ready configured tried

/-- A value that is given at one server is given. -/
theorem run_of_serves {value : α} (serves : Serves config operation (.ok value)) {world : World σ}
    (suits : world.session.Suits config) :
    ∃ later, (run operation).run world = some (.ok value, later) := by
  obtain ⟨connected, loaded, link, -, configured, same, held, given⟩ :=
    run_once opens operation World.lasting_true suits trivial
  obtain ⟨ended, served⟩ := serves connected loaded link configured same held
  exact ⟨_, given value ended served⟩

/-- What an operation comes to wherever it has a connection, it comes to when servers are tried.
    Only of an error something else may be told than what it was. -/
theorem run_toOption {result : Except Error α} (serves : Serves config operation result)
    (gives : ∀ world : World σ, world.session.Suits config →
      Ends world operation.run fun outcome _ => ∀ value, outcome = .ok value → result = .ok value)
    (lasts : Lasts (fun world => world.session.Suits config) operation.run) {world : World σ}
    (suits : world.session.Suits config) :
    ∃ outcome later, (run operation).run world = some (outcome, later) ∧
      outcome.toOption = result.toOption := by
  cases result with
  | ok value =>
    obtain ⟨later, ran⟩ := run_of_serves opens serves suits
    exact ⟨_, later, ran, rfl⟩
  | error error =>
    obtain ⟨outcome, later, ran⟩ := run_halts lasts.halts world
    refine ⟨outcome, later, ran, ?_⟩
    cases outcome with
    | error _ => rfl
    | ok value =>
      -- A trial that had given a value would have given it at one server.
      have lasting := (Session.suits_lasting opens).world
      have succeeds := run_succeeds_from lasting (fun _ start => lasts.ends start) suits
      obtain ⟨begun, ended, start, served, -⟩ := succeeds _ later ran value rfl
      cases gives begun start _ ended served value rfl

end NameService.Failover
