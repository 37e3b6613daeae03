import NameService.Proofs.Engine.Runs

/-!
Sessions that nothing comes between. In a calm world there is nothing to be found by a look for
hazards, and what a session holds stays as it is.
-/

namespace NameService

variable {σ : Type} [Service σ]

/-- None of the hazards has come to the connection that is held, nor any change to the
    configuration. -/
structure World.Calm (world : World σ) : Prop where
  unforked : world.session.forked = false
  unchanged : world.session.loaded.bind Loaded.modified = Service.modified world.outside
  sound : ∀ link, world.session.held = some link → link.isStolen world.outside = false
  opened : ∀ link, world.session.held = some link →
    Service.isClosed link.connection world.outside = false
  own : ∀ link, world.session.held = some link →
    link.owner = some (Service.processId world.outside)
  familiar : ∀ link, world.session.held = some link → link.isForOther world.outside = false
  busy : ∀ link, world.session.link = some link →
    link.isIdle world.session.idleLimit world.outside = false

instance (world : World σ) : Decidable world.Calm :=
  decidable_of_iff
    (world.session.forked = false ∧
      world.session.loaded.bind Loaded.modified = Service.modified world.outside ∧
      (∀ link ∈ world.session.held, link.isStolen world.outside = false ∧
        Service.isClosed link.connection world.outside = false ∧
        link.owner = some (Service.processId world.outside) ∧
        link.isForOther world.outside = false) ∧
      ∀ link ∈ world.session.link, link.isIdle world.session.idleLimit world.outside = false)
    ⟨fun ⟨unforked, unchanged, spared, busy⟩ => {
        unforked := unforked
        unchanged := unchanged
        sound := fun link held => (spared link held).1
        opened := fun link held => (spared link held).2.1
        own := fun link held => (spared link held).2.2.1
        familiar := fun link held => (spared link held).2.2.2
        busy := busy },
      fun calm => ⟨calm.unforked, calm.unchanged, fun link held =>
        ⟨calm.sound link held, calm.opened link held, calm.own link held, calm.familiar link held⟩,
        calm.busy⟩⟩

/-- A connection that has done a service just now has not been idle. -/
theorem Link.busy_of_now {link : Link} {outside : σ} (limit : Option Nat)
    (now : link.lastActivity = some (Service.clock outside)) :
    link.isIdle limit outside = false := by
  cases limit <;> simp [isIdle, now]

namespace World

/-- The world after a look for hazards that has found none. -/
def looked (world : World σ) : World σ := { world with look := some world.stand }

variable {world later : World σ}

/-- It is the session and what it sees of the world that are calm. -/
theorem Calm.of_view (calm : world.Calm) (session : later.session = world.session)
    (view : Service.view later.outside = Service.view world.outside) : later.Calm := by
  have process := congrArg View.processId view
  have user := congrArg View.effectiveUser view
  have clock := congrArg View.clock view
  have socket := fun connection => congrFun (congrArg View.socket view) connection
  have isClosed := fun connection => congrFun (congrArg View.isClosed view) connection
  have modified := congrArg View.modified view
  simp only [Service.view] at process user clock socket isClosed modified
  obtain ⟨unforked, unchanged, sound, opened, own, familiar, busy⟩ := calm
  constructor <;>
    simp_all only [Link.isStolen, Link.isForOther, Link.isIdle, implies_true]

/-- No hazard comes while so many queries are answered, whichever they are, as long as none of them
    loses the server. -/
def Quiet : Nat → World σ → Prop
  | 0, world => world.Calm
  | queries + 1, world =>
    world.Calm ∧ ∀ call : Call, call.isQuery → call.loses? (world.answer call) = none →
      Quiet queries (world.after call)

theorem Quiet.calm : ∀ {queries : Nat} {world : World σ}, Quiet queries world → world.Calm
  | 0, _, quiet => quiet
  | _ + 1, _, quiet => quiet.1

theorem Quiet.after {queries : Nat} (quiet : Quiet (queries + 1) world) {call : Call}
    (query : call.isQuery) (spared : call.loses? (world.answer call) = none) :
    Quiet queries (world.after call) :=
  quiet.2 call query spared

theorem Quiet.of_succ : ∀ {queries : Nat} {world : World σ}, Quiet (queries + 1) world →
    Quiet queries world
  | 0, _, quiet => quiet.calm
  | _ + 1, _, quiet =>
    ⟨quiet.calm, fun _ query spared => (quiet.after query spared).of_succ⟩

/-- A look for hazards does not disturb the quiet. -/
theorem Quiet.of_same : ∀ {queries : Nat} {world later : World σ}, Quiet queries world →
    later.session = world.session → later.outside = world.outside → Quiet queries later
  | 0, _, _, quiet, session, outside => quiet.of_view session (congrArg Service.view outside)
  | _ + 1, world, later, quiet, session, outside => by
    refine ⟨quiet.calm.of_view session (congrArg Service.view outside),
      fun call query spared => ?_⟩
    have answered : later.answer call = world.answer call := by simp only [answer, outside]
    refine (quiet.after query (answered ▸ spared)).of_same session ?_
    simp only [World.after, outside]

end World

namespace Session

open Engine

variable {world : World σ}

theorem run_loadFirst (configured : world.session.loaded.isSome) :
    (loadFirst : Action σ Unit).run world = some (.ok (), world) := by
  simp [loadFirst, Option.isSome_iff_ne_none.mp configured]

theorem run_dropUnfit_calm (calm : world.Calm) : dropUnfit world = some ((), world) := by
  cases held : world.session.held with
  | none => exact run_dropUnfit_bare held
  | some link =>
    have own : world.session.isInherited link world.outside = false := by
      simp [isInherited, calm.unforked, calm.own link held]
    simp [run_dropUnfit held, calm.sound link held, calm.opened link held, own,
      calm.familiar link held]

theorem run_closeIdle_calm (calm : world.Calm) : closeIdle world = some ((), world) := by
  cases held : world.session.link with
  | none => exact run_closeIdle_free held
  | some link => simp [run_closeIdle held, calm.busy link held]

theorem run_refresh_calm (calm : world.Calm) :
    (refresh : Action σ Unit).run world = some (.ok (), world) := by
  simp [refresh, calm.unchanged]

/-- In a calm world a look for hazards finds nothing. -/
theorem run_ensureReady_calm (calm : world.Calm) (configured : world.session.loaded.isSome) :
    (ensureReady : Action σ Unit).run world =
      some (.ok (), world.looked) := by
  have looked : world.looked.Calm := calm.of_view rfl rfl
  -- No fork is marked, and there is nothing to clear.
  have spared : world.session.clearFork = world.session := by
    simp [Session.clearFork, ← calm.unforked]
  simp only [World.looked] at looked
  simp [ensureReady, inspect, run_loadFirst configured, run_dropUnfit_calm looked, spared,
    run_closeIdle_calm looked, run_refresh_calm looked, World.looked]

end Session

end NameService
