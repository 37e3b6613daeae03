import NameService.Proofs.Session.Moves
import NameService.Failover

/-!
How a session conducts itself. Each action of the session and of its failover goes along a path of
moves, so every one of them does only what its moves allow. The one place where hazards are looked
for is `ensureReady`, and what it leaves behind is kept by everything that follows it in the same
call.

## Main results

- `Session.ensureReady_goes`: a session that has looked for hazards is ready.
- `Failover.run_keeps`: an operation that keeps the session ready may be tried at any server.
-/

namespace NameService

open Engine World

variable {σ : Type} [Service σ]

namespace Session

variable {world : World σ}

theorem load_goes (bare : world.session.held = none) :
    Goes world (load : Action σ Unit).run fun result later =>
      later.session.held = none ∧ later.connections = world.connections ∧
        later.look = world.look ∧ later.session.forked = world.session.forked ∧
        ∀ done, result = .ok done → later.session.loaded.isSome ∧
          (Service.Steady σ → later.session.loaded.bind Loaded.modified =
            Service.modified later.outside) := by
  cases answered : world.answer .load with
  | error error =>
    refine .step (by rw [run_load, answered]) (.read world) ?_
    simp [bare]
  | ok config =>
    -- A configuration without servers is refused, and the one before it stays.
    by_cases empty : config.uris.isEmpty
    · refine .step (by rw [run_load, answered]; simp only [empty, if_true]; rfl) (.read world) ?_
      simp [bare]
    · refine .of_run (by rw [run_load, answered]; simp only [empty]; rfl) ⟨?_, ?_⟩
      · have read : Path world (world.after .load) := .single (.read world)
        exact read.tail (.adopt (by simpa using bare) _)
      · -- The time was taken before the text was read. On a steady host it is the same after it.
        refine ⟨bare, rfl, rfl, rfl, fun _ _ => ⟨rfl, fun steady => ?_⟩⟩
        simp [World.after, Session.adopt, steady.modified]

/-- What is held after a look has not changed since, and has no hazard but age. -/
structure Screened (world : World σ) : Prop extends world.Regular where
  configured : world.session.loaded.isSome
  looked : ∃ look, world.look = some look ∧ look.connections ≤ world.connections ∧
    ∀ link, world.session.held = some link →
      look.session = world.session ∧ look.view = Service.view world.outside ∧
        link.isStolen world.outside = false ∧
        Service.isClosed link.connection world.outside = false ∧
        world.session.isInherited link world.outside = false ∧
        link.isForOther world.outside = false

private theorem screened_of_bare {look : Stand} (bare : world.session.held = none)
    (configured : world.session.loaded.isSome) (looked : world.look = some look)
    (before : look.connections ≤ world.connections) : Screened world where
  toRegular := .of_bare bare
  configured := configured
  looked := ⟨look, looked, before, by simp [bare]⟩

private theorem screened_drop (part : Connection → Call) (configured : world.session.loaded.isSome)
    (looked : world.look = some world.stand) : Screened (world.drop part) :=
  screened_of_bare (by simp) (by simpa using configured)
    (by simpa using looked) (by simp [World.stand])

theorem dropUnfit_goes (regular : world.Regular) (configured : world.session.loaded.isSome)
    (looked : world.look = some world.stand) :
    Goes world dropUnfit fun _ later => Screened later := by
  cases held : world.session.held with
  | none =>
    refine .stay (run_dropUnfit_bare held) ?_
    exact screened_of_bare held configured looked (Nat.le_refl _)
  | some link =>
    have ran := run_dropUnfit held
    split at ran
    · exact .step ran (.forget world) (screened_drop _ configured looked)
    · next sound =>
      split at ran
      · exact .step ran (.disconnect world) (screened_drop _ configured looked)
      · next familiar =>
        -- Nothing was found, so what the look has seen is still as it was.
        refine .stay ran ⟨regular, configured, world.stand, looked, Nat.le_refl _, ?_⟩
        intro link' held'
        obtain rfl : link = link' := Option.some.inj (held.symm.trans held')
        simp only [not_or, Bool.not_eq_true] at sound familiar
        exact ⟨rfl, rfl, sound.1, sound.2, familiar.1, familiar.2⟩

theorem Screened.unforked (screened : Screened world) {link : Link}
    (held : world.session.held = some link) : world.session.forked = false := by
  obtain ⟨look, -, -, passed⟩ := screened.looked
  obtain ⟨-, -, -, -, own, -⟩ := passed link held
  simp [isInherited] at own
  exact own.1

theorem Screened.clearFork (screened : Screened world) :
    Screened { world with session := world.session.clearFork } := by
  obtain ⟨look, looked, before, passed⟩ := screened.looked
  refine ⟨?_, screened.configured, look, looked, before, ?_⟩
  · exact ⟨screened.coherent, screened.bound, screened.timed⟩
  intro link held
  -- With a connection at hand no mark is set, and there is nothing to clear.
  have same : world.session.clearFork = world.session := by
    simp [Session.clearFork, ← screened.unforked held]
  simpa only [same] using passed link held

theorem Screened.owning (screened : Screened world) : world.Owning where
  toRegular := screened.toRegular
  own link held := by
    obtain ⟨look, -, -, passed⟩ := screened.looked
    exact (passed link held).2.2.2.2.1

/-- What is screened and has not been idle for too long is fit. -/
theorem Screened.fit (screened : Screened world) (unforked : world.session.forked = false)
    (busy : ∀ link, world.session.held = some link →
      link.isIdle world.session.idleLimit world.outside = false) : world.Fit := by
  obtain ⟨look, looked, before, passed⟩ := screened.looked
  have own : ∀ link, world.session.held = some link →
      link.owner = some (Service.processId world.outside) := by
    intro link held
    simpa [isInherited, unforked] using screened.owning.own link held
  refine ⟨screened.toRegular, screened.configured, unforked, own, ⟨look, looked, before, ?_⟩, ?_⟩
  · intro link held
    obtain ⟨session, view, sound, opened, -, -⟩ := passed link held
    -- The look has seen this very connection, and age is the last of the hazards.
    obtain ⟨last, timed⟩ := Option.isSome_iff_exists.mp (screened.timed link held)
    refine Or.inr ⟨link, last, ?_⟩
    rw [session, view]
    refine ⟨screened.link_eq.trans held, rfl, unforked, own link held, opened, ?_, timed, ?_⟩
    · intro recorded
      have kept : Service.socket link.connection world.outside = link.socket := by
        simpa [Link.isStolen, recorded] using sound
      exact kept
    · intro limit limited
      have recent := busy link held
      simp only [Link.isIdle, limited, timed, decide_eq_false_iff_not, Nat.not_lt] at recent
      exact recent
  · intro _ link held
    exact (passed link held).2.2.2.2.2

theorem closeIdle_goes (screened : Screened world) (unforked : world.session.forked = false) :
    Goes world closeIdle fun _ later => later.Fit := by
  cases held : world.session.held with
  | none =>
    refine .stay (run_closeIdle_free (link_of_bare held)) (screened.fit unforked ?_)
    simp [held]
  | some link =>
    have ran := run_closeIdle (screened.link_eq.trans held)
    split at ran
    · obtain ⟨look, looked, before, -⟩ := screened.looked
      refine .step ran (.unbind screened.owning) ?_
      -- The connection was too old. Without it the session is fit.
      refine fit_of_bare ?_ ?_ ?_ ((drop_look _).trans looked) (by simpa using before)
      · simp
      · simpa using screened.configured
      · simpa using unforked
    · next busy =>
      refine .stay ran (screened.fit unforked ?_)
      intro link' held'
      obtain rfl : link = link' := Option.some.inj (held.symm.trans held')
      simpa using busy

theorem loadFirst_goes (regular : world.Regular) :
    Goes world (loadFirst : Action σ Unit).run fun result later =>
      later.Regular ∧ (result = .ok () → later.session.loaded.isSome) := by
  refine .of_session ?_
  split
  · next missing =>
    -- Before there is a configuration there is no connection, so nothing has to be closed.
    have bare : world.session.held = none := by
      have missing : world.session.loaded = none := by simpa using missing
      simpa [Coherent, missing] using regular.coherent
    refine (load_goes bare).mono ?_
    rintro result later ⟨bare, -, -, -, loaded⟩
    exact ⟨.of_bare bare, fun done => (loaded () done).1⟩
  · next present =>
    exact .stay rfl ⟨regular, fun _ => by simpa [Option.isSome_iff_ne_none] using present⟩

theorem inspect_goes (regular : world.Regular) (configured : world.session.loaded.isSome) :
    Goes world (inspect : Engine σ Unit) fun _ later => later.Fit := by
  have looks : Goes world noteLook fun _ later =>
      later.Regular ∧ later.session.loaded.isSome ∧ later.look = some later.stand :=
    .step (run_noteLook world) (.look world)
      ⟨regular.of_session rfl, configured, rfl⟩
  refine looks.bind fun _ world ⟨regular, configured, looked⟩ => ?_
  refine (dropUnfit_goes regular configured looked).bind fun _ world screened => ?_
  -- The mark may go now: no connection from before the fork has been left.
  have clears : Goes world (update Session.clearFork) fun _ later =>
      Screened later ∧ later.session.forked = false := by
    refine .step (run_update world _) (.clear ?_) ⟨screened.clearFork, rfl⟩
    intro held
    obtain ⟨link, held⟩ := Option.isSome_iff_exists.mp held
    exact screened.unforked held
  exact clears.bind fun _ world ⟨screened, unforked⟩ => closeIdle_goes screened unforked

theorem refresh_goes (fit : world.Fit) :
    Goes world (refresh : Action σ Unit).run fun result later =>
      later.Regular ∧ (result = .ok () → later.Ready) := by
  refine .of_observe (.of_session ?_)
  split
  · have closes : Goes world close fun _ later => later.session.held = none ∧ later.Fit :=
      .step (run_close world) (.unbind fit.owning) ⟨by simp, fit.drop _⟩
    -- Nothing is held while the new configuration is read, so it has no old connection.
    refine closes.lift_bind fun _ world ⟨bare, fit⟩ => (load_goes bare).mono ?_
    rintro result later ⟨bare, connections, look, forked, loaded⟩
    refine ⟨.of_bare bare, fun done => ?_⟩
    obtain ⟨before, looked, known, -⟩ := fit.looked
    obtain ⟨configured, current⟩ := loaded () done
    exact ⟨fit_of_bare bare configured (forked.trans fit.unforked) (look.trans looked)
      (connections ▸ known), current⟩
  · next same =>
    have ready : world.Ready := ⟨fit, fun _ => by simpa using same⟩
    exact .stay rfl ⟨fit.toRegular, fun _ => ready⟩

/-- The one place where hazards are looked for. -/
theorem ensureReady_goes (regular : world.Regular) :
    Goes world (ensureReady : Action σ Unit).run fun result later =>
      later.Regular ∧ (result = .ok () → later.Ready) := by
  refine (loadFirst_goes regular).action_bind ?_ fun _ _ reached => ⟨reached.1, by simp⟩
  intro _ world reached
  exact (inspect_goes reached.1 (reached.2 rfl)).lift_bind fun _ world fit => refresh_goes fit

theorem releaseInherited_goes (regular : world.Regular) :
    Goes world releaseInherited fun _ later => later.Owning := by
  cases held : world.session.held with
  | none =>
    refine .stay (run_releaseInherited_bare held) ⟨regular, ?_⟩
    simp [held]
  | some link =>
    have ran := run_releaseInherited held
    split at ran
    · have bare : world.released.session.held = none := by
        simp [World.released, clearFork_held]
      -- The mark has done its work when the connection is gone.
      have path : Path world world.released :=
        (Relation.ReflTransGen.single (.disconnect world)).tail (.clear (by simp))
      exact .of_run ran ⟨path, .of_bare bare, by simp [bare]⟩
    · next own =>
      refine .stay ran ⟨regular, ?_⟩
      intro link' held'
      obtain rfl : link = link' := Option.some.inj (held.symm.trans held')
      simpa using own

section Opening

variable (keeps : Service.KeepsProcess σ)
include keeps

/-- A connection that is made after a look for hazards has none of them. -/
theorem establish_keeps : Keeps Ready (establish : Action σ Unit).run := by
  intro world ready
  by_cases held : world.session.link.isSome
  · exact .stay (run_establish_held held) ready
  have free : world.session.link = none := by simpa using held
  obtain ⟨loaded, configured⟩ := Option.isSome_iff_exists.mp ready.configured
  have ran := run_establish free configured
  split at ran
  · exact .stay ran ready
  · next uri found =>
    dsimp only at ran
    split at ran
    · next error answered => exact .step ran (.refused answered) (ready.after keeps _)
    · next answered =>
      split at ran
      · -- A connection that was refused is given back before it could be held.
        have made := ready.connected keeps (.ofConfig loaded.config uri)
        refine .step ran (.rejected ready configured answered) ?_
        exact (made.after keeps _).after keeps _
      · next accepted =>
        exact .step ran (.welcomed ready configured answered accepted)
          (ready.welcomed keeps _ loaded.config)

end Opening

end Session

section Tending

variable {holds : World σ → Prop} (tends : ∀ {world : World σ} {session : Session},
  holds world → world.session.Alike session → holds { world with session := session })
include tends

theorem touch_keeps : Keeps holds (touch : Engine σ Unit) := by
  intro world start
  have alike := world.session.alike_touch (Service.clock world.outside)
  exact .step (run_touch world) (.tend alike) (tends start alike)

theorem update_keeps {change : Session → Session}
    (alike : ∀ session : Session, session.Alike (change session)) :
    Keeps holds (update change : Engine σ Unit) := fun world start =>
  .step (run_update world change) (.tend (alike _)) (tends start (alike _))

end Tending

theorem close_keeps : Keeps Ready (close : Engine σ Unit) := fun world ready =>
  .step (run_close world) (.unbind ready.owning) (ready.drop _)

theorem config_keeps (holds : World σ → Prop) : Keeps holds (config : Action σ Config).run := by
  refine .of_run fun world => ?_
  rw [run_config]
  split <;> exact ⟨_, rfl⟩

section Failover

variable (keeps : Service.KeepsProcess σ) {α : Type} {operation : Action σ α}
include keeps

namespace Failover

theorem wait_keeps (policy : Policy) (attempt : Nat) :
    Keeps Ready (wait policy attempt : Engine σ Unit) := by
  unfold wait
  split
  · split
    · intro world ready
      exact .step (run_perform world _) (.sleep world _) (ready.after keeps _)
    · exact .pure _
  · exact .pure _

theorem round_keeps (steady : Keeps Ready operation.run) : ∀ (last : Option Error) (servers : Nat),
    Keeps Ready (round operation last servers)
  | _, 0 => .pure _
  | last, servers + 1 => by
    have trial : Keeps Ready (trial operation).run :=
      (Session.establish_keeps keeps).action_bind fun _ => steady
    have advance : Keeps Ready (update Session.advance : Engine σ Unit) :=
      update_keeps (fun ready alike => ready.tend alike) fun _ => .of_held rfl rfl rfl rfl
    refine trial.bind fun result => ?_
    cases result with
    | ok value => exact (touch_keeps fun ready alike => ready.tend alike).bind fun _ => .pure _
    | error error =>
      dsimp only
      split
      · -- To go on to the next server changes neither the connection nor the configuration.
        refine close_keeps.bind fun _ => advance.bind fun _ => ?_
        exact round_keeps steady (some error) servers
      · exact .pure _

theorem rounds_keeps (steady : Keeps Ready operation.run) (policy : Policy) (servers : Nat) :
    ∀ (last : Option Error) (attempt attempts : Nat),
      Keeps Ready (rounds policy servers operation last attempt attempts).run
  | last, _, 0 => .throw (unreachable last)
  | last, attempt, attempts + 1 => by
    rw [rounds]
    refine (wait_keeps keeps policy attempt).lift.action_bind fun _ => ?_
    refine (round_keeps keeps steady last servers).lift.action_bind fun result => ?_
    match result with
    | .settled (.ok value) => exact .pure _
    | .settled (.error error) => exact .throw error
    | .exhausted last => exact rounds_keeps steady policy servers last (attempt + 1) attempts

/-- What is done at a server after a look for hazards, and keeps the session ready, may be done
    again at the next. -/
theorem run_keeps (steady : Keeps Ready operation.run) : Keeps Regular (run operation).run := by
  intro world regular
  refine (Session.ensureReady_goes regular).action_bind ?_ fun _ _ reached => reached.1
  intro _ world reached
  -- Hazards are looked for once. From there on all trials keep the session ready.
  have rest : Keeps Ready (do
      let config ← config
      let soft ← lift (observe Service.isSoft)
      rounds config.failover (max 1 config.uris.length) operation none 0
        (budget config.failover soft)).run :=
    (config_keeps Ready).action_bind fun _ => (Keeps.observe _).lift.action_bind fun _ =>
      rounds_keeps keeps steady _ _ _ _ _
  exact (rest world (reached.2 rfl)).mono fun _ _ ready => ready.toRegular

end Failover

end Failover

end NameService
