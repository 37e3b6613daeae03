import NameService.Proofs.Engine.Endings
import NameService.Proofs.Session.Calm
import NameService.Proofs.Session.Fitness
import NameService.Failover

/-!
What lasts whatever the world answers. A session changes only in a few ways; what neither they nor
any call can end is true for as long as the session lives, and no host has to be relied on for it.
Nor does an action have to be waited for: nothing that is done at one server, or at several in turn,
asks for patience.

## Main results

- `Failover.run_lasts`: what lasts, lasts while servers are tried.
- `Failover.run_tended`: the same, of what only a new configuration could end, as long as there is
  none.
- `Failover.run_halts`: an operation that comes to an end at one server does so at all of them.
-/

namespace NameService

namespace Engine

variable {ε σ α β : Type}

/-- The action comes to an end wherever it begins. -/
def Halts (m : Engine σ α) : Prop := ∀ world, ∃ a later, m world = some (a, later)

/-- The action comes to an end wherever it begins, and what is true there is true at the end. -/
def Lasts (holds : World σ → Prop) (m : Engine σ α) : Prop :=
  ∀ world, ∃ a later, m world = some (a, later) ∧ (holds world → holds later)

namespace Lasts

variable {holds : World σ → Prop} {m : Engine σ α} {f : α → Engine σ β}

theorem ends (lasts : Lasts holds m) {world : World σ} (start : holds world) :
    Ends world m fun _ => holds := by
  obtain ⟨a, later, ran, kept⟩ := lasts world
  exact .of_run ran (kept start)

theorem halts (lasts : Lasts holds m) : Halts m := fun world => by
  obtain ⟨a, later, ran, -⟩ := lasts world
  exact ⟨a, later, ran⟩

/-- What is kept at every end lasts, if there is an end. -/
theorem of_ends (halts : Halts m) (kept : ∀ world, holds world → Ends world m fun _ => holds) :
    Lasts holds m := fun world => by
  obtain ⟨a, later, ran⟩ := halts world
  exact ⟨a, later, ran, fun start => kept world start a later ran⟩

theorem pure (a : α) : Lasts holds (pure a : Engine σ α) := fun world => ⟨a, world, rfl, id⟩

theorem update {change : Session → Session} (keeps : ∀ world : World σ, holds world →
      holds { world with session := change world.session }) :
    Lasts holds (update change : Engine σ Unit) :=
  fun world => ⟨_, _, run_update world change, keeps world⟩

theorem map (lasts : Lasts holds m) (g : α → β) : Lasts holds (g <$> m) := fun world => by
  obtain ⟨a, later, ran, kept⟩ := lasts world
  exact ⟨g a, later, by rw [run_map, ran]; rfl, kept⟩

theorem bind (first : Lasts holds m) (second : ∀ a, Lasts holds (f a)) : Lasts holds (m >>= f) := by
  intro world
  obtain ⟨a, between, began, kept⟩ := first world
  obtain ⟨b, later, ended, kept'⟩ := second a between
  exact ⟨b, later, by rw [run_bind, began]; exact ended, kept' ∘ kept⟩

theorem foldlM {γ : Type} {step : β → γ → Engine σ β} (steps : ∀ b c, Lasts holds (step b c)) :
    ∀ (list : List γ) (b : β), Lasts holds (list.foldlM step b)
  | [], b => pure b
  | c :: list, b => by
    rw [List.foldlM_cons]
    exact (steps b c).bind fun b => foldlM steps list b

theorem action_bind {m : Fallible ε σ α} {f : α → Fallible ε σ β} (first : Lasts holds m.run)
    (second : ∀ a, Lasts holds (f a).run) : Lasts holds (m >>= f).run := by
  intro world
  obtain ⟨result, between, began, kept⟩ := first world
  cases result with
  | ok a =>
    obtain ⟨b, later, ended, kept'⟩ := second a between
    exact ⟨b, later, by rw [run_action_bind, began]; exact ended, kept' ∘ kept⟩
  | error error => exact ⟨.error error, between, by rw [run_action_bind, began]; rfl, kept⟩

theorem action_foldlM {γ : Type} {step : β → γ → Fallible ε σ β}
    (steps : ∀ b c, Lasts holds (step b c).run) :
    ∀ (list : List γ) (b : β), Lasts holds (list.foldlM step b).run
  | [], b => pure (Except.ok b)
  | c :: list, b => by
    rw [List.foldlM_cons]
    exact (steps b c).action_bind fun b => action_foldlM steps list b

theorem throw (error : ε) : Lasts holds (throw error : Fallible ε σ α).run :=
  fun world => ⟨_, world, run_throw world error, id⟩

theorem except (result : Except Error α) : Lasts holds (liftM result : Action σ α).run :=
  fun world => ⟨_, world, run_except world result, id⟩

theorem lift (lasts : Lasts holds m) : Lasts holds (lift m : Fallible ε σ α).run :=
  fun world => by
    obtain ⟨a, later, ran, kept⟩ := lasts world
    exact ⟨.ok a, later, by rw [run_lift, ran]; rfl, kept⟩

theorem attempt {m : Action σ α} (lasts : Lasts holds m.run) : Lasts holds (attempt m).run :=
  lasts.map _

theorem risk {m : Brittle σ α} (lasts : Lasts holds m.run) : Lasts holds (risk m).run :=
  lasts.map _

theorem mk {m : Engine σ (Except ε α)} (lasts : Lasts holds m) : Lasts holds (ExceptT.mk m).run :=
  lasts

theorem noteVisit {visit : Visit} (noted : ∀ world : World σ, holds world →
      holds { world with visits := visit :: world.visits }) : Lasts holds (noteVisit visit) :=
  fun world => ⟨_, _, run_noteVisit world visit, noted world⟩

theorem session : Lasts holds (session : Engine σ Session) :=
  fun world => ⟨_, world, run_session world, id⟩

theorem observe (look : σ → α) : Lasts holds (observe look) :=
  fun world => ⟨_, world, run_observe world look, id⟩

theorem config : Lasts holds (config : Action σ Config).run := fun world => by
  rw [run_config]
  split <;> exact ⟨_, world, rfl, id⟩

theorem connection : Lasts holds (connection : Action σ Connection).run := fun world => by
  rw [run_connection]
  split <;> exact ⟨_, world, rfl, id⟩

theorem perform [Service σ] {call : Call}
    (after : ∀ world : World σ, holds world → holds (world.after call)) :
    Lasts holds (perform call : Engine σ call.Answer) :=
  fun world => ⟨_, _, run_perform world call, after world⟩

end Lasts

end Engine

open Engine

variable {σ : Type} [Service σ]

namespace World

/-- What cannot end by a new connection, nor by any call that asks for no entries. -/
structure Steady (holds : World σ → Prop) : Prop where
  after : ∀ (world : World σ) (call : Call), call.isQuery = false → holds world →
    holds (world.after call)
  made : ∀ (world : World σ) (connections : Nat), holds world →
    holds { world with connections := connections }
  hold : ∀ (world : World σ) (link : Link), holds world →
    holds { world with session := world.session.hold link }

/-- What no change to the session can end either, a new configuration apart. -/
structure Tended (holds : World σ → Prop) : Prop extends Steady holds where
  look : ∀ (world : World σ) (look : Option Stand), holds world → holds { world with look := look }
  dropLink : ∀ world : World σ, holds world →
    holds { world with session := world.session.dropLink }
  clearFork : ∀ world : World σ, holds world →
    holds { world with session := world.session.clearFork }
  touch : ∀ (world : World σ) (now : Nat), holds world →
    holds { world with session := world.session.touch now }
  advance : ∀ world : World σ, holds world →
    holds { world with session := world.session.advance }

/-- What nothing can end. A configuration comes from the world, and has servers. -/
structure Lasting (holds : World σ → Prop) : Prop extends Tended holds where
  adopt : ∀ (world : World σ) (loaded : Loaded), world.answer .load = .ok loaded.config →
    loaded.config.uris ≠ [] → holds world →
    holds { world.after .load with session := world.session.adopt loaded }

/-- What has happened is not forgotten. -/
theorem grown_lasting (base : List Event) :
    World.Lasting fun world : World σ => base <:+ world.history where
  after _ _ _ grown := grown.trans (List.suffix_cons _ _)
  made _ _ grown := grown
  hold _ _ grown := grown
  look _ _ grown := grown
  dropLink _ grown := grown
  clearFork _ grown := grown
  touch _ _ grown := grown
  advance _ grown := grown
  adopt _ _ _ _ grown := grown.trans (List.suffix_cons _ _)

end World

/-- What no change to a session can end. -/
structure Session.Lasting (σ : Type) [Service σ] (holds : Session → Prop) : Prop where
  adopt : ∀ (session : Session) (loaded : Loaded) (outside : σ),
    (Service.answer .load outside).1 = .ok loaded.config → loaded.config.uris ≠ [] →
    holds session → holds (session.adopt loaded)
  hold : ∀ (session : Session) (link : Link), holds session → holds (session.hold link)
  dropLink : ∀ session : Session, holds session → holds session.dropLink
  clearFork : ∀ session : Session, holds session → holds session.clearFork
  touch : ∀ (session : Session) (now : Nat), holds session → holds (session.touch now)
  advance : ∀ session : Session, holds session → holds session.advance

/-- What lasts in a session lasts in its world. -/
theorem Session.Lasting.world {holds : Session → Prop} (lasting : Session.Lasting σ holds) :
    World.Lasting fun world : World σ => holds world.session where
  after _ _ _ kept := kept
  made _ _ kept := kept
  look _ _ kept := kept
  hold world := lasting.hold world.session
  dropLink world := lasting.dropLink world.session
  clearFork world := lasting.clearFork world.session
  touch world := lasting.touch world.session
  advance world := lasting.advance world.session
  adopt world loaded := lasting.adopt world.session loaded world.outside

section Steady

variable {holds : World σ → Prop} (steady : World.Steady holds)
include steady

theorem Session.establish_lasts : Lasts holds (establish : Action σ Unit).run := by
  refine Lasts.session.lift.action_bind fun session => ?_
  split
  · exact .pure _
  refine Lasts.config.action_bind fun config => ?_
  split
  · next uri _ =>
    have connects : Lasts holds (connect (.ofConfig config uri) : Action σ Connection).run := by
      intro world
      rw [run_connect]
      split
      · exact ⟨_, _, rfl, steady.after world _ rfl⟩
      · exact ⟨_, _, rfl, fun start => steady.made _ _ (steady.after world _ rfl start)⟩
    refine connects.action_bind fun connection => (Lasts.observe _).lift.action_bind fun user => ?_
    refine (Lasts.perform fun world => steady.after world _ rfl).lift.action_bind fun answer => ?_
    split
    · exact (Lasts.perform fun world => steady.after world _ rfl).lift.action_bind fun _ => .throw _
    · refine (Lasts.observe _).lift.action_bind fun link => ?_
      exact (Lasts.update fun world => steady.hold world link).lift
  · exact .throw _

theorem Failover.trial_lasts {α : Type} {operation : Action σ α}
    (lasts : Lasts holds operation.run) : Lasts holds (trial operation).run :=
  (Session.establish_lasts steady).action_bind fun _ => lasts

end Steady

section Tending

variable {holds : World σ → Prop} (tended : World.Tended holds)
include tended

theorem World.Tended.drop {world : World σ} (start : holds world) {part : Connection → Call}
    (quiet : ∀ connection, (part connection).isQuery = false) : holds (world.drop part) := by
  unfold World.drop
  split
  · exact tended.dropLink _ (tended.after _ _ (quiet _) start)
  · exact tended.dropLink _ start

theorem Engine.close_lasts : Lasts holds (close : Engine σ Unit) :=
  fun world => ⟨_, _, run_close world, fun start => tended.drop start fun _ => rfl⟩

theorem Engine.touch_lasts : Lasts holds (touch : Engine σ Unit) :=
  fun world => ⟨_, _, run_touch world, tended.touch world _⟩

namespace Session

theorem dropUnfit_lasts : Lasts holds (dropUnfit : Engine σ Unit) := by
  intro world
  cases held : world.session.held with
  | none => exact ⟨_, _, run_dropUnfit_bare held, id⟩
  | some link =>
    refine ⟨_, _, run_dropUnfit held, fun start => ?_⟩
    split
    · exact tended.drop start fun _ => rfl
    · split
      · exact tended.drop start fun _ => rfl
      · exact start

theorem closeIdle_lasts : Lasts holds (closeIdle : Engine σ Unit) := by
  intro world
  cases held : world.session.link with
  | none => exact ⟨_, _, run_closeIdle_free held, id⟩
  | some link =>
    refine ⟨_, _, run_closeIdle held, fun start => ?_⟩
    split
    · exact tended.drop start fun _ => rfl
    · exact start

theorem inspect_lasts : Lasts holds (inspect : Engine σ Unit) := by
  have looks : Lasts holds (noteLook : Engine σ Unit) :=
    fun world => ⟨_, _, run_noteLook world, tended.look world _⟩
  exact looks.bind fun _ => (dropUnfit_lasts tended).bind fun _ =>
    (Lasts.update tended.clearFork).bind fun _ => closeIdle_lasts tended

theorem releaseInherited_lasts : Lasts holds (releaseInherited : Engine σ Bool) := by
  intro world
  cases held : world.session.held with
  | none => exact ⟨_, _, run_releaseInherited_bare held, id⟩
  | some link =>
    rw [run_releaseInherited held]
    split
    · exact ⟨_, _, rfl, fun start => tended.clearFork _ (tended.drop start fun _ => rfl)⟩
    · exact ⟨_, _, rfl, id⟩

end Session

namespace Failover

theorem wait_lasts (policy : Policy) (attempt : Nat) :
    Lasts holds (wait policy attempt : Engine σ Unit) := by
  unfold wait
  split
  · split
    · exact Lasts.perform fun world => tended.after world _ rfl
    · exact .pure _
  · exact .pure _

variable {α : Type} {operation : Action σ α} (lasts : Lasts holds operation.run)
include lasts

theorem round_lasts : ∀ (last : Option Error) (servers : Nat),
    Lasts holds (round operation last servers)
  | _, 0 => .pure _
  | last, servers + 1 => by
    refine Lasts.bind (trial_lasts tended.toSteady lasts) fun result => ?_
    cases result with
    | ok value => exact (touch_lasts tended).bind fun _ => .pure _
    | error error =>
      dsimp only
      split
      · refine (close_lasts tended).bind fun _ => (Lasts.update tended.advance).bind fun _ => ?_
        exact round_lasts (some error) servers
      · exact .pure _

theorem rounds_lasts (policy : Policy) (servers : Nat) :
    ∀ (last : Option Error) (attempt attempts : Nat),
      Lasts holds (rounds policy servers operation last attempt attempts).run
  | last, _, 0 => .throw (unreachable last)
  | last, attempt, attempts + 1 => by
    rw [rounds]
    refine (wait_lasts tended policy attempt).lift.action_bind fun _ => ?_
    refine (round_lasts tended lasts last servers).lift.action_bind fun result => ?_
    match result with
    | .settled (.ok value) => exact .pure _
    | .settled (.error error) => exact .throw error
    | .exhausted last => exact rounds_lasts policy servers last (attempt + 1) attempts

theorem run_lasts_of_ready (ready : Lasts holds (Session.ensureReady : Action σ Unit).run) :
    Lasts holds (run operation).run :=
  ready.action_bind fun _ => Lasts.config.action_bind fun _ =>
    (Lasts.observe _).lift.action_bind fun _ => rounds_lasts tended lasts _ _ _ _ _

end Failover

end Tending

section Lasting

variable {holds : World σ → Prop} (lasting : World.Lasting holds)
include lasting

namespace Session

theorem load_lasts : Lasts holds (load : Action σ Unit).run := by
  intro world
  rw [run_load]
  split
  · exact ⟨_, _, rfl, lasting.after world _ rfl⟩
  · split
    · exact ⟨_, _, rfl, lasting.after world _ rfl⟩
    · next config answered some =>
      exact ⟨_, _, rfl, lasting.adopt world _ answered (by simpa using some)⟩

theorem loadFirst_lasts : Lasts holds (loadFirst : Action σ Unit).run := by
  refine Lasts.session.lift.action_bind fun session => ?_
  split
  · exact load_lasts lasting
  · exact .pure _

theorem refresh_lasts : Lasts holds (refresh : Action σ Unit).run := by
  refine (Lasts.observe _).lift.action_bind fun modified => ?_
  refine Lasts.session.lift.action_bind fun session => ?_
  split
  · exact (close_lasts lasting.toTended).lift.action_bind fun _ => load_lasts lasting
  · exact .pure _

theorem ensureReady_lasts : Lasts holds (ensureReady : Action σ Unit).run :=
  (loadFirst_lasts lasting).action_bind fun _ =>
    (inspect_lasts lasting.toTended).lift.action_bind fun _ => refresh_lasts lasting

end Session

/-- What lasts, lasts while servers are tried. -/
theorem Failover.run_lasts {α : Type} {operation : Action σ α} (lasts : Lasts holds operation.run) :
    Lasts holds (run operation).run :=
  run_lasts_of_ready lasting.toTended lasts (Session.ensureReady_lasts lasting)

end Lasting

section Halting

/-- There is nothing that could end. -/
theorem World.lasting_true : World.Lasting fun _ : World σ => True where
  after _ _ _ _ := trivial
  made _ _ _ := trivial
  hold _ _ _ := trivial
  look _ _ _ := trivial
  dropLink _ _ := trivial
  clearFork _ _ := trivial
  touch _ _ _ := trivial
  advance _ _ := trivial
  adopt _ _ _ _ _ := trivial

theorem Session.ensureReady_halts : Halts (ensureReady : Action σ Unit).run :=
  (ensureReady_lasts World.lasting_true).halts

/-- An operation that comes to an end at one server does so at all of them. -/
theorem Failover.run_halts {α : Type} {operation : Action σ α} (halts : Halts operation.run) :
    Halts (run operation).run := by
  have lasts : Lasts (fun _ => True) operation.run := .of_ends halts fun _ _ _ _ _ => trivial
  exact (run_lasts World.lasting_true lasts).halts

end Halting

section Current

/-- The configuration is the one that a look at its source would give. -/
def World.Current (world : World σ) : Prop :=
  world.session.loaded.isSome ∧
    world.session.loaded.bind Loaded.modified = Service.modified world.outside

variable {holds : World σ → Prop} (tended : World.Tended holds)
  (current : ∀ world, holds world → world.Current)
include tended current

/-- Nothing is read as long as the configuration is current. -/
theorem Session.ensureReady_tended {world : World σ} (start : holds world) :
    ∃ later, (ensureReady : Action σ Unit).run world = some (.ok (), later) ∧ holds later := by
  obtain ⟨_, later, inspected, kept⟩ := inspect_lasts tended world
  have refreshed : (refresh : Action σ Unit).run later = some (.ok (), later) := by
    simp [refresh, (current later (kept start)).2]
  refine ⟨later, ?_, kept start⟩
  simp [ensureReady, run_loadFirst (current world start).1, inspected, refreshed]

theorem Failover.run_tended {α : Type} {operation : Action σ α}
    (lasts : Lasts holds operation.run) : Lasts holds (run operation).run := by
  refine run_lasts_of_ready tended lasts (.of_ends Session.ensureReady_halts fun world start => ?_)
  obtain ⟨later, ran, kept⟩ := Session.ensureReady_tended tended current start
  exact .of_run ran kept

end Current

/-- A session never loses its configuration. -/
theorem Session.configured_lasting :
    Session.Lasting σ fun session => session.loaded.isSome where
  adopt _ _ _ _ _ _ := rfl
  hold _ _ configured := configured
  dropLink _ configured := configured
  clearFork _ configured := configured
  touch _ _ configured := configured
  advance _ configured := configured

theorem Session.run_loadFirst_missing {world : World σ} (missing : world.session.loaded = none) :
    (loadFirst : Action σ Unit).run world = (load : Action σ Unit).run world := by
  simp [loadFirst, missing]

theorem Session.ensureReady_configured (world : World σ) :
    Ends world (ensureReady : Action σ Unit).run fun result later =>
      result = .ok () → later.session.loaded.isSome := by
  have lasting := (configured_lasting : Session.Lasting σ _).world
  have first : Ends world (loadFirst : Action σ Unit).run fun result later =>
      result = .ok () → later.session.loaded.isSome := by
    cases configured : world.session.loaded with
    | some loaded =>
      have start : world.session.loaded.isSome := by simp [configured]
      exact ((loadFirst_lasts lasting).ends start).mono fun _ _ kept _ => kept
    | none =>
      have ran : (load : Action σ Unit).run world = _ := run_load
      rw [← run_loadFirst_missing configured] at ran
      split at ran
      · exact .of_run ran nofun
      · split at ran
        · exact .of_run ran nofun
        · exact .of_run ran fun _ => rfl
  refine first.action_bind (fun _ later kept => ?_) fun _ _ _ => nofun
  have rest : Lasts (fun world : World σ => world.session.loaded.isSome)
      (do lift inspect; refresh : Action σ Unit).run :=
    (inspect_lasts lasting.toTended).lift.action_bind fun _ => refresh_lasts lasting
  exact (rest.ends (kept rfl)).mono fun _ _ kept _ => kept

end NameService
