import NameService.Proofs.Failover.Schedule

/-!
What an operation does to the connection at hand, on which something else may be going on. As long
as its server is of use the connection stays; when the server is lost it is closed, and no
connection that comes after it is the same.

## Main result

`Lookup.entries_carries`: a question leaves alone what goes on, or there is no way back to it.
-/

namespace NameService

/-- The server was lost when it was asked to search. -/
def Call.lostBy : (call : Call) → call.Answer → Bool
  | .search _ _, .error error => error.isUnavailable
  | _, _ => false

/-- How many searches have lost their servers. -/
def World.losses {σ : Type} (world : World σ) : Nat :=
  world.history.countP fun event => event.call.lostBy event.answer

variable {σ : Type} [Service σ]

theorem Call.loses_search (connection : Connection) (search : Search)
    (answer : (Call.search connection search).Answer) :
    (Call.search connection search).loses? answer = none ↔
      (Call.search connection search).lostBy answer = false := by
  cases answer <;> simp [loses?, lostBy]

/-- No query brings a hazard to a calm session with this configuration, unless it loses the server.
    No call changes the configuration. -/
structure Service.Spares (σ : Type) [Service σ] (loaded : Loaded) : Prop where
  modified : ∀ (call : Call) (outside : σ),
    Service.modified (answer call outside).2 = Service.modified outside
  calm : ∀ (world : World σ) (call : Call), call.isQuery → world.session.loaded = some loaded →
    world.Calm → call.loses? (world.answer call) = none → (world.after call).Calm

theorem Service.Still.spares (still : Still σ) (loaded : Loaded) : Spares σ loaded where
  modified call outside := congrArg View.modified (still call outside)
  calm world call _ _ calm _ := calm.of_view rfl (still call world.outside)

theorem Service.Spares.quiet {loaded : Loaded} (spares : Spares σ loaded) :
    ∀ {queries : Nat} {world : World σ}, world.session.loaded = some loaded → world.Calm →
      World.Quiet queries world
  | 0, _, _, calm => calm
  | _ + 1, world, configured, calm =>
    ⟨calm, fun call query spared =>
      spares.quiet configured (spares.calm world call query configured calm spared)⟩

namespace World

theorem losses_after (world : World σ) (call : Call) :
    (world.after call).losses =
      world.losses + if call.lostBy (world.answer call) then 1 else 0 := by
  simp [losses, after, List.countP_cons]

theorem losses_after_of_spared {world : World σ} {call : Call}
    (spared : call.lostBy (world.answer call) = false) :
    (world.after call).losses = world.losses := by
  simp [losses_after, spared]

theorem losses_after_of_quiet (world : World σ) (call : Call) (quiet : call.isQuery = false) :
    (world.after call).losses = world.losses := by
  refine losses_after_of_spared ?_
  cases call <;> first | rfl | cases quiet

theorem losses_le_after (world : World σ) (call : Call) :
    world.losses ≤ (world.after call).losses := by
  rw [losses_after]
  exact Nat.le_add_right _ _

/-- No server is lost but by a search. -/
theorem losses_lasting (count : Nat) : Lasting fun world : World σ => world.losses = count where
  after world _ quiet same := (world.losses_after_of_quiet _ quiet).trans same
  made _ _ same := same
  hold _ _ same := same
  look _ _ same := same
  dropLink _ same := same
  clearFork _ same := same
  touch _ _ same := same
  advance _ same := same
  adopt world _ _ _ same := (world.losses_after_of_quiet .load rfl).trans same

theorem Calm.looked {world : World σ} (calm : world.Calm) : world.looked.Calm :=
  calm.of_view rfl rfl

/-- After a service the connection has not been idle at all. -/
theorem Calm.touched {world : World σ} (calm : world.Calm) : world.touched.Calm := by
  have held {link : Link} (held : world.touched.session.held = some link) :
      ∃ before, world.session.held = some before ∧
        { before with lastActivity := some (Service.clock world.outside) } = link :=
    Option.map_eq_some_iff.mp ((Session.touch_held _ _).symm.trans held)
  refine ⟨calm.unforked, calm.unchanged, ?_, ?_, ?_, ?_, ?_⟩
  · rintro _ touched
    obtain ⟨link, before, rfl⟩ := held touched
    exact calm.sound link before
  · rintro _ touched
    obtain ⟨link, before, rfl⟩ := held touched
    exact calm.opened link before
  · rintro _ touched
    obtain ⟨link, before, rfl⟩ := held touched
    exact calm.own link before
  · rintro _ touched
    obtain ⟨link, before, rfl⟩ := held touched
    exact calm.familiar link before
  · rintro _ touched
    obtain ⟨link, before, rfl⟩ := held (Session.held_of_link touched)
    exact Link.busy_of_now _ rfl

end World

/-- Something that goes on with the connection at hand, what is left of it when a search has lost
    the server, and what is left of it for good. -/
structure World.Carried (live lost cut : World σ → Prop) : Prop where
  calm : ∀ world, live world → world.Calm
  configured : ∀ world, live world → world.session.loaded.isSome
  held : ∀ world, live world → world.session.link.isSome
  looked : ∀ world, live world → live world.looked
  touched : ∀ world, live world → live world.touched
  asked : ∀ (world : World σ) (link : Link) (search : Search), live world →
    world.session.link = some link →
      if (Call.search link.connection search).lostBy (world.answer (.search link.connection search))
      then lost (world.after (.search link.connection search))
      else live (world.after (.search link.connection search))
  moved : ∀ world, lost world → cut world.moved
  tended : World.Tended cut
  searched : ∀ (world : World σ) (connection : Connection) (search : Search), cut world →
    cut (world.after (.search connection search))
  current : ∀ world, cut world → world.Current

namespace Failover

open Engine

variable {α : Type} {operation : Action σ α}

/-- The result does not settle an operation: the next server has its turn. -/
def unsettled : Except Error α → Bool
  | .ok _ => false
  | .error error => error.isUnavailable

/-- What lasts, lasts when all other servers are tried as well. -/
theorem rest_lasts {holds : World σ → Prop} (tended : World.Tended holds)
    (lasts : Lasts holds operation.run) {policy : Policy} {servers attempts : Nat} {error : Error}
    {world later : World σ} {result : Except Error α} (start : holds world)
    (ran : (round operation (some error) servers world).bind (conclude fun last ended =>
      (rounds policy (servers + 1) operation last 1 attempts).run ended) = some (result, later)) :
    holds later := by
  obtain ⟨⟨ending, ended⟩, began, concluded⟩ := Option.bind_eq_some_iff.mp ran
  have kept := (round_lasts tended lasts _ _).ends start ending ended began
  cases ending with
  | settled outcome =>
    cases concluded
    exact kept
  | exhausted last =>
    exact (rounds_lasts tended lasts _ _ last _ attempts).ends kept result later concluded

section Carrying

variable {live lost cut : World σ → Prop} (carried : World.Carried live lost cut)
  (serves : ∀ world, live world → Ends world operation.run fun result later =>
    if unsettled result then lost later else live later)
  (lasts : Lasts cut operation.run)
include carried serves lasts

/-- What goes on at the connection goes on after an operation, or there is no way back to it. -/
theorem run_carries : Lasts (fun world => live world ∨ cut world) (run operation).run := by
  refine .of_ends (run_halts lasts.halts) ?_
  rintro world (start | start)
  · have ready := Session.run_ensureReady_calm (carried.calm world start)
      (carried.configured world start)
    have looked := carried.looked world start
    obtain ⟨loaded, configured⟩ := Option.isSome_iff_exists.mp (carried.configured _ looked)
    obtain ⟨servers, attempts, ran⟩ := run_eq_trial operation ready configured
    have tried : (trial operation).run world.looked = operation.run world.looked := by
      simp [trial, Session.run_establish_held (carried.held _ looked)]
    rintro result later ended
    rw [ran, tried] at ended
    obtain ⟨⟨outcome, between⟩, served, settled⟩ := Option.bind_eq_some_iff.mp ended
    have reached := serves _ looked outcome between served
    cases outcome with
    | ok value =>
      cases settled
      exact .inl (carried.touched between reached)
    | error error =>
      simp only [settle] at settled
      split at settled
      · next unavailable =>
        -- The other servers come after the loss of this one.
        simp only [unsettled, unavailable, if_true] at reached
        have moved := carried.moved between reached
        exact .inr (rest_lasts carried.tended lasts moved settled)
      · next available =>
        cases settled
        simp only [unsettled, available] at reached
        exact .inl reached
  · exact ((run_tended carried.tended carried.current lasts).ends start).mono
      fun _ _ kept => .inr kept

end Carrying

end Failover

namespace Lookup

open Engine Failover

/-- A question that cannot be put loses no server. -/
theorem isUnavailable_of_search {lookup : Lookup} {config : Config} {target : Target}
    {error : Error} (refused : lookup.search config target = .error error) :
    error.isUnavailable = false := by
  cases filled : Filter.fill lookup.template.toList lookup.args with
  | ok filter =>
    simp only [search, Filter.build, Filter.render, filled, Except.map, Except.mapError, bind,
      Except.bind, pure, Except.pure] at refused
    split at refused
    · next failed =>
      split at failed
      · cases failed
      · split at failed <;> cases failed
    · cases refused
  | error misfit =>
    simp only [search, Filter.build, Filter.render, filled, Except.map, Except.mapError, bind,
      Except.bind] at refused
    obtain rfl := Except.error.inj refused
    cases misfit <;> rfl

variable {live lost cut : World σ → Prop} (carried : World.Carried live lost cut)
include carried

theorem searchTargets_serves (lookup : Lookup) (config : Config) :
    ∀ (targets : List Target) (world : World σ), live world →
      Ends world (lookup.searchTargets config targets : Action σ (List Entry)).run
        fun result later => if unsettled result then lost later else live later
  | [], _, start => .pure start
  | target :: targets, world, start => by
    rw [searchTargets]
    obtain ⟨link, held⟩ := Option.isSome_iff_exists.mp (carried.held world start)
    cases searched : lookup.search config target with
    | error error =>
      have settled := isUnavailable_of_search searched
      have fails : Ends world (liftM (.error error : Except Error Search) : Action σ Search).run
          fun result later => result = .error error ∧ later = world :=
        .of_run (run_except world _) ⟨rfl, rfl⟩
      refine fails.action_bind (by simp) ?_
      rintro _ _ ⟨⟨⟩, rfl⟩
      simpa [unsettled, settled] using start
    | ok search =>
      have asked := carried.asked world link search start held
      have linked : (connection : Action σ Connection).run world =
          some (.ok link.connection, world) := by simp [held]
      refine .action_bind_run (run_except world (.ok search)) (.action_bind_run linked ?_)
      refine .action_bind_run (by rw [run_lift, run_perform]; rfl) ?_
      generalize world.answer (.search link.connection search) = answer at asked
      rcases answer with error | (_ | ⟨entry, entries⟩)
      · dsimp only
        split
        · -- A server that has nothing under the name has answered, and the next target is asked
          -- for.
          next missing =>
          have settled : error.isUnavailable = false := by simp [Error.isUnavailable, missing]
          simp only [Call.lostBy, settled] at asked
          exact searchTargets_serves lookup config targets _ asked
        · exact .of_run (run_throw _ error) asked
      · exact searchTargets_serves lookup config targets _ asked
      · exact .pure asked

theorem searchOnce_serves (lookup : Lookup) (world : World σ) (start : live world) :
    Ends world (lookup.searchOnce : Action σ (List Entry)).run
      fun result later => if unsettled result then lost later else live later := by
  obtain ⟨loaded, configured⟩ := Option.isSome_iff_exists.mp (carried.configured world start)
  have known : (Engine.config : Action σ Config).run world = some (.ok loaded.config, world) := by
    simp [configured]
  refine .action_bind_run known ?_
  exact searchTargets_serves carried lookup loaded.config _ world start

/-- A question leaves alone what goes on at the connection, or there is no way back to it. -/
theorem entries_carries (lookup : Lookup) :
    Lasts (fun world => live world ∨ cut world)
      (lookup.entries : Action σ (List Entry)).run :=
  run_carries carried (searchOnce_serves carried lookup)
    (lookup.searchOnce_lasts carried.searched)

end Lookup

end NameService
