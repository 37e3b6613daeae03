import NameService.Proofs.Engine.Endings
import NameService.Proofs.Session.Fitness
import Mathlib.Logic.Relation

/-!
All that a session ever does, as a relation between worlds. A move is one step of a session together
with what holds when it is made; a path is a row of moves. Nothing in here speaks of the program but
`Goes`: an action goes along a path from where it begins to where it ends. What is to be shown of
every run is then shown of every move.
-/

namespace NameService

variable {σ : Type} [Service σ]

open World

/-- One step of a session. -/
inductive Move : World σ → World σ → Prop
  | read (world : World σ) : Move world (world.after .load)
  | adopt {world : World σ} (bare : world.session.held = none) (loaded : Loaded) :
    Move world { world with session := world.session.adopt loaded }
  | look (world : World σ) : Move world { world with look := some world.stand }
  | forget (world : World σ) : Move world (world.drop .forget)
  | disconnect (world : World σ) : Move world (world.drop .disconnect)
  | clear {world : World σ} (spared : world.session.held.isSome → world.session.forked = false) :
    Move world { world with session := world.session.clearFork }
  | unbind {world : World σ} (owning : world.Owning) : Move world (world.drop .unbind)
  | abandon {world : World σ} {link : Link} (owning : world.Owning)
    (held : world.session.link = some link) (id : MessageId) :
    Move world (world.after (.abandon link.connection id))
  | query {world : World σ} {link : Link} (ready : world.Ready)
    (held : world.session.link = some link) {call : Call} (query : call.isQuery)
    (target : call.connection? = some link.connection) : Move world (world.after call)
  | refused {world : World σ} {options : ConnectOptions} {error : Error}
    (answered : world.answer (.connect options) = .error error) :
    Move world (world.after (.connect options))
  | rejected {world : World σ} {loaded : Loaded} {uri : String} (ready : world.Ready)
    (configured : world.session.loaded = some loaded)
    (answered : world.answer (.connect (.ofConfig loaded.config uri)) = .ok ()) :
    Move world ((world.connected (.ofConfig loaded.config uri)).rejected loaded.config)
  | welcomed {world : World σ} {loaded : Loaded} {uri : String} (ready : world.Ready)
    (configured : world.session.loaded = some loaded)
    (answered : world.answer (.connect (.ofConfig loaded.config uri)) = .ok ())
    (accepted : (world.connected (.ofConfig loaded.config uri)).answer
      ((world.connected (.ofConfig loaded.config uri)).greeting loaded.config) = .ok ()) :
    Move world ((world.connected (.ofConfig loaded.config uri)).welcomed loaded.config)
  | sleep (world : World σ) (seconds : Nat) : Move world (world.after (.sleep seconds))
  | visit (world : World σ) (visit : Visit) :
    Move world { world with visits := visit :: world.visits }
  | tend {world : World σ} {session : Session} (alike : world.session.Alike session) :
    Move world { world with session := session }

abbrev Path : World σ → World σ → Prop := Relation.ReflTransGen Move

/-- What every move keeps is kept along a path. -/
theorem Path.keeps (holds : World σ → Prop)
    (step : ∀ {world later : World σ}, Move world later → holds world → holds later)
    {world later : World σ} (path : Path world later) (start : holds world) : holds later := by
  induction path with
  | refl => exact start
  | tail _ move kept => exact step move kept

/-- An action goes along a path, and its end is as it is said to be. -/
def Goes {α : Type} (world : World σ) (m : Engine σ α) (after : α → World σ → Prop) : Prop :=
  Engine.Ends world m fun a later => Path world later ∧ after a later

/-- What an action keeps is true at its end if it was true where it began. -/
def Keeps {α : Type} (holds : World σ → Prop) (m : Engine σ α) : Prop :=
  ∀ world, holds world → Goes world m fun _ => holds

open Engine

variable {ε α β : Type}

namespace Goes

variable {world later : World σ} {m : Engine σ α} {f : α → Engine σ β}
  {after between : α → World σ → Prop} {atEnd : β → World σ → Prop}

theorem stay {a : α} (ran : m world = some (a, world)) (holds : after a world) :
    Goes world m after :=
  .of_run ran ⟨.refl, holds⟩

theorem step {a : α} (ran : m world = some (a, later)) (move : Move world later)
    (holds : after a later) : Goes world m after :=
  .of_run ran ⟨.single move, holds⟩

theorem pure {a : α} (holds : after a world) : Goes world (pure a) after := stay rfl holds

theorem mono (goes : Goes world m between) (weaker : ∀ a later, between a later → after a later) :
    Goes world m after :=
  Ends.mono goes fun a later reached => ⟨reached.1, weaker a later reached.2⟩

/-- The way to a place may be put in front of what follows. -/
theorem along (path : Path world later)
    (goes : Ends later m fun a last => Path later last ∧ after a last) :
    Ends later m fun a last => Path world last ∧ after a last :=
  goes.mono fun _ _ reached => ⟨path.trans reached.1, reached.2⟩

theorem bind (first : Goes world m between)
    (second : ∀ a later, between a later → Goes later (f a) atEnd) :
    Goes world (m >>= f) atEnd :=
  Ends.bind first fun a later reached => along reached.1 (second a later reached.2)

theorem with_session {f : Session → Engine σ β} (rest : Goes world (f world.session) atEnd) :
    Goes world (session >>= f) atEnd :=
  rest

theorem action_bind {m : Fallible ε σ α} {f : α → Fallible ε σ β}
    {between : Except ε α → World σ → Prop} {atEnd : Except ε β → World σ → Prop}
    (first : Goes world m.run between)
    (second : ∀ a later, between (.ok a) later → Goes later (f a).run atEnd)
    (failing : ∀ error later, between (.error error) later → atEnd (.error error) later) :
    Goes world (m >>= f).run atEnd :=
  Ends.action_bind first (fun a later reached => along reached.1 (second a later reached.2))
    fun error later reached => ⟨reached.1, failing error later reached.2⟩

/-- What is read on the way does not change the way. -/
theorem reads {m : Action σ α} {f : α → Action σ β} {atEnd : Except Error β → World σ → Prop}
    {a : α} (ran : m.run world = some (.ok a, world)) (second : Goes world (f a).run atEnd) :
    Goes world (m >>= f).run atEnd := by
  have first : Goes world m.run fun result later => result = .ok a ∧ later = world :=
    stay ran ⟨rfl, rfl⟩
  refine first.action_bind ?_ ?_
  · rintro b later ⟨same, rfl⟩
    obtain rfl := Except.ok.inj same
    exact second
  · rintro error later ⟨same, -⟩
    cases same

theorem of_session {f : Session → Action σ β} {atEnd : Except Error β → World σ → Prop}
    (rest : Goes world (f world.session).run atEnd) :
    Goes world (Engine.lift session >>= f).run atEnd :=
  reads rfl rest

theorem of_observe {look : σ → α} {f : α → Action σ β} {atEnd : Except Error β → World σ → Prop}
    (rest : Goes world (f (look world.outside)).run atEnd) :
    Goes world (Engine.lift (observe look) >>= f).run atEnd :=
  reads rfl rest

theorem lift {after : Except ε α → World σ → Prop}
    (goes : Goes world m fun a => after (.ok a)) :
    Goes world (lift m : Fallible ε σ α).run after :=
  Ends.lift goes

theorem lift_bind {f : α → Fallible ε σ β} {atEnd : Except ε β → World σ → Prop}
    (first : Goes world m between)
    (second : ∀ a later, between a later → Goes later (f a).run atEnd) :
    Goes world (Engine.lift m >>= f).run atEnd := by
  have lifted : Goes world (Engine.lift m : Fallible ε σ α).run fun result later =>
      ∃ a, result = .ok a ∧ between a later :=
    .lift (first.mono fun a later reached => ⟨a, rfl, reached⟩)
  refine lifted.action_bind ?_ ?_
  · rintro a later ⟨b, same, reached⟩
    obtain rfl := Except.ok.inj same
    exact second a later reached
  · rintro error later ⟨a, same, -⟩
    cases same

theorem mk_bind {m : Engine σ (Except ε α)} {f : α → Fallible ε σ β} {holds : World σ → Prop}
    (first : Goes world m fun _ => holds)
    (second : ∀ a later, holds later → Goes later (f a).run fun _ => holds) :
    Goes world (ExceptT.mk m >>= f).run fun _ => holds := by
  have began : Goes world (ExceptT.mk m).run fun _ => holds := first
  exact began.action_bind second fun _ _ kept => kept

end Goes

namespace Keeps

variable {holds : World σ → Prop} {m : Engine σ α} {f : α → Engine σ β}

theorem of_run (ran : ∀ world, ∃ a, m world = some (a, world)) : Keeps holds m := by
  intro world start
  obtain ⟨a, ran⟩ := ran world
  exact .stay ran start

theorem observe (look : σ → α) : Keeps holds (observe look) :=
  .of_run fun _ => ⟨_, rfl⟩

theorem pure (a : α) : Keeps holds (pure a : Engine σ α) := fun _ start => .pure start

theorem bind (first : Keeps holds m) (second : ∀ a, Keeps holds (f a)) : Keeps holds (m >>= f) :=
  fun world start => (first world start).bind fun a later kept => second a later kept

theorem action_bind {m : Fallible ε σ α} {f : α → Fallible ε σ β} (first : Keeps holds m.run)
    (second : ∀ a, Keeps holds (f a).run) : Keeps holds (m >>= f).run :=
  fun world start => (first world start).action_bind (fun a later kept => second a later kept)
    fun _ _ kept => kept

theorem throw (error : ε) : Keeps holds (throw error : Fallible ε σ α).run :=
  fun _ start => .stay rfl start

theorem except (result : Except Error α) : Keeps holds (liftM result : Action σ α).run := by
  cases result with
  | ok a => exact pure _
  | error error => exact throw error

theorem lift (keeps : Keeps holds m) : Keeps holds (lift m : Fallible ε σ α).run :=
  fun world start => .lift (keeps world start)

theorem attempt {m : Action σ α} (keeps : Keeps holds m.run) : Keeps holds (attempt m).run :=
  fun world start => Ends.map _ (keeps world start)

theorem risk {m : Brittle σ α} (keeps : Keeps holds m.run) : Keeps holds (risk m).run :=
  fun world start => Ends.map _ (keeps world start)

theorem noteVisit {visit : Visit} (noted : ∀ world : World σ, holds world →
      holds { world with visits := visit :: world.visits }) : Keeps holds (noteVisit visit) :=
  fun world start => .step (run_noteVisit world visit) (.visit world visit) (noted world start)

theorem foldlM {step : β → α → Engine σ β} (steps : ∀ b a, Keeps holds (step b a)) :
    ∀ (list : List α) (b : β), Keeps holds (list.foldlM step b)
  | [], b => pure b
  | a :: list, b => by
    rw [List.foldlM_cons]
    exact (steps b a).bind fun b => foldlM steps list b

theorem action_foldlM {step : β → α → Fallible ε σ β} (steps : ∀ b a, Keeps holds (step b a).run) :
    ∀ (list : List α) (b : β), Keeps holds (list.foldlM step b).run
  | [], b => pure (Except.ok b)
  | a :: list, b => by
    rw [List.foldlM_cons]
    exact (steps b a).action_bind fun b => action_foldlM steps list b

end Keeps

end NameService
