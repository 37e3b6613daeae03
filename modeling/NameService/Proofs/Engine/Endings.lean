import NameService.Proofs.Engine.Runs

/-!
What is true when an action has come to its end. `Ends world m after` says of a start in `world`
that `m`, if it ends at all, gives a value and leaves a world for which `after` holds. The action is
taken apart in the order in which it is written.
-/

namespace NameService.Engine

variable {σ α β : Type}

def Ends (world : World σ) (m : Engine σ α) (after : α → World σ → Prop) : Prop :=
  ∀ a later, m world = some (a, later) → after a later

namespace Ends

variable {world : World σ} {m : Engine σ α} {f : α → Engine σ β}
  {after between : α → World σ → Prop} {atEnd : β → World σ → Prop}

theorem of_run {a : α} {later : World σ} (ran : m world = some (a, later)) (holds : after a later) :
    Ends world m after := by
  intro b last same
  rw [ran] at same
  obtain ⟨rfl, rfl⟩ : a = b ∧ later = last := by simpa using same
  exact holds

theorem any : Ends world m fun _ _ => True := fun _ _ _ => trivial

theorem mono (ends : Ends world m between) (weaker : ∀ a later, between a later → after a later) :
    Ends world m after :=
  fun a later ran => weaker a later (ends a later ran)

theorem pure {a : α} (holds : after a world) : Ends world (pure a) after := .of_run rfl holds

theorem bind (first : Ends world m between)
    (second : ∀ a later, between a later → Ends later (f a) atEnd) :
    Ends world (m >>= f) atEnd := by
  intro b last ran
  rw [run_bind] at ran
  obtain ⟨⟨a, later⟩, began, ended⟩ := Option.bind_eq_some_iff.mp ran
  exact second a later (first a later began) b last ended

theorem map (g : α → β) (ends : Ends world m fun a => atEnd (g a)) :
    Ends world (g <$> m) atEnd := by
  intro b last ran
  rw [run_map] at ran
  obtain ⟨⟨a, later⟩, ended, same⟩ := Option.map_eq_some_iff.mp ran
  obtain ⟨rfl, rfl⟩ := Prod.mk.inj same
  exact ends a later ended

/-- The rest of an action begins where its first part ends, when there is only one end of that. -/
theorem bind_run {a : α} {later : World σ} (ran : m world = some (a, later))
    (second : Ends later (f a) atEnd) : Ends world (m >>= f) atEnd := by
  have first : Ends world m fun b last => b = a ∧ last = later := .of_run ran ⟨rfl, rfl⟩
  refine first.bind ?_
  rintro b last ⟨rfl, rfl⟩
  exact second

/-- What every step of a fold keeps, the fold keeps. -/
theorem foldlM {step : β → α → Engine σ β} {holds : β → World σ → Prop}
    (steps : ∀ b a world, holds b world → Ends world (step b a) holds) (list : List α) {b : β}
    {world : World σ} (start : holds b world) : Ends world (list.foldlM step b) holds := by
  induction list generalizing b world with
  | nil => exact .pure start
  | cons a list ih =>
    rw [List.foldlM_cons]
    exact (steps b a world start).bind fun b later kept => ih kept

section Actions

variable {ε : Type} {m : Fallible ε σ α} {f : α → Fallible ε σ β}
  {atEnd : Except ε β → World σ → Prop}

theorem action_bind {between : Except ε α → World σ → Prop} (first : Ends world m.run between)
    (second : ∀ a later, between (.ok a) later → Ends later (f a).run atEnd)
    (failing : ∀ error later, between (.error error) later → atEnd (.error error) later) :
    Ends world (m >>= f).run atEnd := by
  intro result last ran
  rw [run_action_bind] at ran
  obtain ⟨⟨outcome, later⟩, began, ended⟩ := Option.bind_eq_some_iff.mp ran
  have reached := first outcome later began
  cases outcome with
  | ok a => exact second a later reached result last ended
  -- A failure ends the whole action.
  | error error =>
    obtain ⟨rfl, rfl⟩ : .error error = result ∧ later = last := by simpa using ended
    exact failing error later reached

theorem action_bind_run {a : α} {later : World σ} (ran : m.run world = some (.ok a, later))
    (second : Ends later (f a).run atEnd) : Ends world (m >>= f).run atEnd := by
  have first : Ends world m.run fun result last => result = .ok a ∧ last = later :=
    .of_run ran ⟨rfl, rfl⟩
  refine first.action_bind ?_ (by simp)
  rintro _ _ ⟨⟨⟩, rfl⟩
  exact second

theorem lift {m : Engine σ α} {after : Except ε α → World σ → Prop}
    (ends : Ends world m fun a => after (.ok a)) :
    Ends world (lift m : Fallible ε σ α).run after := by
  intro result last ran
  rw [run_lift] at ran
  obtain ⟨⟨a, later⟩, began, ended⟩ := Option.map_eq_some_iff.mp ran
  obtain ⟨rfl, rfl⟩ : .ok a = result ∧ later = last := by simpa using ended
  exact ends a later began

theorem lift_bind {m : Engine σ α} {between : α → World σ → Prop} (first : Ends world m between)
    (second : ∀ a later, between a later → Ends later (f a).run atEnd) :
    Ends world (Engine.lift m >>= f).run atEnd := by
  have lifted : Ends world (Engine.lift m : Fallible ε σ α).run fun result later =>
      ∃ a, result = .ok a ∧ between a later :=
    .lift (first.mono fun a later reached => ⟨a, rfl, reached⟩)
  refine lifted.action_bind ?_ ?_
  · rintro a later ⟨_, ⟨⟩, reached⟩
    exact second a later reached
  · rintro error later ⟨_, same, -⟩
    cases same

/-- A fold that fails ends where its last step has failed. -/
theorem action_foldlM {step : β → α → Fallible ε σ β} {holds : Except ε β → World σ → Prop}
    (steps : ∀ b a world, holds (.ok b) world → Ends world (step b a).run holds) (list : List α)
    {b : β} {world : World σ} (start : holds (.ok b) world) :
    Ends world (list.foldlM step b).run holds := by
  induction list generalizing b world with
  | nil => exact .pure start
  | cons a list ih =>
    rw [List.foldlM_cons]
    refine (steps b a world start).action_bind ?_ ?_
    · intro b later kept
      exact ih kept
    · intro error later failed
      exact failed

end Actions

end Ends

/-- A fold comes to what its steps come to. -/
theorem run_foldlM {step : β → α → Engine σ β} {simple : β → α → β} {holds : World σ → Prop} :
    ∀ (list : List α),
      (∀ a ∈ list, ∀ (b : β) (world : World σ), holds world →
        ∃ later, step b a world = some (simple b a, later) ∧ holds later) →
      ∀ (b : β) (world : World σ), holds world →
        ∃ later, list.foldlM step b world = some (list.foldl simple b, later) ∧ holds later
  | [], _, b, world, start => ⟨world, rfl, start⟩
  | a :: list, steps, b, world, start => by
    obtain ⟨between, ran, kept⟩ := steps a List.mem_cons_self b world start
    obtain ⟨later, rest, kept⟩ := run_foldlM list
      (fun a there => steps a (List.mem_cons_of_mem _ there)) (simple b a) between kept
    refine ⟨later, ?_, kept⟩
    rw [List.foldlM_cons, run_bind, ran]
    exact rest

/-- So does a fold of steps that may fail, when none of them does. -/
theorem run_action_foldlM {ε : Type} {step : β → α → Fallible ε σ β} {simple : β → α → β}
    {holds : World σ → Prop} : ∀ (list : List α),
      (∀ a ∈ list, ∀ (b : β) (world : World σ), holds world →
        ∃ later, (step b a).run world = some (.ok (simple b a), later) ∧ holds later) →
      ∀ (b : β) (world : World σ), holds world →
        ∃ later, (list.foldlM step b).run world = some (.ok (list.foldl simple b), later) ∧
          holds later
  | [], _, b, world, start => ⟨world, rfl, start⟩
  | a :: list, steps, b, world, start => by
    obtain ⟨between, ran, kept⟩ := steps a List.mem_cons_self b world start
    obtain ⟨later, rest, kept⟩ := run_action_foldlM list
      (fun a there => steps a (List.mem_cons_of_mem _ there)) (simple b a) between kept
    refine ⟨later, ?_, kept⟩
    rw [List.foldlM_cons, run_action_bind, ran]
    exact rest

end NameService.Engine
