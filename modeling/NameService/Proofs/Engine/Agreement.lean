import NameService.Proofs.Engine.Runs

/-!
Two actions side by side. Each has a host and a session of its own, and they need not do the same
things on the way; they agree when both come to an end and what they give is alike.
-/

namespace NameService.Engine

variable {ε σ τ α β γ δ : Type}

/-- From any two worlds of certain kinds on, two actions come to an end. They give results that are
    alike, and leave the worlds what they are. -/
def Agree (holds : World σ → Prop) (holds' : World τ → Prop) (alike : α → β → Prop)
    (m : Engine σ α) (m' : Engine τ β) : Prop :=
  ∀ world world', holds world → holds' world' → ∃ a later b later',
    m world = some (a, later) ∧ m' world' = some (b, later') ∧ alike a b ∧
      holds later ∧ holds' later'

/-- Two results are the same, and under some condition they are no failures. -/
def Alike (sure : Prop) (result result' : Except ε α) : Prop :=
  result = result' ∧ (sure → ∃ a, result = .ok a)

theorem Alike.ok {sure : Prop} (a : α) : Alike (ε := ε) sure (.ok a) (.ok a) :=
  ⟨rfl, fun _ => ⟨a, rfl⟩⟩

namespace Agree

variable {holds : World σ → Prop} {holds' : World τ → Prop} {alike : α → β → Prop} {sure : Prop}

theorem pure {a : α} {b : β} (same : alike a b) :
    Agree holds holds' alike (pure a : Engine σ α) (pure b : Engine τ β) :=
  fun world world' start start' => ⟨a, world, b, world', rfl, rfl, same, start, start'⟩

theorem bind {alike' : γ → δ → Prop} {m : Engine σ α} {m' : Engine τ β} {f : α → Engine σ γ}
    {f' : β → Engine τ δ} (first : Agree holds holds' alike m m')
    (second : ∀ a b, alike a b → Agree holds holds' alike' (f a) (f' b)) :
    Agree holds holds' alike' (m >>= f) (m' >>= f') := by
  intro world world' start start'
  obtain ⟨a, between, b, between', ran, ran', same, kept, kept'⟩ := first world world' start start'
  obtain ⟨c, later, d, later', rest, rest', same, kept, kept'⟩ :=
    second a b same between between' kept kept'
  refine ⟨c, later, d, later', ?_, ?_, same, kept, kept'⟩
  · rw [run_bind, ran]
    exact rest
  · rw [run_bind, ran']
    exact rest'

theorem map {alike' : γ → δ → Prop} {m : Engine σ α} {m' : Engine τ β} (g : α → γ) (g' : β → δ)
    (agree : Agree holds holds' alike m m') (same : ∀ a b, alike a b → alike' (g a) (g' b)) :
    Agree holds holds' alike' (g <$> m) (g' <$> m') := by
  intro world world' start start'
  obtain ⟨a, later, b, later', ran, ran', known, kept⟩ := agree world world' start start'
  exact ⟨g a, later, g' b, later', by rw [run_map, ran]; rfl, by rw [run_map, ran']; rfl,
    same a b known, kept⟩

/-- Two actions that fail alike agree when they agree wherever they succeed. -/
theorem action_bind {m : Fallible ε σ α} {m' : Fallible ε τ α} {f : α → Fallible ε σ β}
    {f' : α → Fallible ε τ β} (first : Agree holds holds' (Alike sure) m.run m'.run)
    (second : ∀ a, Agree holds holds' (Alike sure) (f a).run (f' a).run) :
    Agree holds holds' (Alike sure) (m >>= f).run (m' >>= f').run := by
  refine first.bind ?_
  rintro (error | a) _ ⟨rfl, succeeds⟩
  · exact .pure ⟨rfl, fun known => nomatch succeeds known⟩
  · exact second a

/-- What comes before an action that may fail need not give the same, only something alike. -/
theorem lift_bind {alike' : Except ε γ → Except ε δ → Prop} {m : Engine σ α} {m' : Engine τ β}
    {f : α → Fallible ε σ γ} {f' : β → Fallible ε τ δ} (first : Agree holds holds' alike m m')
    (second : ∀ a b, alike a b → Agree holds holds' alike' (f a).run (f' b).run) :
    Agree holds holds' alike' (lift m >>= f).run (lift m' >>= f').run := by
  intro world world' start start'
  obtain ⟨a, between, b, between', ran, ran', same, kept, kept'⟩ := first world world' start start'
  obtain ⟨c, later, d, later', rest, rest', same, kept, kept'⟩ :=
    second a b same between between' kept kept'
  refine ⟨c, later, d, later', ?_, ?_, same, kept, kept'⟩
  · rw [run_action_bind, run_lift, ran]
    exact rest
  · rw [run_action_bind, run_lift, ran']
    exact rest'

/-- Two actions agree when something is known of what each of them gives. -/
theorem of_runs {m : Engine σ α} {m' : Engine τ β} {is : α → Prop} {is' : β → Prop}
    (first : ∀ world, holds world → ∃ a later, m world = some (a, later) ∧ is a ∧ holds later)
    (second : ∀ world, holds' world → ∃ b later, m' world = some (b, later) ∧ is' b ∧ holds' later)
    (same : ∀ a b, is a → is' b → alike a b) : Agree holds holds' alike m m' := by
  intro world world' start start'
  obtain ⟨a, later, ran, known, kept⟩ := first world start
  obtain ⟨b, later', ran', known', kept'⟩ := second world' start'
  exact ⟨a, later, b, later', ran, ran', same a b known known', kept, kept'⟩

/-- Two folds over one list agree when their steps do. -/
theorem foldlM {step : β → α → Fallible ε σ β} {step' : β → α → Fallible ε τ β} (list : List α)
    (steps : ∀ a ∈ list, ∀ b, Agree holds holds' (Alike sure) (step b a).run (step' b a).run)
    (b : β) :
    Agree holds holds' (Alike sure) (list.foldlM step b).run (list.foldlM step' b).run := by
  induction list generalizing b with
  | nil => exact .pure (.ok b)
  | cons a list ih =>
    rw [List.foldlM_cons, List.foldlM_cons]
    exact (steps a List.mem_cons_self b).action_bind fun b =>
      ih (fun a there => steps a (List.mem_cons_of_mem _ there)) b

end Agree

end NameService.Engine
