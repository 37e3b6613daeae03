import Mathlib.Data.List.Forall2

/-!
Lists that are gone through with an action that may fail. The whole succeeds when each element does,
and then the results are those of the elements.
-/

namespace NameService

variable {ε α β : Type} {f : α → Except ε β} {xs : List α} {ys : List β}

@[simp] theorem map_ok (g : α → β) (a : α) : (Except.ok a : Except ε α).map g = .ok (g a) := rfl

@[simp] theorem ok_bind (a : α) (next : α → Except ε β) : (Except.ok a >>= next) = next a := rfl

theorem map_eq_ok_iff {result : Except ε α} {g : α → β} {b : β} :
    result.map g = .ok b ↔ ∃ a, result = .ok a ∧ g a = b := by
  cases result <;> simp [Except.map]

theorem bind_eq_ok_iff {first : Except ε α} {next : α → Except ε β} {b : β} :
    (first >>= next) = .ok b ↔ ∃ a, first = .ok a ∧ next a = .ok b := by
  cases first <;> simp [bind, Except.bind]

theorem mapError_eq_ok_iff {δ : Type} {result : Except ε α} {g : ε → δ} {a : α} :
    result.mapError g = .ok a ↔ result = .ok a := by
  cases result <;> simp [Except.mapError]

theorem mapM_eq_ok_iff :
    xs.mapM f = .ok ys ↔ List.Forall₂ (fun x y => f x = .ok y) xs ys := by
  induction xs generalizing ys with
  | nil => cases ys <;> simp [pure, Except.pure]
  | cons x xs ih =>
    rw [List.mapM_cons]
    cases head : f x with
    | error fault => cases ys <;> simp [bind, Except.bind, head]
    | ok y =>
      cases tail : xs.mapM f with
      | error fault => cases ys <;> simp [bind, Except.bind, ← ih, tail, head]
      | ok others => cases ys <;> simp [bind, Except.bind, pure, Except.pure, ← ih, tail, head]

theorem exists_of_forall₂ {related : α → β → Prop} {xs : List α} {ys : List β}
    (each : List.Forall₂ related xs ys) {y : β} (member : y ∈ ys) : ∃ x ∈ xs, related x y := by
  induction each with
  | nil => simp at member
  | @cons x _ xs _ first _ ih =>
    rcases List.mem_cons.mp member with rfl | among
    · exact ⟨x, List.mem_cons_self, first⟩
    · obtain ⟨x, inside, found⟩ := ih among
      exact ⟨x, List.mem_cons_of_mem _ inside, found⟩

theorem exists_of_mapM (read : xs.mapM f = .ok ys) {y : β} (member : y ∈ ys) :
    ∃ x ∈ xs, f x = .ok y :=
  exists_of_forall₂ (mapM_eq_ok_iff.mp read) member

theorem ne_nil_of_mapM (read : xs.mapM f = .ok ys) (filled : xs ≠ []) : ys ≠ [] := by
  rintro rfl
  cases xs with
  | nil => exact filled rfl
  | cons x xs => simpa using mapM_eq_ok_iff.mp read

end NameService
