import Mathlib.Data.List.Nodup
import NameService.Proofs.Json.Decoding

/-!
Values that differ in the order of their members only. Order has no meaning in an object, and so it
has none in a dictionary that is kept as one.

## Main result

- `Pairs.Same.alike`: dictionaries with the same pairs are written alike.
-/

namespace NameService

/-- The same keys with values that are related, in any order. -/
def Pairs.Same {κ α : Type} (related : α → α → Prop) (xs ys : List (κ × α)) : Prop :=
  ∃ zs, xs.Perm zs ∧ zs.map Prod.fst = ys.map Prod.fst ∧
    List.Forall₂ related (zs.map Prod.snd) (ys.map Prod.snd)

namespace Json

/-- One value, with the members of its objects in any order. -/
inductive Alike : Json → Json → Prop
  | refl (v : Json) : Alike v v
  | array {xs ys : List Json} (each : List.Forall₂ Alike xs ys) : Alike (ofList xs) (ofList ys)
  | object {xs zs ys : List (String × Json)} (filed : Pairs.Filed xs) (moved : xs.Perm zs)
    (keys : zs.map Prod.fst = ys.map Prod.fst)
    (each : List.Forall₂ Alike (zs.map Prod.snd) (ys.map Prod.snd)) :
    Alike (ofMembers xs) (ofMembers ys)

theorem alike_of_forall₂ {xs ys : List (String × Json)} (filed : Pairs.Filed xs)
    (each : List.Forall₂ (fun x y => x.1 = y.1 ∧ Alike x.2 y.2) xs ys) :
    Alike (ofMembers xs) (ofMembers ys) := by
  apply Alike.object filed (.refl xs)
  · rw [← List.forall₂_eq_eq_eq, List.forall₂_map_left_iff, List.forall₂_map_right_iff]
    exact each.imp fun _ _ both => both.1
  · rw [List.forall₂_map_left_iff, List.forall₂_map_right_iff]
    exact each.imp fun _ _ both => both.2

end Json

namespace Pairs

variable {κ α : Type} {related : α → α → Prop} {xs ys : List (κ × α)}

theorem Same.of_perm (same : ∀ a, related a a) (moved : xs.Perm ys) : Same related xs ys :=
  ⟨ys, moved, rfl, List.forall₂_same.mpr fun a _ => same a⟩

theorem filed_of_perm (moved : xs.Perm ys) (filed : Filed ys) : Filed xs :=
  (moved.map Prod.fst).nodup_iff.mpr filed

theorem Same.filed (same : Same related xs ys) (filed : Filed ys) : Filed xs := by
  obtain ⟨zs, moved, keys, -⟩ := same
  apply filed_of_perm moved
  rw [Filed, keys]
  exact filed

theorem Same.exists_related (same : Same related xs ys) {x : κ × α} (member : x ∈ xs) :
    ∃ y ∈ ys, related x.2 y.2 := by
  obtain ⟨zs, moved, -, values⟩ := same
  rw [List.forall₂_map_left_iff, List.forall₂_map_right_iff] at values
  exact exists_of_forall₂ values.flip (moved.mem_iff.mp member)

theorem Filed.map {β : Type} {name : κ → String} {write : κ × α → String × β}
    (injective : Function.Injective name) (keys : ∀ pair, (write pair).1 = name pair.1)
    (filed : Filed xs) : Filed (xs.map write) := by
  have written : (xs.map write).map Prod.fst = (xs.map Prod.fst).map name := by
    simp [keys]
  rw [Filed, written]
  exact List.Nodup.map injective filed

theorem Same.alike {name : κ → String} {write : κ × α → String × Json}
    (injective : Function.Injective name) (keys : ∀ pair, (write pair).1 = name pair.1)
    (each : ∀ x ∈ xs, ∀ y, related x.2 y.2 → Json.Alike (write x).2 (write y).2)
    (filed : Filed xs) (same : Same related xs ys) :
    Json.Alike (.ofMembers (xs.map write)) (.ofMembers (ys.map write)) := by
  obtain ⟨zs, moved, equal, values⟩ := same
  -- The same rearrangement serves before and after the writing.
  apply Json.Alike.object (filed.map injective keys) (moved.map write)
  · have names := congrArg (List.map name) equal
    simpa [Function.comp_def, keys] using names
  · simp only [List.forall₂_map_left_iff, List.forall₂_map_right_iff] at values ⊢
    have inside : ∀ x ∈ zs, x ∈ xs := fun x => moved.mem_iff.mpr
    have both := (List.forall₂_and_left _ _).mpr ⟨inside, values⟩
    exact both.imp fun {x y} found => each x found.1 y found.2

end Pairs

end NameService
