import NameService.Arena.Allocation
import Mathlib.Data.List.Basic

/-!
What allocations come to. Whether one succeeds or fails, it leaves the octets alone that were in use
before; what it gives out lies behind them and begins where its alignment allows.

## Main results

`run_reserve`, `run_reserveMany` and `run_pushText`: how each of them ends, and what is in memory
then.
-/

namespace NameService

namespace Marshal

variable {α β : Type} (arena : Arena)

@[simp] theorem run_bind (m : Marshal α) (f : α → Marshal β) :
    (m >>= f).run arena = match m.run arena with
      | (.ok a, later) => (f a).run later
      | (.error error, later) => (.error error, later) := by
  rw [ExceptT.run_bind]
  simp only [bind, StateT.bind]
  rcases m.run arena with ⟨_ | _, later⟩ <;> rfl

@[simp] theorem run_pure (a : α) : (pure a : Marshal α).run arena = (.ok a, arena) := rfl

@[simp] theorem run_throw (error : Error) :
    (throw error : Marshal α).run arena = (.error error, arena) := rfl

@[simp] theorem run_get : (get : Marshal Arena).run arena = (.ok arena, arena) := rfl

@[simp] theorem run_set (later : Arena) :
    (set later : Marshal Unit).run arena = (.ok (), later) := rfl

@[simp] theorem run_modify (change : Arena → Arena) :
    (modify change : Marshal Unit).run arena = (.ok (), change arena) := rfl

@[simp] theorem run_tryCatch (m : Marshal α) (recover : Error → Marshal α) :
    (tryCatch m recover).run arena = match m.run arena with
      | (.ok a, later) => (.ok a, later)
      | (.error error, later) => (recover error).run later := by
  simp only [tryCatch, tryCatchThe, MonadExceptOf.tryCatch, ExceptT.tryCatch, ExceptT.run_mk, bind,
    StateT.bind]
  have opened : m arena = m.run arena := rfl
  rw [opened]
  rcases m.run arena with ⟨_ | _, later⟩ <;> rfl

end Marshal

namespace Arena

/-! ## Octets in memory -/

/-- Octets from a place on, whether they are in use or not. -/
def octetsAt (arena : Arena) (offset size : Nat) : List UInt8 :=
  (arena.memory.drop offset).take size

section Octets

variable {memory octets : List UInt8} {offset i : Nat}

theorem getElem?_overwrite_of_lt (before : i < offset) :
    (overwrite memory offset octets)[i]? = memory[i]? := by
  fun_induction overwrite memory offset octets generalizing i with
  | case4 kept memory octets offset ih =>
    cases i with
    | zero => rfl
    | succ i => simpa using ih (Nat.lt_of_succ_lt_succ before)
  | _ => simp_all

theorem getElem?_overwrite_of_le (behind : offset + octets.length ≤ i) :
    (overwrite memory offset octets)[i]? = memory[i]? := by
  fun_induction overwrite memory offset octets generalizing i with
  | case1 => rfl
  | case2 => rfl
  | case3 _ memory octet octets ih =>
    obtain ⟨i, rfl⟩ : ∃ j, i = j + 1 := ⟨i - 1, by simp at behind; omega⟩
    simpa using ih (by simp at behind ⊢; omega)
  | case4 kept memory octets offset ih =>
    obtain ⟨i, rfl⟩ : ∃ j, i = j + 1 := ⟨i - 1, by omega⟩
    simpa using ih (by omega)

theorem drop_overwrite (fits : offset + octets.length ≤ memory.length) :
    ((overwrite memory offset octets).drop offset).take octets.length = octets := by
  fun_induction overwrite memory offset octets with
  | case1 => simp_all
  | case2 => simp
  | case3 _ memory octet octets ih => simpa using ih (by simpa using fits)
  | case4 kept memory octets offset ih =>
    simpa using ih (by simp only [List.length_cons] at fits; omega)

end Octets

/-- An arena in which some octets are as they were in another one at the same address. -/
structure Spares (places : Nat → Prop) (arena later : Arena) : Prop where
  base : later.base = arena.base
  capacity : later.capacity = arena.capacity
  kept : ∀ i, places i → later.memory[i]? = arena.memory[i]?

namespace Spares

variable {places fewer : Nat → Prop} {arena between later : Arena}

theorem refl (places : Nat → Prop) (arena : Arena) : Spares places arena arena :=
  ⟨rfl, rfl, fun _ _ => rfl⟩

theorem trans (first : Spares places arena between) (second : Spares places between later) :
    Spares places arena later :=
  ⟨second.base.trans first.base, second.capacity.trans first.capacity,
    fun i place => (second.kept i place).trans (first.kept i place)⟩

theorem mono (spares : Spares places arena later) (among : ∀ i, fewer i → places i) :
    Spares fewer arena later :=
  ⟨spares.base, spares.capacity, fun i place => spares.kept i (among i place)⟩

theorem octetsAt {offset size : Nat} (spares : Spares places arena later)
    (among : ∀ i, offset ≤ i → i < offset + size → places i) :
    later.octetsAt offset size = arena.octetsAt offset size := by
  refine List.ext_getElem? fun i => ?_
  simp only [Arena.octetsAt, List.getElem?_take, List.getElem?_drop]
  split
  · exact spares.kept _ (among _ (Nat.le_add_right _ _) (by omega))
  · rfl

theorem take {floor : Nat} (spares : Spares (· < floor) arena later) :
    later.memory.take floor = arena.memory.take floor := by
  have kept : later.octetsAt 0 floor = arena.octetsAt 0 floor :=
    spares.octetsAt fun i _ below => by simpa using below
  simpa [Arena.octetsAt] using kept

end Spares

variable {arena : Arena}

theorem spares_write {places : Nat → Prop} {offset : Nat} {octets : List UInt8}
    (outside : ∀ i, places i → i < offset ∨ offset + octets.length ≤ i) :
    Spares places arena (arena.write offset octets) where
  base := rfl
  capacity := by simp [capacity, write]
  kept i place := by
    rcases outside i place with before | behind
    · exact getElem?_overwrite_of_lt before
    · exact getElem?_overwrite_of_le behind

theorem octetsAt_write {offset : Nat} {octets : List UInt8}
    (fits : offset + octets.length ≤ arena.capacity) :
    (arena.write offset octets).octetsAt offset octets.length = octets :=
  drop_overwrite fits

theorem used_rollback (mark : Mark) : (rollback mark arena).used = min mark.used arena.used := by
  unfold rollback
  split
  · next below => exact (Nat.min_eq_left below).symm
  · next above => exact (Nat.min_eq_right (Nat.le_of_not_le above)).symm

theorem spares_rollback (places : Nat → Prop) (mark : Mark) :
    Spares places arena (rollback mark arena) := by
  unfold rollback
  split <;> exact ⟨rfl, rfl, fun _ _ => rfl⟩

/-! ## Allocation -/

/-- The padding before a piece is less than its alignment. -/
theorem alignUp_near {alignment : Nat} (positive : 0 < alignment) (address : Nat) :
    address ≤ alignUp address alignment ∧ alignUp address alignment < address + alignment := by
  have whole := Nat.div_add_mod (address + (alignment - 1)) alignment
  have part := Nat.mod_lt (address + (alignment - 1)) positive
  rw [alignUp, Nat.mul_comm]
  constructor <;> omega

/-- A piece that has been given out, and behind which the rest begins. -/
structure Reserved (arena later : Arena) (offset size alignment : Nat) : Prop where
  base : later.base = arena.base
  memory : later.memory = arena.memory
  begins : arena.used ≤ offset
  ends : later.used = offset + size
  aligned : 0 < alignment → alignment ∣ arena.base + offset
  near : 0 < alignment → offset < arena.used + alignment

theorem Reserved.spares {later : Arena} {offset size alignment : Nat}
    (reserved : Reserved arena later offset size alignment) (places : Nat → Prop) :
    Spares places arena later where
  base := reserved.base
  capacity := by simp [capacity, reserved.memory]
  kept i _ := by rw [reserved.memory]

theorem run_reserve (size alignment : Nat) (arena : Arena) :
    (∃ offset later, (reserve size alignment).run arena = (.ok offset, later) ∧
        Reserved arena later offset size alignment) ∨
      ∃ requested, (reserve size alignment).run arena =
        (.error (.bufferTooSmall requested arena.remaining), arena) := by
  let start := arena.base + arena.used
  let aligned := alignUp start alignment
  simp only [reserve, Marshal.run_bind, Marshal.run_get]
  split
  · exact Or.inr ⟨size, rfl⟩
  · split
    · refine Or.inl ⟨arena.used + (aligned - start), _, rfl, rfl, rfl, Nat.le_add_right _ _,
        (Nat.add_assoc _ _ _).symm, fun positive => ?_, fun positive => ?_⟩
      · have above : start ≤ aligned := (alignUp_near positive start).1
        have address : arena.base + (arena.used + (aligned - start)) = aligned := by omega
        rw [address]
        exact Nat.dvd_mul_left _ _
      · have near : aligned < start + alignment := (alignUp_near positive start).2
        omega
    · exact Or.inr ⟨_, rfl⟩

theorem run_reserveMany (size alignment count : Nat) (arena : Arena) :
    (∃ offset later, (reserveMany size alignment count).run arena = (.ok offset, later) ∧
        Reserved arena later offset (size * count) alignment) ∨
      ∃ requested, (reserveMany size alignment count).run arena =
        (.error (.bufferTooSmall requested arena.remaining), arena) := by
  simp only [reserveMany]
  split
  · exact Or.inr ⟨addressLimit - 1, rfl⟩
  · exact run_reserve (size * count) alignment arena

/-- A text with a zero octet after it. -/
def Holds (arena : Arena) (offset : Nat) (text : String) : Prop :=
  arena.octetsAt offset ((Text.octets text.toList).length + 1) = Text.octets text.toList ++ [0]

/-- A text that has been stored behind all that was in use. -/
structure Stored (arena later : Arena) (stored : StoredText) (text : String) : Prop where
  spares : Spares (· < arena.used) arena later
  begins : stored.offset = arena.used
  length : stored.length = (Text.octets text.toList).length
  ends : later.used = stored.offset + stored.length + 1
  holds : later.Holds stored.offset text

theorem run_pushText (text : String) (arena : Arena) :
    (∃ stored later, (pushText text).run arena = (.ok stored, later) ∧
        Stored arena later stored text) ∨
      ∃ requested, (pushText text).run arena =
        (.error (.bufferTooSmall requested arena.remaining), arena) := by
  let octets := Text.octets text.toList
  rcases run_reserve (octets.length + 1) 1 arena with ⟨offset, later, ran, reserved⟩ | ⟨size, ran⟩
  · have begins : offset = arena.used :=
      Nat.le_antisymm (Nat.le_of_lt_succ (reserved.near Nat.one_pos)) reserved.begins
    have fits : offset + (octets ++ [0]).length ≤ later.capacity := by
      have := later.used_le
      simp only [List.length_append, List.length_singleton, capacity]
      have := reserved.ends
      omega
    refine Or.inl ⟨⟨offset, octets.length⟩, later.write offset (octets ++ [0]), ?_, ?_⟩
    · simp only [pushText, reserveBytes, Marshal.run_bind, ran, Marshal.run_modify,
        Marshal.run_pure, octets]
    · have written : Spares (· < arena.used) later (later.write offset (octets ++ [0])) :=
        spares_write fun i below => Or.inl (begins ▸ below)
      exact ⟨(reserved.spares _).trans written, begins, rfl, reserved.ends,
        by simpa [Holds] using octetsAt_write fits⟩
  · exact Or.inr ⟨size, by simp only [pushText, reserveBytes, Marshal.run_bind, ran, octets]⟩

end Arena

end NameService
