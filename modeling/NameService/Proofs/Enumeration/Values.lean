import NameService.Proofs.Arena.Runs
import NameService.Proofs.Enumeration.Source

/-!
A parser that reads the values of an attribute one after the other, and keeps each in memory.

## Main result

`ofValues_reads`: it reads all values of every entry, each if there is room for it and a zero octet.
-/

namespace NameService

namespace Arena

/-- There is room for a piece of this size that may begin anywhere. -/
def Room.Fits (room : Room) (size : Nat) : Prop :=
  room.base + room.used < addressLimit ∧ size < addressLimit ∧ size ≤ room.capacity - room.used

variable {arena : Arena} {size : Nat}

theorem run_reserveBytes (fits : arena.room.Fits size) : ∃ used_le,
    (reserveBytes size).run arena =
      (.ok arena.used, { arena with used := arena.used + size, used_le := used_le }) := by
  obtain ⟨address, below, room⟩ := fits
  have used_le : arena.used + size ≤ arena.memory.length := by
    have := arena.used_le
    simp only [Arena.room, capacity] at room
    omega
  refine ⟨used_le, ?_⟩
  have address' : ¬ addressLimit ≤ arena.base + arena.used := Nat.not_le.mpr address
  have below' : ¬ addressLimit ≤ size := Nat.not_le.mpr below
  have room' : size ≤ arena.remaining := room
  simp only [reserveBytes, reserve, alignUp, Marshal.run_bind, Marshal.run_get]
  simp [address', below', room']
  rfl

theorem run_reserveBytes_unfit (unfit : ¬ arena.room.Fits size) :
    (reserveBytes size).run arena = (.error (.bufferTooSmall size arena.remaining), arena) := by
  simp only [reserveBytes, reserve, Marshal.run_bind, Marshal.run_get, alignUp, Nat.sub_self,
    Nat.add_zero, Nat.div_one, Nat.mul_one, Nat.zero_add]
  by_cases far : addressLimit ≤ arena.base + arena.used ∨ addressLimit ≤ size
  · simp only [if_pos far]
    rfl
  · -- The size and the address are in range, so it is the room that is lacking.
    have lacking : ¬ size ≤ arena.remaining := fun room =>
      unfit ⟨by simp only [Arena.room]; omega, by omega, room⟩
    simp only [if_neg far, dif_neg lacking]
    rfl

theorem run_pushText_fit {text : String}
    (fits : arena.room.Fits ((Text.octets text.toList).length + 1)) :
    ∃ stored later, (pushText text).run arena = (.ok stored, later) ∧ later.base = arena.base ∧
      later.capacity = arena.capacity ∧ arena.used ≤ later.used := by
  obtain ⟨used_le, reserved⟩ := run_reserveBytes fits
  let grown : Arena :=
    { arena with used := arena.used + ((Text.octets text.toList).length + 1), used_le := used_le }
  refine ⟨⟨arena.used, (Text.octets text.toList).length⟩,
    grown.write arena.used (Text.octets text.toList ++ [0]), ?_, rfl, ?_, Nat.le_add_right _ _⟩
  · simp only [pushText, Marshal.run_bind, reserved, Marshal.run_modify, Marshal.run_pure, grown]
  · simp [grown, write, capacity]

theorem run_pushText_unfit {text : String}
    (unfit : ¬ arena.room.Fits ((Text.octets text.toList).length + 1)) :
    (pushText text).run arena =
      (.error (.bufferTooSmall ((Text.octets text.toList).length + 1) arena.remaining), arena) := by
  simp only [pushText, Marshal.run_bind, run_reserveBytes_unfit unfit]

end Arena

namespace RecordParser

def ofValues (type : String) : RecordParser String := fun entry position arena =>
  let index := match position with
    | .byIndex (some index) => index
    | _ => 0
  match (entry.values type)[index]? with
  | none => ⟨.ok none, position, arena⟩
  | some value =>
    let (stored, later) := (Arena.pushText value).run arena
    ⟨stored.map fun _ => some value,
      if index + 1 < (entry.values type).length then .byIndex (some (index + 1)) else .start, later⟩

/-- There is room for a value and a zero octet. -/
def FitsValue (item : Item String) (room : Arena.Room) : Prop :=
  room.Fits ((Text.octets item.record.toList).length + 1)

variable (type : String) {entry : Entry} {index : Nat} {position : Position} (arena : Arena)

theorem ofValues_none (stands : position.At index) (missing : (entry.values type)[index]? = none) :
    ofValues type entry position arena = ⟨.ok none, position, arena⟩ := by
  rcases stands with rfl | ⟨rfl, rfl⟩ <;> simp only [ofValues, missing]

theorem ofValues_some (stands : position.At index) {value : String}
    (found : (entry.values type)[index]? = some value) :
    ofValues type entry position arena =
      ⟨((Arena.pushText value).run arena).1.map fun _ => some value,
        if index + 1 < (entry.values type).length then .byIndex (some (index + 1)) else .start,
        ((Arena.pushText value).run arena).2⟩ := by
  rcases stands with rfl | ⟨rfl, rfl⟩
  · simp only [ofValues, found]
    rfl
  · simp only [ofValues, found]
    rfl

theorem ofValues_reads : (ofValues type).Reads (Entry.values · type) FitsValue where
  taken := by
    intro entry index position arena value stands found fits
    obtain ⟨stored, later, ran, -⟩ := Arena.run_pushText_fit fits
    rw [ofValues_some type arena stands found, ran]
    refine ⟨rfl, ?_⟩
    split
    · rfl
    · rfl
  refused := by
    intro entry index position arena value stands found unfit
    rw [ofValues_some type arena stands found, Arena.run_pushText_unfit unfit]
    exact ⟨_, _, rfl⟩
  passed := by
    intro entry index position arena stands missing
    rw [ofValues_none type arena stands missing]
    exact Or.inl rfl
  adds := by
    intro entry position arena
    unfold ofValues
    dsimp only
    split
    · exact ⟨rfl, rfl, Nat.le_refl _⟩
    · next value _ =>
      -- A value takes room whether it is the first or a later one, and only if all of it fits.
      by_cases fits : arena.room.Fits ((Text.octets value.toList).length + 1)
      · obtain ⟨stored, later, ran, base, capacity, used⟩ := Arena.run_pushText_fit fits
        simp only [ran]
        exact ⟨base, capacity, used⟩
      · simp only [Arena.run_pushText_unfit fits, Nat.le_refl, and_self]

end RecordParser

end NameService
