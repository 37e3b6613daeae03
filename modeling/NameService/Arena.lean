/-!
Memory that a caller lends for the strings of a record. It is given out from the front, never
taken back one by one, and has an address of its own, so that strings in it can be pointed to. What
does not fit is refused and leaves all that was stored before as it was.
-/

namespace NameService

structure Arena where
  base : Nat
  memory : List UInt8
  used : Nat
  used_le : used ≤ memory.length

/-- A text in an arena, without the zero octet after it. -/
structure StoredText where
  offset : Nat
  length : Nat
deriving DecidableEq, Repr

/-- A list of pointers to texts in an arena, without the null pointer after it. -/
structure StoredList where
  offset : Nat
  length : Nat
deriving DecidableEq, Repr

namespace Arena

/-- An arena over memory that is all zero. -/
def fresh (base capacity : Nat) : Arena := ⟨base, List.replicate capacity 0, 0, Nat.zero_le _⟩

def capacity (arena : Arena) : Nat := arena.memory.length

def remaining (arena : Arena) : Nat := arena.capacity - arena.used

def bytes (arena : Arena) : List UInt8 := arena.memory.take arena.used

/-- A place in an arena to which it can be taken back. -/
structure Mark where
  used : Nat
deriving DecidableEq, Repr

def mark (arena : Arena) : Mark := ⟨arena.used⟩

/-- Gives up all that was stored since the mark; octets stay as they are. A mark above the used part
    has no effect. -/
def rollback (mark : Mark) (arena : Arena) : Arena :=
  if below : mark.used ≤ arena.used then
    { arena with used := mark.used, used_le := Nat.le_trans below arena.used_le }
  else arena

/-- Octets in the place of as many others. Nothing is written past the end. -/
def overwrite : List UInt8 → Nat → List UInt8 → List UInt8
  | [], _, _ => []
  | memory, 0, [] => memory
  | _ :: memory, 0, octet :: octets => octet :: overwrite memory 0 octets
  | kept :: memory, offset + 1, octets => kept :: overwrite memory offset octets

@[simp] theorem length_overwrite (memory : List UInt8) (offset : Nat) (octets : List UInt8) :
    (overwrite memory offset octets).length = memory.length := by
  fun_induction overwrite memory offset octets <;> simp_all

def write (offset : Nat) (octets : List UInt8) (arena : Arena) : Arena where
  base := arena.base
  memory := overwrite arena.memory offset octets
  used := arena.used
  used_le := by simpa using arena.used_le

def pointerSize : Nat := 8

/-- An address, least significant octet first. -/
def pointer (address : Nat) : List UInt8 :=
  (List.range pointerSize).map fun place => UInt8.ofNat (address / Nat.pow 256 place % 256)

def addressOf (octets : List UInt8) : Nat :=
  octets.foldr (fun octet address => octet.toNat + 256 * address) 0

end Arena

end NameService
