import NameService.Arena
import NameService.Error
import NameService.Text.Octets

/-!
Allocation in an arena. A piece begins where its alignment allows, after all pieces before it; one
that does not fit is refused and changes nothing.
-/

namespace NameService

/-- An action on an arena. A failure may leave its traces above the used part. -/
abbrev Marshal := ExceptT Error (StateM Arena)

namespace Arena

/-- Numbers of octets and addresses have 64 bits. -/
def addressLimit : Nat := UInt64.size

def alignUp (address alignment : Nat) : Nat :=
  (address + (alignment - 1)) / alignment * alignment

/-- The offset of a piece of this size whose address is a multiple of the alignment. A piece that
    reaches past the last address is refused like one that does not fit. -/
def reserve (size alignment : Nat) : Marshal Nat := do
  let arena ← get
  let start := arena.base + arena.used
  let aligned := alignUp start alignment
  let requested := aligned - start + size
  if addressLimit ≤ start + (alignment - 1) ∨ addressLimit ≤ requested then
    throw (.bufferTooSmall size arena.remaining)
  if fits : requested ≤ arena.remaining then
    set { arena with
      used := arena.used + requested
      used_le := by
        have := arena.used_le
        unfold remaining capacity at fits
        omega }
    return arena.used + (aligned - start)
  else throw (.bufferTooSmall requested arena.remaining)

def reserveBytes (size : Nat) : Marshal Nat := reserve size 1

/-- Room for a number of values of one size and alignment. -/
def reserveMany (size alignment count : Nat) : Marshal Nat := do
  if addressLimit ≤ size * count then
    throw (.bufferTooSmall (addressLimit - 1) (← get).remaining)
  reserve (size * count) alignment

/-- A text and a zero octet after it. -/
def pushText (text : String) : Marshal StoredText := do
  let octets := Text.octets text.toList
  let offset ← reserveBytes (octets.length + 1)
  modify (write offset (octets ++ [0]))
  return ⟨offset, octets.length⟩

/-- Texts, with a pointer to each in the slots before them, and a null pointer after the last. -/
def fillSlots (slot : Nat) : List String → Marshal Unit
  | [] => modify (write slot (pointer 0))
  | text :: texts => do
    let stored ← pushText text
    modify fun arena => arena.write slot (pointer (arena.base + stored.offset))
    fillSlots (slot + pointerSize) texts

def writeList (texts : List String) : Marshal StoredList := do
  let slots ← reserveMany pointerSize pointerSize (texts.length + 1)
  fillSlots slots texts
  return ⟨slots, texts.length⟩

/-- All texts but one, or none at all if they do not fit together. -/
def pushList (texts : List String) (left : Option String) : Marshal StoredList := do
  let start := (← get).mark
  try writeList (texts.filter fun text => left != some text)
  catch error =>
    -- The slots may have been given out before a text did not fit.
    modify (rollback start)
    throw error

end Arena

end NameService
