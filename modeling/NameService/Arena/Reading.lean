import NameService.Arena
import NameService.Text.Octets

/-!
What an arena holds, read back by its offsets and by the addresses that point into it. Only the used
part can be read.
-/

namespace NameService.Arena

def slot? (arena : Arena) (offset : Nat) : Option Nat :=
  if offset + pointerSize ≤ arena.used then
    some (addressOf ((arena.memory.drop offset).take pointerSize))
  else none

/-- The offset to which an address points. -/
def resolve? (arena : Arena) (address : Nat) : Option Nat :=
  if arena.base ≤ address ∧ address - arena.base < arena.used then some (address - arena.base)
  else none

def text? (arena : Arena) (stored : StoredText) : Option String :=
  if stored.offset + stored.length ≤ arena.used then
    Text.decode? ((arena.memory.drop stored.offset).take stored.length)
  else none

/-- The text at an address, up to the first zero octet. -/
def pointedText? (arena : Arena) (address : Nat) : Option String := do
  let offset ← arena.resolve? address
  let tail := arena.bytes.drop offset
  guard (tail.contains 0)
  Text.decode? (tail.takeWhile (· != 0))

/-- The texts to which slots point, up to a null pointer. -/
def textsFrom? (arena : Arena) (slot : Nat) : Option (List String) :=
  if slot + pointerSize ≤ arena.used then
    let address := addressOf ((arena.memory.drop slot).take pointerSize)
    if address = 0 then some []
    else do return (← arena.pointedText? address) :: (← arena.textsFrom? (slot + pointerSize))
  else none
termination_by arena.used - slot
decreasing_by unfold pointerSize at *; omega

def texts? (arena : Arena) (stored : StoredList) : Option (List String) :=
  arena.textsFrom? stored.offset

end NameService.Arena
