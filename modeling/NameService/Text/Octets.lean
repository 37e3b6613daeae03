/-!
UTF-8 octets read as text. When octets are not UTF-8, the fault says where the longest good part
ends, and how many octets after it can belong to no character; a text cut off inside a character
has no such count.
-/

namespace NameService.Text

structure Malformed where
  index : Nat
  length : Option Nat
deriving DecidableEq, Repr

def Malformed.message (fault : Malformed) : String :=
  match fault.length with
  | some length =>
    "invalid utf-8 sequence of " ++ toString length ++ " bytes from index " ++ toString fault.index
  | none => "incomplete utf-8 byte sequence from index " ++ toString fault.index

/-- How many octets a character takes that starts with this one, and the range of its second. -/
def leadingOctet (octet : UInt8) : Option (Nat × UInt8 × UInt8) :=
  if octet < 0x80 then some (1, 0, 0)
  else if octet < 0xC2 then none
  else if octet < 0xE0 then some (2, 0x80, 0xBF)
  else if octet == 0xE0 then some (3, 0xA0, 0xBF)
  else if octet == 0xED then some (3, 0x80, 0x9F)
  else if octet < 0xF0 then some (3, 0x80, 0xBF)
  else if octet == 0xF0 then some (4, 0x90, 0xBF)
  else if octet < 0xF4 then some (4, 0x80, 0xBF)
  else if octet == 0xF4 then some (4, 0x80, 0x8F)
  else none

/-- The first fault at or after an index, where `octets` is the part of the text from that index.
    Octets are taken one by one: `pending` counts those a character still lacks, `range` bounds the
    next, and `seen` counts those it already has. -/
def fault? (octets : List UInt8) (index : Nat) (pending seen : Nat) (range : UInt8 × UInt8) :
    Option Malformed :=
  match octets, pending with
  | [], 0 => none
  | [], _ + 1 => some ⟨index, none⟩
  | octet :: rest, 0 =>
    match leadingOctet octet with
    | none => some ⟨index, some 1⟩
    | some (0, _) | some (1, _) => fault? rest (index + 1) 0 0 (0, 0)
    | some (width + 2, low, high) => fault? rest index (width + 1) 1 (low, high)
  | octet :: rest, pending + 1 =>
    if range.1 ≤ octet ∧ octet ≤ range.2 then
      if pending = 0 then fault? rest (index + seen + 1) 0 0 (0, 0)
      else fault? rest index pending (seen + 1) (0x80, 0xBF)
    else some ⟨index, some seen⟩

/-- The text that octets spell. -/
def decode? (octets : List UInt8) : Option String := String.fromUTF8? octets.toByteArray

def decode (octets : List UInt8) : Except Malformed String :=
  match decode? octets with
  | some text => .ok text
  | none => .error ((fault? octets 0 0 0 (0, 0)).getD ⟨0, none⟩)

def octets (text : List Char) : List UInt8 := text.flatMap String.utf8EncodeChar

theorem decode?_octets (text : List Char) : decode? (octets text) = some (String.ofList text) := by
  have spelled : (octets text).toByteArray = (String.ofList text).toByteArray := by
    simp [octets, List.utf8Encode]
  rw [decode?, spelled]
  have valid := (String.ofList text).isValidUTF8
  simp only [String.fromUTF8?, valid, dite_true, String.fromUTF8]

end NameService.Text
