import NameService.Proofs.Arena.Framing
import Mathlib.Data.List.TakeWhile

/-!
Lists of texts that are read back slot by slot. The slots come first and the texts right behind
them, so a text lies where the sizes of those before it say. Each slot can be followed to its text,
and the list can be read as a whole; both go on for as long as nothing below its end changes.

## Main result

`pushList_legible`: a list that has been stored is read back by all these ways, whatever is
allocated after it.
-/

namespace NameService

/-- A text without a NUL is read to its end. -/
theorem Text.beforeNul_of_notMem {text : String} (plain : '\x00' ∉ text.toList) :
    beforeNul text = text := by
  have whole : text.toList.takeWhile (· ≠ '\x00') = text.toList := by
    rw [List.takeWhile_eq_self_iff]
    intro c member
    have : c ≠ '\x00' := fun nul => plain (nul ▸ member)
    simpa using this
  rw [beforeNul, whole, String.ofList_toList]

namespace Arena

/-! ## Places of texts -/

theorem placeAfter_append (place : Nat) (before texts : List String) :
    placeAfter place (before ++ texts) = placeAfter (placeAfter place before) texts :=
  List.foldl_append

/-- Of two texts the one with the lower number lies in front. -/
theorem placeAfter_take_le (place : Nat) (texts : List String) {j k : Nat} (order : j ≤ k) :
    placeAfter place (texts.take j) ≤ placeAfter place (texts.take k) := by
  have front : (texts.take k).take j = texts.take j := by
    rw [List.take_take, Nat.min_eq_left order]
  rw [← List.take_append_drop j (texts.take k), front, placeAfter_append]
  exact le_placeAfter _ _

theorem placeAfter_take_succ (place : Nat) {texts : List String} {k : Nat} {text : String}
    (there : texts[k]? = some text) : placeAfter place (texts.take (k + 1)) =
      placeAfter place (texts.take k) + (Text.octets text.toList).length + 1 := by
  rw [List.take_add_one, there, placeAfter_append]
  rfl

variable {arena later : Arena} {slot place : Nat} {texts : List String}

/-- Slots and texts last as long as nothing below their end changes. -/
theorem Laid.of_spares {ending : Nat} (spares : Spares (· < ending) arena later)
    (laid : arena.Laid slot place texts) (fits : slot + pointerSize * (texts.length + 1) ≤ ending)
    (inside : placeAfter place texts ≤ ending) : later.Laid slot place texts := by
  induction texts generalizing slot place with
  | nil =>
    rw [Laid] at laid ⊢
    rw [← laid]
    simp only [List.length_nil] at fits
    exact spares.octetsAt fun i _ below => by omega
  | cons text texts ih =>
    obtain ⟨address, holds, rest⟩ := laid
    rw [placeAfter_cons] at inside
    rw [List.length_cons, Nat.mul_succ] at fits
    have text_inside := Nat.le_trans (le_placeAfter _ texts) inside
    refine ⟨?_, ?_, ih rest (by omega) inside⟩
    · -- The address in the slot counts from the same base.
      rw [spares.base, ← address]
      exact spares.octetsAt fun i _ below => by omega
    · rw [Holds, ← holds]
      exact spares.octetsAt fun i _ below => by omega

theorem Laid.null (laid : arena.Laid slot place texts) :
    arena.octetsAt (slot + pointerSize * texts.length) pointerSize = pointer 0 := by
  induction texts generalizing slot place with
  | nil => exact laid
  | cons text texts ih =>
    have rest := ih laid.2.2
    rwa [List.length_cons, Nat.mul_succ, Nat.add_comm (pointerSize * _), ← Nat.add_assoc]

/-- Each slot points to where its text begins. -/
theorem Laid.text {k : Nat} {text : String} (laid : arena.Laid slot place texts)
    (there : texts[k]? = some text) :
    arena.octetsAt (slot + pointerSize * k) pointerSize =
        pointer (arena.base + placeAfter place (texts.take k)) ∧
      arena.Holds (placeAfter place (texts.take k)) text := by
  induction texts generalizing slot place k with
  | nil => simp at there
  | cons first texts ih =>
    obtain ⟨address, holds, rest⟩ := laid
    cases k with
    | zero =>
      obtain rfl : first = text := by simpa using there
      exact ⟨address, holds⟩
    | succ k =>
      have further := ih rest (by simpa using there)
      rwa [Nat.mul_succ, Nat.add_comm (pointerSize * k), ← Nat.add_assoc]

/-! ## Reading -/

/-- Where the text of a slot begins. -/
def textPlace (stored : StoredList) (texts : List String) (k : Nat) : Nat :=
  placeAfter (stored.offset + pointerSize * (stored.length + 1)) (texts.take k)

/-- A slot with the address of a text, by which the text is read up to its first NUL. -/
structure Addresses (arena : Arena) (stored : StoredList) (k address offset : Nat)
    (text : String) : Prop where
  slot : arena.slot? (stored.offset + pointerSize * k) = some address
  nonzero : address ≠ 0
  resolved : arena.resolve? address = some offset
  behindSlots : stored.offset + pointerSize * (stored.length + 1) ≤ offset
  inUse : offset + (Text.octets text.toList).length + 1 ≤ arena.used
  holds : arena.Holds offset text
  read : arena.pointedText? address = some (Text.beforeNul text)

/-- A list that can be read as a whole and slot by slot. -/
structure Legible (arena : Arena) (stored : StoredList) (texts : List String) : Prop where
  length : stored.length = texts.length
  null : arena.slot? (stored.offset + pointerSize * stored.length) = some 0
  slots : ∀ (k : Nat) (text : String), texts[k]? = some text →
    arena.Addresses stored k (arena.base + textPlace stored texts k) (textPlace stored texts k) text
  /-- No two texts share an octet. -/
  apart : ∀ (j k : Nat) (text : String), j < k → texts[j]? = some text →
    textPlace stored texts j + (Text.octets text.toList).length + 1 ≤ textPlace stored texts k
  whole : arena.texts? stored = some (texts.map Text.beforeNul)
  plain : (∀ text ∈ texts, '\x00' ∉ text.toList) → arena.texts? stored = some texts

theorem slot?_of_octetsAt {offset address : Nat} (inUse : offset + pointerSize ≤ arena.used)
    (octets : arena.octetsAt offset pointerSize = pointer address)
    (below : address < addressLimit) : arena.slot? offset = some address := by
  simp only [octetsAt] at octets
  rw [slot?, if_pos inUse, octets, addressOf_pointer below]

section Legibility

variable {stored : StoredList} (within : arena.base + arena.capacity ≤ addressLimit)
  (length : stored.length = texts.length)
  (laid : arena.Laid stored.offset (stored.offset + pointerSize * (stored.length + 1)) texts)
  (inUse : placeAfter (stored.offset + pointerSize * (stored.length + 1)) texts ≤ arena.used)
include within length laid inUse

/-- A slot of such a list is followed to its text. -/
theorem Laid.addresses {k : Nat} {text : String} (there : texts[k]? = some text) :
    arena.Addresses stored k (arena.base + textPlace stored texts k) (textPlace stored texts k)
      text := by
  obtain ⟨address, holds⟩ := laid.text there
  have inside : k < texts.length := (List.getElem?_eq_some_iff.mp there).1
  have room : arena.used ≤ arena.capacity := arena.used_le
  -- The text lies between the slots and the end of the list.
  have behind : stored.offset + pointerSize * (stored.length + 1) ≤ textPlace stored texts k :=
    le_placeAfter _ _
  have next : textPlace stored texts (k + 1) ≤ arena.used := by
    refine Nat.le_trans ?_ inUse
    have last := placeAfter_take_le (stored.offset + pointerSize * (stored.length + 1)) texts inside
    rwa [List.take_length] at last
  rw [textPlace, placeAfter_take_succ _ there, ← textPlace] at next
  have fits : stored.offset + pointerSize * k + pointerSize ≤ arena.used := by
    have slots : pointerSize * (k + 1) ≤ pointerSize * (stored.length + 1) :=
      Nat.mul_le_mul_left _ (by omega)
    rw [Nat.mul_succ] at slots
    omega
  constructor
  case slot => exact slot?_of_octetsAt fits address (by omega)
  case nonzero =>
    have : 0 < pointerSize * (stored.length + 1) := Nat.mul_pos (by decide) (Nat.succ_pos _)
    omega
  case resolved =>
    have : textPlace stored texts k < arena.used := by omega
    simp [resolve?, this]
  case behindSlots => exact behind
  case inUse => exact next
  case holds => exact holds
  case read => exact pointedText?_of_holds holds next

theorem Laid.legible : Legible arena stored texts := by
  have room : arena.used ≤ arena.capacity := arena.used_le
  have slots_end := Nat.le_trans (le_placeAfter _ texts) inUse
  -- The list as a whole is read by following its slots one after the other.
  have read : arena.texts? stored = some (texts.map Text.beforeNul) := by
    apply textsFrom?_of_points (Nat.le_refl arena.used)
    apply laid.points
    · omega
    · exact Nat.lt_of_lt_of_le (Nat.succ_pos _) (Nat.le_add_left _ _)
    · rwa [← length]
    · exact inUse
  constructor
  case length => exact length
  case null =>
    rw [length] at slots_end ⊢
    rw [Nat.mul_succ] at slots_end
    exact slot?_of_octetsAt (by omega) laid.null (by decide)
  case slots => exact fun k text there => laid.addresses within length inUse there
  case apart =>
    intro j k text order there
    have next := placeAfter_take_le (stored.offset + pointerSize * (stored.length + 1)) texts order
    rwa [placeAfter_take_succ _ there] at next
  case whole => exact read
  case plain =>
    intro plain
    have same : texts.map Text.beforeNul = texts.map id :=
      List.map_congr_left fun text there => Text.beforeNul_of_notMem (plain text there)
    rw [read, same, List.map_id]

end Legibility

/-- A list that has been stored has all texts but the one to be left out, and is read back by its
    slots and by the addresses in them. Whatever is allocated then, it stays so. -/
theorem pushList_legible {arena later : Arena} {texts : List String} {left : Option String}
    {stored : StoredList} (within : arena.base + arena.capacity ≤ addressLimit)
    (ran : (pushList texts left).run arena = (.ok stored, later)) {commands : List Command}
    (allocate : ∀ command ∈ commands, command.Allocates) :
    stored.length = texts.countP (fun text => left != some text) ∧
      Legible (later.after commands) stored (texts.filter fun text => left != some text) := by
  rcases run_pushList texts left arena with ⟨stored', later', ran', placed⟩ | ⟨_, _, _, ran', -⟩
  · rw [ran'] at ran
    cases ran
    -- What is allocated later leaves alone all that is in use when the list has been stored.
    obtain ⟨spares, grown⟩ := after_allocations allocate _
    have slots := placed.slots_le
    rw [placed.length] at slots
    constructor
    · rw [placed.length, List.countP_eq_length_filter]
    apply Laid.legible
    · rw [spares.base, spares.capacity, placed.spares.base, placed.spares.capacity]
      exact within
    · exact placed.length
    · exact placed.laid.of_spares spares slots (Nat.le_of_eq placed.ends.symm)
    · rw [← placed.ends]
      exact grown
  · rw [ran'] at ran
    cases ran

/-- A text may be empty, have a NUL in it, or have characters of more than one octet; what is left
    out takes no slot. Memory at an odd address is given out after it. -/
theorem pushList_legible_odd :
    let arena := fresh 5 80
    let texts := ["a\x00b", "web", "", "é"]
    ∃ stored later, arena.base + arena.capacity ≤ addressLimit ∧
      (pushList texts (some "web")).run arena = (.ok stored, later) ∧
      stored.length = 3 ∧
      Legible (later.after [.text "db", .values ⟨4, 4, Nat.succ_pos 3⟩ 2]) stored
        ["a\x00b", "", "é"] ∧
      (later.after [.text "db", .values ⟨4, 4, Nat.succ_pos 3⟩ 2]).texts? stored =
        some ["a", "", "é"] := by
  intro arena texts
  have within : arena.base + arena.capacity ≤ addressLimit := by decide
  have ran : (pushList texts (some "web")).run arena =
      (.ok ⟨3, 3⟩, ((pushList texts (some "web")).run arena).2) :=
    Prod.ext (by decide +kernel) rfl
  have allocate : ∀ command ∈ [Command.text "db", .values ⟨4, 4, Nat.succ_pos 3⟩ 2],
      command.Allocates := by simp [Command.Allocates]
  obtain ⟨length, legible⟩ := pushList_legible within ran allocate
  have kept : texts.filter (fun text => some "web" != some text) = ["a\x00b", "", "é"] := by
    decide
  rw [kept] at legible
  have shown : ["a\x00b", "", "é"].map Text.beforeNul = ["a", "", "é"] := by decide
  exact ⟨_, _, within, ran, rfl, legible, shown ▸ legible.whole⟩

end Arena

end NameService
