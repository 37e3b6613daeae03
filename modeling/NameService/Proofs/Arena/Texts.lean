import NameService.Arena.Reading
import NameService.Proofs.Arena.Runs
import Mathlib.Data.Option.Basic

/-!
Texts in memory and the slots that point to them. What is read back depends only on octets below the
place where the last of them ends, so it lasts as long as these do.

## Main results

* `text?_of_holds`: a text is read back as it was stored.
* `textsFrom?_of_points`: slots are read back as the texts they point to, each up to its first NUL.
* `run_pushList`: a list that was stored has such slots, and right behind them its texts.
-/

namespace NameService

namespace Text

/-- NUL is the only character with a zero octet. -/
theorem zero_mem_utf8EncodeChar {c : Char} : 0 ∈ String.utf8EncodeChar c ↔ c = '\x00' := by
  have octet {n : Nat} (positive : 0 < n) (below : n < 256) : (0 : UInt8) ≠ UInt8.ofNat n := by
    intro same
    have := congrArg UInt8.toNat same
    simp [Nat.mod_eq_of_lt below] at this
    omega
  constructor
  · intro zero
    have bound : c.val.toNat < 0x110000 := by
      rcases c.valid with low | ⟨-, high⟩
      · exact Nat.lt_of_lt_of_le low (by decide)
      · exact high
    have small : c.val.toNat = 0 := by
      -- The leading octet of a longer form has its upper bits set, as has every one that follows.
      by_contra positive
      simp only [String.utf8EncodeChar] at zero
      split at zero
      · simp only [List.mem_singleton] at zero
        exact octet (by omega) (by omega) zero
      split at zero
      · simp only [List.mem_cons, List.not_mem_nil, or_false] at zero
        rcases zero with zero | zero <;> exact octet (by omega) (by omega) zero
      split at zero
      · simp only [List.mem_cons, List.not_mem_nil, or_false] at zero
        rcases zero with zero | zero | zero <;> exact octet (by omega) (by omega) zero
      · simp only [List.mem_cons, List.not_mem_nil, or_false] at zero
        rcases zero with zero | zero | zero | zero <;> exact octet (by omega) (by omega) zero
    exact Char.ext (UInt32.toNat_inj.mp small)
  · rintro rfl
    decide

def beforeNul (text : String) : String := String.ofList (text.toList.takeWhile (· ≠ '\x00'))

/-- The octets before the first zero octet are those of the characters before the first NUL. -/
theorem takeWhile_octets (text : List Char) (rest : List UInt8) :
    (octets text ++ 0 :: rest).takeWhile (· != 0) = octets (text.takeWhile (· ≠ '\x00')) := by
  induction text with
  | nil => simp [octets]
  | cons c text ih =>
    have parted : octets (c :: text) = String.utf8EncodeChar c ++ octets text := by simp [octets]
    by_cases nul : c = '\x00'
    · subst nul
      have zero : String.utf8EncodeChar '\x00' = [0] := by decide
      simp [octets, zero]
    · have plain : ∀ octet ∈ String.utf8EncodeChar c, (octet != 0) = true := by
        intro octet member
        rw [bne_iff_ne]
        rintro rfl
        exact nul (zero_mem_utf8EncodeChar.mp member)
      rw [parted, List.append_assoc, List.takeWhile_append_of_pos plain, ih]
      simp [nul, octets]

end Text

namespace Arena

theorem addressOf_pointer {address : Nat} (below : address < addressLimit) :
    addressOf (pointer address) = address := by
  simp only [addressLimit, UInt64.size] at below
  simp [pointer, addressOf, pointerSize, List.range_succ]
  omega

@[simp] theorem length_pointer (address : Nat) : (pointer address).length = pointerSize := by
  simp [pointer]

variable {arena later : Arena}

theorem text?_of_holds {offset : Nat} {text : String} (holds : arena.Holds offset text)
    (inUse : offset + (Text.octets text.toList).length ≤ arena.used) :
    arena.text? ⟨offset, (Text.octets text.toList).length⟩ = some text := by
  have octets : (arena.memory.drop offset).take (Text.octets text.toList).length =
      Text.octets text.toList := by
    have shorter := congrArg (List.take (Text.octets text.toList).length) holds
    simpa [octetsAt, List.take_take] using shorter
  simp only [text?, if_pos inUse, octets, Text.decode?_octets, String.ofList_toList]

theorem pointedText?_of_holds {offset : Nat} {text : String} (holds : arena.Holds offset text)
    (inUse : offset + (Text.octets text.toList).length + 1 ≤ arena.used) :
    arena.pointedText? (arena.base + offset) = some (Text.beforeNul text) := by
  have resolved : arena.resolve? (arena.base + offset) = some offset := by
    have : offset < arena.used := by omega
    simp [resolve?, this]
  obtain ⟨rest, tail⟩ : ∃ rest, arena.bytes.drop offset =
      Text.octets text.toList ++ 0 :: rest := by
    refine ⟨(arena.bytes.drop offset).drop ((Text.octets text.toList).length + 1), ?_⟩
    have first : (arena.bytes.drop offset).take ((Text.octets text.toList).length + 1) =
        Text.octets text.toList ++ [0] := by
      rw [← holds, octetsAt, bytes, List.drop_take, List.take_take,
        Nat.min_eq_left (by omega)]
    rw [← List.take_append_drop ((Text.octets text.toList).length + 1) (arena.bytes.drop offset),
      first]
    simp
  simp [pointedText?, resolved, tail, Text.takeWhile_octets, Text.decode?_octets, Text.beforeNul]

/-- Slots that point to texts, and a null pointer after them. All of it ends where it should. -/
def Points (arena : Arena) (ending : Nat) : Nat → List String → Prop
  | slot, [] => slot + pointerSize ≤ ending ∧ arena.octetsAt slot pointerSize = pointer 0
  | slot, text :: texts =>
    (∃ offset, arena.octetsAt slot pointerSize = pointer (arena.base + offset) ∧
      0 < offset ∧ arena.base + offset < addressLimit ∧
      offset + (Text.octets text.toList).length + 1 ≤ ending ∧ arena.Holds offset text) ∧
    slot + pointerSize ≤ ending ∧ arena.Points ending (slot + pointerSize) texts

/-- Slots and texts last as long as nothing below their end changes. -/
theorem Points.of_spares {ending : Nat} (spares : Spares (· < ending) arena later) :
    ∀ {slot : Nat} {texts : List String}, arena.Points ending slot texts →
      later.Points ending slot texts
  | slot, [], ⟨inside, null⟩ => by
    refine ⟨inside, ?_⟩
    rw [← null]
    exact spares.octetsAt fun i _ below => by omega
  | slot, text :: texts, ⟨⟨offset, address, positive, below, inside, holds⟩, fits, points⟩ => by
    refine ⟨⟨offset, ?_, positive, spares.base ▸ below, inside, ?_⟩, fits, points.of_spares spares⟩
    · rw [spares.base, ← address]
      exact spares.octetsAt fun i _ below => by omega
    · rw [Holds, ← holds]
      exact spares.octetsAt fun i _ below => by omega

theorem textsFrom?_of_points {ending : Nat} (inUse : ending ≤ arena.used) :
    ∀ {slot : Nat} {texts : List String}, arena.Points ending slot texts →
      arena.textsFrom? slot = some (texts.map Text.beforeNul)
  | slot, [], ⟨inside, null⟩ => by
    have fits : slot + pointerSize ≤ arena.used := by omega
    simp only [octetsAt] at null
    rw [textsFrom?, if_pos fits, null, addressOf_pointer (by decide)]
    rfl
  | slot, text :: texts, ⟨⟨offset, address, positive, below, inside, holds⟩, fits, points⟩ => by
    have fits' : slot + pointerSize ≤ arena.used := by omega
    have read := pointedText?_of_holds holds (by omega)
    have rest := textsFrom?_of_points inUse points
    simp only [octetsAt] at address
    rw [textsFrom?, if_pos fits', address, addressOf_pointer below]
    have pointing : arena.base + offset ≠ 0 := by omega
    simp only [if_neg pointing, read, rest]
    rfl

/-! ## Lists -/

/-- The place behind texts that lie one behind the other, from a place on. -/
def placeAfter (place : Nat) (texts : List String) : Nat :=
  texts.foldl (fun place text => place + (Text.octets text.toList).length + 1) place

@[simp] theorem placeAfter_nil (place : Nat) : placeAfter place [] = place := rfl

@[simp] theorem placeAfter_cons (place : Nat) (text : String) (texts : List String) :
    placeAfter place (text :: texts) =
      placeAfter (place + (Text.octets text.toList).length + 1) texts := rfl

theorem le_placeAfter (place : Nat) (texts : List String) : place ≤ placeAfter place texts := by
  induction texts generalizing place with
  | nil => exact Nat.le_refl place
  | cons text texts ih =>
    have rest := ih (place + (Text.octets text.toList).length + 1)
    rw [placeAfter_cons]
    omega

/-- Slots that point to texts which lie one behind the other, and a null pointer after them. -/
def Laid (arena : Arena) : Nat → Nat → List String → Prop
  | slot, _, [] => arena.octetsAt slot pointerSize = pointer 0
  | slot, place, text :: texts =>
    arena.octetsAt slot pointerSize = pointer (arena.base + place) ∧ arena.Holds place text ∧
      arena.Laid (slot + pointerSize) (place + (Text.octets text.toList).length + 1) texts

/-- Where all addresses have 64 bits, such slots can be followed. -/
theorem Laid.points {ending : Nat} (within : arena.base + ending ≤ addressLimit) :
    ∀ {slot place : Nat} {texts : List String}, arena.Laid slot place texts → 0 < place →
      slot + pointerSize * (texts.length + 1) ≤ ending → placeAfter place texts ≤ ending →
      arena.Points ending slot texts
  | slot, _, [], null, _, fits, _ => ⟨by simpa using fits, null⟩
  | slot, place, text :: texts, ⟨address, holds, laid⟩, positive, fits, inside => by
    rw [placeAfter_cons] at inside
    rw [List.length_cons, Nat.mul_succ] at fits
    have text_inside := Nat.le_trans (le_placeAfter _ texts) inside
    have rest := laid.points within (Nat.succ_pos _) (by omega) inside
    exact ⟨⟨place, address, positive, by omega, text_inside, holds⟩, by omega, rest⟩

/-- Slots for texts, and one more for the null pointer, that have been filled. Behind all that was
    in use there may be more now; in front of that nothing but the slots has changed. -/
structure Filled (arena later : Arena) (slot count : Nat) : Prop where
  spares : Spares (fun i => i < arena.used ∧ (i < slot ∨ slot + pointerSize * (count + 1) ≤ i))
    arena later
  grown : arena.used ≤ later.used

section Slots

variable {grown : Arena} {slot count : Nat} {stored : StoredText} {text : String}

/-- The arena after a slot has been made to point to a text. -/
def pointed (grown : Arena) (slot : Nat) (stored : StoredText) : Arena :=
  grown.write slot (pointer (grown.base + stored.offset))

@[simp] theorem pointed_used : (grown.pointed slot stored).used = grown.used := rfl

theorem spares_pointed :
    Spares (fun i => i < slot ∨ slot + pointerSize ≤ i) grown (grown.pointed slot stored) :=
  spares_write fun i place => by simpa using place

theorem octetsAt_pointed (room : slot + pointerSize ≤ grown.capacity) :
    (grown.pointed slot stored).octetsAt slot pointerSize =
      pointer (grown.base + stored.offset) := by
  rw [← length_pointer (grown.base + stored.offset)] at room ⊢
  exact octetsAt_write room

variable (put : Stored arena grown stored text)
  (filled : Filled (grown.pointed slot stored) later (slot + pointerSize) count)
include put filled

theorem Filled.cons : Filled arena later slot (count + 1) := by
  have grew : arena.used ≤ grown.used := by
    have := put.begins
    have := put.ends
    omega
  refine ⟨?_, Nat.le_trans grew filled.grown⟩
  rw [Nat.mul_succ]
  have first : Spares (fun i => i < arena.used ∧
      (i < slot ∨ slot + (pointerSize * (count + 1) + pointerSize) ≤ i)) arena grown :=
    put.spares.mono fun i place => place.1
  refine first.trans ((spares_pointed.mono fun i place => ?_).trans
    (filled.spares.mono fun i place => ?_))
  · omega
  · simp only [pointed_used]
    omega

/-- The first slot is in front of the others, and its text is where the others begin. -/
theorem Laid.cons {texts : List String} (room : slot + pointerSize * (count + 1 + 1) ≤ arena.used)
    (laid : later.Laid (slot + pointerSize) grown.used texts) :
    later.Laid slot arena.used (text :: texts) := by
  obtain ⟨earlier, begins, length, ends, holds⟩ := put
  obtain ⟨spares, grew⟩ := filled
  rw [Nat.mul_succ] at room
  simp only [pointed_used] at spares grew
  have inside := grown.used_le
  have capacity : grown.memory.length = arena.capacity := earlier.capacity
  have base : later.base = grown.base := spares.base
  refine ⟨?_, ?_, ?_⟩
  · have fits : slot + pointerSize ≤ grown.capacity := by
      simp only [Arena.capacity]
      omega
    rw [base, ← begins, ← octetsAt_pointed fits]
    exact spares.octetsAt fun i above below => by omega
  · rw [← begins, Holds, ← holds]
    refine (spares.octetsAt fun i above below => ?_).trans
      (spares_pointed.octetsAt fun i above below => ?_)
    · omega
    · omega
  · rw [begins, length] at ends
    exact ends ▸ laid

end Slots

theorem run_fillSlots (texts : List String) (slot : Nat) (arena : Arena)
    (room : slot + pointerSize * (texts.length + 1) ≤ arena.used) :
    ∃ result later, (fillSlots slot texts).run arena = (result, later) ∧
      Filled arena later slot texts.length ∧
      match result with
      | .ok () => later.Laid slot arena.used texts ∧ later.used = placeAfter arena.used texts
      | .error error => ∃ requested remaining, error = .bufferTooSmall requested remaining := by
  -- By induction on the texts, for every slot and arena: a text goes to the end of the arena, and
  -- its address into the first slot that is left.
  induction texts generalizing slot arena with
  | nil =>
    have inside : slot + pointerSize ≤ arena.used := by simpa using room
    have fits : slot + (pointer 0).length ≤ arena.capacity := by
      have := arena.used_le
      simp only [length_pointer, capacity]
      omega
    refine ⟨.ok (), arena.write slot (pointer 0), by simp only [fillSlots, Marshal.run_modify],
      ⟨spares_write fun i place => by simpa using place.2, Nat.le_refl _⟩, ?_, rfl⟩
    simpa [Laid] using octetsAt_write fits
  | cons text texts ih =>
    simp only [List.length_cons] at room ⊢
    simp only [fillSlots, Marshal.run_bind, Marshal.run_modify]
    rcases run_pushText text arena with ⟨stored, grown, ran, put⟩ | ⟨requested, ran⟩
    · rw [ran]
      have begins := put.begins
      have length := put.length
      have ends := put.ends
      have left : slot + pointerSize + pointerSize * (texts.length + 1) ≤
          (grown.pointed slot stored).used := by
        rw [Nat.mul_succ] at room
        simp only [pointed_used]
        omega
      obtain ⟨result, later, ran', filled, outcome⟩ :=
        ih (slot + pointerSize) (grown.pointed slot stored) left
      refine ⟨result, later, ran', .cons put filled, ?_⟩
      cases result with
      | error error => exact outcome
      | ok =>
        obtain ⟨laid, used⟩ := outcome
        refine ⟨.cons put filled room laid, ?_⟩
        rw [used, pointed_used, placeAfter_cons, ends, length, begins]
    · rw [ran]
      exact ⟨_, arena, rfl, ⟨.refl _ _, Nat.le_refl _⟩, requested, _, rfl⟩

/-- A list that has been stored behind all that was in use. -/
structure Listed (arena later : Arena) (stored : StoredList) (texts : List String) : Prop where
  spares : Spares (· < arena.used) arena later
  begins : arena.used ≤ stored.offset
  aligned : pointerSize ∣ arena.base + stored.offset
  length : stored.length = texts.length
  ends : stored.offset + pointerSize * (stored.length + 1) ≤ later.used
  points : later.Points later.used stored.offset texts

/-- The same, with its texts right behind its slots. -/
structure Placed (arena later : Arena) (stored : StoredList) (texts : List String) : Prop where
  spares : Spares (· < arena.used) arena later
  begins : arena.used ≤ stored.offset
  aligned : pointerSize ∣ arena.base + stored.offset
  length : stored.length = texts.length
  laid : later.Laid stored.offset (stored.offset + pointerSize * (stored.length + 1)) texts
  ends : later.used = placeAfter (stored.offset + pointerSize * (stored.length + 1)) texts

theorem Placed.slots_le {stored : StoredList} {texts : List String}
    (placed : Placed arena later stored texts) :
    stored.offset + pointerSize * (stored.length + 1) ≤ later.used := by
  rw [placed.ends]
  exact le_placeAfter _ texts

theorem Placed.listed {stored : StoredList} {texts : List String}
    (placed : Placed arena later stored texts)
    (within : arena.base + arena.capacity ≤ addressLimit) : Listed arena later stored texts := by
  have slots := placed.slots_le
  have inside := later.used_le
  have base := placed.spares.base
  have capacity : later.memory.length = arena.capacity := placed.spares.capacity
  refine ⟨placed.spares, placed.begins, placed.aligned, placed.length, slots, ?_⟩
  apply placed.laid.points
  · omega
  · exact Nat.lt_of_lt_of_le (Nat.succ_pos _) (Nat.le_add_left _ _)
  · rw [← placed.length]
    exact slots
  · exact Nat.le_of_eq placed.ends.symm

theorem run_pushList (texts : List String) (left : Option String) (arena : Arena) :
    (∃ stored later, (pushList texts left).run arena = (.ok stored, later) ∧
        Placed arena later stored (texts.filter fun text => left != some text)) ∨
      ∃ requested remaining later,
        (pushList texts left).run arena = (.error (.bufferTooSmall requested remaining), later) ∧
          later.used = arena.used ∧ Spares (· < arena.used) arena later := by
  -- Whatever fails, the arena goes back to the mark; what was written meanwhile is above it.
  generalize kept : texts.filter (fun text => left != some text) = stored
  simp only [pushList, kept, writeList, Marshal.run_bind, Marshal.run_get, Marshal.run_tryCatch,
    Marshal.run_modify, Marshal.run_throw]
  rcases run_reserveMany pointerSize pointerSize (stored.length + 1) arena with
    ⟨slots, grown, ran, reserved⟩ | ⟨requested, ran⟩
  · obtain ⟨result, later, ran', filled, outcome⟩ :=
      run_fillSlots stored slots grown (Nat.le_of_eq reserved.ends.symm)
    have begins := reserved.begins
    have grew : arena.used ≤ later.used := by
      have := reserved.ends
      have := filled.grown
      omega
    -- Slots and texts alike are stored behind all that was in use.
    have spares : Spares (· < arena.used) arena later := by
      refine (reserved.spares _).trans (filled.spares.mono fun i below => ⟨?_, Or.inl ?_⟩)
      · have := reserved.ends
        omega
      · omega
    rw [ran]
    simp only [ran']
    cases result with
    | ok =>
      obtain ⟨laid, used⟩ := outcome
      rw [reserved.ends] at laid used
      exact Or.inl ⟨⟨slots, stored.length⟩, later, rfl, spares, begins,
        reserved.aligned (Nat.succ_pos _), rfl, laid, used⟩
    | error error =>
      obtain ⟨requested, remaining, rfl⟩ := outcome
      refine Or.inr ⟨requested, remaining, rollback arena.mark later, rfl, ?_,
        spares.trans (spares_rollback _ _)⟩
      rw [used_rollback]
      exact Nat.min_eq_left grew
  · rw [ran]
    refine Or.inr ⟨requested, arena.remaining, rollback arena.mark arena, rfl, ?_,
      spares_rollback _ _⟩
    rw [used_rollback]
    exact Nat.min_self _

end Arena

end NameService
