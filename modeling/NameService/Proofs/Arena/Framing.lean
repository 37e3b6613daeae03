import NameService.Proofs.Arena.Commands
import NameService.Proofs.Enumeration.Source

/-!
Whatever octets are in an arena, what is done with it depends on the room alone. An action frames a
place when nothing in front of it is changed or given up; the octets behind it are of no account.
Parsers that are made of such actions leave no trace when what they have stored is taken back.

## Main results

- `Command.frames`: every command frames whatever it does not go back behind.
- `RecordParser.Confined.passed`: an entry that is passed over leaves the room and the octets in use
  as they were.
-/

namespace NameService

open Arena

/-- On all arenas with one room, in which a place is not yet given out, the action gives the same
    and leaves the same room, and what is in front of the place is as it was. -/
def Marshal.Frames {α : Type} (floor : Nat) (gives : α → Prop) (m : Marshal α) : Prop :=
  ∀ arena other : Arena, arena.room = other.room → floor ≤ arena.used →
    ∃ result later later', m.run arena = (result, later) ∧ m.run other = (result, later') ∧
      later.room = later'.room ∧ Spares (· < floor) arena later ∧ floor ≤ later.used ∧
      ∀ a, result = .ok a → gives a

namespace Marshal.Frames

variable {α β : Type} {floor : Nat} {gives : α → Prop} {gives' : β → Prop} {m : Marshal α}

theorem pure {a : α} (given : gives a) : Frames floor gives (pure a) := by
  intro arena other same above
  refine ⟨.ok a, arena, other, rfl, rfl, same, .refl _ _, above, ?_⟩
  rintro _ ⟨⟩
  exact given

theorem throw (error : Error) : Frames floor gives (throw error) := by
  intro arena other same above
  exact ⟨.error error, arena, other, rfl, rfl, same, .refl _ _, above, by simp⟩

theorem bind {f : α → Marshal β} (first : Frames floor gives m)
    (second : ∀ a, gives a → Frames floor gives' (f a)) : Frames floor gives' (m >>= f) := by
  intro arena other same above
  obtain ⟨result, later, later', ran, ran', same, spares, above, given⟩ := first _ _ same above
  cases result with
  | error error =>
    exact ⟨.error error, later, later', by simp [ran], by simp [ran'], same, spares, above, by simp⟩
  | ok a =>
    obtain ⟨result, last, last', ended, ended', same, spares', above, given'⟩ :=
      second a (given a rfl) _ _ same above
    exact ⟨result, last, last', by simp [ran, ended], by simp [ran', ended'], same,
      spares.trans spares', above, given'⟩

/-- An action may look at the room before it begins. -/
theorem get_bind {f : Arena → Marshal β}
    (same : ∀ {arena other : Arena}, arena.room = other.room → f arena = f other)
    (frames : ∀ arena : Arena, floor ≤ arena.used → Frames floor gives' (f arena)) :
    Frames floor gives' (get >>= f) := by
  intro arena other alike above
  simp only [run_bind, run_get, ← same alike]
  exact frames arena above _ _ alike above

theorem modify {change : Arena → Arena}
    (alike : ∀ {arena other : Arena}, arena.room = other.room →
      (change arena).room = (change other).room)
    (keeps : ∀ arena : Arena, floor ≤ arena.used →
      Spares (· < floor) arena (change arena) ∧ floor ≤ (change arena).used) :
    Frames floor (fun _ => True) (modify change : Marshal Unit) := by
  intro arena other same above
  obtain ⟨spares, above⟩ := keeps arena above
  exact ⟨.ok (), _, _, run_modify arena change, run_modify other change, alike same, spares, above,
    fun _ _ => trivial⟩

theorem tryCatch {recover : Error → Marshal α} (first : Frames floor gives m)
    (second : ∀ error, Frames floor gives (recover error)) :
    Frames floor gives (tryCatch m recover) := by
  intro arena other same above
  obtain ⟨result, later, later', ran, ran', same, spares, above, given⟩ := first _ _ same above
  cases result with
  | ok a => exact ⟨.ok a, later, later', by simp [ran], by simp [ran'], same, spares, above, given⟩
  | error error =>
    obtain ⟨result, last, last', ended, ended', same, spares', above, given'⟩ :=
      second error _ _ same above
    exact ⟨result, last, last', by simp [ran, ended], by simp [ran', ended'], same,
      spares.trans spares', above, given'⟩

end Marshal.Frames

namespace Arena

open Marshal (Frames)

variable {floor : Nat}

@[simp] theorem room_write (arena : Arena) (offset : Nat) (octets : List UInt8) :
    (arena.write offset octets).room = arena.room := by
  simp [room, write, capacity]

theorem room_rollback {arena other : Arena} (same : arena.room = other.room) (mark : Mark) :
    (rollback mark arena).room = (rollback mark other).room := by
  have spares : Spares (fun _ => True) arena (rollback mark arena) := spares_rollback _ mark
  have spares' : Spares (fun _ => True) other (rollback mark other) := spares_rollback _ mark
  simp only [room, Room.mk.injEq] at same ⊢
  rw [spares.base, spares'.base, spares.capacity, spares'.capacity, used_rollback, used_rollback,
    same.2.1]
  exact ⟨same.1, rfl, same.2.2⟩

/-- What is written behind a place leaves alone what is in front of it. -/
theorem write_frames {octets : Arena → List UInt8} {offset : Nat} (behind : floor ≤ offset) :
    Frames floor (fun _ => True)
      (modify fun arena => arena.write offset (octets arena) : Marshal Unit) := by
  refine .modify (fun same => by simpa using same) fun arena above => ⟨?_, above⟩
  exact spares_write fun i before => .inl (Nat.lt_of_lt_of_le before behind)

theorem rollback_frames {mark : Mark} (behind : floor ≤ mark.used) :
    Frames floor (fun _ => True) (modify (rollback mark) : Marshal Unit) := by
  refine .modify (fun same => room_rollback same mark) fun arena above => ?_
  refine ⟨spares_rollback _ mark, ?_⟩
  rw [used_rollback]
  exact Nat.le_min.mpr ⟨behind, above⟩

theorem reserve_frames (size alignment : Nat) :
    Frames floor (floor ≤ ·) (reserve size alignment) := by
  intro arena other same above
  have remaining : other.remaining = arena.remaining := by
    simp only [room, Room.mk.injEq] at same
    simp only [Arena.remaining, same.2.1, same.2.2]
  simp only [room, Room.mk.injEq] at same
  obtain ⟨base, used, capacity⟩ := same
  simp only [reserve, Marshal.run_bind, Marshal.run_get, ← base, ← used, remaining]
  split
  · refine ⟨_, arena, other, rfl, rfl, ?_, .refl _ _, above, by simp⟩
    simp [room, base, used, capacity]
  split
  · refine ⟨_, _, _, rfl, rfl, ?_, ⟨rfl, rfl, fun _ _ => rfl⟩, Nat.le_add_right_of_le above, ?_⟩
    · simpa [room, Arena.capacity, base] using capacity
    · rintro _ ⟨⟩
      exact Nat.le_add_right_of_le above
  · refine ⟨_, arena, other, rfl, rfl, ?_, .refl _ _, above, by simp⟩
    simp [room, base, used, capacity]

theorem reserveMany_frames (size alignment count : Nat) :
    Frames floor (floor ≤ ·) (reserveMany size alignment count) := by
  unfold reserveMany
  split
  · refine .get_bind (fun same => ?_) fun arena _ => .throw _
    simp only [room, Room.mk.injEq] at same
    simp only [remaining, same.2.1, same.2.2]
  · exact reserve_frames _ _

theorem pushText_frames (text : String) : Frames floor (fun _ => True) (pushText text) :=
  (reserve_frames _ 1).bind fun _ behind => (write_frames behind).bind fun _ _ => .pure trivial

/-- Texts are stored behind their slots. -/
theorem fillSlots_frames {slot : Nat} (behind : floor ≤ slot) (texts : List String) :
    Frames floor (fun _ => True) (fillSlots slot texts) := by
  induction texts generalizing slot with
  | nil => exact write_frames behind
  | cons text texts ih =>
    refine (pushText_frames text).bind fun stored _ => ?_
    exact (write_frames behind).bind fun _ _ => ih (Nat.le_add_right_of_le behind)

/-- A list that does not fit is taken back to where it began, which is behind the place. -/
theorem pushList_frames (texts : List String) (left : Option String) :
    Frames floor (fun _ => True) (pushList texts left) := by
  refine .get_bind (fun same => ?_) fun arena above => ?_
  · simp only [room, Room.mk.injEq] at same
    simp only [mark, same.2.1]
  · refine .tryCatch ?_ fun error => (rollback_frames above).bind fun _ _ => .throw error
    refine (reserveMany_frames _ _ _).bind fun slots behind => ?_
    exact (fillSlots_frames behind _).bind fun _ _ => .pure trivial

end Arena

namespace Entry

variable {floor : Nat} (entry : Entry) (type : String)

theorem storeFirst_frames : Marshal.Frames floor (fun _ => True) (entry.storeFirst type) := by
  unfold storeFirst
  split
  · exact pushText_frames _
  · exact .throw _

theorem storeFirstOr_frames (always otherwise : Option String) :
    Marshal.Frames floor (fun _ => True) (entry.storeFirstOr type always otherwise) := by
  unfold storeFirstOr
  split
  · exact pushText_frames _
  · exact .throw _

theorem storeNaming_frames : Marshal.Frames floor (fun _ => True) (entry.storeNaming type) := by
  unfold storeNaming
  split
  · exact entry.storeFirst_frames type
  · split
    · exact pushText_frames _
    · exact entry.storeFirst_frames type

end Entry

namespace Arena

/-! ## Commands -/

/-- The marks that have been taken when a command is carried out. -/
def Command.marks (arena : Arena) : Command → List Mark → List Mark
  | .mark, marks => arena.mark :: marks
  | _, marks => marks

/-- Commands that go back to marks alone that were taken before, by one of them or in advance. -/
def OwnMarks : List Mark → List Command → Arena → Prop
  | _, [], _ => True
  | marks, command :: commands, arena =>
    (∀ mark, command = .rollback mark → mark ∈ marks) ∧
      OwnMarks (command.marks arena marks) commands (command.run arena).2

variable {floor : Nat}

theorem Command.frames (command : Command)
    (behind : ∀ mark, command = .rollback mark → floor ≤ mark.used) :
    Marshal.Frames floor (fun _ => True) command.marshal := by
  cases command with
  | text value => exact (pushText_frames value).bind fun _ _ => .pure trivial
  | list texts left => exact (pushList_frames texts left).bind fun _ _ => .pure trivial
  | octets size => exact (reserve_frames size 1).bind fun _ _ => .pure trivial
  | values layout count => exact (reserveMany_frames _ _ count).bind fun _ _ => .pure trivial
  | first entry type => exact (entry.storeFirst_frames type).bind fun _ _ => .pure trivial
  | all entry type left => exact (pushList_frames _ left).bind fun _ _ => .pure trivial
  | firstOr entry type always otherwise =>
    exact (entry.storeFirstOr_frames type always otherwise).bind fun _ _ => .pure trivial
  | naming entry type => exact (entry.storeNaming_frames type).bind fun _ _ => .pure trivial
  | mark => exact .pure trivial
  | rollback mark => exact (rollback_frames (behind mark rfl)).bind fun _ _ => .pure trivial

/-- Commands that go back to no other marks frame whatever is not given out when they begin. -/
theorem after_frames {commands : List Command} {marks : List Mark} {arena other : Arena}
    (same : arena.room = other.room) (above : floor ≤ arena.used)
    (behind : ∀ mark ∈ marks, floor ≤ mark.used) (own : OwnMarks marks commands arena) :
    (arena.after commands).room = (other.after commands).room ∧
      Spares (· < floor) arena (arena.after commands) ∧ floor ≤ (arena.after commands).used := by
  induction commands generalizing marks arena other with
  | nil => exact ⟨same, .refl _ _, above⟩
  | cons command commands ih =>
    obtain ⟨among, own⟩ := own
    have frames := command.frames fun mark goes => behind mark (among mark goes)
    obtain ⟨result, later, later', ran, ran', same, spares, above', -⟩ := frames _ _ same above
    have ran : command.run arena = (result, later) := ran
    have ran' : command.run other = (result, later') := ran'
    -- A mark that is taken now is not in front of the place either.
    have behind : ∀ mark ∈ command.marks arena marks, floor ≤ mark.used := by
      intro mark there
      unfold Command.marks at there
      split at there
      · rcases List.mem_cons.mp there with rfl | there
        · exact above
        · exact behind mark there
      · exact behind mark there
    rw [ran] at own
    obtain ⟨alike, rest, ends⟩ := ih same above' behind own
    simp only [after, List.foldl_cons, ran, ran']
    exact ⟨alike, spares.trans rest, ends⟩

/-- A command that asks for memory. -/
def Command.Allocates : Command → Prop
  | .mark | .rollback _ => False
  | _ => True

theorem ownMarks_of_allocates {commands : List Command}
    (allocate : ∀ command ∈ commands, command.Allocates) (marks : List Mark) (arena : Arena) :
    OwnMarks marks commands arena := by
  induction commands generalizing marks arena with
  | nil => trivial
  | cons command commands ih =>
    constructor
    · rintro mark rfl
      exact (allocate _ List.mem_cons_self).elim
    · exact ih (fun other there => allocate other (List.mem_cons_of_mem _ there)) _ _

/-- Whatever is asked for, what was given out before stays as it is. -/
theorem after_allocations {commands : List Command}
    (allocate : ∀ command ∈ commands, command.Allocates) (arena : Arena) :
    Spares (· < arena.used) arena (arena.after commands) ∧
      arena.used ≤ (arena.after commands).used :=
  (after_frames rfl (Nat.le_refl _) (by simp) (ownMarks_of_allocates allocate [] arena)).2

end Arena

/-! ## Parsers -/

namespace RecordParser

variable {ρ : Type}

/-- A parser that goes by the entry, the position and the room that there is, and does nothing with
    an arena but to carry out commands that go back to no marks but its own. -/
def Confined (parser : RecordParser ρ) : Prop :=
  ∀ (entry : Entry) (position : Position) (room : Arena.Room), ∃ outcome position' commands,
    ∀ arena : Arena, arena.room = room → OwnMarks [] commands arena ∧
      parser entry position arena = ⟨outcome, position', arena.after commands⟩

/-- There is no record for the caller in the entry, and it is not for want of room. -/
structure Passes (parser : RecordParser ρ) (arena : Arena) (offer : Entry × Position) : Prop where
  blank : ∀ record, (parser offer.1 offer.2 arena).outcome ≠ .ok (some record)
  roomy : ∀ requested remaining,
    (parser offer.1 offer.2 arena).outcome ≠ .error (.bufferTooSmall requested remaining)

variable {parser : RecordParser ρ} (confined : parser.Confined) (entry : Entry)
  (position : Position)

namespace Confined

include confined

theorem alike {arena other : Arena} (same : arena.room = other.room) :
    (parser entry position arena).outcome = (parser entry position other).outcome ∧
      (parser entry position arena).arena.used = (parser entry position other).arena.used := by
  obtain ⟨outcome, position', commands, acts⟩ := confined entry position other.room
  obtain ⟨own, parsed⟩ := acts arena same
  obtain ⟨-, parsed'⟩ := acts other rfl
  rw [parsed, parsed']
  obtain ⟨alike, -⟩ := after_frames same (Nat.zero_le _) (fun _ _ => Nat.zero_le _) own
  simp only [Arena.room, Arena.Room.mk.injEq] at alike
  exact ⟨rfl, alike.2.1⟩

theorem spares (arena : Arena) :
    Spares (· < arena.used) arena (parser entry position arena).arena ∧
      arena.used ≤ (parser entry position arena).arena.used := by
  obtain ⟨outcome, position', commands, acts⟩ := confined entry position arena.room
  obtain ⟨own, parsed⟩ := acts arena rfl
  rw [parsed]
  exact (after_frames rfl (Nat.le_refl _) (by simp) own).2

/-- What has been stored for a record is taken back without a trace. -/
theorem passed (arena : Arena) :
    ((parser entry position arena).arena.rollback arena.mark).room = arena.room ∧
      Spares (· < arena.used) arena ((parser entry position arena).arena.rollback arena.mark) := by
  obtain ⟨spares, grown⟩ := confined.spares entry position arena
  have restored := spares.trans (spares_rollback _ arena.mark)
  refine ⟨?_, restored⟩
  simp only [Arena.room, Arena.Room.mk.injEq]
  refine ⟨restored.base, ?_, restored.capacity⟩
  rw [used_rollback]
  exact Nat.min_eq_left grown

end Confined

end RecordParser

end NameService
