import NameService.Record
import NameService.Proofs.Arena.Texts

/-!
All that can be done with an arena, one command after the other. Every command leaves the octets
alone that are in use when it begins. What was given out therefore lasts until the arena is taken
back below its end, and nothing that is given out meanwhile lies in its place.

## Main result

`commands_safe`: after any commands, the next one is safe.
-/

namespace NameService.Arena

/-- How the values of a type lie in memory. -/
structure Layout where
  size : Nat
  alignment : Nat
  positive : 0 < alignment
deriving DecidableEq

/-- Something that was given out. -/
inductive Piece where
  | room (offset : Nat) (layout : Layout) (count : Nat)
  | text (stored : StoredText)
  | list (stored : StoredList)
deriving DecidableEq

namespace Piece

def offset : Piece → Nat
  | room offset _ _ => offset
  | text stored => stored.offset
  | list stored => stored.offset

/-- How many octets it takes. The texts of a list lie behind its slots and are not counted. -/
def size : Piece → Nat
  | room _ layout count => layout.size * count
  | text stored => stored.length + 1
  | list stored => pointerSize * (stored.length + 1)

def alignment : Piece → Nat
  | room _ layout _ => layout.alignment
  | text _ => 1
  | list _ => pointerSize

/-- The texts that are read back. -/
def texts? (arena : Arena) : Piece → Option (List String)
  | room _ _ _ => some []
  | text stored => (arena.text? stored).map ([·])
  | list stored => arena.texts? stored

end Piece

inductive Command where
  | text (text : String)
  | list (texts : List String) (left : Option String)
  | octets (size : Nat)
  | values (layout : Layout) (count : Nat)
  | first (entry : Entry) (type : String)
  | all (entry : Entry) (type : String) (left : Option String)
  | firstOr (entry : Entry) (type : String) (always otherwise : Option String)
  | naming (entry : Entry) (type : String)
  | mark
  /-- Any mark will do, those that were taken earlier among them. -/
  | rollback (mark : Mark)

namespace Command

def marshal : Command → Marshal (Option Piece)
  | text value => do return some (.text (← pushText value))
  | list texts left => do return some (.list (← pushList texts left))
  | octets size => do return some (.room (← reserveBytes size) ⟨1, 1, Nat.one_pos⟩ size)
  | values layout count => do
    return some (.room (← reserveMany layout.size layout.alignment count) layout count)
  | first entry type => do return some (.text (← entry.storeFirst type))
  | all entry type left => do return some (.list (← entry.storeAll type left))
  | firstOr entry type always otherwise => do
    return some (.text (← entry.storeFirstOr type always otherwise))
  | naming entry type => do return some (.text (← entry.storeNaming type))
  | mark => return none
  | rollback place => do
    modify (Arena.rollback place)
    return none

def run (command : Command) (arena : Arena) : Except Error (Option Piece) × Arena :=
  command.marshal.run arena

end Command

/-- The arena after some commands, whatever has come of each. -/
def after (arena : Arena) (commands : List Command) : Arena :=
  commands.foldl (fun arena command => (command.run arena).2) arena

/-- While commands are carried out, nothing in front of a place is given up. -/
def StaysAbove (floor : Nat) : List Command → Arena → Prop
  | [], arena => floor ≤ arena.used
  | command :: commands, arena =>
    floor ≤ arena.used ∧ StaysAbove floor commands (command.run arena).2

/-- A piece that has been given out, and will be read back as it is. -/
structure Given (arena later : Arena) (piece : Piece) : Prop where
  spares : Spares (· < arena.used) arena later
  begins : arena.used ≤ piece.offset
  ends : piece.offset + piece.size ≤ later.used
  aligned : piece.alignment ∣ arena.base + piece.offset
  lasting : ∃ texts, ∀ last, Spares (· < later.used) later last → later.used ≤ last.used →
    piece.texts? last = some texts

/-- A command that has failed. Its traces, if any, are above the octets in use. -/
structure Refused (arena later : Arena) (error : Error) : Prop where
  spares : Spares (· < arena.used) arena later
  used : later.used = arena.used
  reason : (∃ requested remaining, error = .bufferTooSmall requested remaining) ∨
    ∃ subject, error = .notFound subject

/-- What can come of a command that gives out a piece. -/
def Settles (arena : Arena) (m : Marshal (Option Piece)) : Prop :=
  (∃ piece later, m.run arena = (.ok (some piece), later) ∧ Given arena later piece) ∨
    ∃ error later, m.run arena = (.error error, later) ∧ Refused arena later error

variable {arena : Arena}

theorem settles_text (text : String) :
    Settles arena (do return some (.text (← pushText text))) := by
  simp only [Settles, Marshal.run_bind]
  rcases run_pushText text arena with ⟨stored, later, ran, put⟩ | ⟨requested, ran⟩
  · rw [ran]
    refine Or.inl ⟨.text stored, later, rfl, put.spares, Nat.le_of_eq put.begins.symm,
      Nat.le_of_eq put.ends.symm, Nat.one_dvd _, [text], fun last spares above => ?_⟩
    have ends := put.ends
    have length := put.length
    have holds : last.Holds stored.offset text := by
      rw [Holds, ← put.holds]
      exact spares.octetsAt fun i _ below => by omega
    have read := text?_of_holds holds (by omega)
    rw [← length] at read
    simp only [Piece.texts?, read, Option.map_some]
  · rw [ran]
    exact Or.inr ⟨_, arena, rfl, .refl _ _, rfl, Or.inl ⟨_, _, rfl⟩⟩

theorem settles_list (within : arena.base + arena.capacity ≤ addressLimit) (texts : List String)
    (left : Option String) : Settles arena (do return some (.list (← pushList texts left))) := by
  simp only [Settles, Marshal.run_bind]
  rcases run_pushList texts left arena with
    ⟨stored, later, ran, placed⟩ | ⟨requested, remaining, later, ran, used, spares⟩
  · rw [ran]
    have listed := placed.listed within
    refine Or.inl ⟨.list stored, later, rfl, listed.spares, listed.begins, listed.ends,
      listed.aligned, ?_⟩
    exact ⟨_, fun last spares above =>
      textsFrom?_of_points above (listed.points.of_spares spares)⟩
  · rw [ran]
    exact Or.inr ⟨_, later, rfl, spares, used, Or.inl ⟨_, _, rfl⟩⟩

theorem settles_room (layout : Layout) (count : Nat) {m : Marshal Nat}
    (reserves : (∃ offset later, m.run arena = (.ok offset, later) ∧
        Reserved arena later offset (layout.size * count) layout.alignment) ∨
      ∃ requested, m.run arena = (.error (.bufferTooSmall requested arena.remaining), arena)) :
    Settles arena (do return some (.room (← m) layout count)) := by
  simp only [Settles, Marshal.run_bind]
  rcases reserves with ⟨offset, later, ran, reserved⟩ | ⟨requested, ran⟩
  · rw [ran]
    exact Or.inl ⟨.room offset layout count, later, rfl, reserved.spares _, reserved.begins,
      Nat.le_of_eq reserved.ends.symm, reserved.aligned layout.positive, [], fun _ _ _ => rfl⟩
  · rw [ran]
    exact Or.inr ⟨_, arena, rfl, .refl _ _, rfl, Or.inl ⟨_, _, rfl⟩⟩

theorem settles_lacks (entry : Entry) (type : String) (f : StoredText → Marshal (Option Piece)) :
    Settles arena (throw (entry.lacks type) >>= f) :=
  Or.inr ⟨entry.lacks type, arena, rfl, .refl _ _, rfl, Or.inr ⟨_, rfl⟩⟩

theorem settles_first (entry : Entry) (type : String) :
    Settles arena (do return some (.text (← entry.storeFirst type))) := by
  unfold Entry.storeFirst
  split
  · exact settles_text _
  · exact settles_lacks entry type _

theorem settles_naming (entry : Entry) (type : String) :
    Settles arena (do return some (.text (← entry.storeNaming type))) := by
  unfold Entry.storeNaming
  split
  · exact settles_first entry type
  · split
    · exact settles_text _
    · exact settles_first entry type

theorem settles_firstOr (entry : Entry) (type : String) (always otherwise : Option String) :
    Settles arena (do return some (.text (← entry.storeFirstOr type always otherwise))) := by
  unfold Entry.storeFirstOr
  split
  · exact settles_text _
  · exact settles_lacks entry type _

/-- A command gives out a piece, fails, or does no more than to go back to a mark. -/
theorem run_cases (within : arena.base + arena.capacity ≤ addressLimit) (command : Command) :
    Settles arena command.marshal ∨
      ∃ mark : Mark, command.run arena = (.ok none, rollback mark arena) := by
  cases command with
  | text text => exact Or.inl (settles_text text)
  | list texts left => exact Or.inl (settles_list within texts left)
  | octets size =>
    have reserves := run_reserve (1 * size) 1 arena
    have same : reserveBytes size = reserve (1 * size) 1 := by rw [Nat.one_mul, reserveBytes]
    rw [← same] at reserves
    exact Or.inl (settles_room ⟨1, 1, Nat.one_pos⟩ size reserves)
  | values layout count =>
    have reserves := run_reserveMany layout.size layout.alignment count arena
    exact Or.inl (settles_room layout count reserves)
  | first entry type => exact Or.inl (settles_first entry type)
  | all entry type left => exact Or.inl (settles_list within (entry.values type) left)
  | firstOr entry type always otherwise =>
    exact Or.inl (settles_firstOr entry type always otherwise)
  | naming entry type => exact Or.inl (settles_naming entry type)
  | mark =>
    refine Or.inr ⟨arena.mark, ?_⟩
    have same : rollback arena.mark arena = arena := dif_pos (Nat.le_refl _)
    rw [same]
    rfl
  | rollback mark => exact Or.inr ⟨mark, rfl⟩

/-- No command changes what is in use when it begins. -/
theorem run_spares (within : arena.base + arena.capacity ≤ addressLimit) (command : Command) :
    Spares (· < arena.used) arena (command.run arena).2 := by
  rcases run_cases within command with
    (⟨piece, later, ran, given⟩ | ⟨error, later, ran, refused⟩) | ⟨mark, ran⟩
  · rw [Command.run, ran]
    exact given.spares
  · rw [Command.run, ran]
    exact refused.spares
  · rw [ran]
    exact spares_rollback _ mark

theorem after_within {start : Arena} (within : start.base + start.capacity ≤ addressLimit)
    (commands : List Command) : (start.after commands).base = start.base ∧
      (start.after commands).capacity = start.capacity := by
  induction commands generalizing start with
  | nil => exact ⟨rfl, rfl⟩
  | cons command commands ih =>
    have spares := run_spares within command
    have within' : (command.run start).2.base + (command.run start).2.capacity ≤ addressLimit := by
      rw [spares.base, spares.capacity]
      exact within
    obtain ⟨base, capacity⟩ := ih within'
    exact ⟨base.trans spares.base, capacity.trans spares.capacity⟩

/-- What is in front of a place lasts as long as nothing in front of it is given up. -/
theorem after_spares (within : arena.base + arena.capacity ≤ addressLimit) {floor : Nat}
    {commands : List Command} (above : StaysAbove floor commands arena) :
    Spares (· < floor) arena (arena.after commands) ∧ floor ≤ (arena.after commands).used := by
  induction commands generalizing arena with
  | nil => exact ⟨.refl _ _, above⟩
  | cons command commands ih =>
    have spares := run_spares within command
    obtain ⟨rest, ends⟩ := ih (by rw [spares.base, spares.capacity]; exact within) above.2
    refine ⟨.trans (spares.mono fun i below => ?_) rest, ends⟩
    exact Nat.lt_of_lt_of_le below above.1

theorem given_of_run (within : arena.base + arena.capacity ≤ addressLimit) {command : Command}
    {piece : Piece} (ran : (command.run arena).1 = .ok (some piece)) :
    Given arena (command.run arena).2 piece := by
  rcases run_cases within command with
    (⟨piece', later, ran', given⟩ | ⟨error, later, ran', refused⟩) | ⟨mark, ran'⟩
  · rw [Command.run, ran'] at ran ⊢
    obtain rfl : piece' = piece := by simpa using ran
    exact given
  · simp [Command.run, ran'] at ran
  · simp [ran'] at ran

theorem refused_of_run (within : arena.base + arena.capacity ≤ addressLimit) {command : Command}
    {error : Error} (ran : (command.run arena).1 = .error error) :
    Refused arena (command.run arena).2 error := by
  rcases run_cases within command with
    (⟨piece, later, ran', given⟩ | ⟨error', later, ran', refused⟩) | ⟨mark, ran'⟩
  · simp [Command.run, ran'] at ran
  · rw [Command.run, ran'] at ran ⊢
    obtain rfl : error' = error := by simpa using ran
    exact refused
  · simp [ran'] at ran

/-- What may be relied on when a command is carried out. -/
structure Safe (arena : Arena) (command : Command) : Prop where
  /-- Not more is in use than there is. -/
  bounded : (command.run arena).2.used ≤ arena.capacity
  /-- What is in use when it begins is not changed. -/
  kept : (command.run arena).2.memory.take arena.used = arena.bytes
  /-- A failure leaves what is in use as it was. -/
  refused : ∀ error, (command.run arena).1 = .error error →
    (command.run arena).2.used = arena.used ∧ (command.run arena).2.bytes = arena.bytes ∧
      ((∃ requested remaining, error = .bufferTooSmall requested remaining) ∨
        ∃ subject, error = .notFound subject)
  /-- A piece is aligned, and lies where nothing was in use before and all is in use after. -/
  given : ∀ piece, (command.run arena).1 = .ok (some piece) →
    piece.alignment ∣ arena.base + piece.offset ∧ arena.used ≤ piece.offset ∧
      piece.offset + piece.size ≤ (command.run arena).2.used
  /-- A piece is read back as it was, and shares nothing with any piece given out later, as long as
      the arena is not taken back below its end. -/
  lasting : ∀ piece, (command.run arena).1 = .ok (some piece) → ∃ texts, ∀ commands,
    StaysAbove (command.run arena).2.used commands (command.run arena).2 →
      let last := (command.run arena).2.after commands
      piece.texts? last = some texts ∧
      last.octetsAt piece.offset piece.size =
        (command.run arena).2.octetsAt piece.offset piece.size ∧
      ∀ (next : Command) (other : Piece), (next.run last).1 = .ok (some other) →
        (command.run arena).2.used ≤ other.offset
  /-- To go back to a mark brings back what was in use when it was taken. -/
  restored : ∀ commands, StaysAbove arena.used commands arena →
    (rollback arena.mark (arena.after commands)).bytes = arena.bytes

theorem bytes_of_spares {later : Arena} (spares : Spares (· < arena.used) arena later)
    (used : later.used = arena.used) : later.bytes = arena.bytes := by
  rw [bytes, used]
  exact spares.take

theorem run_safe (within : arena.base + arena.capacity ≤ addressLimit) (command : Command) :
    Safe arena command := by
  have spares := run_spares within command
  have within' : (command.run arena).2.base + (command.run arena).2.capacity ≤ addressLimit := by
    rw [spares.base, spares.capacity]
    exact within
  constructor
  case bounded =>
    rw [← spares.capacity]
    exact (command.run arena).2.used_le
  case kept => exact spares.take
  case refused =>
    intro error ran
    have refused := refused_of_run within ran
    exact ⟨refused.used, bytes_of_spares refused.spares refused.used, refused.reason⟩
  case given =>
    intro piece ran
    have given := given_of_run within ran
    exact ⟨given.aligned, given.begins, given.ends⟩
  case lasting =>
    intro piece ran
    have given := given_of_run within ran
    obtain ⟨texts, reads⟩ := given.lasting
    refine ⟨texts, fun commands above => ?_⟩
    obtain ⟨kept, ends⟩ := after_spares within' above
    refine ⟨reads _ kept ends, kept.octetsAt fun i _ below => ?_, fun next other ran => ?_⟩
    · exact Nat.lt_of_lt_of_le below given.ends
    · -- What is given out later begins behind all that is in use by then.
      obtain ⟨base, capacity⟩ := after_within within' commands
      exact Nat.le_trans ends (given_of_run (by rw [base, capacity]; exact within') ran).begins
  case restored =>
    intro commands above
    obtain ⟨kept, ends⟩ := after_spares within above
    refine bytes_of_spares (kept.trans (spares_rollback _ _)) ?_
    rw [used_rollback]
    exact Nat.min_eq_left ends

/-- Whatever has been done with an arena, the next command is safe. -/
theorem commands_safe (start : Arena) (within : start.base + start.capacity ≤ addressLimit)
    (past : List Command) (command : Command) : Safe (start.after past) command := by
  obtain ⟨base, capacity⟩ := after_within within past
  exact run_safe (by rw [base, capacity]; exact within) command

/-- Slots are aligned in memory at an odd address, and what was taken back is used again. -/
theorem commands_safe_list :
    let arena := (fresh 5 40).after [.text "web", .octets 9, .rollback ⟨4⟩]
    let command : Command := .list ["db", "web"] (some "web")
    (fresh 5 40).base + (fresh 5 40).capacity ≤ addressLimit ∧
      (command.run arena).1 = .ok (some (.list ⟨11, 1⟩)) ∧
      StaysAbove (command.run arena).2.used [.octets 3, .text "news", .rollback ⟨30⟩]
        (command.run arena).2 ∧
      Safe arena command :=
  ⟨by decide +kernel, by decide +kernel, by simp only [StaysAbove]; decide +kernel,
    commands_safe _ (by decide +kernel) _ _⟩

end NameService.Arena
