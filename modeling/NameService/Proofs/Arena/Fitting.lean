import NameService.Proofs.Arena.Framing

/-!
How large an arena has to be. Allocations that succeed in one arena need room up to the place where
they end there, and nothing else. A larger arena at the same address makes no difference to what
they give out and write, and in a smaller one there is a first that does not fit.

## Main results

- `Command.exact`: an allocation succeeds where there is room up to its end, and is refused for want
  of it everywhere else.
- `commands_fit_iff`: the same of any allocations, one after the other.
-/

namespace NameService

/-- Two arenas at one address that are filled up to the same place. Their sizes may differ, and so
    may what they hold. -/
structure Arena.Level (one other : Arena) : Prop where
  base : other.base = one.base
  used : other.used = one.used

/-- What is in use in one of them fits into the other. -/
theorem Arena.Level.fits {one other : Arena} (level : one.Level other) :
    one.used ≤ other.capacity := by
  have inside : other.used ≤ other.capacity := other.used_le
  rwa [level.used] at inside

namespace Marshal

variable {α β : Type}

/-- On an arena with room up to a place the action gives this and ends there, and on an arena that
    is too small for that it is refused for want of room. -/
structure Needs (m : Marshal α) (arena : Arena) (a : α) (ending : Arena) : Prop where
  enough : ending.used ≤ arena.capacity → ∃ later, m.run arena = (.ok a, later) ∧
    ending.Level later ∧ later.capacity = arena.capacity
  lacking : arena.capacity < ending.used → ∃ requested remaining later,
    m.run arena = (.error (.bufferTooSmall requested remaining), later)

/-- Where the action succeeds on one arena, it is only a matter of room whether it does on another
    one at the same address that is filled up to the same place. -/
def Exact (m : Marshal α) : Prop :=
  ∀ ⦃one other later : Arena⦄ ⦃a : α⦄, one.Level other → m.run one = (.ok a, later) →
    one.used ≤ later.used ∧ Needs m other a later

namespace Exact

variable {m : Marshal α}

theorem pure (a : α) : Exact (pure a) := by
  rintro one other _ _ level ⟨⟩
  constructor
  · exact Nat.le_refl _
  constructor
  · intro _
    exact ⟨other, rfl, level, rfl⟩
  · -- Nothing more is asked for, so there is no want of room.
    intro lacking
    have fits := level.fits
    omega

theorem throw (error : Error) : Exact (throw error : Marshal α) := by
  rintro one other later a level ⟨⟩

theorem bind {f : α → Marshal β} (first : Exact m) (second : ∀ a, Exact (f a)) :
    Exact (m >>= f) := by
  intro one other later b level ran
  rw [run_bind] at ran
  rcases began : m.run one with ⟨_ | a, between⟩
  · rw [began] at ran
    cases ran
  · rw [began] at ran
    obtain ⟨grown, needs⟩ := first level began
    have grown' : between.used ≤ later.used := (second a ⟨rfl, rfl⟩ ran).1
    constructor
    · exact Nat.le_trans grown grown'
    constructor
    · -- The room for both parts is room for the first.
      intro enough
      obtain ⟨between', began', level', capacity⟩ := needs.enough (Nat.le_trans grown' enough)
      obtain ⟨-, needs'⟩ := second a level' ran
      obtain ⟨later', ended', level'', capacity'⟩ := needs'.enough (capacity ▸ enough)
      exact ⟨later', by rw [run_bind, began']; exact ended', level'', capacity'.trans capacity⟩
    · intro lacking
      -- The first part may have room enough, and then it is the second that has not.
      by_cases enough : between.used ≤ other.capacity
      · obtain ⟨between', began', level', capacity⟩ := needs.enough enough
        obtain ⟨-, needs'⟩ := second a level' ran
        obtain ⟨requested, remaining, later', ended'⟩ := needs'.lacking (capacity ▸ lacking)
        exact ⟨requested, remaining, later', by rw [run_bind, began']; exact ended'⟩
      · obtain ⟨requested, remaining, later', ended'⟩ := needs.lacking (Nat.lt_of_not_le enough)
        exact ⟨requested, remaining, later', by rw [run_bind, ended']⟩

/-- An action may look at the arena, if it depends on nothing else than where it is and how far it
    is filled. -/
theorem get_bind {f : Arena → Marshal β}
    (same : ∀ ⦃one other : Arena⦄, one.Level other → f other = f one)
    (rest : ∀ arena, Exact (f arena)) : Exact (get >>= f) := by
  intro one other later b level ran
  simp only [run_bind, run_get] at ran
  obtain ⟨grown, needs⟩ := rest one level ran
  have run_other : (get >>= f).run other = (f one).run other := by
    simp only [run_bind, run_get, same level]
  constructor
  · exact grown
  constructor
  · intro enough
    rw [run_other]
    exact needs.enough enough
  · intro lacking
    rw [run_other]
    exact needs.lacking lacking

/-- To write takes no room. -/
theorem write (offset : Nat) {octets : Arena → List UInt8} :
    Exact (modify fun arena => arena.write offset (octets arena) : Marshal Unit) := by
  rintro one other _ _ level ⟨⟩
  constructor
  · exact Nat.le_refl _
  constructor
  · intro _
    refine ⟨_, rfl, ⟨level.base, level.used⟩, ?_⟩
    simp [Arena.capacity, Arena.write]
  · intro lacking
    have fits := level.fits
    simp only [Arena.write] at lacking
    omega

/-- A failure may be tidied up, as long as it stays the failure that it is. -/
theorem tryCatch {recover : Error → Marshal α} (first : Exact m)
    (fails : ∀ error arena, ∃ later, (recover error).run arena = (.error error, later)) :
    Exact (tryCatch m recover) := by
  intro one other later a level ran
  rw [run_tryCatch] at ran
  rcases began : m.run one with ⟨error | a', later'⟩
  · -- The failure would not have been a success.
    rw [began] at ran
    obtain ⟨last, failed⟩ := fails error later'
    simp only [failed] at ran
    cases ran
  · rw [began] at ran
    cases ran
    obtain ⟨grown, needs⟩ := first level began
    constructor
    · exact grown
    constructor
    · intro enough
      obtain ⟨last, ran, level, capacity⟩ := needs.enough enough
      exact ⟨last, by rw [run_tryCatch, ran], level, capacity⟩
    · intro lacking
      obtain ⟨requested, remaining, last, ran⟩ := needs.lacking lacking
      obtain ⟨tidied, failed⟩ := fails (.bufferTooSmall requested remaining) last
      exact ⟨requested, remaining, tidied, by rw [run_tryCatch, ran]; exact failed⟩

end Exact

end Marshal

namespace Arena

open Marshal (Exact)

/-! ## Allocations -/

theorem reserve_exact (size alignment : Nat) : Exact (reserve size alignment) := by
  intro one other later offset level ran
  have inside := other.used_le
  have whole := one.used_le
  obtain ⟨base, used⟩ := level
  simp only [reserve, Marshal.run_bind, Marshal.run_get] at ran
  split at ran
  · cases ran
  next far =>
  split at ran
  · next fits =>
    cases ran
    constructor
    · exact Nat.le_add_right _ _
    -- The padding depends on the address of the next octet, which is the same in both arenas.
    constructor
    · intro enough
      simp only [reserve, Marshal.run_bind, Marshal.run_get, base, used, if_neg far]
      rw [dif_pos]
      · exact ⟨_, rfl, ⟨rfl, rfl⟩, rfl⟩
      · simp only [remaining, capacity] at enough ⊢
        omega
    · intro lacking
      simp only [reserve, Marshal.run_bind, Marshal.run_get, base, used, if_neg far]
      rw [dif_neg]
      · exact ⟨_, _, _, rfl⟩
      · simp only [remaining, capacity] at lacking ⊢
        omega
  · cases ran

theorem reserveMany_exact (size alignment count : Nat) :
    Exact (reserveMany size alignment count) := by
  unfold reserveMany
  split
  · -- So many values fit into no memory.
    intro one other later offset level ran
    cases ran
  · exact reserve_exact _ _

theorem pushText_exact (text : String) : Exact (pushText text) :=
  (reserve_exact _ 1).bind fun offset => (Exact.write offset).bind fun _ => .pure _

theorem fillSlots_exact (slot : Nat) (texts : List String) : Exact (fillSlots slot texts) := by
  induction texts generalizing slot with
  | nil => exact .write slot
  | cons text texts ih =>
    refine (pushText_exact text).bind fun stored => ?_
    exact (Exact.write slot).bind fun _ => ih _

theorem pushList_exact (texts : List String) (left : Option String) :
    Exact (pushList texts left) := by
  apply Exact.get_bind
  · intro one other level
    simp only [mark, level.used]
  · intro arena
    apply Exact.tryCatch
    · refine (reserveMany_exact _ _ _).bind fun slots => ?_
      exact (fillSlots_exact slots _).bind fun _ => .pure _
    · intro error arena
      exact ⟨_, rfl⟩

end Arena

namespace Entry

variable (entry : Entry) (type : String)

theorem storeFirst_exact : Marshal.Exact (entry.storeFirst type) := by
  unfold storeFirst
  split
  · exact Arena.pushText_exact _
  · exact .throw _

theorem storeFirstOr_exact (always otherwise : Option String) :
    Marshal.Exact (entry.storeFirstOr type always otherwise) := by
  unfold storeFirstOr
  split
  · exact Arena.pushText_exact _
  · exact .throw _

theorem storeNaming_exact : Marshal.Exact (entry.storeNaming type) := by
  unfold storeNaming
  split
  · exact entry.storeFirst_exact type
  · split
    · exact Arena.pushText_exact _
    · exact entry.storeFirst_exact type

end Entry

namespace Arena

theorem Command.exact {command : Command} (allocates : command.Allocates) :
    Marshal.Exact command.marshal := by
  cases command with
  | text value => exact (pushText_exact value).bind fun _ => .pure _
  | list texts left => exact (pushList_exact texts left).bind fun _ => .pure _
  | octets size => exact (reserve_exact size 1).bind fun _ => .pure _
  | values layout count => exact (reserveMany_exact _ _ count).bind fun _ => .pure _
  | first entry type => exact (entry.storeFirst_exact type).bind fun _ => .pure _
  | all entry type left => exact (pushList_exact _ left).bind fun _ => .pure _
  | firstOr entry type always otherwise =>
    exact (entry.storeFirstOr_exact type always otherwise).bind fun _ => .pure _
  | naming entry type => exact (entry.storeNaming_exact type).bind fun _ => .pure _
  | mark => exact allocates.elim
  | rollback mark => exact allocates.elim

/-! ## What is written -/

/-- The places that are written when a piece is given out, if the arena ends at a place then. What
    is in a room is left to the caller. -/
def Piece.Covers (ending : Nat) : Piece → Nat → Prop
  | room _ _ _, _ => False
  | text stored, i => stored.offset ≤ i ∧ i < ending
  | list stored, i => stored.offset ≤ i ∧ i < ending

theorem Piece.Covers.lt {ending i : Nat} {piece : Piece} (covers : piece.Covers ending i) :
    i < ending := by
  cases piece with
  | room offset layout count => exact covers.elim
  | text stored => exact covers.2
  | list stored => exact covers.2

variable {one other : Arena}

theorem getElem?_of_octetsAt {offset size i : Nat}
    (same : other.octetsAt offset size = one.octetsAt offset size) (above : offset ≤ i)
    (below : i < offset + size) : other.memory[i]? = one.memory[i]? := by
  have octet := congrArg (·[i - offset]?) same
  simp only [octetsAt, List.getElem?_take, List.getElem?_drop] at octet
  rwa [if_pos (by omega), if_pos (by omega), Nat.add_sub_cancel' above] at octet

/-- Slots and texts at one place of two arenas at one address are the same octets. -/
theorem Laid.alike (base : other.base = one.base) {slot place : Nat} {texts : List String}
    (laid : one.Laid slot place texts) (laid' : other.Laid slot place texts) {i : Nat}
    (inside : slot ≤ i ∧ i < slot + pointerSize * (texts.length + 1) ∨
      place ≤ i ∧ i < placeAfter place texts) : other.memory[i]? = one.memory[i]? := by
  induction texts generalizing slot place with
  | nil =>
    simp only [Laid] at laid laid'
    simp only [List.length_nil, placeAfter_nil] at inside
    exact getElem?_of_octetsAt (laid'.trans laid.symm) (by omega) (by omega)
  | cons text texts ih =>
    obtain ⟨address, holds, rest⟩ := laid
    obtain ⟨address', holds', rest'⟩ := laid'
    rw [List.length_cons, Nat.mul_succ, placeAfter_cons] at inside
    rw [base] at address'
    -- It is in the first slot, in the first text, or behind both of them.
    by_cases first_slot : slot ≤ i ∧ i < slot + pointerSize
    · exact getElem?_of_octetsAt (address'.trans address.symm) first_slot.1 first_slot.2
    by_cases first_text : place ≤ i ∧ i < place + ((Text.octets text.toList).length + 1)
    · exact getElem?_of_octetsAt (holds'.trans holds.symm) first_text.1 first_text.2
    · apply ih rest rest'
      omega

/-- What is written when a piece is given out depends on its place and on the address of the arena,
    and on nothing else. -/
def Prints (m : Marshal (Option Piece)) : Prop :=
  ∀ ⦃one other later later' : Arena⦄ ⦃piece : Piece⦄, other.base = one.base →
    m.run one = (.ok (some piece), later) → m.run other = (.ok (some piece), later') →
    ∀ i, piece.Covers later.used i → later'.memory[i]? = later.memory[i]?

theorem prints_text (text : String) : Prints (do return some (.text (← pushText text))) := by
  intro one other later later' piece base ran ran' i covers
  simp only [Marshal.run_bind] at ran ran'
  rcases run_pushText text one with ⟨stored, grown, pushed, put⟩ | ⟨requested, pushed⟩
  · rcases run_pushText text other with ⟨stored', grown', pushed', put'⟩ | ⟨requested, pushed'⟩
    · rw [pushed] at ran
      rw [pushed'] at ran'
      cases ran
      cases ran'
      -- The same octets stand at this place of both arenas, up to where they end.
      have length := put.length
      have ends := put.ends
      apply getElem?_of_octetsAt (put'.holds.trans put.holds.symm) covers.1
      have below := covers.2
      omega
    · rw [pushed'] at ran'
      cases ran'
  · rw [pushed] at ran
    cases ran

theorem prints_list (texts : List String) (left : Option String) :
    Prints (do return some (.list (← pushList texts left))) := by
  intro one other later later' piece base ran ran' i covers
  simp only [Marshal.run_bind] at ran ran'
  rcases run_pushList texts left one with ⟨stored, grown, pushed, placed⟩ | ⟨_, _, _, pushed, -⟩
  · rcases run_pushList texts left other with
      ⟨stored', grown', pushed', placed'⟩ | ⟨_, _, _, pushed', -⟩
    · rw [pushed] at ran
      rw [pushed'] at ran'
      cases ran
      cases ran'
      -- The addresses in the slots are the same, since both arenas begin at one address.
      have base' : later'.base = later.base :=
        placed'.spares.base.trans (base.trans placed.spares.base.symm)
      have above := covers.1
      have below := covers.2
      rw [placed.ends] at below
      apply placed.laid.alike base' placed'.laid
      rw [← placed.length]
      omega
    · rw [pushed'] at ran'
      cases ran'
  · rw [pushed] at ran
    cases ran

/-- Nothing is written into a room. -/
theorem prints_room {m : Marshal Nat} (layout : Layout) (count : Nat) :
    Prints (do return some (.room (← m) layout count)) := by
  intro one other later later' piece base ran ran' i covers
  simp only [Marshal.run_bind] at ran
  rcases reserved : m.run one with ⟨_ | offset, grown⟩
  · rw [reserved] at ran
    cases ran
  · rw [reserved] at ran
    cases ran
    exact covers.elim

theorem prints_throw (error : Error) {α : Type} (f : α → Marshal (Option Piece)) :
    Prints (throw error >>= f) := by
  intro one other later later' piece base ran
  cases ran

theorem prints_first (entry : Entry) (type : String) :
    Prints (do return some (.text (← entry.storeFirst type))) := by
  unfold Entry.storeFirst
  split
  · exact prints_text _
  · exact prints_throw _ _

theorem prints_firstOr (entry : Entry) (type : String) (always otherwise : Option String) :
    Prints (do return some (.text (← entry.storeFirstOr type always otherwise))) := by
  unfold Entry.storeFirstOr
  split
  · exact prints_text _
  · exact prints_throw _ _

theorem prints_naming (entry : Entry) (type : String) :
    Prints (do return some (.text (← entry.storeNaming type))) := by
  unfold Entry.storeNaming
  split
  · exact prints_first entry type
  · split
    · exact prints_text _
    · exact prints_first entry type

theorem Command.prints {command : Command} (allocates : command.Allocates) :
    Prints command.marshal := by
  cases command with
  | text value => exact prints_text value
  | list texts left => exact prints_list texts left
  | octets size => exact prints_room _ size
  | values layout count => exact prints_room layout count
  | first entry type => exact prints_first entry type
  | all entry type left => exact prints_list _ left
  | firstOr entry type always otherwise => exact prints_firstOr entry type always otherwise
  | naming entry type => exact prints_naming entry type
  | mark => exact allocates.elim
  | rollback mark => exact allocates.elim

/-! ## Allocations one after the other -/

/-- What comes of commands, whatever has come of those before. -/
def outcomes (arena : Arena) : List Command → List (Except Error (Option Piece))
  | [] => []
  | command :: commands => (command.run arena).1 :: outcomes (command.run arena).2 commands

/-- The places that commands write. -/
def Written (arena : Arena) : List Command → Nat → Prop
  | [], _ => False
  | command :: commands, i =>
    (∃ piece, (command.run arena).1 = .ok (some piece) ∧
      piece.Covers (command.run arena).2.used i) ∨ Written (command.run arena).2 commands i

variable {large small : Arena} {commands : List Command}

/-- Allocations that succeed in one arena come to the same in another, or there is a first one that
    does not fit. -/
theorem allocations_fit (level : large.Level small)
    (allocate : ∀ command ∈ commands, command.Allocates)
    (succeed : ∀ outcome ∈ large.outcomes commands, outcome.isOk) :
    ((large.after commands).used ≤ small.capacity →
      small.outcomes commands = large.outcomes commands ∧
      (large.after commands).Level (small.after commands) ∧
      ∀ i, large.Written commands i →
        (small.after commands).memory[i]? = (large.after commands).memory[i]?) ∧
    (small.capacity < (large.after commands).used → ∃ requested remaining,
      (small.outcomes commands).find? (!·.isOk) =
        some (.error (.bufferTooSmall requested remaining))) := by
  induction commands generalizing large small with
  | nil =>
    constructor
    · intro _
      exact ⟨rfl, level, fun i written => written.elim⟩
    · intro lacking
      have fits := level.fits
      simp only [after, List.foldl_nil] at lacking
      omega
  | cons command commands ih =>
    have allocates := allocate command List.mem_cons_self
    have others : ∀ other ∈ commands, other.Allocates :=
      fun other there => allocate other (List.mem_cons_of_mem _ there)
    simp only [outcomes, List.forall_mem_cons] at succeed
    obtain ⟨first, rest⟩ := succeed
    rcases ran : command.run large with ⟨error | outcome, later⟩
    · rw [ran] at first
      cases first
    rw [ran] at rest
    obtain ⟨-, needs⟩ := command.exact allocates level ran
    obtain ⟨spares, grown⟩ := after_allocations others later
    have ending : large.after (command :: commands) = later.after commands := by
      simp only [after, List.foldl_cons, ran]
    simp only [ending, outcomes, ran]
    constructor
    · -- Room up to the end of all is room up to the end of the first.
      intro enough
      obtain ⟨later', ran', level', capacity⟩ := needs.enough (Nat.le_trans grown enough)
      have ran' : command.run small = (.ok outcome, later') := ran'
      obtain ⟨same, level'', written⟩ := (ih level' others rest).1 (capacity ▸ enough)
      have ending' : small.after (command :: commands) = later'.after commands := by
        simp only [after, List.foldl_cons, ran']
      simp only [ending', ran', same, true_and]
      refine ⟨level'', ?_⟩
      rintro i (⟨piece, given, covers⟩ | further)
      · -- It is not written again by what is allocated later.
        simp only [ran] at given covers
        cases given
        have printed := command.prints allocates level.base ran ran' i covers
        have kept := spares.kept i covers.lt
        have kept' := (after_allocations others later').1.kept i (level'.used ▸ covers.lt)
        rw [kept', printed, kept]
      · rw [ran] at further
        exact written i further
    · -- The first that does not fit is this one, or it is among the others.
      intro lacking
      by_cases enough : later.used ≤ small.capacity
      · obtain ⟨later', ran', level', capacity⟩ := needs.enough enough
        have ran' : command.run small = (.ok outcome, later') := ran'
        obtain ⟨requested, remaining, found⟩ := (ih level' others rest).2 (capacity ▸ lacking)
        exact ⟨requested, remaining, by simpa [ran', Except.isOk, Except.toBool] using found⟩
      · obtain ⟨requested, remaining, later', ran'⟩ := needs.lacking (Nat.lt_of_not_le enough)
        have ran' : command.run small = (.error (.bufferTooSmall requested remaining), later') :=
          ran'
        exact ⟨requested, remaining, by simp [ran', Except.isOk, Except.toBool]⟩

/-- Allocations that succeed in one arena succeed in another at the same address, filled up to the
    same place, exactly if it has room up to where they end. Then they give out the same pieces and
    write the same octets. In a smaller arena the first that fails is one that does not fit. -/
theorem commands_fit_iff (base : small.base = large.base) (used : small.used = large.used)
    (allocate : ∀ command ∈ commands, command.Allocates)
    (succeed : ∀ outcome ∈ large.outcomes commands, outcome.isOk) :
    let needed := (large.after commands).used
    ((∀ outcome ∈ small.outcomes commands, outcome.isOk) ↔ needed ≤ small.capacity) ∧
    (needed ≤ small.capacity → small.outcomes commands = large.outcomes commands ∧
      (small.after commands).used = needed ∧
      ∀ i, large.Written commands i →
        (small.after commands).memory[i]? = (large.after commands).memory[i]?) ∧
    (small.capacity < needed → ∃ requested remaining,
      (small.outcomes commands).find? (!·.isOk) =
        some (.error (.bufferTooSmall requested remaining))) := by
  obtain ⟨enough, lacking⟩ := allocations_fit ⟨base, used⟩ allocate succeed
  refine ⟨?_, ?_, lacking⟩
  · constructor
    · -- Without room for all of them there would be one that fails.
      intro all
      apply Nat.le_of_not_lt
      intro less
      obtain ⟨requested, remaining, found⟩ := lacking less
      have failed := all _ (List.mem_of_find?_eq_some found)
      cases failed
    · intro room
      rw [(enough room).1]
      exact succeed
  · intro room
    obtain ⟨same, level, written⟩ := enough room
    exact ⟨same, level.used, written⟩

/-- The name of a group and its members, and an octet more. -/
def groupCommands : List Command :=
  [.text "web", .list ["ann", "", "bob"] (some ""), .octets 1]

/-- A name of four octets, three slots behind five octets that align them, two members of four
    octets each, and an octet more: from this address on they take 42 octets and not one less. -/
theorem commands_fit_iff_group :
    (∀ command ∈ groupCommands, command.Allocates) ∧
    (∀ outcome ∈ (fresh 7 100).outcomes groupCommands, outcome.isOk) ∧
    ((fresh 7 100).after groupCommands).used = 42 ∧
    (∀ outcome ∈ (fresh 7 42).outcomes groupCommands, outcome.isOk) ∧
    (fresh 7 42).outcomes groupCommands = (fresh 7 100).outcomes groupCommands ∧
    ∃ requested remaining, ((fresh 7 41).outcomes groupCommands).find? (!·.isOk) =
      some (.error (.bufferTooSmall requested remaining)) := by
  have allocate : ∀ command ∈ groupCommands, command.Allocates := by
    simp [groupCommands, Command.Allocates]
  have succeed : ∀ outcome ∈ (fresh 7 100).outcomes groupCommands, outcome.isOk := by
    decide +kernel
  have needed : ((fresh 7 100).after groupCommands).used = 42 := by decide +kernel
  obtain ⟨fits, same, -⟩ := @commands_fit_iff (fresh 7 100) (fresh 7 42) _ rfl rfl allocate succeed
  obtain ⟨-, -, lacking⟩ := @commands_fit_iff (fresh 7 100) (fresh 7 41) _ rfl rfl allocate succeed
  simp only [needed] at fits same lacking
  refine ⟨allocate, succeed, needed, fits.mpr (by decide), (same (by decide)).1, ?_⟩
  exact lacking (by decide)

end Arena

end NameService
