import NameService.Proofs.Engine.Runs

/-!
What is said about answers that come message by message: a search is started, its messages are
received one after the other, and it may be abandoned before the last. A note is taken of each of
these; whatever else a session does leaves none.
-/

namespace NameService

inductive Note where
  /-- What was said before is settled; another answer is wanted. -/
  | begun
  | started (connection : Connection) (answer : Except Error MessageId)
  | received (connection : Connection) (id : MessageId) (answer : Except Error Message)
  | abandoned (connection : Connection) (id : MessageId)

def Event.note? : Event → Option Note
  | ⟨.start connection _, answer, _, _⟩ => some (.started connection answer)
  | ⟨.next connection id, answer, _, _⟩ => some (.received connection id answer)
  | ⟨.abandon connection id, _, _, _⟩ => some (.abandoned connection id)
  | _ => none

/-- What was noted in a history. -/
def notesOf (history : List Event) : List Note := history.filterMap Event.note?

namespace World

variable {σ : Type}

def notes (world : World σ) : List Note := notesOf world.history

variable [Service σ] (world : World σ)

@[simp] theorem notes_start (connection : Connection) (search : Search) :
    (world.after (.start connection search)).notes =
      .started connection (world.answer (.start connection search)) :: world.notes := rfl

@[simp] theorem notes_next (connection : Connection) (id : MessageId) :
    (world.after (.next connection id)).notes =
      .received connection id (world.answer (.next connection id)) :: world.notes := rfl

@[simp] theorem notes_abandon (connection : Connection) (id : MessageId) :
    (world.after (.abandon connection id)).notes = .abandoned connection id :: world.notes := rfl

/-- A connection is given up without a note. -/
theorem notes_drop {part : Connection → Call}
    (quiet : ∀ connection, (world.after (part connection)).notes = world.notes) :
    (world.drop part).notes = world.notes := by
  unfold drop
  split
  · exact quiet _
  · rfl

end World

end NameService
