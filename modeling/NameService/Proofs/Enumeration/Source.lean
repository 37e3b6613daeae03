import NameService.Directory
import NameService.Proofs.Engine.Runs
import Mathlib.Data.List.Forall2
import Mathlib.Data.List.ReduceOption

/-!
Where the records of an enumeration come from: what a server has in answer to each search, the pages
and parts of the tree that a question leads to, and the records that a parser finds in an entry.
-/

namespace NameService

/-- What a server has in answer to a search. A message without an entry is a reference. -/
structure Reply where
  messages : List (Option Entry)
  done : Done

namespace Reply

def message : Option Entry → Message
  | some entry => .entry entry
  | none => .reference

def stream (reply : Reply) : List Message := reply.messages.map message ++ [.done reply.done]

end Reply

/-- A search has come to an end without a failure. -/
def Done.IsSettled (done : Done) : Prop :=
  ResultCode.status done.code = .success ∨ ResultCode.status done.code = .notFound

/-- A server that answers searches as it should, from the time when it has accepted one on. What is
    still to be received of an answer waits in a queue. -/
structure Script (σ : Type) [Service σ] (reply : Search → Reply) where
  queue : Connection → MessageId → σ → List Message
  serves : Connection → σ → Prop
  started : ∀ {connection : Connection} {search : Search} {outside : σ} {id : MessageId},
    (Service.answer (.start connection search) outside).1 = .ok id →
      let later := (Service.answer (.start connection search) outside).2
      queue connection id later = (reply search).stream ∧ serves connection later
  starts : ∀ {connection : Connection} {outside : σ}, serves connection outside →
    ∀ search, ∃ id, (Service.answer (.start connection search) outside).1 = .ok id
  sends : ∀ {connection : Connection} {id : MessageId} {message : Message} {rest : List Message}
    {outside : σ}, serves connection outside → queue connection id outside = message :: rest →
      let later := (Service.answer (.next connection id) outside).2
      (Service.answer (.next connection id) outside).1 = .ok message ∧
        queue connection id later = rest ∧ serves connection later

/-- The pages of an answer, from a cookie on. After the last of them no cookie is left. -/
inductive Pages (reply : Search → Reply) (page : List UInt8 → Search) :
    List UInt8 → List (List (Option Entry)) → Prop
  | last {cookie : List UInt8} (settled : (reply (page cookie)).done.IsSettled)
    (ends : (reply (page cookie)).done.nextPage? = none) :
    Pages reply page cookie [(reply (page cookie)).messages]
  | more {cookie cookie' : List UInt8} {pages : List (List (Option Entry))}
    (settled : (reply (page cookie)).done.IsSettled)
    (goesOn : (reply (page cookie)).done.nextPage? = some cookie')
    (rest : Pages reply page cookie' pages) :
    Pages reply page cookie ((reply (page cookie)).messages :: pages)

namespace Lookup

/-- The pages of the answer in one part of the tree. -/
def AnsweredBy (lookup : Lookup) (config : Config) (reply : Search → Reply) (target : Target)
    (pages : List (List (Option Entry))) : Prop :=
  ∀ search, lookup.search config target = .ok search →
    Pages reply (fun cookie => { search with page := config.page? cookie }) [] pages

/-- The pages of the answers in all parts of the tree. -/
def Answers (lookup : Lookup) (config : Config) (reply : Search → Reply)
    (parts : List (List (List (Option Entry)))) : Prop :=
  List.Forall₂ (lookup.AnsweredBy config reply) (lookup.targets config) parts

/-- Whether a question can be put does not depend on the part of the tree. -/
theorem search_ok {lookup : Lookup} {config : Config} {target : Target} {search : Search}
    (searches : lookup.search config target = .ok search) (other : Target) :
    ∃ search', lookup.search config other = .ok search' := by
  cases rendered : Filter.render lookup.template lookup.args with
  | error error => simp [Lookup.search, Filter.build, rendered, bind, Except.bind] at searches
  | ok filled =>
    -- Once the template is filled, a filter of any part can be added to it.
    have built : ∃ filter, Filter.build lookup.template lookup.args other.filter = .ok filter := by
      simp only [Filter.build, rendered, bind, Except.bind]
      split
      · exact ⟨_, rfl⟩
      · split <;> exact ⟨_, rfl⟩
    obtain ⟨filter, built⟩ := built
    exact ⟨_, by simp only [Lookup.search, built]; rfl⟩

end Lookup

/-- The position of the record with this number. The first record needs no number. -/
def Position.At (position : Position) (index : Nat) : Prop :=
  position = .byIndex (some index) ∨ index = 0 ∧ position = .byIndex none

/-- A record, and where it comes from. -/
structure Item (ρ : Type) where
  entry : Entry
  index : Nat
  record : ρ

/-- What there is of an arena for a record to fit into. -/
structure Arena.Room where
  base : Nat
  used : Nat
  capacity : Nat

def Arena.room (arena : Arena) : Arena.Room := ⟨arena.base, arena.used, arena.capacity⟩

/-- A parser that reads the records of an entry one after the other, each if it fits, and that takes
    nothing back that was in memory. -/
structure RecordParser.Reads {ρ : Type} (parser : RecordParser ρ) (records : Entry → List ρ)
    (fits : Item ρ → Arena.Room → Prop) : Prop where
  taken : ∀ {entry index position arena record}, position.At index →
    (records entry)[index]? = some record → fits ⟨entry, index, record⟩ arena.room →
      (parser entry position arena).outcome = .ok (some record) ∧
      if index + 1 < (records entry).length then
        (parser entry position arena).position = .byIndex (some (index + 1))
      else (parser entry position arena).position.needsEntry
  refused : ∀ {entry index position arena record}, position.At index →
    (records entry)[index]? = some record → ¬ fits ⟨entry, index, record⟩ arena.room →
      ∃ requested remaining,
        (parser entry position arena).outcome = .error (.bufferTooSmall requested remaining)
  passed : ∀ {entry index position arena}, position.At index → (records entry)[index]? = none →
      (parser entry position arena).outcome = .ok none ∨
      ∃ error, (parser entry position arena).outcome = .error error ∧
        ∀ requested remaining, error ≠ .bufferTooSmall requested remaining
  adds : ∀ entry position arena, (parser entry position arena).arena.base = arena.base ∧
    (parser entry position arena).arena.capacity = arena.capacity ∧
    arena.used ≤ (parser entry position arena).arena.used

/-- What a parser has stored can be taken back. -/
theorem RecordParser.Reads.room_rollback {ρ : Type} {parser : RecordParser ρ}
    {records : Entry → List ρ} {fits : Item ρ → Arena.Room → Prop}
    (reads : parser.Reads records fits) (entry : Entry) (position : Position) (arena : Arena) :
    ((parser entry position arena).arena.rollback arena.mark).room = arena.room := by
  obtain ⟨base, capacity, grown⟩ := reads.adds entry position arena
  simp only [Arena.capacity] at capacity
  simp [Arena.rollback, Arena.mark, Arena.room, Arena.capacity, base, capacity, grown]

/-- The records of an entry, in order. -/
def itemsOf {ρ : Type} (records : Entry → List ρ) (entry : Entry) : List (Item ρ) :=
  (records entry).zipIdx.map fun record => ⟨entry, record.2, record.1⟩

/-- The records of all entries on some pages, in order. -/
def itemsOn {ρ : Type} (records : Entry → List ρ) (pages : List (List (Option Entry))) :
    List (Item ρ) :=
  pages.flatten.reduceOption.flatMap (itemsOf records)

theorem map_record_itemsOn {ρ : Type} (records : Entry → List ρ)
    (pages : List (List (Option Entry))) :
    (itemsOn records pages).map Item.record = pages.flatten.reduceOption.flatMap records := by
  have each (entry : Entry) : (itemsOf records entry).map Item.record = records entry := by
    rw [itemsOf, List.map_map]
    exact List.zipIdx_map_fst 0 (records entry)
  simp [itemsOn, List.map_flatMap, each]

end NameService
