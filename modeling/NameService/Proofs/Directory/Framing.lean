import NameService.Proofs.Arena.Framing
import NameService.Proofs.Enumeration.Entries
import NameService.Proofs.Enumeration.Faults

/-!
What readings leave in the caller's memory. Many entries may be tried for one record, and some of
them stored in part before they are passed over; of all that only the entry counts that was
accepted, and of a reading that fails nothing remains.

## Main result

`Directory.readings_framed`: the readings of questions and of enumerations frame the memory they are
given.
-/

namespace NameService

open Engine

variable {ρ : Type}

/-- The first of the entries offered that has a record has this one, and the parser leaves so much
    in use when it begins with that entry. -/
def RecordParser.Accepts (parser : RecordParser ρ) (arena : Arena)
    (offers : List (Entry × Position)) (record : ρ) (used : Nat) : Prop :=
  ∃ passed entry position rest, offers = passed ++ (entry, position) :: rest ∧
    (∀ offer ∈ passed, parser.Passes arena offer) ∧
    (parser entry position arena).outcome = .ok (some record) ∧
    used = (parser entry position arena).arena.used

/-- What a reading leaves in memory, after entries were offered to a parser in this order until one
    was accepted. -/
structure Reading.Framed (parser : RecordParser ρ) (arena : Arena)
    (offers : List (Entry × Position)) (reading : Reading ρ) : Prop where
  base : reading.arena.base = arena.base
  capacity : reading.arena.capacity = arena.capacity
  /-- What was in use before is unchanged. -/
  kept : reading.arena.bytes.take arena.used = arena.bytes
  /-- Without a record nothing else is in use, and every octet is as it was. -/
  restored : ∀ error, reading.result = .error error →
    reading.arena.used = arena.used ∧ reading.arena.bytes = arena.bytes
  /-- With one, in use is what the parser makes of the accepted entry alone. -/
  accepted : ∀ record, reading.result = .ok record →
    parser.Accepts arena offers record reading.arena.used

namespace Reading.Framed

variable {parser : RecordParser ρ} {arena : Arena} {offers : List (Entry × Position)}

theorem of_spares {reading : Reading ρ}
    (spares : Arena.Spares (· < arena.used) arena reading.arena)
    (grown : arena.used ≤ reading.arena.used)
    (restored : ∀ error, reading.result = .error error → reading.arena.used = arena.used)
    (accepted : ∀ record, reading.result = .ok record →
      parser.Accepts arena offers record reading.arena.used) :
    reading.Framed parser arena offers where
  base := spares.base
  capacity := spares.capacity
  kept := by
    rw [Arena.bytes, List.take_take, Nat.min_eq_left grown]
    exact spares.take
  restored error failed :=
    ⟨restored error failed, Arena.bytes_of_spares spares (restored error failed)⟩
  accepted := accepted

/-- A reading that has not touched the memory, for want of an entry with a record. -/
theorem untouched (error : Error) : Framed parser arena offers ⟨.error error, arena⟩ :=
  .of_spares (.refl _ _) (Nat.le_refl _) (fun _ _ => rfl) (by simp)

variable (confined : parser.Confined) {entry : Entry} {position : Position}
include confined

/-- The first entry has a record. -/
theorem taken {record : ρ} (found : (parser entry position arena).outcome = .ok (some record)) :
    Framed parser arena ((entry, position) :: offers)
      ⟨.ok record, (parser entry position arena).arena⟩ := by
  obtain ⟨spares, grown⟩ := confined.spares entry position arena
  refine .of_spares spares grown (by simp) fun record' same => ?_
  obtain rfl : record = record' := by simpa using same
  exact ⟨[], entry, position, offers, rfl, by simp, found, rfl⟩

/-- The first entry has a record for which there is no room. -/
theorem refused (error : Error) : Framed parser arena offers
    ⟨.error error, (parser entry position arena).arena.rollback arena.mark⟩ := by
  obtain ⟨room, spares⟩ := confined.passed entry position arena
  simp only [Arena.room, Arena.Room.mk.injEq] at room
  exact .of_spares spares (Nat.le_of_eq room.2.1.symm) (fun _ _ => room.2.1) (by simp)

/-- The first entry was passed over, and the others were tried in what it left. -/
theorem passed {reading : Reading ρ} (passes : parser.Passes arena (entry, position))
    (framed : reading.Framed parser
      ((parser entry position arena).arena.rollback arena.mark) offers) :
    reading.Framed parser arena ((entry, position) :: offers) := by
  obtain ⟨same, spares⟩ := confined.passed entry position arena
  generalize (parser entry position arena).arena.rollback arena.mark = arena' at same spares framed
  have room := same
  simp only [Arena.room, Arena.Room.mk.injEq] at room
  have used : arena'.used = arena.used := room.2.1
  have bytes : arena'.bytes = arena.bytes := Arena.bytes_of_spares spares used
  constructor
  case base => exact framed.base.trans spares.base
  case capacity => exact framed.capacity.trans spares.capacity
  case kept => rw [← used, framed.kept, bytes]
  case restored =>
    intro error failed
    obtain ⟨same, kept⟩ := framed.restored error failed
    exact ⟨same.trans used, kept.trans bytes⟩
  case accepted =>
    intro record found
    obtain ⟨passed, entry', position', rest, split, pass, parsed, ends⟩ :=
      framed.accepted record found
    -- Parsers do the same in both arenas, because there is as much room in one as in the other.
    have alike := confined.alike entry' position' same
    refine ⟨(entry, position) :: passed, entry', position', rest, by rw [split]; rfl, ?_, ?_, ?_⟩
    · intro offer there
      rcases List.mem_cons.mp there with rfl | there
      · exact passes
      · have passes' := pass offer there
        have alike' := (confined.alike offer.1 offer.2 same).1
        exact ⟨fun record => alike' ▸ passes'.blank record,
          fun requested remaining => alike' ▸ passes'.roomy requested remaining⟩
    · rw [← alike.1, parsed]
    · rw [ends, alike.2]

end Reading.Framed

/-- What is offered to a parser: the entries of an answer, with the key that was asked for. -/
def Lookup.offers (lookup : Lookup) (entries : List Entry) : List (Entry × Position) :=
  entries.map fun entry => (entry, .byKey (lookup.args.key?.getD ""))

/-- The search for the first record among entries leaves the memory as the one entry does that is
    accepted. -/
theorem RecordParser.Confined.first_framed {parser : RecordParser ρ} (confined : parser.Confined)
    (position : Position) (missing : Error) (entries : List Entry) (arena : Arena) :
    (parser.first position missing arena entries).record.Framed parser arena
      (entries.map fun entry => (entry, position)) := by
  induction entries generalizing arena with
  | nil => exact Reading.Framed.untouched missing
  | cons entry entries ih =>
    rw [first, List.map_cons]
    split
    · next record found => exact Reading.Framed.taken confined found
    · exact Reading.Framed.refused confined _
    · next blank => exact .passed confined ⟨by simp [blank], by simp [blank]⟩ (ih _)
    · next error failed other =>
      refine .passed confined ⟨by simp [other], fun requested remaining full => ?_⟩ (ih _)
      rw [other] at full
      exact failed requested remaining (Except.error.inj full)

/-- The size of the first record is all that has come into use, also if other entries were tried
    before. -/
theorem RecordParser.Confined.first_sized {parser : RecordParser ρ} (confined : parser.Confined)
    {position : Position} {missing : Error} {sized : Sized ρ} {entries : List Entry}
    {arena : Arena} (found : (parser.first position missing arena entries).result = .ok sized) :
    arena.used + sized.size = (parser.first position missing arena entries).arena.used := by
  induction entries generalizing arena with
  | nil => cases found
  | cons entry entries ih =>
    obtain ⟨-, grown⟩ := confined.spares entry position arena
    obtain ⟨room, -⟩ := confined.passed entry position arena
    simp only [Arena.room, Arena.Room.mk.injEq] at room
    rw [first] at found ⊢
    split at found
    · cases found
      exact Nat.add_sub_of_le grown
    · cases found
    -- What the entry has left in use before it was passed over is given back.
    all_goals
      have same := ih found
      rwa [room.2.1] at same

/-! ## Entries that are received -/

section Received

variable {σ : Type}

/-- Since a time these entries have been received, in this order. -/
def World.Brought (base : List Event) (entries : List Entry) (world : World σ) : Prop :=
  ∃ recent, world.history = recent ++ base ∧ (recent.filterMap Event.brings?).reverse = entries

namespace World.Brought

variable {base : List Event} {entries more : List Entry} {world later : World σ}

theorem refl (world : World σ) : world.Brought world.history [] := ⟨[], rfl, rfl⟩

theorem trans (first : world.Brought base entries) (second : later.Brought world.history more) :
    later.Brought base (entries ++ more) := by
  obtain ⟨recent, grown, rfl⟩ := first
  obtain ⟨recent', grown', rfl⟩ := second
  exact ⟨recent' ++ recent, by simp [grown, grown'], by simp⟩

theorem of_history (brought : world.Brought base entries) (same : later.history = world.history) :
    later.Brought base entries := by
  obtain ⟨recent, grown, read⟩ := brought
  exact ⟨recent, same.trans grown, read⟩

variable [Service σ]

/-- A call by which no entry comes. -/
theorem after (brought : world.Brought base entries) (call : Call)
    (barren : call.brings? (world.answer call) = none) :
    (world.after call).Brought base entries := by
  obtain ⟨recent, grown, read⟩ := brought
  refine ⟨⟨call, world.answer call, world.stand, world.look⟩ :: recent, ?_, ?_⟩
  · simp [World.after, grown]
  · rw [List.filterMap_cons_none (by exact barren), read]

theorem received (brought : world.Brought base entries) (call : Call) {entry : Entry}
    (brings : call.brings? (world.answer call) = some entry) :
    (world.after call).Brought base (entries ++ [entry]) := by
  obtain ⟨recent, grown, read⟩ := brought
  refine ⟨⟨call, world.answer call, world.stand, world.look⟩ :: recent, ?_, ?_⟩
  · simp [World.after, grown]
  · rw [List.filterMap_cons_some (by exact brings), List.reverse_cons, read]

theorem lasting (base : List Event) (entries : List Entry) :
    World.Lasting fun world : World σ => world.Brought base entries where
  after world call quiet brought := by
    refine brought.after call ?_
    cases call <;> simp_all [Call.brings?, Call.isQuery]
  made _ _ brought := brought.of_history rfl
  hold _ _ brought := brought.of_history rfl
  look _ _ brought := brought.of_history rfl
  dropLink _ brought := brought.of_history rfl
  clearFork _ brought := brought.of_history rfl
  touch _ _ brought := brought.of_history rfl
  advance _ brought := brought.of_history rfl
  adopt world _ _ _ brought := (brought.after .load rfl).of_history rfl

end World.Brought

end Received

variable {σ : Type} [Service σ]

namespace Enumeration

/-- What is offered to a parser: the entry at hand where it stands, and then those that come. -/
def offers (e : Enumeration) (brought : List Entry) : List (Entry × Position) :=
  e.entry.toList.map (·, e.position) ++ brought.map (·, .start)

section Receipt

variable {base : List Event} {world : World σ} {e : Enumeration}

/-- A fetch receives the entry that is at hand after it, and no other. -/
theorem fetch_brings (free : e.entry = none) (brought : world.Brought base []) :
    Ends world e.fetch fun out later => later.Brought base out.2.entry.toList := by
  have nothing {later : World σ} {e : Enumeration} (free : e.entry = none)
      (brought : later.Brought base []) (result : Except Error Unit) :
      Ends later (Pure.pure (result, e)) fun out later =>
        later.Brought base out.2.entry.toList := by
    refine .pure ?_
    rw [free]
    exact brought
  have started (world : World σ) (connection : Connection) (search : Search)
      (brought : world.Brought base []) :
      (world.after (.start connection search)).Brought base [] :=
    brought.after _ rfl
  have lasting : World.Lasting fun world : World σ => world.Brought base [] :=
    World.Brought.lasting base []
  unfold fetch
  split
  · next id _ =>
    refine ((Session.ensureReady_lasts lasting).ends brought).bind fun result world brought => ?_
    match result with
    | .error error => exact nothing free brought _
    | .ok () =>
      refine .bind_run (run_session world) ?_
      split
      · next link _ =>
        split
        · exact nothing rfl brought _
        let call := Call.next link.connection id
        refine .bind_run (run_perform world call) ?_
        cases answered : world.answer call with
        | error error =>
          have brought : (world.after call).Brought base [] := by
            refine brought.after call ?_
            rw [answered]
            rfl
          dsimp only
          split
          · have closes := close_lasts (World.Brought.lasting (σ := σ) base []).toTended
            exact (closes.ends brought).bind fun _ _ brought => nothing rfl brought _
          · exact nothing rfl brought _
        | ok message =>
          cases message with
          | entry entry =>
            refine .pure (brought.received call ?_)
            rw [answered]
            rfl
          | reference =>
            refine nothing free (brought.after call ?_) _
            rw [answered]
            rfl
          | done done =>
            -- The search for the next page, or in the next part, brings no entry yet.
            have brought : (world.after call).Brought base [] := by
              refine brought.after call ?_
              rw [answered]
              rfl
            have ended := (finish_lasts started e done).ends brought
            intro out later ran
            have left := finish_free free done out later ran
            rw [left]
            exact ended out later ran
      · exact nothing rfl brought _
  · exact nothing free brought _

end Receipt

variable {parser : RecordParser ρ}

omit [Service σ] in
theorem offers_of_entry {e : Enumeration} {entry : Entry} (atHand : e.entry = some entry)
    (brought : List Entry) :
    e.offers brought = (entry, e.position) :: brought.map (·, .start) := by
  rw [offers, atHand]
  rfl

omit [Service σ] in
/-- The entry that is received first is offered from its first record on. -/
theorem offers_received {e e' : Enumeration} (free : e.entry = none)
    (first : e'.entry.isSome → e'.position = .start) (brought : List Entry) :
    e.offers (e'.entry.toList ++ brought) = e'.offers brought := by
  cases received : e'.entry with
  | none => simp [offers, free, received]
  | some entry =>
    rw [offers_of_entry received, first (by simp [received])]
    simp [offers, free]

/-- The next record is from the first entry that is accepted, of the one at hand and of those that
    come during the call. -/
theorem next_framed (confined : parser.Confined) (patience : Nat) (e : Enumeration) (arena : Arena)
    (world : World σ) :
    Ends world (next parser patience e arena) fun out later =>
      ∃ brought, later.Brought world.history brought ∧
        out.1.Framed parser arena (e.offers brought) := by
  -- The induction is on the turns that are left; an entry that comes is offered in the next turn.
  induction patience generalizing e arena world with
  | zero =>
    intro out later ran
    cases ran
  | succ patience ih =>
    rw [next]
    cases atHand : e.entry with
    | none =>
      have fetches : Ends world e.fetch fun out later =>
          later.Brought world.history out.2.entry.toList ∧
            (out.2.entry.isSome → out.2.position = .start) := fun out later ran =>
        ⟨fetch_brings atHand (.refl world) out later ran, fetch_first atHand out later ran⟩
      refine fetches.bind fun out world' reached => ?_
      obtain ⟨brought, first⟩ := reached
      obtain ⟨result, e'⟩ := out
      cases result with
      | error error => exact .pure ⟨_, brought, .untouched error⟩
      | ok =>
        refine (ih e' arena world').mono fun out later reached => ?_
        obtain ⟨more, brought', framed⟩ := reached
        refine ⟨_, brought.trans brought', ?_⟩
        rw [offers_received atHand first]
        exact framed
    | some entry =>
      have untouched := World.Brought.refl world
      -- An entry that is passed over is given up, and the next turn fetches another.
      have goesOn (passes : parser.Passes arena (entry, e.position)) :
          Ends world (next parser patience e.dropEntry
            ((parser entry e.position arena).arena.rollback arena.mark)) fun out later =>
          ∃ brought, later.Brought world.history brought ∧
            out.1.Framed parser arena (e.offers brought) := by
        refine (ih e.dropEntry _ world).mono fun out later reached => ?_
        obtain ⟨brought, came, framed⟩ := reached
        refine ⟨brought, came, ?_⟩
        rw [offers_of_entry atHand]
        exact .passed confined passes framed
      cases parsed : (parser entry e.position arena).outcome with
      | ok found =>
        cases found with
        | some record =>
          simp only [offer, parsed]
          refine .bind_run (run_touch world) (.pure ⟨[], untouched.of_history rfl, ?_⟩)
          rw [offers_of_entry atHand]
          exact .taken confined parsed
        | none =>
          simp only [offer, parsed]
          exact goesOn ⟨by simp [parsed], by simp [parsed]⟩
      | error error =>
        cases error with
        | bufferTooSmall requested remaining =>
          simp only [offer, parsed]
          exact .pure ⟨[], untouched, .refused confined _⟩
        | _ =>
          simp only [offer, parsed]
          exact goesOn ⟨by simp [parsed], by simp [parsed]⟩

end Enumeration

namespace Directory

/-- The readings of questions and of enumerations frame the memory they are given. For a question
    the entries of its answer are tried, and the size that is told is what they take. -/
theorem readings_framed {parser : RecordParser ρ} (confined : parser.Confined) (arena : Arena)
    (world : World σ) :
    (∀ question : Lookup, ∃ answer size reading later,
      question.entries.run world = some (answer, later) ∧
        lookup question parser arena world =
          some ((.ofResult reading.result, size, reading), later) ∧
        reading.Framed parser arena (question.offers (answer.toOption.getD [])) ∧
        ∀ record, reading.result = .ok record → arena.used + size = reading.arena.used) ∧
    ∀ (patience : Nat) (e : Enumeration) (status : Status) (reading : Reading ρ)
      (e' : Enumeration) (later : World σ),
      enumerateNext patience parser e arena world = some ((status, reading, e'), later) →
      status = .ofResult reading.result ∧
        ∃ brought, later.Brought world.history brought ∧
          reading.Framed parser arena (e.offers brought) := by
  constructor
  · intro question
    obtain ⟨answer, later, asked⟩ := question.entries_halts world
    -- The reading of the answer, or of the error in its place.
    have read : ∃ reading, question.one parser arena world = some (reading, later) ∧
        reading.record.Framed parser arena (question.offers (answer.toOption.getD [])) ∧
        ∀ sized, reading.result = .ok sized → arena.used + sized.size = reading.arena.used := by
      cases answer with
      | error error =>
        refine ⟨⟨.error error, arena⟩, ?_, Reading.Framed.untouched error, by simp⟩
        rw [Lookup.one, run_bind, asked]
        rfl
      | ok entries =>
        refine ⟨_, ?_, confined.first_framed _ question.unanswered entries arena,
          fun _ => confined.first_sized⟩
        rw [Lookup.one, run_bind, asked]
        rfl
    obtain ⟨reading, ran, framed, sized⟩ := read
    refine ⟨answer, reading.size, reading.record, later, asked, ?told, framed, ?sized⟩
    case told =>
      rw [lookup, run_bind, ran, Reading.ofResult_record]
      rfl
    case sized =>
      intro record found
      rw [Reading.size]
      cases same : reading.result with
      | error error => simp [Reading.record, same, Except.map] at found
      | ok both => exact sized both same
  · intro patience e status reading e' later ran
    rw [enumerateNext, run_bind] at ran
    obtain ⟨⟨⟨reading, e⟩, last⟩, read, told⟩ := Option.bind_eq_some_iff.mp ran
    cases told
    exact ⟨rfl, Enumeration.next_framed confined patience _ arena world _ _ read⟩

/-- The name of an entry and its user name. -/
def badge (entry : Entry) : Marshal (StoredText × StoredText) := do
  let name ← entry.storeNaming "cn"
  let user ← entry.storeFirst "uid"
  return (name, user)

def badged : RecordParser (StoredText × StoredText) := fun entry position arena =>
  let (result, later) := (badge entry).run arena
  ⟨result.map some, position, later⟩

/-- What is stored first is not taken back when the user name is missing. -/
theorem badged_confined : badged.Confined := by
  intro entry position room
  by_cases some : ∃ arena : Arena, arena.room = room
  · obtain ⟨arena, rfl⟩ := some
    have frames (other : Arena) (same : other.room = arena.room) :=
      entry.storeNaming_frames "cn" arena other same.symm (Nat.zero_le _)
    cases named : ((entry.storeNaming "cn").run arena).1 with
    | error error =>
      refine ⟨.error error, position, [.naming entry "cn"], fun other same => ?_⟩
      obtain ⟨result, later, later', ran, ran', -⟩ := frames other same
      obtain rfl : result = .error error := by rw [← named, ran]
      refine ⟨by simp [Arena.OwnMarks], ?_⟩
      simp only [badged, badge, Arena.after, List.foldl_cons, List.foldl_nil, Arena.Command.run,
        Arena.Command.marshal, Marshal.run_bind, ran']
      rfl
    | ok name =>
      refine ⟨((badge entry).run arena).1.map Option.some, position,
        [.naming entry "cn", .first entry "uid"], fun other same => ?_⟩
      obtain ⟨result, later, later', ran, ran', room, -⟩ := frames other same
      obtain rfl : result = .ok name := by rw [← named, ran]
      -- What there is room for after the name does not depend on the octets either.
      obtain ⟨result, last, last', ended, ended', -⟩ :=
        entry.storeFirst_frames "uid" later later' room (Nat.zero_le _)
      refine ⟨by simp [Arena.OwnMarks], ?_⟩
      simp only [badged, badge, Arena.after, List.foldl_cons, List.foldl_nil, Arena.Command.run,
        Arena.Command.marshal, Marshal.run_bind, Marshal.run_pure, ran, ran', ended, ended']
      cases result <;> rfl
  · exact ⟨.ok none, position, [], fun arena same => absurd ⟨arena, same⟩ some⟩

/-- A directory in which the door comes before the user. -/
def doorFirst (_ : Search) : Reply := ⟨[some Small.door, some Small.ann], 0, "", none⟩

/-- The name of the door is in memory for a while. There is room for it and nothing more when the
    enumeration gets to the user, whose record is refused. -/
theorem readings_framed_door :
    let world : World (Host Small.config doorFirst) := { outside := {} }
    let arena (capacity : Nat) := (Arena.fresh 0 capacity).after [.text "web"]
    badged.Confined ∧
      (∃ reading later,
        lookup Small.users badged (arena 20) world = some ((.success, 8, reading), later) ∧
          reading.Framed badged (arena 20) (Small.users.offers [Small.door, Small.ann]) ∧
          (arena 20).used + 8 = reading.arena.used) ∧
      ∃ status e begun reading e' later brought,
        enumerateStart Small.users {} world = some ((status, e), begun) ∧
          enumerateNext 8 badged e (arena 9) begun = some ((.tryAgain, reading, e'), later) ∧
          later.Brought begun.history brought ∧
          reading.Framed badged (arena 9) (e.offers brought) ∧
          reading.arena.used = (arena 9).used := by
  intro world arena
  refine ⟨badged_confined, ?_, ?_⟩
  · -- The door has no user name and leaves traces in the arena before it is refused; ann is taken.
    obtain ⟨answer, size, reading, later, asked, ran, framed, sized⟩ :=
      (readings_framed badged_confined (arena 20) world).1 Small.users
    have answered : (Small.users.entries.run world).map (fun out => out.1.toOption.getD []) =
        some [Small.door, Small.ann] := by
      decide +kernel
    have ended : (lookup Small.users badged (arena 20) world).map (fun out =>
        (out.1.2.1, out.1.2.2.result.isOk)) = some (8, true) := by
      decide +kernel
    simp only [asked, Option.map_some, Option.some.injEq] at answered
    simp only [ran, Option.map_some, Option.some.injEq, Prod.mk.injEq] at ended
    obtain ⟨rfl, succeeded⟩ := ended
    rw [answered] at framed
    cases found : reading.result with
    | error error =>
      rw [found] at succeeded
      cases succeeded
    | ok record =>
      rw [found] at ran
      exact ⟨reading, later, ran, framed, sized record found⟩
  · have ended : ((enumerateStart Small.users {} world).bind fun out =>
        (enumerateNext 8 badged out.1.2 (arena 9) out.2).map fun last =>
          (last.1.1, last.1.2.1.result.isOk)) = some (.tryAgain, false) := by
      decide +kernel
    obtain ⟨⟨⟨status, e⟩, begun⟩, started, went⟩ := Option.bind_eq_some_iff.mp ended
    obtain ⟨⟨⟨told, reading, e'⟩, later⟩, ran, last⟩ := Option.map_eq_some_iff.mp went
    simp only [Prod.mk.injEq] at last
    obtain ⟨rfl, failed⟩ := last
    obtain ⟨-, brought, came, framed⟩ :=
      (readings_framed badged_confined (arena 9) begun).2 8 e .tryAgain reading e' later ran
    refine ⟨status, e, begun, reading, e', later, brought, started, ran, came, framed, ?_⟩
    cases found : reading.result with
    | ok record =>
      rw [found] at failed
      cases failed
    | error error => exact (framed.restored error found).1

end Directory

end NameService
