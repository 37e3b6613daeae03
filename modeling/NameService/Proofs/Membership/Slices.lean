import NameService.Proofs.Lookup.Readings
import NameService.Proofs.Membership.Lasting

/-!
Members that a server gives in slices. What a slice says of its upper end decides whether it is
taken over, and whether there is anything to be asked after it. A server may answer what it likes to
the questions for more: since upper ends are numbers of 64 bits and have to grow, it runs out of
them.

## Main result

`memberNames_slices`: every retrieval ends, after slices whose upper ends grow, and gives what is in
them.
-/

namespace NameService

open Engine

variable {σ : Type} [Service σ]

/-! ## Entries that were shown -/

theorem eq_of_told {answer : Except Error (List Entry)} {found : Entry}
    (same : told answer = .ok (some found)) : ∃ rest, answer = .ok (found :: rest) := by
  cases answer with
  | ok entries =>
    cases entries with
    | nil => cases same
    | cons first rest =>
      obtain rfl : first = found := by simpa [told] using same
      exact ⟨rest, rfl⟩
  | error error =>
    simp only [told] at same
    split at same <;> cases same

namespace Entry

variable {name : String} {attributes : List String}

/-- The search by which an entry is read is the last thing that has happened. -/
theorem readOnce_shows {world later : World σ} {found : Entry}
    (ran : (readOnce name attributes : Action σ (Option Entry)).run world =
      some (.ok (some found), later)) :
    ∃ event connection, later.history = event :: world.history ∧
      event.Shows connection name attributes found := by
  obtain ⟨loaded, link, configured, held⟩ := held_of_readOnce ran
  rw [run_readOnce configured held] at ran
  obtain ⟨same, rfl⟩ := Prod.mk.inj (Option.some.inj ran)
  obtain ⟨rest, answered⟩ := eq_of_told same
  refine ⟨_, link.connection, rfl, ?_⟩
  rw [answered]
  exact .intro loaded.config.timeLimit rest _ _

/-- To read comes to an end, and what was read has been shown meanwhile. -/
theorem read_shows (name : String) (attributes : List String) (world : World σ) :
    ∃ result later recent, (read name attributes : Action σ (Option Entry)).run world =
        some (result, later) ∧ later.history = recent ++ world.history ∧
      ∀ found, result = .ok (some found) →
        ∃ event ∈ recent, ∃ connection, event.Shows connection name attributes found := by
  obtain ⟨result, later, ran⟩ := read_halts name attributes world
  have lasting := World.grown_lasting (σ := σ) world.history
  have reads : Lasts (fun later : World σ => world.history <:+ later.history)
      (readOnce name attributes).run :=
    readOnce_lasts (fun _ _ _ grown => grown.trans (List.suffix_cons _ _)) name attributes
  have grown := (Failover.run_lasts lasting reads).ends List.suffix_rfl result later ran
  have succeeds := Failover.run_succeeds_from lasting (fun _ start => reads.ends start)
    List.suffix_rfl result later ran
  by_cases shown : ∃ found, result = .ok (some found)
  · -- It is the last trial that has found it, and nothing happened after that.
    obtain ⟨found, rfl⟩ := shown
    obtain ⟨begun, ended, ⟨recent, past⟩, once, rfl⟩ := succeeds _ rfl
    obtain ⟨event, connection, happened, shows⟩ := readOnce_shows once
    refine ⟨_, _, event :: recent, ran, ?_, ?_⟩
    · -- Time is noted in the session only.
      simp only [happened, ← past, List.cons_append]
    · rintro _ ⟨⟩
      exact ⟨event, List.mem_cons_self, connection, shows⟩
  · obtain ⟨recent, past⟩ := grown
    exact ⟨result, later, recent, ran, past.symm, fun found same => (shown ⟨found, same⟩).elim⟩

end Entry

namespace Membership

/-! ## Upper ends -/

/-- The last number of 64 bits. -/
def lastPlace : Nat := rangeLimit - 1

theorem Slice.end_le {slice : Slice} {high : Nat} (ended : slice.end? = some high) :
    high ≤ lastPlace :=
  Nat.le_sub_one_of_lt (Text.lt_of_numeral? ended)

/-- There is no place after the last number, and there is one after every other number. -/
theorem continuation_eq_error_iff {type : String} {high : Nat} (bounded : high ≤ lastPlace)
    {panic : Panic} : continuation type high = .error panic ↔ high = lastPlace := by
  have last : lastPlace = rangeLimit - 1 := rfl
  have positive : 0 < rangeLimit := by decide
  cases panic
  unfold continuation
  split
  · next room => exact ⟨nofun, fun same => by omega⟩
  · next full => exact ⟨fun _ => by omega, fun _ => rfl⟩

/-- No slice that the entry has of an attribute ends at the last place. -/
def Roomy (type : String) (entry : Entry) : Prop :=
  ∀ slice, entry.range? type = some slice → Slice.end? slice ≠ some lastPlace

/-! ## Progress -/

/-- Slices of which each ends above the one before it. Only the last may have an end that is not a
    number. -/
inductive Advancing : Option Nat → List Slice → Prop
  | nil (last : Option Nat) : Advancing last []
  | unended (last : Option Nat) {slice : Slice} (unended : slice.end? = none) :
    Advancing last [slice]
  | cons {last : Option Nat} {high : Nat} {slice : Slice} {slices : List Slice}
    (ended : slice.end? = some high) (progress : last.all (· < high))
    (rest : Advancing (some high) slices) : Advancing last (slice :: slices)

namespace Advancing

variable {last : Option Nat} {slices : List Slice}

theorem above (advancing : Advancing last slices) :
    ∀ high ∈ slices.filterMap Slice.end?, last.all (· < high) := by
  induction advancing with
  | nil => simp
  | unended _ unended => simp [unended]
  | @cons last high slice slices ended progress rest ih =>
    rw [List.filterMap_cons_some ended, List.forall_mem_cons]
    constructor
    · exact progress
    intro further there
    -- What is above this end is above the one before it.
    have beyond : high < further := by simpa using ih further there
    cases last with
    | none => rfl
    | some last =>
      have progress : last < high := by simpa using progress
      simpa using Nat.lt_trans progress beyond

theorem ascending (advancing : Advancing last slices) :
    (slices.filterMap Slice.end?).Pairwise (· < ·) := by
  induction advancing with
  | nil => exact .nil
  | unended _ unended => simp [unended]
  | cons ended progress rest ih =>
    rw [List.filterMap_cons_some ended, List.pairwise_cons]
    constructor
    · intro further there
      simpa using rest.above further there
    · exact ih

theorem numbered (advancing : Advancing last slices) :
    ∀ slice ∈ slices.dropLast, slice.end?.isSome := by
  induction advancing with
  | nil => simp
  | unended => simp
  | @cons last high slice slices ended progress rest ih =>
    cases slices with
    | nil => simp
    | cons next slices =>
      rw [List.dropLast_cons_cons, List.forall_mem_cons]
      constructor
      · rw [ended]
        rfl
      · exact ih

end Advancing

/-- The slice was shown as an answer to a question for more. -/
def ShownIn (type name : String) (events : List Event) (slice : Slice) : Prop :=
  ∃ high following found connection, continuation type high = .ok following ∧
    found.range? type = some slice ∧
    ∃ event ∈ events, event.Shows connection name [following] found

theorem ShownIn.mono {type name : String} {events more : List Event} {slice : Slice}
    (shown : ShownIn type name events slice) (known : ∀ event ∈ events, event ∈ more) :
    ShownIn type name more slice := by
  obtain ⟨high, following, found, connection, continues, ranged, event, there, shows⟩ := shown
  exact ⟨high, following, found, connection, continues, ranged, event, known event there, shows⟩

/-- From any slice on, a retrieval comes to an end after slices that advance, which are the one that
    it begins with and others that it was shown. -/
theorem retrieve_slices (type name : String) (last : Option Nat) (range : Option Slice)
    (world : World σ) :
    ∃ retrieval later recent, retrieve type name last range world = some (retrieval, later) ∧
      Advancing last retrieval.slices ∧ later.history = recent ++ world.history ∧
      ∀ slice ∈ retrieval.slices, range = some slice ∨ ShownIn type name recent slice := by
  fun_induction retrieve (σ := σ) type name last range generalizing world with
  | case1 last => exact ⟨_, world, [], rfl, .nil last, rfl, by simp⟩
  | case2 last slice unended => exact ⟨_, world, [], rfl, .unended last unended, rfl, by simp⟩
  | case3 last slice high ended progress panic overflows =>
    exact ⟨_, world, [], rfl, .cons ended progress (.nil _), rfl, by simp⟩
  | case4 last slice high ended progress following continues rest =>
    obtain ⟨result, between, recent, read, past, shown⟩ :=
      Entry.read_shows name [following] world
    -- Without another entry this slice is the last.
    have lone : Advancing last [slice] := .cons ended progress (.nil _)
    rw [run_bind, read, Option.bind_some]
    rcases result with error | _ | found
    · exact ⟨_, between, recent, rfl, lone, past, by simp⟩
    · exact ⟨_, between, recent, rfl, lone, past, by simp⟩
    obtain ⟨event, happened, connection, shows⟩ := shown found rfl
    obtain ⟨retrieval, later, further, ran, advancing, past', origins⟩ := rest found between
    refine ⟨retrieval.after slice, later, further ++ recent, ?_, .cons ended progress advancing,
      ?_, ?_⟩
    · dsimp only
      rw [run_bind, ran]
      rfl
    · rw [past', past, List.append_assoc]
    · rw [Retrieval.after, List.forall_mem_cons]
      refine ⟨.inl rfl, fun other there => .inr ?_⟩
      -- The next slice was in the entry that was shown, all others were shown later.
      rcases origins other there with ranged | shown
      · exact ⟨high, following, found, connection, continues, ranged, event,
          List.mem_append_right further happened, shows⟩
      · exact shown.mono fun event known => List.mem_append_left recent known
  | case5 last => exact ⟨_, world, [], rfl, .nil last, rfl, by simp⟩

/-- Whatever a server answers, the retrieval ends. The slices that it takes over have ends that
    grow, and only the last may have one that is not a number. Each of them was given with the entry
    or shown when more was asked for, and all that is returned is in them or was given whole. -/
theorem memberNames_slices (plan : Plan) (entry : Entry) (world : World σ) :
    let type := plan.names.uniqueMember
    ∃ retrieval later recent,
      retrieve type entry.name none (entry.range? type) world = some (retrieval, later) ∧
      (memberNames plan entry).run world = some (retrieval.values (entry.values type), later) ∧
      (∀ names, retrieval.values (entry.values type) = .ok names →
        names = entry.values type ++ retrieval.slices.flatMap Prod.snd) ∧
      (retrieval.slices.filterMap Slice.end?).Pairwise (· < ·) ∧
      (∀ slice ∈ retrieval.slices.dropLast, slice.end?.isSome) ∧
      later.history = recent ++ world.history ∧
      ∀ slice ∈ retrieval.slices,
        entry.range? type = some slice ∨ ShownIn type entry.name recent slice := by
  intro type
  obtain ⟨retrieval, later, recent, ran, advancing, past, origins⟩ :=
    retrieve_slices type entry.name none (entry.range? type) world
  refine ⟨retrieval, later, recent, ran, run_memberNames_of_retrieve ran, ?_, advancing.ascending,
    advancing.numbered, past, origins⟩
  intro names given
  unfold Retrieval.values at given
  split at given
  · cases given
  · exact (Except.ok.inj given).symm

end Membership

end NameService
