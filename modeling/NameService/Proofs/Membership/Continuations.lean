import NameService.Proofs.Membership.Agreement
import NameService.Proofs.Membership.Ranges

/-!
What is asked for after a slice. The end of a slice is a number of 64 bits, and so is the place from
which the retrieval goes on; there is no such place after the last number, so that a slice which
ends there is the end of the retrieval, and of the walk that it is made for.

## Main result

`memberNames_bounds`: every retrieval asks for what begins one above the end of a slice it has taken
over, and for nothing else; it panics exactly if there is nothing above the end of one.
-/

namespace NameService

open Engine

/-- A search for the entry of a name. -/
def Event.Reads (name : String) (attributes : List String) (event : Event) : Prop :=
  ∃ connection limit, event.call = .search connection (.read name attributes limit)

variable {σ : Type} [Service σ]

/-- At however many servers an entry is looked for, nothing else is asked. -/
theorem Entry.read_asks {name : String} {attributes : List String} {world later : World σ}
    {result : Except Error (Option Entry)}
    (ran : (read name attributes : Action σ (Option Entry)).run world = some (result, later)) :
    ∃ asked, later.queries = asked ++ world.queries ∧
      ∀ event ∈ asked, event.Reads name attributes := by
  have lasting := World.lasting_of_queries (σ := σ) fun queries =>
    ∃ asked, queries = asked ++ world.queries ∧ ∀ event ∈ asked, event.Reads name attributes
  refine (Failover.run_lasts lasting (readOnce_lasts_of_read name attributes ?_)).ends
    ⟨[], rfl, by simp⟩ result later ran
  rintro begun connection limit ⟨asked, past, reads⟩
  let call := Call.search connection (.read name attributes limit)
  refine ⟨⟨call, begun.answer call, begun.stand, begun.look⟩ :: asked, ?_, ?_⟩
  · rw [World.queries_after rfl, past]
    rfl
  · rw [List.forall_mem_cons]
    exact ⟨⟨connection, limit, rfl⟩, reads⟩

namespace Membership

/-- The places from which more is asked for after slices with these ends. -/
def following (ends : List Nat) : List Nat := (ends.filter (· ≠ lastPlace)).map (· + 1)

theorem following_cons {high : Nat} (below : high ≠ lastPlace) (ends : List Nat) :
    following (high :: ends) = (high + 1) :: following ends := by
  rw [following, List.filter_cons_of_pos (by simpa using below)]
  rfl

/-- Places grow as ends do. -/
theorem pairwise_following {ends : List Nat} (ascending : ends.Pairwise (· < ·)) :
    (following ends).Pairwise (· < ·) :=
  (ascending.filter _).map _ fun _ _ => Nat.succ_lt_succ

/-- There is one for each end exactly if the last number is not among these. -/
theorem following_eq_map_iff {ends : List Nat} :
    following ends = ends.map (· + 1) ↔ lastPlace ∉ ends := by
  constructor
  · intro all there
    have fewer := congrArg List.length all
    rw [following, List.length_map, List.length_map, List.length_filter_eq_length_iff] at fewer
    simpa using fewer lastPlace there
  · intro absent
    have kept : ends.filter (· ≠ lastPlace) = ends := by
      rw [List.filter_eq_self]
      intro high there
      have other : high ≠ lastPlace := fun same => absent (same ▸ there)
      simpa using other
    rw [following, kept]

/-- From each of these places on the rest of a list was asked for, at as many servers as it took,
    and nothing else was asked. The latest question stands first. -/
inductive Asked (name type : String) : List Nat → List Event → Prop
  | nil : Asked name type [] []
  | cons {low : Nat} {lows : List Nat} {events later : List Event}
    (reads : ∀ event ∈ events, event.Reads name [label type low "*"])
    (rest : Asked name type lows later) : Asked name type (low :: lows) (later ++ events)

/-- What is asked for after a slice begins one above its end. -/
theorem following_of_continues {type following : String} {high : Nat}
    (continues : continuation type high = .ok following) :
    high ≠ lastPlace ∧ following = label type (high + 1) "*" := by
  rw [continuation_eq] at continues
  split at continues
  · next room =>
    have last : lastPlace = rangeLimit - 1 := rfl
    exact ⟨by omega, (Except.ok.inj continues).symm⟩
  · cases continues

/-- From any slice on, each slice with an end is followed by one question, unless it has the last
    end that there can be. -/
theorem retrieve_asked {type name : String} {last : Option Nat} {range : Option Slice}
    {retrieval : Retrieval} {world later : World σ}
    (ran : retrieve type name last range world = some (retrieval, later)) :
    ∃ asked, later.queries = asked ++ world.queries ∧
      Asked name type (following (retrieval.slices.filterMap Slice.end?)) asked ∧
      retrieval.panic =
        if lastPlace ∈ retrieval.slices.filterMap Slice.end? then some .overflow else none := by
  fun_induction retrieve (σ := σ) type name last range generalizing retrieval world later with
  | case1 =>
    cases ran
    exact ⟨[], rfl, .nil, rfl⟩
  | case2 last slice unended =>
    cases ran
    refine ⟨[], rfl, ?_, ?_⟩
    · simpa [unended, following] using .nil
    · simp [unended]
  | case3 last slice high ended progress panic overflows =>
    cases ran
    obtain rfl := (continuation_eq_error_iff (Slice.end_le ended)).mp overflows
    refine ⟨[], rfl, ?_, ?_⟩
    · simpa [ended, following] using .nil
    · cases panic
      simp [ended]
  | case4 last slice high ended progress asks continues rest =>
    obtain ⟨below, rfl⟩ := following_of_continues continues
    rw [run_bind] at ran
    obtain ⟨⟨result, between⟩, read, ran⟩ := Option.bind_eq_some_iff.mp ran
    obtain ⟨asked, past, reads⟩ := Entry.read_asks read
    -- The question after this slice comes first, and all others after it.
    have followed (others : List Slice) {further : List Event}
        (asks : Asked name type (following (others.filterMap Slice.end?)) further) :
        Asked name type (following ((slice :: others).filterMap Slice.end?))
          (further ++ asked) := by
      rw [List.filterMap_cons_some ended, following_cons below]
      exact .cons reads asks
    rcases result with error | _ | found
    case ok.some =>
      dsimp only at ran
      rw [run_bind] at ran
      obtain ⟨⟨others, last⟩, ran', same⟩ := Option.bind_eq_some_iff.mp ran
      cases same
      obtain ⟨further, past', asks, panics⟩ := rest found ran'
      refine ⟨further ++ asked, ?_, followed others.slices asks, ?_⟩
      · rw [past', past, List.append_assoc]
      · have same : lastPlace ∈ high :: others.slices.filterMap Slice.end? ↔
            lastPlace ∈ others.slices.filterMap Slice.end? := by simp [Ne.symm below]
        simp only [Retrieval.after, panics, List.filterMap_cons_some ended, same]
    -- Without another entry this slice is the last.
    all_goals
      cases ran
      refine ⟨asked, past, followed [] .nil, ?_⟩
      simp [ended, Ne.symm below]
  | case5 =>
    cases ran
    exact ⟨[], rfl, .nil, rfl⟩

/-- Whatever a server answers, each slice with an end that is taken over is followed by a question
    for the rest of the list, and nothing else is asked. The rest begins one above the end, and so
    the places from which more is asked for grow. There is one for every end exactly if no slice
    ends at the last number of 64 bits; otherwise there are no members, but a panic. -/
theorem memberNames_bounds (plan : Plan) (entry : Entry) (world : World σ) :
    let type := plan.names.uniqueMember
    ∃ retrieval later asked,
      retrieve type entry.name none (entry.range? type) world = some (retrieval, later) ∧
      later.queries = asked ++ world.queries ∧
      let ends := retrieval.slices.filterMap Slice.end?
      Asked entry.name type (following ends) asked ∧ (following ends).Pairwise (· < ·) ∧
      (following ends = ends.map (· + 1) ↔ lastPlace ∉ ends) ∧
      (memberNames plan entry).run world =
        some (if lastPlace ∈ ends then .error .overflow
          else .ok (entry.values type ++ retrieval.slices.flatMap Prod.snd), later) := by
  intro type
  obtain ⟨retrieval, later, -, ran, advancing, -⟩ :=
    retrieve_slices type entry.name none (entry.range? type) world
  obtain ⟨asked, past, asks, panics⟩ := retrieve_asked ran
  refine ⟨retrieval, later, asked, ran, past, asks, pairwise_following advancing.ascending,
    following_eq_map_iff, ?_⟩
  rw [run_memberNames_of_retrieve ran, Retrieval.values, panics]
  by_cases there : lastPlace ∈ retrieval.slices.filterMap Slice.end?
  · rw [if_pos there, if_pos there]
  · rw [if_neg there, if_neg there]

/-! ## A slice that ends at the last number -/

namespace Brim

def slice : Slice := ("18446744073709551615", ["uid=ann,dc=small"])

def group : Entry := ⟨"cn=big,dc=small",
  [("objectClass", ["posixGroup"]),
    ("uniqueMember;range=0-18446744073709551615", ["uid=ann,dc=small"])]⟩

def entries : List Entry := [group, Circle.ann]

def reply : Search → Reply := replyFrom entries

def readings : Readings := .ofCatalogue (.ofEntries entries)

abbrev plan : Plan := .ofConfig Circle.config {}

theorem ranged : group.range? "uniqueMember" = some slice := by decide +kernel

theorem ended : slice.end? = some lastPlace := by decide +kernel

theorem run_memberNames {σ : Type} [Service σ] (world : World σ) :
    (memberNames plan group).run world = some (.error .overflow, world) := by
  have type : plan.names.uniqueMember = "uniqueMember" := by decide +kernel
  have overflows : continuation "uniqueMember" lastPlace = .error .overflow :=
    (continuation_eq_error_iff (Nat.le_refl _)).mpr rfl
  have retrieved : retrieve plan.names.uniqueMember group.name none
      (group.range? plan.names.uniqueMember) world =
        some ({ slices := [slice], panic := some .overflow }, world) := by
    rw [type, ranged, retrieve_progress ended rfl, overflows]
    rfl
  exact run_memberNames_of_retrieve retrieved

end Brim

/-- The slice is taken over, and there is no place from which more could be asked for. -/
theorem memberNames_overflows :
    let world : World (Host Circle.config Brim.reply) := { outside := {} }
    Brim.group.range? "uniqueMember" = some Brim.slice ∧ Brim.slice.end? = some lastPlace ∧
      (memberNames Brim.plan Brim.group).run world = some (.error .overflow, world) := by
  intro world
  exact ⟨Brim.ranged, Brim.ended, Brim.run_memberNames world⟩

/-- Every entry can be read, and still there is no answer to the question for the members. -/
theorem expand_group_overflows :
    let world : World (Host Circle.config Brim.reply) := { outside := {} }
    Service.Reads (Host Circle.config Brim.reply) Circle.config Brim.readings ∧
      Service.Reads (Host Circle.config Brim.reply) Circle.config Brim.readings.lenient ∧
      Brim.readings.read "cn=big,dc=small" Brim.plan.memberAttributes = .ok [Brim.group] ∧
      world.session = {} ∧
      ((expand 9 (.group "cn=big,dc=small") {}).run world).map Prod.fst =
        some (.error (.panic .overflow)) := by
  intro world
  have reads : Service.Reads (Host Circle.config Brim.reply) Circle.config Brim.readings :=
    reads_ofEntries Circle.config (by decide) Brim.entries
  exact ⟨reads, ⟨reads.toOpens, reads.reads⟩, by decide +kernel, rfl, by decide +kernel⟩

end Membership

end NameService
