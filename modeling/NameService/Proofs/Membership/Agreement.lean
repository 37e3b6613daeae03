import NameService.Proofs.Engine.Agreement
import NameService.Proofs.Lookup.Readings
import NameService.Proofs.Membership.Reachability
import NameService.Proofs.Membership.Slices

/-!
Two walks through groups side by side. Each is made at a host of its own, on a session with its own
past; they may lose servers and forget what they have learned, each in its own places. They come to
the same when there are the same entries to be read.

## Main results

- `walkGroup_agrees`: two walks through the members of a group agree.
- `expand_group_agrees`: so do two questions for the members of a group.
- `expand_group_lenient`: what cannot be read counts as if it were not there.
-/

namespace NameService

open Engine

namespace Readings

/-- What a name stands for, by what is read of it. -/
def stands (readings : Readings) (plan : Membership.Plan) (name : String) : Membership.Resolved :=
  .ofEntry plan (readings.entry? name plan.memberAttributes)

theorem stands_fold {readings : Readings} {plan : Membership.Plan} {name other : String}
    (same : Text.fold name = Text.fold other) :
    readings.stands plan name = readings.stands plan other := by
  rw [stands, stands, entry?_fold same]

theorem entry?_of_stands {readings : Readings} {plan : Membership.Plan} {name : String}
    {group : Entry} (is : readings.stands plan name = .group group) :
    readings.entry? name plan.memberAttributes = some group := by
  unfold stands Membership.Resolved.ofEntry at is
  split at is
  · cases is
  · split at is
    · cases is
      assumption
    · split at is <;> cases is

/-- The answers of a directory with the entries of a catalogue. -/
def ofCatalogue (catalogue : Catalogue) : Readings where
  read name _ := .ok (catalogue.entry? name).toList
  read_fold same := by rw [catalogue.entry?_fold same]

/-- No slice of an attribute ends at the last place, in whatever entry can be read. -/
def Roomy (readings : Readings) (type : String) : Prop :=
  ∀ name attributes entry, readings.entry? name attributes = some entry →
    Membership.Roomy type entry

end Readings

/-- What the session remembers is what it would read. -/
def World.Knows {σ : Type} (config : Config) (readings : Readings) (plan : Membership.Plan)
    (world : World σ) : Prop :=
  world.session.Recalls config (readings.stands plan)

namespace Membership

section Agreeing

variable {σ τ : Type} [Service σ] [Service τ] {config : Config} {readings readings' : Readings}
  {plan : Plan}

theorem knows_lasting (opens : Service.Opens σ config) (readings : Readings) (plan : Plan) :
    World.Lasting fun world : World σ => world.Knows config readings plan :=
  (Session.recalls_lasting opens).world

section Single

variable (reads : Service.Reads σ config readings) {world : World σ}
  (knows : world.Knows config readings plan)
include reads knows

theorem run_read_knows (name : String) (attributes : List String) :
    ∃ outcome later, (Entry.read name attributes).run world = some (outcome, later) ∧
      outcome.toOption = (told (readings.read name attributes)).toOption ∧
        later.Knows config readings plan := by
  obtain ⟨outcome, later, ran, same⟩ := Entry.run_read reads knows.toSuits name attributes
  have lasts := Failover.run_lasts (knows_lasting reads.toOpens readings plan)
    (Entry.readOnce_lasts (fun _ _ _ kept => kept) name attributes)
  exact ⟨outcome, later, ran, same, lasts.ends knows outcome later ran⟩

theorem run_read_entry? (name : String) (attributes : List String) :
    ∃ outcome later, (Entry.read name attributes).run world = some (outcome, later) ∧
      outcome.toOption.join = readings.entry? name attributes ∧
        later.Knows config readings plan := by
  obtain ⟨outcome, later, ran, same, knows⟩ := run_read_knows reads knows name attributes
  exact ⟨outcome, later, ran, by rw [same, join_toOption_told]; rfl, knows⟩

theorem run_resolve_stands (name : String) :
    ∃ outcome later, (resolve plan name).run world = some (outcome, later) ∧
      outcome.toOption.getD .unknown = readings.stands plan name ∧
        later.Knows config readings plan := by
  refine run_resolve Readings.stands_fold knows ?_
  obtain ⟨outcome, later, ran, same, knows⟩ :=
    run_read_entry? reads knows name plan.memberAttributes
  exact ⟨outcome, later, ran, by rw [same]; rfl, knows⟩

end Single

section Both

variable (reads : Service.Reads σ config readings) (reads' : Service.Reads τ config readings')
  (same : ∀ name attributes, readings.entry? name attributes = readings'.entry? name attributes)
include reads reads' same

/-- The rest of a list comes to the same, or ends in the same place. -/
theorem retrieve_agrees (type name : String) (last : Option Nat) (range : Option Slice)
    (roomy : readings.Roomy type → ∀ slice, range = some slice → slice.end? ≠ some lastPlace) :
    Agree (World.Knows config readings plan) (World.Knows config readings' plan)
      (fun retrieval retrieval' => retrieval = retrieval' ∧
        (readings.Roomy type → retrieval.panic = none))
      (retrieve type name last range : Engine σ Retrieval)
      (retrieve type name last range : Engine τ Retrieval) := by
  fun_induction retrieve (σ := σ) type name last range with
  | case1 =>
    rw [retrieve]
    exact .pure ⟨rfl, fun _ => rfl⟩
  | case2 last slice unended =>
    rw [retrieve_unended unended]
    exact .pure ⟨rfl, fun _ => rfl⟩
  | case3 last slice high ended progress panic overflows =>
    rw [retrieve_progress ended progress, overflows]
    have brim := (continuation_eq_error_iff (Slice.end_le ended)).mp overflows
    exact .pure ⟨rfl, fun given => absurd (brim ▸ ended) (roomy given slice rfl)⟩
  | case4 last slice high ended progress following continues rest =>
    rw [retrieve_progress ended progress, continues]
    have reading : Agree (World.Knows config readings plan) (World.Knows config readings' plan)
        (fun outcome outcome' => outcome.toOption.join = readings.entry? name [following] ∧
          outcome.toOption.join = outcome'.toOption.join)
        (Entry.read name [following] : Action σ (Option Entry)).run
        (Entry.read name [following] : Action τ (Option Entry)).run :=
      .of_runs (fun _ knows => run_read_entry? reads knows name _)
        (fun _ knows => run_read_entry? reads' knows name _)
        fun _ _ found found' => ⟨found, found.trans ((same name _).trans found'.symm)⟩
    refine reading.bind ?_
    rintro outcome outcome' ⟨found, alike⟩
    -- An entry that cannot be read has no further values, as one that is not there.
    rcases outcome with error | (_ | entry) <;> rcases outcome' with error' | (_ | entry')
    case ok.some.ok.some =>
      obtain rfl : entry = entry' := Option.some.inj alike
      refine (rest entry fun given => given name _ entry found.symm).bind ?_
      rintro retrieval _ ⟨rfl, spared⟩
      exact .pure ⟨rfl, spared⟩
    all_goals first | exact .pure ⟨rfl, fun _ => rfl⟩ | cases alike
  | case5 last slice high ended stuck =>
    rw [retrieve_stuck ended stuck]
    exact .pure ⟨rfl, fun _ => rfl⟩

theorem memberNames_agrees {entry : Entry}
    (roomy : readings.Roomy plan.names.uniqueMember → Roomy plan.names.uniqueMember entry) :
    Agree (World.Knows config readings plan) (World.Knows config readings' plan)
      (Alike (readings.Roomy plan.names.uniqueMember))
      (memberNames plan entry : Brittle σ (List String)).run
      (memberNames plan entry : Brittle τ (List String)).run := by
  refine (retrieve_agrees reads reads' same _ _ _ _ roomy).bind ?_
  rintro retrieval _ ⟨rfl, spared⟩
  exact .pure ⟨rfl, fun given => ⟨_, by rw [Retrieval.values, spared given]⟩⟩

theorem resolve_agrees (name : String) :
    Agree (World.Knows config readings plan) (World.Knows config readings' plan)
      (fun outcome outcome' => outcome.toOption.getD .unknown = readings.stands plan name ∧
        outcome.toOption.getD .unknown = outcome'.toOption.getD .unknown)
      (resolve plan name : Action σ Resolved).run (resolve plan name : Action τ Resolved).run := by
  have alike : readings.stands plan name = readings'.stands plan name := by
    rw [Readings.stands, Readings.stands, same]
  exact .of_runs (fun _ knows => run_resolve_stands reads knows name)
    (fun _ knows => run_resolve_stands reads' knows name)
    fun _ _ found found' => ⟨found, found.trans (alike.trans found'.symm)⟩

/-- Two walks through the members of a group agree. -/
theorem walkGroup_agrees (levels level : Nat) {entry : Entry} (walk : Walk)
    (roomy : readings.Roomy plan.names.uniqueMember → Roomy plan.names.uniqueMember entry) :
    Agree (World.Knows config readings plan) (World.Knows config readings' plan)
      (Alike (readings.Roomy plan.names.uniqueMember))
      (walkGroup plan levels level entry walk : Brittle σ Walk).run
      (walkGroup plan levels level entry walk : Brittle τ Walk).run := by
  induction levels generalizing level entry walk with
  | zero => exact .pure (.ok walk)
  | succ levels ih =>
    rw [walkGroup_succ, walkGroup_succ]
    split
    · exact .pure (.ok walk)
    have noted : Agree (World.Knows config readings plan) (World.Knows config readings' plan) Eq
        (noteVisit (.scan level entry.name) : Engine σ Unit)
        (noteVisit (.scan level entry.name) : Engine τ Unit) :=
      fun _ _ knows knows' => ⟨(), _, (), _, rfl, rfl, rfl, knows, knows'⟩
    refine noted.lift_bind fun _ _ _ => ?_
    refine (memberNames_agrees reads reads' same roomy).action_bind fun names => ?_
    -- Both go through one list, and at each name of it they have come equally far.
    have steps : ∀ value ∈ names, ∀ walk,
        Agree (World.Knows config readings plan) (World.Knows config readings' plan)
          (Alike (readings.Roomy plan.names.uniqueMember))
          (follow plan (walkGroup plan levels (level + 1)) walk value : Brittle σ Walk).run
          (follow plan (walkGroup plan levels (level + 1)) walk value : Brittle τ Walk).run := by
      intro value _ walk
      refine (resolve_agrees reads reads' same _).lift_bind ?_
      rintro outcome outcome' ⟨is, alike⟩
      rw [← alike]
      cases found : outcome.toOption.getD .unknown with
      | user uid => exact .pure (.ok _)
      | group inner =>
        simp only [visit]
        split
        · refine ih _ walk fun given => ?_
          exact given _ _ inner (Readings.entry?_of_stands (is.symm.trans found))
        · exact .pure (.ok walk)
      | unknown => exact .pure (.ok walk)
    exact (Agree.foldlM names steps (walk.meet entry.name)).action_bind fun walk => .pure (.ok _)

/-- Whether there is an answer is decided by the entry of the first group alone, unless a list of
    members is too long. -/
theorem expandGroup_agrees {name : String} {found : Option Entry}
    (known : told (readings.read name plan.memberAttributes) = .ok found)
    (known' : told (readings'.read name plan.memberAttributes) = .ok found) :
    Agree (World.Knows config readings plan) (World.Knows config readings' plan)
      (fun result result' => result = result' ∧ (found.isSome → ∃ outcome : Except Panic Walk,
        result = outcome.mapError .panic ∧
          (readings.Roomy plan.names.uniqueMember → ∃ walk, outcome = .ok walk)))
      (expandGroup plan name : Venture σ Walk).run
      (expandGroup plan name : Venture τ Walk).run := by
  have seeds {outcome : Except Error (Option Entry)} {answer : Except Error (List Entry)}
      (known : told answer = .ok found) (same : outcome.toOption = (told answer).toOption) :
      outcome = .ok found := by
    cases outcome with
    | error error => simp [known, Except.toOption] at same
    | ok entry => simpa [known, Except.toOption] using same
  -- The first group is there for both, so neither gives up at once.
  have reading : Agree (World.Knows config readings plan) (World.Knows config readings' plan)
      (fun outcome outcome' => outcome = .ok found ∧ outcome' = .ok found)
      (Entry.read name plan.memberAttributes : Action σ (Option Entry)).run
      (Entry.read name plan.memberAttributes : Action τ (Option Entry)).run :=
    .of_runs (fun _ knows => run_read_knows reads knows name _)
      (fun _ knows => run_read_knows reads' knows name _)
      fun _ _ same same' => ⟨seeds known same, seeds known' same'⟩
  have attempted : Agree (World.Knows config readings plan) (World.Knows config readings' plan)
      (fun outcome outcome' => outcome = .ok found ∧ outcome' = .ok found)
      (attempt (Entry.read name plan.memberAttributes) : Venture σ (Option Entry)).run
      (attempt (Entry.read name plan.memberAttributes) : Venture τ (Option Entry)).run := by
    refine reading.map _ _ ?_
    rintro _ _ ⟨rfl, rfl⟩
    exact ⟨rfl, rfl⟩
  refine attempted.bind ?_
  rintro _ _ ⟨rfl, rfl⟩
  cases found with
  | none => exact .pure ⟨rfl, by simp⟩
  | some entry =>
    have seeded : readings.entry? name plan.memberAttributes = some entry := by
      rw [Readings.entry?, ← join_toOption_told, known]
      rfl
    have roomy (given : readings.Roomy plan.names.uniqueMember) :
        Roomy plan.names.uniqueMember entry := given _ _ entry seeded
    refine (walkGroup_agrees reads reads' same (plan.policy.maxDepth + 1) 0 {} roomy).map _ _ ?_
    rintro outcome _ ⟨rfl, answers⟩
    exact ⟨rfl, fun _ => ⟨outcome, rfl, answers⟩⟩

/-- Two questions for the members of a group have one answer. -/
theorem expand_group_agrees {policy : Policy} {name : String} {found : Option Entry}
    (known : told (readings.read name (Plan.ofConfig config policy).memberAttributes) = .ok found)
    (known' : told (readings'.read name (Plan.ofConfig config policy).memberAttributes) =
      .ok found) (patience : Nat) :
    Agree (World.Knows config readings (.ofConfig config policy))
      (World.Knows config readings' (.ofConfig config policy))
      (fun result result' => result = result' ∧ (found.isSome → ∃ outcome : Except Panic Walk,
        result = outcome.mapError .panic ∧
          (readings.Roomy (Plan.ofConfig config policy).names.uniqueMember →
            ∃ walk, outcome = .ok walk)))
      (expand patience (.group name) policy : Venture σ Walk).run
      (expand patience (.group name) policy : Venture τ Walk).run := by
  intro world world' knows knows'
  have lasting := knows_lasting reads.toOpens readings (.ofConfig config policy)
  have lasting' := knows_lasting reads'.toOpens readings' (.ofConfig config policy)
  obtain ⟨begun, -, start, ran⟩ :=
    run_expand reads.toOpens lasting knows.toSuits knows
  obtain ⟨begun', -, start', ran'⟩ :=
    run_expand reads'.toOpens lasting' knows'.toSuits knows'
  rw [ran, ran']
  exact expandGroup_agrees reads reads' same known known' begun begun' start start'

end Both

/-- A member that cannot be read counts as one that is not there. Whatever is done about the
    failures on the way, what comes of the question for the members of a group is what would come of
    it at a directory which has nothing to tell where this one fails. That is an answer, unless the
    members of a group are given in slices of which one ends at the last number of 64 bits. -/
theorem expand_group_lenient (reads : Service.Reads σ config readings)
    (lenient : Service.Reads τ config readings.lenient) (policy : Policy) {name : String}
    {seed : Entry} {others : List Entry}
    (seeded : readings.read name (Plan.ofConfig config policy).memberAttributes =
      .ok (seed :: others)) (patience : Nat) (world : World σ) (world' : World τ)
    (fresh : world.session = {}) (fresh' : world'.session = {}) :
    ∃ (outcome : Except Panic Walk) (later : World σ) (later' : World τ),
      (expand patience (.group name) policy).run world =
        some (outcome.mapError .panic, later) ∧
      (expand patience (.group name) policy).run world' =
        some (outcome.mapError .panic, later') ∧
      (readings.Roomy (Plan.ofConfig config policy).names.uniqueMember →
        ∃ walk, outcome = .ok walk) := by
  have known : told (readings.read name (Plan.ofConfig config policy).memberAttributes) =
      .ok (some seed) := by rw [seeded]; rfl
  have known' : told (readings.lenient.read name (Plan.ofConfig config policy).memberAttributes) =
      .ok (some seed) := by
    simp only [Readings.lenient, seeded]
    rfl
  -- A session that is new knows nothing, and so nothing wrong, of either directory.
  have agree := expand_group_agrees reads lenient
    (fun name attributes => (Readings.entry?_lenient name attributes).symm) known known' patience
  have knows : world.Knows config readings (.ofConfig config policy) := by
    rw [World.Knows, fresh]
    exact Session.recalls_new
  have knows' : world'.Knows config readings.lenient (.ofConfig config policy) := by
    rw [World.Knows, fresh']
    exact Session.recalls_new
  obtain ⟨_, later, _, later', ran, ran', ⟨rfl, answered⟩, -⟩ := agree world world' knows knows'
  obtain ⟨outcome, rfl, succeeds⟩ := answered rfl
  exact ⟨outcome, later, later', ran, ran', succeeds⟩

end Agreeing

/-! ### Directories with a few entries -/

section Few

theorem messages_replyFrom (entries : List Entry) (search : Search) :
    (replyFrom entries search).messages.reduceOption =
      (Catalogue.entry? (.ofEntries entries) search.base).toList := by
  change List.reduceOption [Catalogue.entry? (.ofEntries entries) search.base] = _
  cases Catalogue.entry? (.ofEntries entries) search.base <;> rfl

theorem reads_ofEntries (config : Config) (located : config.uris ≠ []) (entries : List Entry) :
    Service.Reads (Host config (replyFrom entries)) config (.ofCatalogue (.ofEntries entries)) where
  located := located
  loads _ := rfl
  connects _ _ := rfl
  binds _ _ _ _ := rfl
  reads _ _ _ _ := congrArg Except.ok (messages_replyFrom entries _)

end Few

/-! ### A user that cannot be read -/

namespace Circle

def readings : Readings := .ofCatalogue catalogue

theorem messages_reply (search : Search) :
    (reply search).messages.reduceOption = (catalogue.entry? search.base).toList :=
  messages_replyFrom entries search

theorem reads : Service.Reads (Host config reply) config readings :=
  reads_ofEntries config (by decide) entries

end Circle

namespace Gap

def config : Config := { Circle.config with uris := ["ldap://one", "ldap://two"] }

/-- No server can read this entry. -/
def isLost (name : String) : Bool := Text.same name "uid=ann,dc=small"

def failing (_ : Nat) : Call → Option Error
  | .search _ search => if isLost search.base then some (.unavailable "gone") else none
  | _ => none

/-- A directory that does not have the entry. -/
def replyWithout (search : Search) : Reply :=
  if isLost search.base then ⟨[none], ⟨0, "", none⟩⟩ else Circle.reply search

theorem isLost_fold {name other : String} (same : Text.fold name = Text.fold other) :
    isLost name = isLost other := by
  simp only [isLost, Text.same, same]

def readings : Readings where
  read name attributes :=
    if isLost name then .error (.unavailable "gone") else Circle.readings.read name attributes
  read_fold same := by rw [isLost_fold same, Circle.readings.read_fold same]

theorem reads : Service.Reads (Frail (Host config Circle.reply) failing) config readings where
  located := by decide
  loads _ := rfl
  connects _ _ := rfl
  binds _ _ _ _ := rfl
  reads connection name attributes outside := by
    let search := Search.read name attributes config.timeLimit
    by_cases lost : isLost name
    · have fails : failing outside.calls (.search connection search) =
          some (.unavailable "gone") := if_pos lost
      rw [Frail.answer_of_failed fails rfl]
      simp [readings, lost]
    · have spared : failing outside.calls (.search connection search) = none := if_neg lost
      rw [Frail.answer_of_spared spared]
      change Except.ok (Circle.reply search).messages.reduceOption = _
      rw [Circle.messages_reply]
      simp [readings, Circle.readings, Readings.ofCatalogue, lost, search, Search.read]

theorem lenient : Service.Reads (Host config replyWithout) config readings.lenient where
  located := by decide
  loads _ := rfl
  connects _ _ := rfl
  binds _ _ _ _ := rfl
  reads connection name attributes outside := by
    let search := Search.read name attributes config.timeLimit
    change Except.ok (replyWithout search).messages.reduceOption = .ok _
    by_cases lost : isLost name
    · have none : replyWithout search = ⟨[none], ⟨0, "", none⟩⟩ := if_pos lost
      simp [none, readings, lost, Except.toOption]
    · have same : replyWithout search = Circle.reply search := if_neg lost
      rw [same, Circle.messages_reply]
      simp [readings, Circle.readings, Readings.ofCatalogue, lost, Except.toOption, search,
        Search.read]

end Gap

theorem Gap.roomy : Gap.readings.Roomy "uniqueMember" := by
  have all : ∀ entry ∈ Circle.entries, entry.range? "uniqueMember" = none := by decide +kernel
  rintro name attributes entry found slice ranged
  have known : entry ∈ Circle.entries := by
    simp only [Readings.entry?, Gap.readings, Circle.readings, Readings.ofCatalogue] at found
    split at found
    · cases found
    · have found : Circle.catalogue.entry? name = some entry := by
        simpa [Except.toOption] using found
      exact Circle.mem_entries_of_found found
  rw [all entry known] at ranged
  cases ranged

/-- Both servers are lost when the entry of one member is read, and the walk goes on. -/
theorem expand_group_lenient_gap :
    let world : World (Frail (Host Gap.config Circle.reply) Gap.failing) := { outside := ⟨{}, 0⟩ }
    let world' : World (Host Gap.config Gap.replyWithout) := { outside := {} }
    let plan := Plan.ofConfig Gap.config Circle.policy
    Service.Reads (Frail (Host Gap.config Circle.reply) Gap.failing) Gap.config Gap.readings ∧
      Service.Reads (Host Gap.config Gap.replyWithout) Gap.config Gap.readings.lenient ∧
      Gap.readings.read "CN=Staff,dc=small" plan.memberAttributes = .ok [Circle.staff] ∧
      Gap.readings.read "uid=ann,dc=small" plan.memberAttributes = .error (.unavailable "gone") ∧
      world.session = {} ∧ world'.session = {} ∧ Gap.readings.Roomy plan.names.uniqueMember ∧
      ∃ walk later later',
        (expand 9 (.group "CN=Staff,dc=small") Circle.policy).run world =
            some (.ok walk, later) ∧
          (expand 9 (.group "CN=Staff,dc=small") Circle.policy).run world' =
            some (.ok walk, later') := by
  intro world world' plan
  have seeded : Gap.readings.read "CN=Staff,dc=small" plan.memberAttributes =
      .ok [Circle.staff] := by decide +kernel
  obtain ⟨outcome, later, later', ran, ran', answers⟩ :=
    expand_group_lenient Gap.reads Gap.lenient Circle.policy seeded 9 world world' rfl rfl
  obtain ⟨walk, rfl⟩ := answers Gap.roomy
  exact ⟨Gap.reads, Gap.lenient, seeded, by decide +kernel, rfl, rfl, Gap.roomy, walk, later,
    later', ran, ran'⟩

end Membership

end NameService
