import NameService.Proofs.Filter.Filling
import NameService.Proofs.Membership.Chasing
import NameService.Proofs.Membership.Closure
import NameService.Proofs.Membership.Recollection

/-!
The groups of a user in a directory with fixed contents. The program counts there what the walk of
`gather` does, so that what it counts is a matter of the directory alone.

## Main results

- `run_expand_user`: the program counts what the walk does.
- `expand_user_closure`: where groups list their members, that is the closure of the groups that
  come first.
-/

namespace NameService

open Engine

namespace World

variable {σ : Type} [Service σ]

/-- Since then nothing of the directory has been asked for. -/
def Unasked (past : List Event) (world : World σ) : Prop :=
  ∃ new, world.history = new ++ past ∧ ∀ event ∈ new, event.call.isQuery = false

theorem unasked_lasting (past : List Event) :
    Lasting fun world : World σ => Unasked past world := by
  have after (world : World σ) (call : Call) (quiet : call.isQuery = false)
      (unasked : Unasked past world) : Unasked past (world.after call) := by
    obtain ⟨new, same, none⟩ := unasked
    refine ⟨_ :: new, by rw [World.after, same]; rfl, ?_⟩
    rw [List.forall_mem_cons]
    exact ⟨quiet, none⟩
  exact {
    after := after
    made := fun _ _ unasked => unasked
    hold := fun _ _ unasked => unasked
    look := fun _ _ unasked => unasked
    dropLink := fun _ unasked => unasked
    clearFork := fun _ unasked => unasked
    touch := fun _ _ unasked => unasked
    advance := fun _ unasked => unasked
    adopt := fun world _ _ _ unasked => after world .load rfl unasked }

end World

namespace Membership

open World

/-- Asks for the groups to which a name leads, and others with it where that can be done at once. -/
def Plan.asking (plan : Plan) (name : String) (others : List String) : Lookup :=
  match plan.policy.direction with
  | .forward => plan.groupsOf name
  | .backlink => plan.namedGroups (name :: others)

/-- The groups that are found by some names. When the question fails, none is. -/
def Plan.found (plan : Plan) (find : Search → Except Error (List Entry)) : List String → List Entry
  | [] => []
  | name :: others => ((plan.asking name others).answer find plan.config).toOption.getD []

/-- The question about the groups of a user, as the directory has it. -/
def Plan.asks (plan : Plan) (find : Search → Except Error (List Entry)) (user : String) :
    Except Error Lookup :=
  match plan.policy.direction with
  | .backlink => .ok (plan.groupsOrUser user)
  | .forward =>
    if plan.config.flags.nestedGroups then
      ((plan.findUser user).answer find plan.config).map fun entries =>
        plan.groupsOfUser user (entries.head?.map (·.name))
    else .ok (plan.groupsOfUser user none)

theorem Plan.keys_of_flat {plan : Plan} (flat : plan.chases = false) (entry : Entry) :
    plan.keys entry = [] := by
  simp [keys, flat]

/-- The question about the groups above a group asks for its new names. -/
theorem chase_eq {plan : Plan} (chases : plan.chases) (entry : Entry) (walk : Walk) :
    chase plan entry walk =
      match walk.meetAll (plan.keys entry) with
      | ([], met) => (none, met)
      | (name :: others, met) => (some (plan.asking name others), met) := by
  cases direction : plan.policy.direction with
  | forward =>
    simp only [chase, Plan.keys, Plan.asking, direction, chases, if_true]
    by_cases known : walk.seen.contains entry.name <;> simp [Walk.meetAll, known]
  | backlink =>
    simp only [chase, Plan.keys, Plan.asking, direction, chases, if_true]
    rcases walk.meetAll (entry.values plan.names.memberOf) with ⟨_ | ⟨name, names⟩, met⟩ <;> rfl

theorem spread_reached (plan : Plan) (primary : Option Nat) (found : List String → List Entry)
    (levels : Nat) (entry : Entry) {walk : Walk} (reached : walk.limitReached) :
    spread plan primary found levels entry walk = walk := by
  rw [spread, if_pos reached]

section Directory

variable {σ : Type} [Service σ] {config : Config} {find : Search → Except Error (List Entry)}
  {plan : Plan} {primary : Option Nat}

variable (primary) in
/-- When all questions are answered from the directory, a walk comes to what the directory says. -/
theorem run_collect {holds : World σ → Prop}
    (asks : ∀ (lookup : Lookup) (world : World σ), holds world → ∃ later,
      (lookup.entries : Action σ (List Entry)).run world =
        some (lookup.answer find plan.config, later) ∧ holds later)
    (visits : ∀ (visit : Visit) (world : World σ), holds world →
      holds { world with visits := visit :: world.visits }) :
    ∀ (levels level : Nat) (entry : Entry) (walk : Walk) (world : World σ), holds world →
      ∃ later, collect plan primary levels level entry walk world =
        some (spread plan primary (plan.found find) levels entry walk, later) ∧ holds later
  | levels, level, entry, walk, world, start => by
    cases goesOn : walk.limitReached with
    | true =>
      rw [spread_reached _ _ _ _ _ goesOn]
      exact ⟨world, collect_reached levels level entry goesOn world, start⟩
    | false =>
      rw [collect_eq_climb levels level entry goesOn, spread_eq _ _ _ _ _ goesOn]
      cases levels with
      | zero => exact ⟨world, rfl, start⟩
      | succ levels =>
        cases chases : plan.chases with
        | false =>
          refine ⟨world, ?_, start⟩
          simp [climb, chases, plan.keys_of_flat chases, Walk.meetAll]
        | true =>
          simp only [climb, chases, chase_eq chases]
          rcases (own plan primary entry walk).meetAll (plan.keys entry) with
            ⟨_ | ⟨name, others⟩, met⟩
          · exact ⟨world, rfl, start⟩
          · let lookup := plan.asking name others
            obtain ⟨later, told, kept⟩ := asks lookup _
              (visits (.chase (level + 1) (asked lookup)) world start)
            cases answered : lookup.answer find plan.config with
            | error error =>
              -- What is above the group is left out, which is as if nothing were.
              rw [answered] at told
              exact ⟨later, by simp [lookup, told, Plan.found, answered, Except.toOption], kept⟩
            | ok entries =>
              rw [answered] at told
              obtain ⟨last, ran, kept⟩ := run_foldlM entries
                (fun entry _ walk world => run_collect asks visits levels _ entry walk world) met
                later kept
              refine ⟨last, ?_, kept⟩
              simpa [lookup, told, Plan.found, answered, Except.toOption] using ran

/-- A walk that is full stays as it is. -/
theorem foldl_reached (found : List String → List Entry) {walk : Walk}
    (reached : walk.limitReached) : ∀ entries : List Entry, entries.foldl
      (fun walk entry => spread plan primary found plan.policy.maxDepth entry walk) walk = walk
  | [] => rfl
  | entry :: entries => by
    rw [List.foldl_cons, spread_reached plan primary found _ entry reached]
    exact foldl_reached found reached entries

section Supplied

variable {reply : Search → Reply} {script : Script σ reply} {lookup : Lookup} {loaded : Loaded}
  {count : Nat} (supplies : Service.Supplies σ plan.config find)
  (same : loaded.config = plan.config)

section Riding

variable (apart : script.Apart)
include supplies same apart

/-- Between two entries of an enumeration any question is answered, and the enumeration goes on. -/
theorem run_entries_riding {e : Enumeration} {entries : List Entry} {steps : Nat} (asked : Lookup)
    (world : World σ)
    (riding : Enumeration.Riding script lookup loaded count e entries steps world) :
    ∃ later, (asked.entries : Action σ (List Entry)).run world =
      some (asked.answer find plan.config, later) ∧
        Enumeration.Riding script lookup loaded count e entries steps later := by
  obtain ⟨_, _, _, _, _, _, _, receiving, -⟩ := riding.receiving
  obtain ⟨later, ran⟩ := asked.run_entries_held supplies
    ⟨riding.calm, ⟨loaded, receiving.configured, same⟩, ⟨_, receiving.held⟩⟩
  have spares : Service.Spares σ loaded := supplies.toPlacid.spares same
  refine ⟨later, ran, ?_⟩
  have unlost := (asked.entries_unlost supplies count).ends riding.unlost _ later ran
  have carried := (asked.entries_carries
    (Enumeration.Riding.carried spares apart entries steps)).ends (.inl riding) _ later ran
  -- Only with the loss of a server does an enumeration lose its answer.
  refine carried.resolve_right fun stranded => ?_
  exact absurd unlost (Nat.ne_of_gt stranded.lost)

variable (primary) in
/-- All entries of an enumeration are counted, with what is above them. -/
theorem run_collectAll (patience rounds : Nat) {world : World σ} {e : Enumeration}
    {items : List (Item Entry)} {steps : Nat} {walk : Walk} (calm : world.Calm)
    (unlost : world.losses = count) (first : e.entry.isSome → e.position = .start)
    (stage : Enumeration.Stage script lookup loaded Enumeration.whole world e items steps)
    (goesOn : walk.limitReached = false) (patient : steps ≤ patience)
    (enough : items.length < rounds) :
    ∃ e' later, collectAll plan primary patience rounds e walk world =
      some ((.ok ((items.map Item.record).foldl (fun walk entry =>
        spread plan primary (plan.found find) plan.policy.maxDepth entry walk) walk), e'),
          later) := by
  induction rounds generalizing world e items steps walk with
  | zero => exact absurd enough (Nat.not_lt_zero _)
  | succ rounds ih =>
    have spares : Service.Spares σ loaded := supplies.toPlacid.spares same
    obtain ⟨found, e', later, ran, reached⟩ :=
      Enumeration.nextEntry_advances spares patience calm unlost first stage patient
    cases found with
    | none =>
      obtain ⟨rfl, -⟩ := reached
      exact ⟨e', later, by simp [collectAll, ran]⟩
    | some entry =>
      obtain ⟨entries, fewer, split, less, riding⟩ := reached
      obtain ⟨ended, collected, riding'⟩ := run_collect primary
        (fun asked world riding => run_entries_riding supplies same apart asked world riding)
        Enumeration.Riding.visit plan.policy.maxDepth 0 entry walk later riding
      rw [split, List.foldl_cons]
      generalize spread plan primary (plan.found find) plan.policy.maxDepth entry walk = counted
        at collected
      by_cases filled : counted.limitReached
      · rw [foldl_reached _ filled]
        exact ⟨e', ended, by simp [collectAll, ran, collected, filled]⟩
      · -- There is one item less to come, and fewer steps lead to it.
        obtain ⟨items', rfl, stage'⟩ := riding'.stage
        have size : items.length = items'.length + 1 := by
          rw [← List.length_map, split, List.length_cons, List.length_map]
        obtain ⟨e'', last, ran'⟩ := ih riding'.calm riding'.unlost (by simp [riding'.free]) stage'
          (Bool.eq_false_iff.mpr filled) (by omega) (by omega)
        exact ⟨e'', last, by simp [collectAll, ran, collected, filled, ran']⟩

end Riding

section Starting

include supplies

theorem run_question (user : String) {world : World σ} (suits : world.session.Suits plan.config) :
    ∃ later, (question plan user : Action σ Lookup).run world =
      some (plan.asks find user, later) ∧ later.session.Suits plan.config := by
  cases direction : plan.policy.direction with
  | backlink => exact ⟨world, by simp [question, Plan.asks, direction], suits⟩
  | forward =>
    by_cases nested : plan.config.flags.nestedGroups
    · obtain ⟨later, ran⟩ := (plan.findUser user).run_entries supplies suits
      have lasting := (Session.suits_lasting supplies.toOpens).world
      have kept := (Failover.run_lasts lasting
        ((plan.findUser user).searchOnce_lasts fun _ _ _ kept => kept)).ends suits _ later ran
      refine ⟨later, ?_, kept⟩
      cases answered : (plan.findUser user).answer find plan.config with
      | error error =>
        rw [answered] at ran
        simp [question, Plan.asks, direction, nested, answered, ran, Except.map]
      | ok entries =>
        rw [answered] at ran
        simp [question, Plan.asks, direction, nested, answered, ran, Except.map]
    · exact ⟨world, by simp [question, Plan.asks, direction, nested], suits⟩

/-- An enumeration can be started from any session, and no hazard comes meanwhile. -/
theorem run_start {search : Search}
    (searches : lookup.search? plan.config 0 = .ok (some search)) {world : World σ}
    (suits : world.session.Suits plan.config) :
    ∃ e later, Enumeration.start {} lookup world = some ((.ok (), e), later) ∧
      later.Served plan.config := by
  have lasting := (Session.suits_lasting supplies.toOpens).world
  obtain ⟨e, between, abandoned, kept⟩ := Enumeration.abandon_lasts lasting.toTended {} world
  obtain ⟨id, later, started, served⟩ := lookup.run_start supplies searches (kept suits)
  exact ⟨_, later, by simp [Enumeration.start, abandoned, started]; rfl, served⟩

end Starting

section Expanding

variable (apart : script.Apart) {user : String} {parts : List (List (List (Option Entry)))}
  (expanded : plan.config.ignoresUser user = false) (asks : plan.asks find user = .ok lookup)
  {search : Search} (searches : lookup.search? plan.config 0 = .ok (some search))
  (answers : lookup.Answers plan.config reply parts)
include supplies apart expanded asks searches answers

variable (plan primary) in
/-- The groups of a user are what the directory has: those that the enumeration brings, and what is
    above them. -/
theorem run_expandUser {world : World σ} (suits : world.session.Suits plan.config) :
    ∃ enough, ∀ patience, enough ≤ patience → ∃ later,
      (expandUser plan patience user primary).run world = some (.ok (gather plan primary
        (plan.found find) parts.flatten.flatten.reduceOption), later) := by
  obtain ⟨asked, questioned, suits⟩ := run_question supplies user suits
  obtain ⟨e, begun, started, served⟩ := run_start supplies searches suits
  obtain ⟨loaded, configured, same⟩ := served.configured
  obtain ⟨steps, stage⟩ :=
    Enumeration.start_stage script Enumeration.whole started configured (same ▸ answers)
  obtain ⟨id, -, made⟩ := Enumeration.start_succeeds started
  have first : e.entry.isSome → e.position = .start := by simp [made]
  refine ⟨max steps ((itemsOn Enumeration.whole parts.flatten).length + 1),
    fun patience enough => ?_⟩
  obtain ⟨e', ended, ran⟩ := run_collectAll primary supplies same apart patience
    patience served.calm rfl first stage (rfl : ({} : Walk).limitReached = false) (by omega)
    (by omega)
  rw [Enumeration.map_record_entries] at ran
  obtain ⟨stopped, later, stops⟩ := e'.stop_halts ended
  rw [asks] at questioned
  refine ⟨later, ?_⟩
  simp [expandUser, expanded, questioned, collectAnswer, started, ran, stops, gather]

end Expanding

end Supplied

/-! ### Groups that list their members -/

/-- The groups that list an entry of this name, as the directory has it. -/
def Plan.listing (plan : Plan) (find : Search → Except Error (List Entry)) (name : String) :
    Set Entry :=
  { entry | ∃ entries, (plan.groupsOf name).answer find plan.config = .ok entries ∧
    entry ∈ entries }

section Listing

variable (forward : plan.policy.direction = .forward)
include forward

theorem keys_of_forward (chases : plan.chases) (group : Entry) :
    plan.keys group = [group.name] := by
  simp [Plan.keys, chases, forward]

theorem mem_found_forward {name : String} {entry : Entry} :
    entry ∈ plan.found find [name] ↔ entry ∈ plan.listing find name := by
  simp only [Plan.found, Plan.asking, forward, Plan.listing, Set.mem_ofPred_eq]
  cases (plan.groupsOf name).answer find plan.config <;> simp [Except.toOption]

variable (find) in
/-- What is asked for at once is no more than one name, and the answer has what lists it. -/
theorem finds_forward (group : Entry) (names : List String)
    (asked : names.Sublist (plan.keys group)) (entry : Entry) :
    entry ∈ plan.found find names ↔ ∃ name ∈ names, entry ∈ plan.listing find name := by
  -- A group has no key but its own name, so no two names are asked for at once.
  have single : names = [] ∨ names = [group.name] := by
    cases chases : plan.chases with
    | false => exact .inl (List.sublist_nil.mp (plan.keys_of_flat chases group ▸ asked))
    | true => exact List.sublist_singleton.mp (keys_of_forward forward chases group ▸ asked)
  rcases single with rfl | rfl
  · simp [Plan.found]
  · simp [mem_found_forward forward]

theorem upward_forward (chases : plan.chases) : upward plan.keys (plan.listing find) =
    fun group => plan.listing find group.name := by
  funext group
  simp [upward, keys_of_forward forward chases]

end Listing

/-- Where nothing is chased, no entry is above another. -/
theorem reached_flat (flat : plan.chases = false) (leads : String → Set Entry) (first : Set Entry) :
    { entry | Reached (upward plan.keys leads) first entry } = first := by
  refine Set.Subset.antisymm ?_ fun entry there => .start there
  rintro entry (there | ⟨-, key, asked, -⟩)
  · exact there
  · rw [plan.keys_of_flat flat] at asked
    cases asked

/-- Going up takes no more names than there are entries above the first, case apart. -/
theorem ascent_forward_le (forward : plan.policy.direction = .forward) (chases : plan.chases)
    {first : Set Entry} {names : List String} {entry : Entry}
    (way : Ascent plan.keys (plan.listing find) first names entry) :
    names.length ≤ Set.encard ((fun entry => Text.fold entry.name) ''
      { entry | Reached (fun group => plan.listing find group.name) first entry }) := by
  refine way.length_le.trans (Set.encard_le_encard ?_)
  rintro _ ⟨group, reached, key, asked, rfl⟩
  rw [upward_forward forward chases] at reached
  rw [keys_of_forward forward chases, List.mem_singleton] at asked
  exact ⟨group, reached, by rw [asked]⟩

section Upward

variable {first : List Entry} (forward : plan.policy.direction = .forward)
include forward

/-- What is counted is in the closure of the groups that come first. -/
theorem gather_within_listed : Within plan primary
    { entry | Reached (fun group => plan.listing find group.name) { entry | entry ∈ first } entry }
    (gather plan primary (plan.found find) first) := by
  have sound : Within plan primary { entry | Reached (upward plan.keys (plan.listing find))
      { entry | entry ∈ first } entry } (gather plan primary (plan.found find) first) :=
    gather_sound fun group _ names asked entry =>
      (finds_forward find forward group names asked entry).mp
  cases chases : plan.chases with
  | true => rwa [upward_forward forward chases] at sound
  | false =>
    rw [reached_flat chases] at sound
    intro member there
    obtain ⟨gid, ⟨entry, first, usable⟩, counted⟩ := sound member there
    exact ⟨gid, ⟨entry, .start first, usable⟩, counted⟩

variable (unlimited : plan.policy.limit = none)
  (alike : ∀ name other, Text.fold name = Text.fold other →
    plan.listing find name = plan.listing find other)
include unlimited alike

/-- A walk that may go as far up as there are names misses nothing of the closure. -/
theorem mem_gather_listed (chases : plan.chases)
    (enough : Set.encard ((fun entry => Text.fold entry.name) '' { entry | Reached
      (fun group => plan.listing find group.name) { entry | entry ∈ first } entry }) ≤
        plan.policy.maxDepth) (gid : Nat) :
    Member.gid gid ∈ (gather plan primary (plan.found find) first).members ↔
      gid ∈ plan.gids primary { entry |
        Reached (fun group => plan.listing find group.name) { entry | entry ∈ first } entry } := by
  rw [← upward_forward forward chases]
  refine mem_gather_iff unlimited alike (fun group _ => finds_forward find forward group)
    (fun names entry way => ?_) gid
  exact_mod_cast (ascent_forward_le forward chases way).trans enough

/-- Where nothing is chased, what comes first is all. -/
theorem mem_gather_flat (flat : plan.chases = false) (gid : Nat) :
    Member.gid gid ∈ (gather plan primary (plan.found find) first).members ↔
      gid ∈ plan.gids primary { entry | entry ∈ first } := by
  rw [← reached_flat flat (plan.listing find) { entry | entry ∈ first }]
  refine mem_gather_iff unlimited alike (fun group _ => finds_forward find forward group)
    (fun names entry way => ?_) gid
  cases way with
  | start => exact Nat.zero_le _
  | step _ asked =>
    rw [plan.keys_of_flat flat] at asked
    cases asked

end Upward

section Users

variable {reply : Search → Reply} {script : Script σ reply} {policy : Policy} {user : String}
  (supplies : Service.Supplies σ config find) {world : World σ}
  (suits : world.session.Suits config)
include supplies suits

/-- Nothing is asked for a user who is to be ignored. -/
theorem run_expand_ignored (ignored : config.ignoresUser user) (patience : Nat) :
    ∃ later, (expand patience (.user user primary) policy).run world =
        some (.error (.error (.notFound ("group membership of " ++ user ++ " is not expanded"))),
          later) ∧
      World.Unasked world.history later := by
  obtain ⟨begun, -, unasked, ran⟩ := run_expand supplies.toOpens
    (World.unasked_lasting world.history) suits ⟨[], rfl, by simp⟩
  have ignored' : (Plan.ofConfig config policy).config.ignoresUser user := ignored
  exact ⟨begun, by simp [ran, Plan.pursue, expandUser, ignored'], unasked⟩

variable (primary) in
theorem run_expand_user (apart : script.Apart) {parts : List (List (List (Option Entry)))}
    (expanded : config.ignoresUser user = false)
    (asks : (Plan.ofConfig config policy).asks find user = .ok lookup) {search : Search}
    (searches : lookup.search? config 0 = .ok (some search))
    (answers : lookup.Answers config reply parts) :
    ∃ enough, ∀ patience, enough ≤ patience → ∃ later,
      (expand patience (.user user primary) policy).run world = some (.ok (gather
        (.ofConfig config policy) primary ((Plan.ofConfig config policy).found find)
          parts.flatten.flatten.reduceOption), later) := by
  obtain ⟨begun, suits, -, same⟩ :=
    run_expand supplies.toOpens World.lasting_true suits trivial
  obtain ⟨enough, ran⟩ := run_expandUser (.ofConfig config policy) primary supplies apart
    expanded asks searches answers suits
  refine ⟨enough, fun patience patient => ?_⟩
  obtain ⟨later, ran⟩ := ran patience patient
  refine ⟨later, (same patience (.user user primary) policy).trans ?_⟩
  exact (run_attempt_eq_ok_iff _).mpr ran

end Users

section Closure

variable {reply : Search → Reply} {script : Script σ reply} {policy : Policy}

/-- The groups of a user, where groups list their members and the directory has one answer to every
    question. They are the groups of the closure of the answer to the question about the user, when
    the walk may go as far up as the closure has names; otherwise they are some of them. -/
theorem expand_user_closure (supplies : Service.Supplies σ config find) (apart : script.Apart)
    (forward : policy.direction = .forward) (unlimited : policy.limit = none)
    (alike : ∀ name other, Text.fold name = Text.fold other →
      (Plan.ofConfig config policy).listing find name =
        (Plan.ofConfig config policy).listing find other)
    (user : String) (primary : Option Nat) (world : World σ)
    (suits : world.session.Suits config) :
    let plan := Plan.ofConfig config policy
    let run patience := (expand patience (.user user primary) policy).run world
    (config.ignoresUser user → ∀ patience, ∃ error later,
      run patience = some (.error (.error error), later) ∧ error.status = .notFound ∧
        World.Unasked world.history later) ∧
    (config.ignoresUser user = false → ∀ lookup search parts, plan.asks find user = .ok lookup →
      lookup.search? config 0 = .ok (some search) → lookup.Answers config reply parts →
      let first : Set Entry := { entry | entry ∈ parts.flatten.flatten.reduceOption }
      let closure := { entry | Reached (fun group => plan.listing find group.name) first entry }
      ∃ enough, ∀ patience, enough ≤ patience → ∃ walk later,
        run patience = some (.ok walk, later) ∧ walk.limitReached = false ∧ walk.members.Nodup ∧
        (∀ member ∈ walk.members, ∃ gid ∈ plan.gids primary closure, member = .gid gid) ∧
        (plan.chases →
          ((fun entry => Text.fold entry.name) '' closure).encard ≤ policy.maxDepth →
          ∀ gid, .gid gid ∈ walk.members ↔ gid ∈ plan.gids primary closure) ∧
        (plan.chases = false →
          ∀ gid, .gid gid ∈ walk.members ↔ gid ∈ plan.gids primary first)) := by
  intro plan run
  constructor
  · intro ignored patience
    obtain ⟨later, ran, unasked⟩ := run_expand_ignored supplies suits ignored patience
    exact ⟨_, later, ran, rfl, unasked⟩
  · intro expanded lookup search parts asks searches answers first closure
    obtain ⟨enough, ran⟩ :=
      run_expand_user primary supplies suits apart expanded asks searches answers
    refine ⟨enough, fun patience patient => ?_⟩
    -- The run is a walk along the answers by now, and all that is left to be shown is known of that.
    obtain ⟨later, ran⟩ := ran patience patient
    exact ⟨_, later, ran, gather_goesOn unlimited, (gather_distinct unlimited).nodup,
      gather_within_listed forward, mem_gather_listed forward unlimited alike,
      mem_gather_flat forward unlimited alike⟩

end Closure

end Directory

/-! ### Servers with a few entries -/

/-- What stands before the value in a question about the groups that list a name. -/
def listedPart : List Char := "(&(objectClass=posixGroup)(uniqueMember=".toList

/-- The name that a search asks about, if it is for the groups that list one. -/
def listed? (search : Search) : Option String := Filter.valueAfter? listedPart search.filter

/-- The groups that list a name, case apart. -/
def listers (entries : List Entry) (name : String) : List Entry :=
  entries.filter fun entry => (entry.values "uniqueMember").any (Text.same name)

theorem listers_alike (entries : List Entry) {name other : String}
    (same : Text.fold name = Text.fold other) : listers entries name = listers entries other := by
  have same' : Text.same name = Text.same other := by
    funext value
    simp [Text.same, same]
  simp [listers, same']

/-- A server with one user. -/
def replyUnder (under : String → List Entry) (search : Search) : Reply :=
  let entries := under search.base
  let found := match listed? search with
    | some name => listers entries name
    | none => entries.filter fun entry =>
        (entry.values? (if search.attributes = ["uid"] then "uid" else "memberUid")).isSome
  ⟨found.map some, 0, "", none⟩

/-- A server is told the name that it is asked about. -/
theorem reply_groupsOf (under : String → List Entry) (plan : Plan) (config : Config)
    (template : plan.templates.groupsByName = "(&(objectClass=posixGroup)(uniqueMember=%s))")
    (name base : String) (scope : Scope) :
    ∃ search, (plan.groupsOf name).search config ⟨base, scope, none⟩ = .ok search ∧
      (replyUnder under search).messages.reduceOption = listers (under base) name := by
  have parts : plan.templates.groupsByName.toList = listedPart ++ '%' :: 's' :: [')', ')'] := by
    rw [template]
    decide
  have rendered := Filter.render_between parts (by decide) (by decide) name
  have asked : ∃ search, (plan.groupsOf name).search config ⟨base, scope, none⟩ = .ok search ∧
      search.base = base ∧
      search.filter = String.ofList (listedPart ++ Filter.escape name ++ [')', ')']) := by
    simp [Plan.groupsOf, Lookup.search, Filter.build, rendered, bind, Except.bind, pure,
      Except.pure]
  obtain ⟨search, searches, rfl, filter⟩ := asked
  have told : listed? search = some name := by
    rw [listed?, filter]
    exact Filter.valueAfter?_escape listedPart name
  refine ⟨search, searches, ?_⟩
  simp [replyUnder, told, List.reduceOption]


namespace Ring

def ann : Entry := ⟨"uid=ann,dc=small", [("uid", ["ann"])]⟩

def web : Entry := ⟨"cn=web,dc=small", [("gidNumber", ["10"]), ("memberUid", ["ann"])]⟩

def mail : Entry := ⟨"cn=mail,dc=small", [("gidNumber", ["20"]), ("memberUid", ["ann"])]⟩

def ops : Entry where
  name := "cn=ops,dc=small"
  attributes := [("gidNumber", [" 30"]),
    ("uniqueMember", ["cn=web,dc=small", "cn=mail,dc=small", "cn=all,dc=small"])]

/-- A group without a number, in a circle with another. -/
def all : Entry where
  name := "cn=all,dc=small"
  attributes := [("gidNumber", ["x"]), ("uniqueMember", ["CN=Ops,DC=small"])]

def top : Entry where
  name := "cn=top,dc=small"
  attributes := [("gidNumber", ["40"]), ("uniqueMember", ["cn=all,dc=small"])]

def entries : List Entry := [ann, web, mail, ops, all, top]

def config : Config where
  uris := ["ldap://one"]
  base := "dc=small"
  flags := { nestedGroups := true, pagedResults := true }
  ignoredUsers := ["root"]

def reply (search : Search) : Reply := replyUnder (fun _ => entries) search

abbrev policy : Policy := { maxDepth := 5 }

abbrev plan : Plan := .ofConfig config policy

def find (search : Search) : Except Error (List Entry) := .ok (reply search).messages.reduceOption

theorem listing_eq (name : String) :
    plan.listing find name = { entry | entry ∈ listers entries name } := by
  obtain ⟨search, searches, found⟩ := reply_groupsOf (fun _ => entries) plan config
    (by decide) name "dc=small" .subtree
  have told : find search = .ok (listers entries name) := congrArg Except.ok found
  have targets : (plan.groupsOf name).targets config = [⟨"dc=small", .subtree, none⟩] := rfl
  have answer : (plan.groupsOf name).answer find config = .ok (listers entries name) := by
    rw [Lookup.answer, targets, Lookup.answerIn_asked searches, told]
    cases listers entries name <;> rfl
  have same : plan.config = config := rfl
  simp [Plan.listing, same, answer]

theorem asks : plan.asks find "ann" = .ok (plan.groupsOfUser "ann" (some ann.name)) := by
  decide

def question : Lookup := plan.groupsOfUser "ann" (some ann.name)

def search : Search where
  base := "dc=small"
  scope := .subtree
  filter := "(&(objectClass=posixGroup)(|(memberUid=ann)(uniqueMember=uid=ann,dc=small)))"
  attributes := ["gidNumber"]
  deref := config.deref
  sizeLimit := none
  timeLimit := config.timeLimit
  page := none

theorem searches : question.search config ⟨"dc=small", .subtree, none⟩ = .ok search := by
  decide

theorem replied :
    (reply { search with page := config.page? [] }).messages = [some web, some mail] := by
  decide

theorem answers : question.Answers config reply [[[some web, some mail]]] := by
  have targets : question.targets config = [⟨"dc=small", .subtree, none⟩] := by decide
  unfold Lookup.Answers
  rw [targets]
  refine .cons ?_ .nil
  intro given same
  rw [searches] at same
  cases same
  exact replied ▸ .last (Or.inl rfl) rfl

/-- The groups of ann, and those above them. -/
def closure : Set Entry :=
  { entry |
    Reached (fun group => plan.listing find group.name) { entry | entry ∈ [web, mail] } entry }

theorem mem_closure_iff {entry : Entry} : entry ∈ closure ↔ entry ∈ [web, mail, ops, all, top] := by
  constructor
  · rintro (there | @⟨group, _, -, there⟩)
    · exact List.subset_append_left [web, mail] [ops, all, top] there
    · rw [listing_eq] at there
      obtain ⟨known, lists⟩ := List.mem_filter.mp there
      have none : ∀ entry ∈ entries, entry ∈ [web, mail, ops, all, top] ∨
          entry.values "uniqueMember" = [] := by decide
      exact (none entry known).resolve_right fun empty => by simp [empty] at lists
  · have led {group entry : Entry} (reached : group ∈ closure)
        (lists : entry ∈ listers entries group.name) : entry ∈ closure :=
      Reached.step reached (by rwa [listing_eq])
    have first : ∀ entry ∈ [web, mail], entry ∈ closure := fun _ there => .start there
    have above : ops ∈ closure := led (first web (by decide)) (by decide)
    have circle : all ∈ closure := led above (by decide)
    have last : top ∈ closure := led circle (by decide)
    simp only [List.mem_cons, List.not_mem_nil, or_false]
    rintro (rfl | rfl | rfl | rfl | rfl)
    exacts [first web (by decide), first mail (by decide), above, circle, last]

theorem mem_gids_iff (gid : Nat) : gid ∈ plan.gids (some 20) closure ↔ gid ∈ [10, 30, 40] := by
  have gids : [web, mail, ops, all, top].map plan.gid? =
      [some 10, some 20, some 30, none, some 40] := by decide
  simp only [List.map_cons, List.map_nil, List.cons.injEq, and_true] at gids
  simp only [Plan.gids, mem_closure_iff, Set.mem_ofPred_eq, List.mem_cons, List.not_mem_nil,
    or_false, exists_eq_or_imp, exists_eq_left, gids]
  simp
  omega

theorem names_le : ((fun entry => Text.fold entry.name) '' closure).encard ≤ policy.maxDepth := by
  have finite : closure = ([web, mail, ops, all, top].toFinset : Set Entry) := by
    ext entry
    simpa using mem_closure_iff
  rw [finite]
  refine (Set.encard_image_le _ _).trans ?_
  rw [Set.encard_coe_eq_coe_finsetCard]
  decide

end Ring

/-- A circle of groups above the groups of a user, and a group above the circle. -/
theorem expand_user_closure_ring :
    let world : World (Host Ring.config Ring.reply) := { outside := {} }
    let run user patience := (expand patience (.user user (some 20)) Ring.policy).run world
    (∃ error later, run "root" 9 = some (.error (.error error), later) ∧ error.status = .notFound ∧
      World.Unasked world.history later) ∧
    ∃ enough, ∀ patience, enough ≤ patience → ∃ walk later,
      run "ann" patience = some (.ok walk, later) ∧ walk.members.Nodup ∧
        ∀ gid, .gid gid ∈ walk.members ↔ gid ∈ [10, 30, 40] := by
  intro world run
  have alike (name other : String) (same : Text.fold name = Text.fold other) :
      Ring.plan.listing Ring.find name = Ring.plan.listing Ring.find other := by
    rw [Ring.listing_eq, Ring.listing_eq, listers_alike _ same]
  have closes (user : String) := expand_user_closure (Host.supplies (by decide)) Host.script_apart
    rfl rfl alike user (some 20) world (Session.suits_new Ring.config)
  constructor
  · exact (closes "root").1 rfl 9
  · obtain ⟨enough, runs⟩ := (closes "ann").2 rfl Ring.question Ring.search _ Ring.asks
      (by decide) Ring.answers
    refine ⟨enough, fun patience patient => ?_⟩
    obtain ⟨walk, later, ran, -, nodup, -, complete, -⟩ := runs patience patient
    refine ⟨walk, later, ran, nodup, fun gid => ?_⟩
    exact (complete rfl Ring.names_le gid).trans (Ring.mem_gids_iff gid)

end Membership

end NameService
