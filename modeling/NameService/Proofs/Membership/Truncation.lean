import NameService.Directory
import NameService.Proofs.Membership.Chasing

/-!
The groups of a user, when no more than so many are wanted. The walk is the same until there is one
too many; from there on it asks at most one more question and counts nothing.

## Main result

`expand_user_limited`: what is counted under a limit is the beginning of what is counted without.
-/

namespace NameService.Membership

open Engine World

variable {σ : Type}

/-- The same plan, when no more than so many groups are wanted. -/
def Plan.limited (plan : Plan) (wanted : Nat) : Plan :=
  { plan with policy := { plan.policy with limit := some wanted } }

/-- No group is there twice, and the primary one is not there. -/
structure Distinct (primary : Option Nat) (members : List Member) : Prop where
  nodup : members.Nodup
  other : ∀ gid, primary = some gid → .gid gid ∉ members

theorem Distinct.take {primary : Option Nat} {members : List Member}
    (distinct : Distinct primary members) (wanted : Nat) : Distinct primary (members.take wanted) :=
  ⟨distinct.nodup.take, fun gid is there => distinct.other gid is (List.mem_of_mem_take there)⟩

/-- What a walk comes to under a limit, beside what it comes to without: the same, or so much of it
    as is wanted. -/
inductive Cut (wanted : Nat) (whole short : Walk) : Prop
  | same (equal : short = whole) (enough : whole.members.length ≤ wanted)
  | cut (reached : short.limitReached) (prefixed : short.members = whole.members.take wanted)
    (more : wanted < whole.members.length)

section Walking

variable {plan : Plan} {primary : Option Nat} {wanted : Nat}

theorem addGid_unlimited (walk : Walk) (gid : Nat) :
    walk.addGid none gid = walk.add (.gid gid) := by
  unfold Walk.addGid Walk.add
  split <;> simp

variable (primary) in
theorem own_unlimited (unlimited : plan.policy.limit = none) (entry : Entry) (walk : Walk) :
    (own plan primary entry walk).limitReached = walk.limitReached := by
  unfold own
  rw [unlimited]
  split
  · split
    · rfl
    · rw [addGid_unlimited]
      unfold Walk.add
      split <;> rfl
  · rfl

variable (primary) in
/-- A group is counted as without a limit, or it is one too many. -/
theorem own_cut (unlimited : plan.policy.limit = none) (entry : Entry) {walk : Walk}
    (enough : walk.members.length ≤ wanted) :
    Cut wanted (own plan primary entry walk) (own (plan.limited wanted) primary entry walk) := by
  have gid? : (plan.limited wanted).gid? entry = plan.gid? entry := rfl
  unfold own
  rw [gid?, unlimited]
  split
  · next gid usable =>
    split
    · exact .same rfl enough
    simp only [addGid_unlimited, Plan.limited]
    by_cases known : .gid gid ∈ walk.members
    · simp only [Walk.add, Walk.addGid, if_pos known]
      exact .same rfl enough
    by_cases full : wanted ≤ walk.members.length
    · have size : walk.members.length = wanted := Nat.le_antisymm enough full
      simp only [Walk.add, Walk.addGid, if_neg known, Option.any_some, full, decide_true, if_true]
      exact .cut rfl (by simp [size]) (by simp [size])
    · simp only [Walk.add, Walk.addGid, if_neg known, Option.any_some, full, decide_false,
        Bool.false_eq_true, if_false]
      exact .same rfl (by simpa using Nat.lt_of_not_le full)
  · exact .same rfl enough

/-- To meet names counts nothing. -/
theorem chase_keeps (plan : Plan) (entry : Entry) (walk : Walk) :
    (chase plan entry walk).2.members = walk.members ∧
      (chase plan entry walk).2.limitReached = walk.limitReached := by
  have met : ∀ (names : List String) (walk : Walk), (walk.meetAll names).2.members = walk.members ∧
      (walk.meetAll names).2.limitReached = walk.limitReached := by
    intro names
    induction names with
    | nil => exact fun walk => ⟨rfl, rfl⟩
    | cons name names ih =>
      intro walk
      rw [Walk.meetAll]
      split
      · exact ih walk
      · exact ih (walk.meet name)
  unfold chase
  split
  · split <;> exact ⟨rfl, rfl⟩
  · have same := met (entry.values plan.names.memberOf) walk
    split
    all_goals
      next names later meets =>
      rw [meets] at same
      exact same

variable [Service σ]

/-- The groups above a group that has been counted. -/
def climb (plan : Plan) (primary : Option Nat) (levels level : Nat) (entry : Entry) (walk : Walk) :
    Engine σ Walk :=
  match levels with
  | 0 => return walk
  | levels + 1 =>
    if !plan.chases then return walk
    else match chase plan entry walk with
    | (none, walk) => return walk
    | (some lookup, walk) => do
      noteVisit (.chase (level + 1) (asked lookup))
      match ← lookup.entries.run with
      | .error _ => return walk
      | .ok entries =>
        entries.foldlM (fun walk entry => collect plan primary levels (level + 1) entry walk) walk

theorem collect_eq_climb (levels level : Nat) (entry : Entry) {walk : Walk}
    (goesOn : walk.limitReached = false) :
    (collect plan primary levels level entry walk : Engine σ Walk) =
      climb plan primary levels level entry (own plan primary entry walk) := by
  cases levels with
  | zero =>
    unfold collect climb
    rw [if_neg (by simp [goesOn])]
    rfl
  | succ levels =>
    unfold collect climb
    rw [if_neg (by simp [goesOn])]
    rfl

theorem collect_reached (levels level : Nat) (entry : Entry) {walk : Walk}
    (reached : walk.limitReached) (world : World σ) :
    collect plan primary levels level entry walk world = some (walk, world) := by
  unfold collect
  rw [if_pos reached]
  rfl

variable (plan primary) in
theorem collect_halts (levels level : Nat) (entry : Entry) (walk : Walk) (world : World σ) :
    ∃ whole later, collect plan primary levels level entry walk world = some (whole, later) :=
  (collect_lasts (fun lookup => .of_ends lookup.entries_halts fun _ _ _ _ _ => trivial)
    (fun _ _ start => start) plan primary levels level entry walk).halts world

theorem foldlM_reached (levels level : Nat) {walk : Walk} (reached : walk.limitReached)
    (world : World σ) : ∀ entries : List Entry,
      entries.foldlM (fun walk entry => collect plan primary levels level entry walk) walk world =
        some (walk, world)
  | [] => rfl
  | entry :: entries => by
    rw [List.foldlM_cons, run_bind, collect_reached levels level entry reached,
      Option.bind_some]
    exact foldlM_reached levels level reached world entries

variable (plan primary) in
/-- When a walk is full it may ask for the groups above one more group, and counts none of them. -/
theorem climb_reached (levels level : Nat) (entry : Entry) {walk : Walk}
    (reached : walk.limitReached) (world : World σ) : ∃ short later,
      climb plan primary levels level entry walk world = some (short, later) ∧ short.limitReached ∧
        short.members = walk.members := by
  cases levels with
  | zero => exact ⟨walk, world, rfl, reached, rfl⟩
  | succ levels =>
    have kept := chase_keeps plan entry walk
    simp only [climb]
    split
    · exact ⟨walk, world, rfl, reached, rfl⟩
    rcases chases : chase plan entry walk with ⟨_ | lookup, walk'⟩
    · rw [chases] at kept
      exact ⟨walk', world, rfl, kept.2.trans reached, kept.1⟩
    · rw [chases] at kept
      let noted : World σ :=
        { world with visits := .chase (level + 1) (asked lookup) :: world.visits }
      obtain ⟨result, later, answered⟩ := lookup.entries_halts noted
      have reached' : walk'.limitReached := kept.2.trans reached
      refine ⟨walk', later, ?_, reached', kept.1⟩
      simp only [noted] at answered
      cases result with
      | error error => simp [answered]
      | ok entries => simpa [answered] using foldlM_reached levels _ reached' later entries

/-- What comes after the groups that are wanted changes nothing of them. -/
theorem Cut.extends {whole later short : Walk} {limit : Option Nat}
    (more : wanted < whole.members.length) (prefixed : short.members = whole.members.take wanted)
    (reached : short.limitReached) (grown : Walk.Extends limit whole later) :
    Cut wanted later short := by
  obtain ⟨rest, same⟩ := grown.members
  refine .cut reached ?_ (Nat.lt_of_lt_of_le more grown.members.length_le)
  rw [prefixed, ← same, List.take_append_of_le_length (Nat.le_of_lt more)]

theorem Walk.Extends.unlimited {walk later : Walk} (grown : Walk.Extends none walk later)
    (goesOn : walk.limitReached = false) : later.limitReached = false := by
  refine Bool.eq_false_iff.mpr fun reached => ?_
  rcases grown.full reached with before | ⟨wanted, limit, -⟩
  · simp [goesOn] at before
  · cases limit

/-- A walk comes to an end with a limit and without. It is the same one on the same world, or it is
    cut under the limit. -/
def Paces (wanted : Nat) (whole short : Engine σ Walk) (world : World σ) : Prop :=
  ∃ walk later cut later', whole world = some (walk, later) ∧ short world = some (cut, later') ∧
    Cut wanted walk cut ∧ (cut.limitReached = false → later' = later)

omit [Service σ] in
theorem Paces.pure {walk : Walk} (enough : walk.members.length ≤ wanted) (world : World σ) :
    Paces wanted (pure walk) (pure walk) world :=
  ⟨walk, world, walk, world, rfl, rfl, .same rfl enough, fun _ => rfl⟩

variable (unlimited : plan.policy.limit = none)
include unlimited

theorem collect_grows (levels level : Nat) (entry : Entry) (walk : Walk) (world : World σ) :
    Ends world (collect plan primary levels level entry walk) fun later _ =>
      Walk.Extends none walk later :=
  unlimited ▸ (collect_extends levels level entry walk world).mono fun _ _ reached => reached.1

/-- What comes after a group has been counted only adds to it. -/
theorem climb_grows (levels level : Nat) (entry : Entry) (walk : Walk) (world : World σ) :
    Ends world (climb plan primary levels level entry walk) fun later _ =>
      Walk.Extends none walk later := by
  have chased := chase_extends none plan entry walk
  unfold climb
  split
  · exact .pure (.refl walk)
  split
  · exact .pure (.refl walk)
  split
  · next walk' same =>
    rw [same] at chased
    exact .pure chased
  · next lookup walk' same =>
    rw [same] at chased
    refine Ends.any.bind fun _ _ _ => Ends.any.bind fun result later _ => ?_
    split
    · exact .pure chased
    · next entries =>
      exact (foldlM_extends (fun walk entry world => collect_grows unlimited _ _ entry walk world)
        entries walk' later).mono fun _ _ rest => chased.trans rest

theorem foldlM_paces {levels level : Nat}
    (each : ∀ (entry : Entry) (walk : Walk) (world : World σ), walk.limitReached = false →
      walk.members.length ≤ wanted → Paces wanted (collect plan primary levels level entry walk)
        (collect (plan.limited wanted) primary levels level entry walk) world) :
    ∀ (entries : List Entry) (walk : Walk) (world : World σ), walk.limitReached = false →
      walk.members.length ≤ wanted → Paces wanted
        (entries.foldlM (fun walk entry => collect plan primary levels level entry walk) walk)
        (entries.foldlM (fun walk entry =>
          collect (plan.limited wanted) primary levels level entry walk) walk) world
  | [], _, world, _, enough => .pure enough world
  | entry :: entries, walk, world, goesOn, enough => by
    obtain ⟨whole, later, short, later', ran, ran', cut, same⟩ :=
      each entry walk world goesOn enough
    simp only [Paces, List.foldlM_cons, run_bind, ran, ran', Option.bind_some]
    have goesOn' := (collect_grows unlimited levels level entry walk world _ _ ran).unlimited goesOn
    cases cut with
    | same equal enough' =>
      obtain rfl := equal
      obtain rfl := same goesOn'
      exact foldlM_paces each entries short later' goesOn' enough'
    | cut reached prefixed more =>
      -- Nothing is counted any more under the limit, whatever is counted without.
      have halts : Lasts (fun _ : World σ => True)
          (entries.foldlM (fun walk entry => collect plan primary levels level entry walk) whole) :=
        .foldlM (fun walk entry => .of_ends (collect_halts plan primary levels level entry walk)
          fun _ _ _ _ _ => trivial) _ whole
      obtain ⟨last, ended, ran⟩ := halts.halts later
      have grown : Walk.Extends none whole last :=
        foldlM_extends
          (fun walk entry world => collect_grows unlimited levels level entry walk world)
          entries whole later last ended ran
      exact ⟨last, ended, short, later', ran, foldlM_reached levels level reached later' entries,
        .extends more prefixed reached grown, fun goesOn => by simp [reached] at goesOn⟩

/-- As long as the walk is the same, the questions are. -/
theorem climb_paces {levels level : Nat}
    (each : ∀ (entry : Entry) (walk : Walk) (world : World σ), walk.limitReached = false →
      walk.members.length ≤ wanted → Paces wanted
        (collect plan primary levels (level + 1) entry walk)
        (collect (plan.limited wanted) primary levels (level + 1) entry walk) world)
    (entry : Entry) {walk : Walk} (world : World σ) (goesOn : walk.limitReached = false)
    (enough : walk.members.length ≤ wanted) :
    Paces wanted (climb plan primary (levels + 1) level entry walk)
      (climb (plan.limited wanted) primary (levels + 1) level entry walk) world := by
  have chases : (plan.limited wanted).chases = plan.chases := rfl
  -- What is asked for next does not depend on the limit, so both walks get the same answer.
  have asks : chase (plan.limited wanted) entry walk = chase plan entry walk := rfl
  have kept := chase_keeps plan entry walk
  simp only [climb, chases, asks]
  split
  · exact .pure enough world
  rcases chased : chase plan entry walk with ⟨_ | lookup, walk'⟩ <;> rw [chased] at kept
  · exact .pure (kept.1 ▸ enough) world
  · let noted : World σ :=
      { world with visits := .chase (level + 1) (asked lookup) :: world.visits }
    obtain ⟨result, later, answered⟩ := lookup.entries_halts noted
    have enough' : walk'.members.length ≤ wanted := kept.1 ▸ enough
    simp only [noted] at answered
    simp only [Paces, run_bind, run_noteVisit, answered, Option.bind_some]
    cases result with
    | error error => exact Paces.pure enough' later
    | ok entries =>
      exact foldlM_paces unlimited each entries walk' later (kept.2.trans goesOn) enough'

variable (primary) in
/-- A walk through the groups above a group keeps pace until it is cut. -/
theorem collect_paces : ∀ (levels level : Nat) (entry : Entry) (walk : Walk) (world : World σ),
    walk.limitReached = false → walk.members.length ≤ wanted →
      Paces wanted (collect plan primary levels level entry walk)
        (collect (plan.limited wanted) primary levels level entry walk) world
  | levels, level, entry, walk, world, goesOn, enough => by
    have goesOn' := (own_unlimited primary unlimited entry walk).trans goesOn
    cases own_cut primary unlimited entry enough with
    | same equal enough' =>
      rw [collect_eq_climb levels level entry goesOn, collect_eq_climb levels level entry goesOn,
        equal]
      cases levels with
      | zero => exact .pure enough' world
      | succ levels =>
        exact climb_paces unlimited (collect_paces levels (level + 1)) entry world goesOn' enough'
    | cut reached prefixed more =>
      -- The short walk has got all it wants and goes no further; the whole one has all that and
      -- adds to it.
      obtain ⟨whole, later, ran⟩ :=
        collect_halts plan primary levels level entry walk world
      have climbed := ran
      rw [collect_eq_climb levels level entry goesOn] at climbed
      have grown := climb_grows unlimited levels level entry _ world _ _ climbed
      obtain ⟨short, later', ran', reached', same⟩ :=
        climb_reached (plan.limited wanted) primary levels level entry reached world
      rw [← collect_eq_climb levels level entry goesOn] at ran'
      exact ⟨whole, later, short, later', ran, ran',
        .extends more (same.trans prefixed) reached' grown,
        fun goesOn => by simp [reached'] at goesOn⟩

end Walking

section Distinctness

variable {plan : Plan} {primary : Option Nat} (unlimited : plan.policy.limit = none)
include unlimited

theorem own_distinct (entry : Entry) {walk : Walk} (distinct : Distinct primary walk.members) :
    Distinct primary (own plan primary entry walk).members := by
  unfold own
  rw [unlimited]
  split
  · next gid usable =>
    split
    · exact distinct
    · next other =>
      rw [addGid_unlimited]
      unfold Walk.add
      split
      · exact distinct
      · next new =>
        refine ⟨List.nodup_append.mpr ⟨distinct.nodup, List.nodup_singleton _, ?_⟩, ?_⟩
        · rintro member there _ last rfl
          rw [List.mem_singleton] at last
          exact new (last ▸ there)
        · intro gid' is there
          -- The new number is at the end, and it is not the primary one.
          rcases List.mem_append.mp there with there | last
          · exact distinct.other gid' is there
          · obtain rfl : gid' = gid := by simpa using last
            exact other is
  · exact distinct

variable [Service σ]

theorem collect_distinct : ∀ (levels level : Nat) (entry : Entry) (walk : Walk) (world : World σ),
    Ends world (collect plan primary levels level entry walk) fun later _ =>
      Distinct primary walk.members → Distinct primary later.members
  | levels, level, entry, walk, world => by
    have counted : Distinct primary walk.members → _ := own_distinct unlimited entry
    have kept := (chase_keeps plan entry (own plan primary entry walk)).1
    cases goesOn : walk.limitReached with
    | true => exact .of_run (collect_reached levels level entry goesOn world) id
    | false =>
      -- Below the limit the walk goes through two stages: the entry itself, and the groups above
      -- it.
      rw [collect_eq_climb levels level entry goesOn]
      cases levels with
      | zero => exact .pure counted
      | succ levels =>
        rw [climb]
        split
        · exact .pure counted
        split
        · next walk' same =>
          rw [same] at kept
          exact .pure fun distinct => kept ▸ counted distinct
        · next lookup walk' same =>
          rw [same] at kept
          refine Ends.any.bind fun _ _ _ => Ends.any.bind fun result later _ => ?_
          split
          · exact .pure fun distinct => kept ▸ counted distinct
          · next entries =>
            have begun : Distinct primary walk.members → Distinct primary walk'.members :=
              fun distinct => kept ▸ counted distinct
            refine .foldlM (fun between entry world before => ?_) entries begun
            exact (collect_distinct levels _ entry between world).mono fun _ _ rest =>
              rest ∘ before

end Distinctness

section Counting

variable [Service σ] {plan : Plan} {primary : Option Nat} {patience : Nat} (wanted : Nat)

/-- What an enumeration has given stays counted. -/
theorem collectAll_grows (unlimited : plan.policy.limit = none) :
    ∀ (rounds : Nat) (e : Enumeration) (walk : Walk) (world : World σ),
      Ends world (collectAll plan primary patience rounds e walk) fun out _ =>
        ∀ whole, out.1 = .ok whole → Walk.Extends none walk whole ∧
          (Distinct primary walk.members → Distinct primary whole.members) := by
  intro rounds
  induction rounds with
  | zero =>
    intro e walk world _ _ ran
    cases ran
  | succ rounds ih =>
    intro e walk world
    rw [collectAll]
    refine Ends.any.bind fun out later _ => ?_
    split
    · refine .pure fun whole failed => ?_
      cases failed
    · refine .pure ?_
      rintro _ ⟨⟩
      exact ⟨.refl walk, id⟩
    · next entry e' =>
      intro out' last ran
      rw [run_bind] at ran
      obtain ⟨⟨between, mid⟩, first, ran⟩ := Option.bind_eq_some_iff.mp ran
      have grown := collect_grows unlimited _ _ entry walk later _ _ first
      have distinct := collect_distinct unlimited _ _ entry walk later _ _ first
      split at ran
      · cases ran
        rintro _ ⟨⟩
        exact ⟨grown, distinct⟩
      · intro whole done
        -- What this entry has added is kept by all entries after it.
        obtain ⟨rest, kept⟩ := ih e' between mid _ _ ran whole done
        exact ⟨grown.trans rest, kept ∘ distinct⟩

/-- When all entries of an enumeration can be counted, the first of them can. -/
theorem collectAll_limited (unlimited : plan.policy.limit = none) :
    ∀ {rounds : Nat} {e e' : Enumeration} {walk whole : Walk} {world later : World σ},
      walk.limitReached = false → walk.members.length ≤ wanted →
      collectAll plan primary patience rounds e walk world = some ((.ok whole, e'), later) →
      ∃ short e'' later',
        collectAll (plan.limited wanted) primary patience rounds e walk world =
          some ((.ok short, e''), later') ∧ Cut wanted whole short := by
  intro rounds
  induction rounds with
  | zero =>
    intro e e' walk whole world later _ _ ran
    cases ran
  | succ rounds ih =>
    intro e e' walk whole world later goesOn enough ran
    have depth : (plan.limited wanted).policy.maxDepth = plan.policy.maxDepth := rfl
    simp only [collectAll, run_bind, depth] at ran ⊢
    obtain ⟨⟨⟨result, e₁⟩, received⟩, next, ran⟩ := Option.bind_eq_some_iff.mp ran
    rw [next, Option.bind_some]
    rcases result with error | none | entry
    · cases ran
    · cases ran
      exact ⟨_, _, _, rfl, .same rfl enough⟩
    · -- The walk under the limit counts the entry too, unless it is full by then.
      obtain ⟨between, mid, short, mid', first, first', cut, same⟩ :=
        collect_paces primary unlimited plan.policy.maxDepth 0 entry walk received
          goesOn enough
      have goesOn' := (collect_grows unlimited _ _ entry walk received _ _ first).unlimited goesOn
      simp only [run_bind, first, first', Option.bind_some, goesOn', Bool.false_eq_true,
        if_false] at ran ⊢
      cases cut with
      | same equal enough' =>
        obtain rfl := equal
        obtain rfl := same goesOn'
        simp only [goesOn', Bool.false_eq_true, if_false]
        exact ih goesOn' enough' ran
      | cut reached prefixed more =>
        obtain ⟨grown, -⟩ := collectAll_grows unlimited rounds e₁ between mid _ _ ran whole rfl
        simp only [reached, if_true]
        exact ⟨_, _, _, rfl, .extends more prefixed reached grown⟩

theorem collectAnswer_limited (unlimited : plan.policy.limit = none) {lookup : Lookup}
    {e : Enumeration} {whole : Walk} {world later : World σ}
    (ran : collectAnswer plan primary patience lookup world = some ((.ok whole, e), later)) :
    (Walk.Extends none {} whole ∧ Distinct primary whole.members) ∧
      ∃ short e' later', collectAnswer (plan.limited wanted) primary patience lookup world =
        some ((.ok short, e'), later') ∧ Cut wanted whole short := by
  have nothing : Distinct primary ({} : Walk).members := ⟨List.nodup_nil, by simp⟩
  simp only [collectAnswer, run_bind] at ran ⊢
  obtain ⟨⟨⟨result, begun⟩, started⟩, starts, ran⟩ := Option.bind_eq_some_iff.mp ran
  rw [starts, Option.bind_some]
  cases result with
  | error error =>
    cases error with
    | notFound message =>
      cases ran
      exact ⟨⟨.refl _, nothing⟩, _, _, _, rfl, .same rfl (Nat.zero_le _)⟩
    | _ => cases ran
  | ok =>
    obtain ⟨grown, distinct⟩ :=
      collectAll_grows unlimited patience begun {} started _ _ ran whole rfl
    exact ⟨⟨grown, distinct nothing⟩, collectAll_limited wanted unlimited rfl (Nat.zero_le _) ran⟩

theorem expandUser_limited (unlimited : plan.policy.limit = none) {user : String} {whole : Walk}
    {world later : World σ}
    (ran : (expandUser plan patience user primary).run world = some (.ok whole, later)) :
    (Walk.Extends none {} whole ∧ Distinct primary whole.members) ∧
      ∃ short later', (expandUser (plan.limited wanted) patience user primary).run world =
        some (.ok short, later') ∧ Cut wanted whole short := by
  have same : (question (plan.limited wanted) user : Action σ Lookup) = question plan user := rfl
  have config : (plan.limited wanted).config = plan.config := rfl
  by_cases ignored : plan.config.ignoresUser user
  · simp [expandUser, ignored] at ran
  simp only [expandUser, config, same, ignored, Bool.false_eq_true, if_false, run_action_bind,
    run_mk, run_bind] at ran ⊢
  obtain ⟨⟨result, asked⟩, questioned, ran⟩ := Option.bind_eq_some_iff.mp ran
  rw [questioned, Option.bind_some]
  cases result with
  | error error => cases ran
  | ok lookup =>
    obtain ⟨⟨⟨result, e⟩, ended⟩, answered, ran⟩ := Option.bind_eq_some_iff.mp ran
    obtain ⟨⟨stopped, last⟩, stops, ran⟩ := Option.bind_eq_some_iff.mp ran
    cases ran
    obtain ⟨grown, short, e', ended', answered', cut⟩ :=
      collectAnswer_limited wanted unlimited answered
    -- The end of the enumeration is told to the server, and there is an end to that.
    obtain ⟨stopped', later', stops'⟩ := e'.stop_halts ended'
    exact ⟨grown, short, later', by simp [answered', stops'], cut⟩

end Counting

theorem Plan.ofConfig_withLimit (config : Config) (policy : Policy) {wanted : Nat}
    (positive : 1 ≤ wanted) :
    Plan.ofConfig config (policy.withLimit wanted) =
      (Plan.ofConfig config policy).limited wanted := by
  rw [Policy.withLimit, if_neg (Nat.ne_of_gt positive)]
  rfl

theorem Cut.members {wanted : Nat} {whole short : Walk} (cut : Cut wanted whole short) :
    short.members = whole.members.take wanted := by
  cases cut with
  | same equal enough => rw [equal, List.take_of_length_le enough]
  | cut _ prefixed _ => exact prefixed

theorem Cut.reached_iff {wanted : Nat} {whole short : Walk} (cut : Cut wanted whole short)
    (goesOn : whole.limitReached = false) :
    short.limitReached ↔ wanted < whole.members.length := by
  cases cut with
  | same equal enough => simp [equal, goesOn, enough]
  | cut reached _ more => simp [reached, more]

variable [Service σ]

/-- What is counted under a limit is the beginning of what is counted without. That there is more is
    noticed, and the caller is told to ask again, exactly when there is. -/
theorem expand_user_limited {policy : Policy} (unlimited : policy.limit = none) {wanted : Nat}
    (positive : 1 ≤ wanted) {patience : Nat} {user : String} {primary : Option Nat} {whole : Walk}
    {world later : World σ}
    (ran : (expand patience (.user user primary) policy).run world = some (.ok whole, later)) :
    Distinct primary whole.members ∧ whole.limitReached = false ∧
      (Directory.expand patience (.user user primary) policy).run world =
        some (.ok (.success, whole.members), later) ∧
      ∃ short later',
        (expand patience (.user user primary) (policy.withLimit wanted)).run world =
          some (.ok short, later') ∧
        short.members = whole.members.take wanted ∧
        (short.limitReached ↔ wanted < whole.members.length) ∧ Distinct primary short.members ∧
        (Directory.expand patience (.user user primary) (policy.withLimit wanted)).run world =
          some (.ok (if wanted < whole.members.length then .tryAgain else .success,
            whole.members.take wanted), later') := by
  have expanded := ran
  -- Until the walk begins both runs are the same, since the limit is first looked at there.
  simp only [expand, run_action_bind] at ran
  obtain ⟨⟨result, ready⟩, readied, ran⟩ := Option.bind_eq_some_iff.mp ran
  cases result with
  | error error => cases ran
  | ok =>
    obtain ⟨⟨result, configured⟩, loads, ran⟩ := Option.bind_eq_some_iff.mp ran
    cases result with
    | error error => cases ran
    | ok config =>
      -- The walk without a limit ended well, so the one that is cut off ends too, with a part of
      -- its members.
      obtain ⟨⟨grown, distinct⟩, short, later', ran', cut⟩ :=
        expandUser_limited wanted unlimited ((run_attempt_eq_ok_iff _).mp ran)
      have goesOn := grown.unlimited rfl
      have counts := cut.reached_iff goesOn
      have expanded' : (expand patience (.user user primary) (policy.withLimit wanted)).run world =
          some (.ok short, later') := by
        simp only [expand, run_action_bind, readied, loads, Option.bind_some,
          Plan.ofConfig_withLimit config policy positive, (run_attempt_eq_ok_iff _).mpr ran']
      have told : (Directory.expand patience (.user user primary) policy).run world =
          some (.ok (.success, whole.members), later) := by
        simp [Directory.expand, expanded, goesOn]
      have told' : (Directory.expand patience (.user user primary) (policy.withLimit wanted)).run
          world = some (.ok (if wanted < whole.members.length then .tryAgain else .success,
            whole.members.take wanted), later') := by
        simp [Directory.expand, expanded', cut.members, ← counts]
      exact ⟨distinct, goesOn, told, short, later', expanded', cut.members, counts,
        cut.members ▸ distinct.take wanted, told'⟩

/-- Of two groups the first is given when one is wanted, and the caller is told to ask again. -/
theorem expand_user_limited_pair :
    let world : World (Host Pair.config Pair.reply) := { outside := {} }
    ∃ whole later,
      ({} : Policy).limit = none ∧ 1 ≤ 1 ∧
        (expand 9 (.user "ann" (some 5)) {}).run world = some (.ok whole, later) ∧
        (Directory.expand 9 (.user "ann" (some 5)) {}).run world =
          some (.ok (.success, [.gid 10, .gid 20]), later) ∧
        ∃ later', (Directory.expand 9 (.user "ann" (some 5)) (Policy.withLimit {} 1)).run world =
          some (.ok (.tryAgain, [.gid 10]), later') := by
  intro world
  have counted : ((expand 9 (.user "ann" (some 5)) {}).run world).map
      (fun out => out.1.toOption.map Walk.members) = some (some [.gid 10, .gid 20]) := by
    decide +kernel
  clear_value world
  obtain ⟨⟨result, later⟩, ran, counted⟩ := Option.map_eq_some_iff.mp counted
  cases result with
  | error error => cases counted
  | ok whole =>
    obtain members : whole.members = [.gid 10, .gid 20] := Option.some.inj counted
    obtain ⟨-, -, told, short, later', -, -, -, -, told'⟩ :=
      expand_user_limited rfl (Nat.le_refl 1) ran
    rw [members] at told told'
    exact ⟨whole, later, rfl, Nat.le_refl 1, ran, told, later', told'⟩

end NameService.Membership
