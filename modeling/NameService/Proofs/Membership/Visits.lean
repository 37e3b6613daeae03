import NameService.Directory
import NameService.Proofs.Membership.Closure

/-!
What a walk through groups visits. A name is visited when the members of its group are gone through,
when the groups above it are asked for, or when its netgroup is looked up. The world has a record of
that, to which nothing else adds; a question counts once, whatever searches it takes to answer it.

## Main results

- `walkGroup_visits`, `collect_visits`, `walkNetgroup_visits`: a walk visits names that it has not
  met before, and meets them when it visits them.
- `expand_inOrder`: whatever comes of an expansion, no name is visited twice, and none on a level
  that the policy does not allow.
-/

namespace NameService

open Engine

namespace Visit

def level : Visit → Nat
  | scan level _ | chase level _ | find level _ => level

def names : Visit → List String
  | scan _ name | find _ name => [name]
  | chase _ names => names

end Visit

namespace Membership

/-- No name is visited twice, however it is written, and none beyond a level. -/
structure InOrder (deepest : Nat) (visits : List Visit) : Prop where
  once : ((visits.flatMap Visit.names).map Text.fold).Nodup
  within : ∀ visit ∈ visits, visit.level ≤ deepest

/-- It is so, and a walk knows all names that were visited. -/
structure Kept (deepest : Nat) (walk : Walk) (visits : List Visit) : Prop
    extends InOrder deepest visits where
  met : ∀ visit ∈ visits, ∀ name ∈ visit.names, walk.seen.contains name

/-- What the visits after some others are like. -/
def Since (past : List Visit) (after : List Visit → Prop) (visits : List Visit) : Prop :=
  ∃ added, visits = added ++ past ∧ after added

theorem Since.mono {past visits : List Visit} {before after : List Visit → Prop}
    (since : Since past before visits) (weaker : ∀ added, before added → after added) :
    Since past after visits := by
  obtain ⟨added, same, holds⟩ := since
  exact ⟨added, same, weaker added holds⟩

/-! ### Names that are met -/

theorem nodup_meetAll (names : List String) (walk : Walk) :
    ((walk.meetAll names).1.map Text.fold).Nodup := by
  induction names generalizing walk with
  | nil => exact List.nodup_nil
  | cons name names ih =>
    rw [Walk.meetAll]
    split
    · exact ih walk
    · refine List.nodup_cons.mpr ⟨fun again => ?_, ih _⟩
      -- A name that comes again, if only under another spelling, has been met by then.
      obtain ⟨other, there, same⟩ := List.mem_map.mp again
      have fresh := (Walk.meets_meetAll names (walk.meet name)).fresh other there
      exact fresh (Walk.contains_meet.mpr (.inr same))

namespace Kept

variable {deepest : Nat} {walk later : Walk} {visits past : List Visit}

theorem nil : Kept deepest {} [] := ⟨⟨List.nodup_nil, by simp⟩, by simp⟩

theorem grows (kept : Kept deepest walk visits)
    (grown : ∀ name, walk.seen.contains name → later.seen.contains name) :
    Kept deepest later visits :=
  ⟨kept.toInOrder, fun visit there name among => grown name (kept.met visit there name among)⟩

/-- Names that the walk has not met are visited, and it meets them. -/
theorem visit (kept : Kept deepest walk visits) {visit : Visit} (within : visit.level ≤ deepest)
    (apart : (visit.names.map Text.fold).Nodup)
    (fresh : ∀ name ∈ visit.names, ¬ walk.seen.contains name)
    (seen : ∀ name, later.seen.contains name ↔
      walk.seen.contains name ∨ ∃ other ∈ visit.names, Text.fold name = Text.fold other) :
    Kept deepest later (visit :: visits) where
  once := by
    rw [List.flatMap_cons, List.map_append]
    refine apart.append kept.once ?_
    -- A name that was visited before is known to the walk, however it was written then.
    intro folded now before
    obtain ⟨name, was, rfl⟩ := List.mem_map.mp before
    obtain ⟨other, is, same⟩ := List.mem_map.mp now
    obtain ⟨earlier, there, among⟩ := List.mem_flatMap.mp was
    exact fresh other is (Roster.contains_fold same (kept.met earlier there name among))
  within other there := by
    cases there with
    | head => exact within
    | tail _ before => exact kept.within other before
  met other there name among := by
    cases there with
    | head => exact (seen name).mpr (.inr ⟨name, among, rfl⟩)
    | tail _ before => exact (seen name).mpr (.inl (kept.met other before name among))

/-- One name is visited and met. -/
theorem visit_one (kept : Kept deepest walk visits) {visit : Visit} {name : String}
    (names : visit.names = [name]) (within : visit.level ≤ deepest)
    (fresh : ¬ walk.seen.contains name) : Kept deepest (walk.meet name) (visit :: visits) := by
  refine kept.visit within (by simp [names]) (by simpa [names] using fresh) fun other => ?_
  rw [Walk.contains_meet, names]
  simp

end Kept

/-- The groups above a group are asked for by names that the walk has not met before, and meets
    now. -/
theorem chase_kept {plan : Plan} {entry : Entry} {walk later : Walk} {lookup : Option Lookup}
    {deepest : Nat} {visits : List Visit} (asks : chase plan entry walk = (lookup, later))
    (kept : Kept deepest walk visits) {level : Nat} (within : level ≤ deepest) :
    match lookup with
    | none => Kept deepest later visits
    | some lookup => Kept deepest later (.chase level (asked lookup) :: visits) := by
  unfold chase at asks
  cases direction : plan.policy.direction with
  | forward =>
    rw [direction] at asks
    dsimp only at asks
    split at asks
    · cases asks
      exact kept
    · next fresh =>
      cases asks
      exact kept.visit_one rfl within fresh
  | backlink =>
    rw [direction] at asks
    dsimp only at asks
    have meets := Walk.meets_meetAll (entry.values plan.names.memberOf) walk
    -- One question names several groups; none of them was met before, and none is named twice.
    have apart := nodup_meetAll (entry.values plan.names.memberOf) walk
    generalize walk.meetAll (entry.values plan.names.memberOf) = met at asks meets apart
    obtain ⟨_ | ⟨name, names⟩, met⟩ := met
    · cases asks
      exact kept.grows meets.grows.seen
    · cases asks
      exact kept.visit within apart meets.fresh meets.seen

/-! ### Runs and the record -/

variable {σ : Type} {deepest : Nat} {past : List Visit}

theorem noteVisit_ends (visit : Visit) {after : List Visit → Prop} {world : World σ}
    (since : Since past (fun visits => after (visit :: visits)) world.visits) :
    Ends world (noteVisit visit) fun _ later => Since past after later.visits := by
  obtain ⟨visits, same, noted⟩ := since
  refine .of_run (run_noteVisit world visit) ⟨visit :: visits, ?_, noted⟩
  simp [same]

variable [Service σ]

section Aside

variable (holds : List Visit → Prop)

theorem visits_lasting : World.Lasting fun world : World σ => holds world.visits where
  after _ _ _ kept := kept
  made _ _ kept := kept
  hold _ _ kept := kept
  look _ _ kept := kept
  dropLink _ kept := kept
  clearFork _ kept := kept
  touch _ _ kept := kept
  advance _ kept := kept
  adopt _ _ _ _ kept := kept

theorem entries_aside (lookup : Lookup) :
    Lasts (fun world => holds world.visits) (lookup.entries : Action σ (List Entry)).run :=
  Failover.run_lasts (visits_lasting holds) (lookup.searchOnce_lasts fun _ _ _ kept => kept)

theorem read_aside (name : String) (attributes : List String) :
    Lasts (fun world => holds world.visits)
      (Entry.read name attributes : Action σ (Option Entry)).run :=
  Failover.run_lasts (visits_lasting holds)
    (Entry.readOnce_lasts (fun _ _ _ kept => kept) name attributes)

theorem nextEntry_aside (patience : Nat) (e : Enumeration) :
    Upholds (fun world => holds world.visits)
      (e.nextEntry patience : Engine σ (Except Error (Option Entry) × Enumeration)) := by
  refine Enumeration.nextEntry_endures (fun e => ?_) patience e
  exact (e.fetch_lasts (visits_lasting holds) (fun _ _ _ kept => kept)
    fun _ _ _ kept => kept).upholds

end Aside

/-! ### Walks -/

/-- How a walk leaves the record. Of one that was broken off nothing is known but its visits. -/
def Leaves (deepest : Nat) (past : List Visit) : Except Panic Walk → World σ → Prop
  | .ok walk, world => Since past (Kept deepest walk) world.visits
  | .error _, world => Since past (InOrder deepest) world.visits

theorem walkGroup_visits (plan : Plan) (levels level : Nat) (entry : Entry) (walk : Walk)
    (left : level + levels ≤ deepest + 1) {world : World σ}
    (kept : Since past (Kept deepest walk) world.visits) :
    Ends world (walkGroup plan levels level entry walk).run (Leaves deepest past) := by
  induction levels generalizing level entry walk world with
  | zero => exact .pure kept
  | succ levels ih =>
    rw [walkGroup]
    split
    · exact .pure kept
    next fresh =>
    -- The group is met when it is visited, so that no member can lead back to it.
    have scanned : Since past (fun visits => Kept deepest (walk.meet entry.name)
        (.scan level entry.name :: visits)) world.visits :=
      kept.mono fun visits kept => kept.visit_one rfl (by simp only [Visit.level]; omega) fresh
    refine (noteVisit_ends _ scanned).lift_bind fun _ noted kept => ?_
    have lists := memberNames_lasts
      (read_aside (σ := σ) (Since past (Kept deepest (walk.meet entry.name)))) plan entry
    refine (lists.ends kept).action_bind ?_ ?_
    · intro names later kept
      refine .action_bind (?_ : Ends later _ (Leaves deepest past)) ?_ ?_
      · refine Ends.action_foldlM ?_ names kept
        intro walk value world kept
        have resolves := resolve_lasts
          (read_aside (σ := σ) (Since past (Kept deepest walk))) (fun _ _ _ kept => kept)
          plan (DistinguishedName.withoutUid value)
        refine (resolves.ends kept).lift_bind fun result later kept => ?_
        split
        · exact .pure (kept.mono fun visits kept => kept.grows (Walk.grows_add walk _).seen)
        · split
          · exact ih _ _ walk (by omega) kept
          · exact .pure kept
        · exact .pure kept
        · exact .pure kept
      · intro walk last kept
        exact .pure (kept.mono fun visits kept => kept.grows (addUsers_grows _ walk).seen)
      · intro panic last left
        exact left
    · intro panic later kept
      exact kept.mono fun visits kept => kept.toInOrder

theorem collect_visits (plan : Plan) (primary : Option Nat) (levels level : Nat) (entry : Entry)
    (walk : Walk) (left : level + levels ≤ deepest) {world : World σ}
    (kept : Since past (Kept deepest walk) world.visits) :
    Ends world (collect plan primary levels level entry walk) fun later last =>
      Since past (Kept deepest later) last.visits := by
  induction levels generalizing level entry walk world with
  | zero =>
    rw [collect]
    split
    · exact .pure kept
    · exact .pure (kept.mono fun visits kept => kept.grows (own_grows entry walk).seen)
  | succ levels ih =>
    rw [collect]
    split
    · exact .pure kept
    have counted : Since past (Kept deepest (own plan primary entry walk)) world.visits :=
      kept.mono fun visits kept => kept.grows (own_grows entry walk).seen
    dsimp only
    split
    · exact .pure counted
    generalize asks : chase plan entry _ = asking
    have within : level + 1 ≤ deepest := by omega
    obtain ⟨_ | lookup, walk⟩ := asking
    · exact .pure (counted.mono fun visits kept => chase_kept asks kept within)
    · have chased : Since past (fun visits =>
          Kept deepest walk (.chase (level + 1) (asked lookup) :: visits)) world.visits :=
        counted.mono fun visits kept => chase_kept asks kept within
      refine (noteVisit_ends _ chased).bind fun _ noted kept => ?_
      refine ((entries_aside _ lookup).ends kept).bind fun result later kept => ?_
      -- The names stay met even if the question about them fails.
      cases result with
      | error error => exact .pure kept
      | ok entries =>
        refine Ends.foldlM ?_ entries kept
        intro walk entry world kept
        exact ih _ entry walk (by omega) kept

theorem lookUp_visits (plan : Plan) {level : Nat} (within : level ≤ deepest) {name : String}
    {walk : Walk} (fresh : ¬ walk.seen.contains name) {world : World σ}
    (kept : Since past (Kept deepest walk) world.visits) :
    Ends world (lookUp plan level name).run fun _ later =>
      Since past (Kept deepest (walk.meet name)) later.visits := by
  have found : Since past (fun visits => Kept deepest (walk.meet name)
      (.find level name :: visits)) world.visits :=
    kept.mono fun visits kept => kept.visit_one rfl within fresh
  refine (noteVisit_ends _ found).lift_bind fun _ noted kept => ?_
  exact (entries_aside _ _).ends kept

/-- The members of a netgroup that the walk has met, each visited if it is one for the walk. -/
theorem members_visit {plan : Plan} {levels level : Nat}
    (walks : ∀ {name : String} {walk : Walk} {world : World σ},
      Since past (Kept deepest walk) world.visits →
      Ends world (walkNetgroup plan levels level name none walk) fun later last =>
        Since past (Kept deepest later) last.visits)
    (members : List Netgroup.Member) {walk : Walk} {world : World σ}
    (kept : Since past (Kept deepest walk) world.visits) :
    Ends world (members.foldlM (fun walk member =>
      match member with
      | .triple triple => return walk.add (.triple triple)
      | .group child =>
        if plan.policy.nested then walkNetgroup plan levels level child none walk
        else return walk) walk) fun later last => Since past (Kept deepest later) last.visits := by
  refine Ends.foldlM ?_ members kept
  intro walk member world kept
  cases member with
  | triple triple =>
    exact .pure (kept.mono fun visits kept => kept.grows (Walk.grows_add walk _).seen)
  | group child =>
    dsimp only
    split
    · exact walks kept
    · exact .pure kept

theorem walkNetgroup_visits (plan : Plan) (levels level : Nat) (name : String) (walk : Walk)
    (left : level + levels ≤ deepest + 1) {world : World σ}
    (kept : Since past (Kept deepest walk) world.visits) :
    Ends world (walkNetgroup plan levels level name none walk) fun later last =>
      Since past (Kept deepest later) last.visits := by
  induction levels generalizing level name walk world with
  | zero => exact .pure kept
  | succ levels ih =>
    rw [walkNetgroup]
    split
    · exact .pure kept
    next fresh =>
    have within : level ≤ deepest := by omega
    have looked : Ends world (netgroup plan level name none) fun _ later =>
        Since past (Kept deepest (walk.meet name)) later.visits := by
      refine (lookUp_visits plan within fresh kept).bind fun result later kept => ?_
      cases result <;> exact .pure kept
    refine looked.bind fun found later kept => ?_
    cases found with
    | none => exact .pure kept
    | some entry => exact members_visit (fun kept => ih _ _ _ (by omega) kept) _ kept

/-! ### Expansions -/

section Expansions

/-- Before an expansion has begun its walk has visited nothing. -/
theorem since_start (deepest : Nat) (visits : List Visit) :
    Since visits (Kept deepest {}) visits :=
  ⟨[], rfl, .nil⟩

theorem Since.inOrder {walk : Walk} {visits : List Visit}
    (kept : Since past (Kept deepest walk) visits) : Since past (InOrder deepest) visits :=
  kept.mono fun _ kept => kept.toInOrder

theorem expandGroup_inOrder (plan : Plan) (name : String) (world : World σ) :
    Ends world (expandGroup plan name).run fun _ later =>
      Since world.visits (InOrder plan.policy.maxDepth) later.visits := by
  refine ((read_aside _ name _).attempt.ends (since_start plan.policy.maxDepth _)).action_bind ?_ ?_
  · intro found later kept
    cases found with
    | none => exact .of_run (run_throw later _) kept.inOrder
    | some entry =>
      apply Ends.map
      refine (walkGroup_visits plan _ 0 entry {} (by omega) kept).mono fun result last left => ?_
      cases result with
      | error panic => exact left
      | ok walk => exact left.inOrder
  · intro error later kept
    exact kept.inOrder

theorem collectAll_inOrder (plan : Plan) (primary : Option Nat) (patience rounds : Nat)
    (e : Enumeration) (walk : Walk) {world : World σ}
    (kept : Since past (Kept plan.policy.maxDepth walk) world.visits) :
    Ends world (collectAll plan primary patience rounds e walk) fun _ later =>
      Since past (InOrder plan.policy.maxDepth) later.visits := by
  induction rounds generalizing e walk world with
  | zero =>
    intro _ _ ran
    cases ran
  | succ rounds ih =>
    rw [collectAll]
    refine (nextEntry_aside _ patience e world kept).bind fun out later kept => ?_
    split
    · exact .pure kept.inOrder
    · exact .pure kept.inOrder
    · refine (collect_visits plan primary _ 0 _ walk (by omega) kept).bind fun walk last kept => ?_
      split
      · exact .pure kept.inOrder
      · exact ih _ walk kept

theorem collectAnswer_inOrder (plan : Plan) (primary : Option Nat) (patience : Nat)
    (lookup : Lookup) {world : World σ}
    (kept : Since past (Kept plan.policy.maxDepth {}) world.visits) :
    Ends world (collectAnswer plan primary patience lookup) fun _ later =>
      Since past (InOrder plan.policy.maxDepth) later.visits := by
  have starts := Enumeration.start_lasts {} lookup
    (visits_lasting (σ := σ) (Since past (Kept plan.policy.maxDepth {}))) fun _ _ _ kept => kept
  refine (starts.ends kept).bind fun out later kept => ?_
  split
  · exact .pure kept.inOrder
  · exact .pure kept.inOrder
  · exact collectAll_inOrder plan primary patience patience _ {} kept

theorem expandUser_inOrder (plan : Plan) (patience : Nat) (user : String)
    (primary : Option Nat) (world : World σ) :
    Ends world (expandUser plan patience user primary).run fun _ later =>
      Since world.visits (InOrder plan.policy.maxDepth) later.visits := by
  have start := since_start plan.policy.maxDepth world.visits
  rw [expandUser_eq]
  split
  · exact .of_run (run_throw world _) start.inOrder
  refine ((question_lasts (entries_aside _) plan user).ends start).action_bind ?_ ?_
  · intro lookup later kept
    refine (collectAnswer_inOrder plan primary patience lookup kept).bind fun out last ordered => ?_
    -- The end of the enumeration is told to the server, which is no visit.
    have stops := out.2.stop_lasts (visits_lasting (σ := σ)
      (Since world.visits (InOrder plan.policy.maxDepth))).toTended
    exact (stops.ends ordered).bind fun _ _ ordered => .pure ordered
  · intro error later kept
    exact kept.inOrder

/-- The first netgroup is looked up before the walk, which then visits its members only. -/
theorem expandNetgroup_inOrder (plan : Plan) (name : String) (world : World σ) :
    Ends world (expandNetgroup plan name).run fun _ later =>
      Since world.visits (InOrder plan.policy.maxDepth) later.visits := by
  have fresh : ¬ ({} : Walk).seen.contains name := by simp [Roster.contains]
  have start := since_start plan.policy.maxDepth world.visits
  refine (lookUp_visits plan (Nat.zero_le _) fresh start).action_bind ?_ ?_
  · intro entries later kept
    cases entries.head? with
    | none => exact .of_run (run_throw later _) kept.inOrder
    | some entry =>
      apply Ends.lift
      rw [walkNetgroup]
      split
      · exact .pure kept.inOrder
      · refine (members_visit (fun kept => ?_) _ kept).mono fun _ _ kept => kept.inOrder
        exact walkNetgroup_visits plan plan.policy.maxDepth 1 _ _ (by omega) kept
  · intro error later kept
    exact kept.inOrder

/-- Whatever comes of an expansion. -/
theorem expand_inOrder (patience : Nat) (seed : Seed) (policy : Policy) (world : World σ) :
    Ends world (expand patience seed policy).run fun _ later =>
      Since world.visits (InOrder policy.maxDepth) later.visits := by
  have ready := Session.ensureReady_lasts (visits_lasting (σ := σ) (· = world.visits))
  have reads : Lasts (fun later : World σ => later.visits = world.visits)
      (config : Action σ Config).run := .config
  have nothing {later : World σ} (same : later.visits = world.visits) :
      Since world.visits (InOrder policy.maxDepth) later.visits :=
    ⟨[], same, Kept.nil.toInOrder⟩
  refine (ready.attempt.ends rfl).action_bind ?_ ?_
  · intro _ later same
    refine (reads.attempt.ends same).action_bind ?_ ?_
    · intro config later same
      rw [← same]
      cases seed with
      | group name => exact expandGroup_inOrder _ name later
      | user name primary => exact (expandUser_inOrder _ patience name primary later).map _
      | netgroup name => exact (expandNetgroup_inOrder _ name later).map _
    · intro error later same
      exact nothing same
  · intro error later same
    exact nothing same

end Expansions

end Membership

end NameService
