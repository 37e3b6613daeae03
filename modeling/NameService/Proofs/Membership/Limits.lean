import NameService.Proofs.Membership.Reachability

/-!
How deep a walk through groups goes. A walk may go down a number of levels, and enters no group
twice. The two limits get in each other's way: a group that is first met at the last level is not
gone into there, and not again where it is met nearer to the start.

A group is cut off in another one if a way that uses up all levels leads to that one, past nothing
of the group's name. A directory is `Clear` down to a depth if every group that is not too deep can
be come to by steps of which none is cut off. There a walk finds all that is not too deep, in
whatever order groups list their members.

## Main results

- `Membership.mem_tour_iff`: what a walk finds in a clear directory.
- `Membership.expand_group_clear`: what comes of the question for the members of a group there.
- `Membership.expand_group_detour`: a member that is not too deep and is not found.
-/

namespace NameService.Membership

open DistinguishedName (withoutUid)

variable {catalogue : Catalogue} {plan : Plan}

section Ways

variable (catalogue plan)

/-- A way down from a group that meets no name twice: the names of the groups it has passed, the
    last one first, and the group it has come to. -/
inductive Descent (seed : Entry) : List String → Entry → Prop
  | here : Descent seed [] seed
  | step {above : List String} {group inner : Entry} (way : Descent seed above group)
    (nests : Nests catalogue plan group inner) (new : inner.name ∉ group.name :: above) :
    Descent seed (group.name :: above) inner

/-- A group is in another one and may not be gone into from there, because a walk can get there with
    no level left. -/
def CutOff (seed : Entry) (deepest : Nat) (group inner : Entry) : Prop :=
  ∃ above, Descent catalogue plan seed above group ∧ above.length = deepest ∧
    inner.name ∉ group.name :: above

/-- A group that a walk comes to in any case: it is in such a group, and is not cut off there. -/
inductive Sure (seed : Entry) (deepest : Nat) : Entry → Prop
  | here : Sure seed deepest seed
  | step {group inner : Entry} (sure : Sure seed deepest group)
    (nests : Nests catalogue plan group inner)
    (kept : ¬ CutOff catalogue plan seed deepest group inner) : Sure seed deepest inner

/-- A walk comes in any case to all groups that are not too deep. -/
def Clear (seed : Entry) (deepest : Nat) : Prop :=
  ∀ depth ≤ deepest, ∀ group, Below (Nests catalogue plan) seed depth group →
    Sure catalogue plan seed deepest group

end Ways

theorem Descent.toBelow {seed group : Entry} {above : List String}
    (way : Descent catalogue plan seed above group) :
    Below (Nests catalogue plan) seed above.length group := by
  induction way with
  | here => exact .here
  | step _ nests _ below => exact below.step nests

theorem Sure.mem_allBelow {seed group : Entry} {deepest : Nat}
    (sure : Sure catalogue plan seed deepest group) :
    group ∈ allBelow (Nests catalogue plan) seed := by
  induction sure with
  | here => exact ⟨0, .here⟩
  | step _ nests _ ih =>
    obtain ⟨depth, below⟩ := ih
    exact ⟨depth + 1, below.step nests⟩

/-- Nothing is cut off where every group is at one depth only. -/
theorem clear_of_depth_unique {seed : Entry} (deepest : Nat)
    (unique : ∀ depth depth' group, Below (Nests catalogue plan) seed depth group →
      Below (Nests catalogue plan) seed depth' group → depth = depth') :
    Clear catalogue plan seed deepest := by
  intro depth near group below
  induction below with
  | here => exact .here
  | @step depth group inner below nests ih =>
    refine (ih (by omega)).step nests ?_
    rintro ⟨above, way, length, -⟩
    have same := unique _ _ _ way.toBelow below
    omega

/-! ### The walk -/

/-- Nothing of a group is missing but what is cut off. -/
structure Settled (catalogue : Catalogue) (plan : Plan) (seed : Entry) (deepest : Nat) (walk : Walk)
    (group : Entry) : Prop where
  users : ∀ uid, HasUser catalogue plan group uid → Member.user uid ∈ walk.members
  groups : ∀ inner, Nests catalogue plan group inner →
    walk.seen.contains inner.name ∨ CutOff catalogue plan seed deepest group inner

theorem Settled.grows {seed group : Entry} {deepest : Nat} {walk later : Walk}
    (settled : Settled catalogue plan seed deepest walk group) (grows : walk.Grows later) :
    Settled catalogue plan seed deepest later group where
  users uid has := grows.members _ (settled.users uid has)
  groups inner nests := (settled.groups inner nests).imp_left (grows.seen _)

/-- All groups that have been met are settled, but for those that the walk is still in. -/
structure Orderly (catalogue : Catalogue) (plan : Plan) (seed : Entry) (deepest : Nat)
    (above : List String) (walk : Walk) : Prop where
  settled : ∀ group ∈ allBelow (Nests catalogue plan) seed, walk.seen.contains group.name →
    group.name ∉ above → Settled catalogue plan seed deepest walk group
  met : ∀ name ∈ above, walk.seen.contains name

/-- A name that a group lists has had its effect, unless it stands for a group that is cut off. -/
def Weighed (cut : Entry → Prop) (walk : Walk) : Resolved → Prop
  | .user uid => .user uid ∈ walk.members
  | .group inner => walk.seen.contains inner.name ∨ cut inner
  | .unknown => True

theorem Weighed.grows {cut : Entry → Prop} {walk later : Walk} (grows : walk.Grows later) :
    ∀ {is : Resolved}, Weighed cut walk is → Weighed cut later is
  | .user _, there => grows.members _ there
  | .group _, met => met.imp_left (grows.seen _)
  | .unknown, _ => trivial

/-- A group is settled when all names that it lists have had their effect and its users are
    added. -/
theorem Settled.of_weighed {seed group : Entry} {deepest : Nat} {walk : Walk}
    (weighed : ∀ value ∈ group.values plan.names.uniqueMember,
      Weighed (CutOff catalogue plan seed deepest group) walk
        (stands catalogue plan (withoutUid value))) :
    Settled catalogue plan seed deepest (addUsers (group.values plan.names.memberUid) walk)
      group where
  users uid has := by
    refine users_addUsers (fun value listed uid is => ?_) has
    have there := weighed value listed
    rwa [is] at there
  groups := by
    rintro inner ⟨value, listed, found, member⟩
    have is : stands catalogue plan (withoutUid value) = .group inner := by
      simp [stands, found, member]
    have there := weighed value listed
    rw [is] at there
    exact there.imp_left ((addUsers_grows _ _).seen _)

theorem Orderly.of_seen {seed : Entry} {deepest : Nat} {above : List String} {walk later : Walk}
    (orderly : Orderly catalogue plan seed deepest above walk) (grows : walk.Grows later)
    (same : later.seen = walk.seen) : Orderly catalogue plan seed deepest above later where
  settled group among met outside :=
    (orderly.settled group among (same ▸ met) outside).grows grows
  met name passed := grows.seen _ (orderly.met name passed)

/-- A group that has been met is not gone into. -/
theorem tour_of_seen {entry : Entry} {walk : Walk} (met : walk.seen.contains entry.name) :
    ∀ levels, tour catalogue plan levels entry walk = walk
  | 0 => rfl
  | _ + 1 => by rw [tour, if_pos met]

/-- Groups below one that is in the catalogue are told apart by their names. -/
theorem eq_of_mem_allBelow {seed group other : Entry}
    (seeded : ∃ name, catalogue.entry? name = some seed)
    (among : group ∈ allBelow (Nests catalogue plan) seed)
    (among' : other ∈ allBelow (Nests catalogue plan) seed)
    (same : Text.fold group.name = Text.fold other.name) : group = other := by
  obtain ⟨depth, below⟩ := among
  obtain ⟨depth', below'⟩ := among'
  obtain ⟨name, found⟩ := below.found seeded
  obtain ⟨name', found'⟩ := below'.found seeded
  exact catalogue.eq_of_fold found found' same

section Completeness

variable (nested : plan.policy.nested) {seed : Entry}
  (seeded : ∃ name, catalogue.entry? name = some seed) {deepest : Nat}
include nested seeded

omit nested in
theorem Orderly.meet {above : List String} {walk : Walk} {entry : Entry}
    (among : entry ∈ allBelow (Nests catalogue plan) seed)
    (orderly : Orderly catalogue plan seed deepest above walk) :
    Orderly catalogue plan seed deepest (entry.name :: above) (walk.meet entry.name) := by
  have grows := walk.grows_meet entry.name
  constructor
  · intro group there met outside
    rw [List.mem_cons, not_or] at outside
    rcases Roster.contains_add.mp met with met | same
    · exact (orderly.settled group there met outside.2).grows grows
    · exact absurd (congrArg Entry.name (eq_of_mem_allBelow seeded there among same)) outside.1
  · intro name passed
    rcases List.mem_cons.mp passed with rfl | passed
    · exact Roster.contains_add.mpr (.inr rfl)
    · exact grows.seen _ (orderly.met name passed)

omit nested in
/-- The walk is no longer inside of a group that it has settled. -/
theorem Orderly.leave {above : List String} {walk : Walk} {entry : Entry}
    (among : entry ∈ allBelow (Nests catalogue plan) seed)
    (orderly : Orderly catalogue plan seed deepest (entry.name :: above) walk)
    (settled : Settled catalogue plan seed deepest walk entry) :
    Orderly catalogue plan seed deepest above walk := by
  refine ⟨fun group there met outside => ?_, fun name passed =>
    orderly.met name (List.mem_cons_of_mem _ passed)⟩
  by_cases this : group = entry
  · exact this ▸ settled
  · refine orderly.settled group there met ?_
    rw [List.mem_cons, not_or]
    refine ⟨fun same => this ?_, outside⟩
    exact eq_of_mem_allBelow seeded there among (congrArg Text.fold same)

omit seeded in
/-- One name that a group lists. The way the walk has come and the levels it has left make up the
    depth it may go to, so it is only where a way uses up all levels that a group is met and not
    gone into. -/
theorem enter_orderly {levels : Nat} {entry : Entry} {above : List String}
    (way : Descent catalogue plan seed above entry) (depth : above.length + levels = deepest)
    {value : String} (listed : value ∈ entry.values plan.names.uniqueMember) {walk : Walk}
    (orderly : Orderly catalogue plan seed deepest (entry.name :: above) walk)
    (inward : ∀ inner, Descent catalogue plan seed (entry.name :: above) inner →
      Orderly catalogue plan seed deepest (entry.name :: above)
          (tour catalogue plan levels inner walk) ∧
        (levels ≠ 0 → (tour catalogue plan levels inner walk).seen.contains inner.name)) :
    let is := stands catalogue plan (withoutUid value)
    let later := enter plan (tour catalogue plan levels) walk is
    Orderly catalogue plan seed deepest (entry.name :: above) later ∧ walk.Grows later ∧
      Weighed (CutOff catalogue plan seed deepest entry) later is := by
  cases is : stands catalogue plan (withoutUid value) with
  | user uid =>
    have grows := walk.grows_add (.user uid)
    exact ⟨orderly.of_seen grows (walk.seen_add _), grows, Walk.mem_add.mpr (.inr rfl)⟩
  | group inner =>
    have nests : Nests catalogue plan entry inner := ⟨value, listed, stands_eq_group is⟩
    simp only [enter, nested, if_true]
    by_cases passed : inner.name ∈ entry.name :: above
    · -- The walk is inside of this group already.
      have met := orderly.met _ passed
      rw [tour_of_seen met]
      exact ⟨orderly, .refl walk, .inl met⟩
    · obtain ⟨kept, entered⟩ := inward inner (way.step nests passed)
      refine ⟨kept, tour_grows levels inner walk, ?_⟩
      by_cases last : levels = 0
      · -- The way here has used up all levels, and this is what being cut off is.
        exact .inr ⟨above, way, by omega, passed⟩
      · exact .inl (entered last)
  | unknown => exact ⟨orderly, .refl walk, trivial⟩

/-- A walk leaves order behind, and has met the group that it was sent to. -/
theorem tour_orderly : ∀ {levels : Nat} {entry : Entry} {walk : Walk} {above : List String},
    Descent catalogue plan seed above entry → above.length + levels = deepest + 1 →
    Orderly catalogue plan seed deepest above walk →
    Orderly catalogue plan seed deepest above (tour catalogue plan levels entry walk) ∧
      (levels ≠ 0 → (tour catalogue plan levels entry walk).seen.contains entry.name)
  | 0, _, _, _, _, _, orderly => ⟨orderly, fun positive => absurd rfl positive⟩
  | levels + 1, entry, walk, above, way, depth, orderly => by
    by_cases old : walk.seen.contains entry.name
    · rw [tour_of_seen old]
      exact ⟨orderly, fun _ => old⟩
    have among : entry ∈ allBelow (Nests catalogue plan) seed := ⟨_, way.toBelow⟩
    have left : (entry.name :: above).length + levels = deepest + 1 := by
      rw [List.length_cons]
      omega
    rw [tour, if_neg old]
    -- Every member is weighed on the way, and what has been weighed stays so when the walk grows.
    obtain ⟨orderly, -, weighed⟩ := foldl_each
      (fun value walk => Weighed (CutOff catalogue plan seed deepest entry) walk
        (stands catalogue plan (withoutUid value)))
      (fun _ _ _ grows weighed => weighed.grows grows) _ _
      (fun value listed walk orderly =>
        enter_orderly nested way (by omega) listed orderly
          fun inner further => tour_orderly further left orderly)
      (orderly.meet seeded among)
    have orderly := orderly.of_seen (addUsers_grows (entry.values plan.names.memberUid) _)
      (addUsers_seen _ _)
    have met := orderly.met entry.name List.mem_cons_self
    exact ⟨orderly.leave seeded among (.of_weighed weighed), fun _ => met⟩

/-- In a clear directory a walk finds the users of all groups that are not too deep, and no
    others. -/
theorem mem_tour_iff (clear : Clear catalogue plan seed deepest) (uid : String) :
    Member.user uid ∈ (tour catalogue plan (deepest + 1) seed {}).members ↔
      ∃ depth ≤ deepest, ∃ group,
        Below (Nests catalogue plan) seed depth group ∧ HasUser catalogue plan group uid := by
  constructor
  · intro there
    obtain ⟨_, same, found⟩ := tour_sound seed deepest _ there
    cases same
    exact found
  rintro ⟨depth, near, group, below, has⟩
  have start : Orderly catalogue plan seed deepest [] {} :=
    ⟨fun group _ met => by simp [Roster.contains] at met, nofun⟩
  have all : ([] : List String).length + (deepest + 1) = deepest + 1 := Nat.zero_add _
  obtain ⟨orderly, entered⟩ := tour_orderly nested seeded .here all start
  have settled : ∀ {group}, group ∈ allBelow (Nests catalogue plan) seed →
      (tour catalogue plan (deepest + 1) seed {}).seen.contains group.name →
      Settled catalogue plan seed deepest (tour catalogue plan (deepest + 1) seed {}) group :=
    fun among met => orderly.settled _ among met (by simp)
  -- A group that is settled hands the walk on to all that is not cut off in it.
  have met : ∀ {group}, Sure catalogue plan seed deepest group →
      (tour catalogue plan (deepest + 1) seed {}).seen.contains group.name := by
    intro group sure
    induction sure with
    | here => exact entered (by simp)
    | step sure nests kept ih =>
      exact ((settled sure.mem_allBelow ih).groups _ nests).resolve_right kept
  have sure := clear depth near group below
  exact (settled sure.mem_allBelow (met sure)).users uid has

end Completeness

/-! ### Lists in another order -/

/-- The same entry, with its members listed in another order. -/
structure Relists (plan : Plan) (entry other : Entry) : Prop where
  name : other.name = entry.name
  members : (other.values plan.names.uniqueMember).Perm (entry.values plan.names.uniqueMember)
  uids : (other.values plan.names.memberUid).Perm (entry.values plan.names.memberUid)
  uid : other.first? plan.names.uid = entry.first? plan.names.uid
  isGroup : other.hasClass plan.names.posixGroup = entry.hasClass plan.names.posixGroup
  range : other.range? plan.names.uniqueMember = entry.range? plan.names.uniqueMember

theorem Relists.refl (plan : Plan) (entry : Entry) : Relists plan entry entry :=
  ⟨rfl, .refl _, .refl _, rfl, rfl, rfl⟩

theorem Relists.symm {entry other : Entry} (relists : Relists plan entry other) :
    Relists plan other entry where
  name := relists.name.symm
  members := relists.members.symm
  uids := relists.uids.symm
  uid := relists.uid.symm
  isGroup := relists.isGroup.symm
  range := relists.range.symm

end NameService.Membership

namespace NameService

/-- Two catalogues of the same entries, with members in other orders. -/
def Catalogue.Relists (plan : Membership.Plan) (catalogue other : Catalogue) : Prop :=
  ∀ name, Option.Rel (Membership.Relists plan) (catalogue.entry? name) (other.entry? name)

namespace Catalogue.Relists

variable {plan : Membership.Plan} {catalogue other : Catalogue}

theorem exists_entry (relists : catalogue.Relists plan other) {name : String} {entry : Entry}
    (found : catalogue.entry? name = some entry) :
    ∃ entry', other.entry? name = some entry' ∧ Membership.Relists plan entry entry' := by
  have related := relists name
  rw [found] at related
  cases found' : other.entry? name with
  | none =>
    rw [found'] at related
    cases related
  | some entry' =>
    rw [found'] at related
    cases related with
    | some same => exact ⟨entry', rfl, same⟩

theorem symm (relists : catalogue.Relists plan other) : other.Relists plan catalogue := by
  intro name
  have related := relists name
  cases found : catalogue.entry? name <;> cases found' : other.entry? name <;>
    rw [found, found'] at related <;> cases related
  · exact .none
  · next same => exact .some same.symm

/-- Entries that relist each other one by one make catalogues that do. -/
theorem ofEntries {entries others : List Entry}
    (each : List.Forall₂ (Membership.Relists plan) entries others) :
    (Catalogue.ofEntries entries).Relists plan (Catalogue.ofEntries others) := by
  intro name
  change Option.Rel _ (entries.find? _) (others.find? _)
  induction each with
  | nil => exact .none
  | @cons entry entry' entries others same _ ih =>
    rw [List.find?_cons, List.find?_cons, same.name]
    cases Text.same entry.name name
    · exact ih
    · exact .some same

end Catalogue.Relists

namespace Membership

open DistinguishedName (withoutUid)

section

variable {catalogue other : Catalogue} {plan : Plan} {seed seed' group group' : Entry}

section Relisting

variable (relists : catalogue.Relists plan other)
include relists

theorem Nests.relist {inner : Entry} (same : Relists plan group group')
    (nests : Nests catalogue plan group inner) :
    ∃ inner', Relists plan inner inner' ∧ Nests other plan group' inner' := by
  obtain ⟨value, listed, found, member⟩ := nests
  obtain ⟨inner', found', alike⟩ := relists.exists_entry found
  exact ⟨inner', alike, value, same.members.mem_iff.mpr listed, found', alike.isGroup ▸ member⟩

theorem HasUser.relist (same : Relists plan group group') {uid : String}
    (has : HasUser catalogue plan group uid) : HasUser other plan group' uid := by
  rcases has with listed | ⟨value, listed, entry, found, noGroup, first⟩
  · exact .inl (same.uids.mem_iff.mpr listed)
  · obtain ⟨entry', found', alike⟩ := relists.exists_entry found
    exact .inr ⟨value, same.members.mem_iff.mpr listed, entry', found', alike.isGroup ▸ noGroup,
      alike.uid ▸ first⟩

theorem Below.relist (same : Relists plan seed seed') {depth : Nat}
    (below : Below (Nests catalogue plan) seed depth group) :
    ∃ group', Relists plan group group' ∧ Below (Nests other plan) seed' depth group' := by
  induction below with
  | here => exact ⟨seed', same, .here⟩
  | step _ nests ih =>
    obtain ⟨between, alike, below⟩ := ih
    obtain ⟨inner', alike, nests⟩ := nests.relist relists alike
    exact ⟨inner', alike, below.step nests⟩

theorem Descent.relist (same : Relists plan seed seed') {above : List String}
    (way : Descent catalogue plan seed above group) :
    ∃ group', Relists plan group group' ∧ Descent other plan seed' above group' := by
  induction way with
  | here => exact ⟨seed', same, .here⟩
  | step _ nests new ih =>
    obtain ⟨between, alike, way⟩ := ih
    obtain ⟨inner', alike', nests⟩ := nests.relist relists alike
    rw [← alike.name, ← alike'.name] at new
    exact ⟨inner', alike', alike.name ▸ way.step nests new⟩

theorem CutOff.relist (seeded : ∃ name, other.entry? name = some seed')
    (same : Relists plan seed seed') {deepest : Nat} {inner inner' : Entry}
    (alike : Relists plan group group') (alike' : Relists plan inner inner')
    (among : group' ∈ allBelow (Nests other plan) seed')
    (cut : CutOff catalogue plan seed deepest group inner) :
    CutOff other plan seed' deepest group' inner' := by
  obtain ⟨above, way, length, new⟩ := cut
  obtain ⟨twin, twin_alike, way⟩ := way.relist relists same
  have one : twin = group' := by
    apply eq_of_mem_allBelow seeded ⟨_, way.toBelow⟩ among
    rw [twin_alike.name, alike.name]
  subst one
  exact ⟨above, way, length, by rwa [alike.name, alike'.name]⟩

theorem Sure.relist (seeded : ∃ name, catalogue.entry? name = some seed)
    (same : Relists plan seed seed') {deepest : Nat}
    (sure : Sure catalogue plan seed deepest group) :
    ∃ group', Relists plan group group' ∧ Sure other plan seed' deepest group' := by
  induction sure with
  | here => exact ⟨seed', same, .here⟩
  | step sure nests kept ih =>
    obtain ⟨between, alike, sure'⟩ := ih
    obtain ⟨inner', alike', nests'⟩ := nests.relist relists alike
    refine ⟨inner', alike', sure'.step nests' fun cut => kept ?_⟩
    exact cut.relist relists.symm seeded same.symm alike.symm alike'.symm sure.mem_allBelow

/-- Whether a directory is clear does not depend on orders. -/
theorem Clear.relist (seeded : ∃ name, catalogue.entry? name = some seed)
    (seeded' : ∃ name, other.entry? name = some seed') (same : Relists plan seed seed')
    {deepest : Nat} (clear : Clear catalogue plan seed deepest) :
    Clear other plan seed' deepest := by
  intro depth near group' below'
  obtain ⟨group, alike, below⟩ := below'.relist relists.symm same.symm
  obtain ⟨twin, twin_alike, sure⟩ := (clear depth near group below).relist relists seeded same
  have one : twin = group' := by
    apply eq_of_mem_allBelow seeded' sure.mem_allBelow ⟨_, below'⟩
    rw [twin_alike.name, alike.name]
  exact one ▸ sure

end Relisting

/-! ### The question for the members of a group -/

section Expansion

open Engine

variable {config : Config} {policy : Policy}

/-- In a clear directory the answer holds the users of all groups that are not too deep and no
    others, whatever order the groups list their members in. -/
theorem expand_group_clear {σ : Type} [Service σ]
    (consults : Service.Consults σ config (Plan.ofConfig config policy).memberAttributes catalogue)
    (unranged : ∀ name entry, catalogue.entry? name = some entry →
      entry.range? (Plan.ofConfig config policy).names.uniqueMember = none)
    (nested : policy.nested) (patience : Nat) {name : String}
    (seeded : catalogue.entry? name = some seed)
    (clear : Clear catalogue (.ofConfig config policy) seed policy.maxDepth) (world : World σ)
    (start : world.session.Informed config (.ofConfig config policy) catalogue) :
    let plan := Plan.ofConfig config policy
    ∃ walk later, (expand patience (.group name) policy).run world = some (.ok walk, later) ∧
      (∀ uid, .user uid ∈ walk.members ↔ ∃ depth ≤ policy.maxDepth, ∃ group,
        Below (Nests catalogue plan) seed depth group ∧ HasUser catalogue plan group uid) ∧
      ∀ (τ : Type) [Service τ] (other : Catalogue), catalogue.Relists plan other →
        Service.Consults τ config plan.memberAttributes other → ∀ world' : World τ,
        world'.session.Informed config plan other →
        ∃ walk' later', (expand patience (.group name) policy).run world' =
            some (.ok walk', later') ∧
          ∀ uid, .user uid ∈ walk'.members ↔ .user uid ∈ walk.members := by
  intro plan
  obtain ⟨later, ran⟩ := run_expand_group_of_informed consults unranged patience name world start
  rw [seeded] at ran
  have found := mem_tour_iff nested ⟨name, seeded⟩ clear
  refine ⟨_, later, ran, found, ?_⟩
  intro τ _ other relists consults' world' start'
  -- The other directory has the same lists, and what the first one fulfils is true of it as well.
  have unranged' : ∀ name entry, other.entry? name = some entry →
      entry.range? plan.names.uniqueMember = none := by
    intro name entry' found'
    obtain ⟨entry, there, alike⟩ := relists.symm.exists_entry found'
    rw [← alike.range]
    exact unranged name entry there
  obtain ⟨seed', seeded', same⟩ := relists.exists_entry seeded
  have clear' := clear.relist relists ⟨name, seeded⟩ ⟨name, seeded'⟩ same
  obtain ⟨later', ran'⟩ :=
    run_expand_group_of_informed consults' unranged' patience name world' start'
  rw [seeded'] at ran'
  refine ⟨_, later', ran', fun uid => ?_⟩
  -- Neither answer depends on an order, so paths are carried over from one directory to the other.
  rw [mem_tour_iff nested ⟨name, seeded'⟩ clear', found]
  constructor
  · rintro ⟨depth, near, group', below, has⟩
    obtain ⟨group, alike, below⟩ := below.relist relists.symm same.symm
    exact ⟨depth, near, group, below, has.relist relists.symm alike⟩
  · rintro ⟨depth, near, group, below, has⟩
    obtain ⟨group', alike, below⟩ := below.relist relists same
    exact ⟨depth, near, group', below, has.relist relists alike⟩

end Expansion

end

/-! ## Offices -/

instance (catalogue : Catalogue) (plan : Plan) (group : Entry) (uid : String) :
    Decidable (HasUser catalogue plan group uid) :=
  inferInstanceAs (Decidable (uid ∈ _ ∨ ∃ value ∈ _, ∃ entry ∈ catalogue.entry? _, _ ∧ _))

namespace Office

def posixGroup (name : String) (users members : List String) : Entry where
  name := name
  attributes := [("objectClass", ["posixGroup"]), ("memberUid", users), ("uniqueMember", members)]

def config : Config := { uris := ["ldap://one"], base := "dc=x" }

abbrev policy : Policy := { maxDepth := 2 }

abbrev plan : Plan := .ofConfig config policy

end Office

/-! ## A group below two others -/

namespace Lattice

open Office

def staff (members : List String) : Entry := posixGroup "cn=staff,dc=x" [] members

def left : Entry := posixGroup "cn=left,dc=x" [] ["cn=bottom,dc=x"]

def right : Entry := posixGroup "cn=right,dc=x" [] ["cn=bottom,dc=x"]

def bottom : Entry := posixGroup "cn=bottom,dc=x" ["ann"] ["cn=deep,dc=x"]

def deep : Entry := posixGroup "cn=deep,dc=x" ["zoe"] []

def entries (members : List String) : List Entry := [staff members, left, right, bottom, deep]

def leftFirst : List String := ["cn=left,dc=x", "cn=right,dc=x"]

def rightFirst : List String := ["cn=right,dc=x", "cn=left,dc=x"]

abbrev catalogue (members : List String) : Catalogue := .ofEntries (entries members)

/-- Every group with its depth. -/
def depths : List (Nat × Entry) :=
  [(0, staff leftFirst), (1, left), (1, right), (2, bottom), (3, deep)]

theorem mem_depths {depth : Nat} {group : Entry}
    (below : Below (Nests (catalogue leftFirst) plan) (staff leftFirst) depth group) :
    (depth, group) ∈ depths := by
  have steps : ∀ above ∈ depths, ∀ value ∈ above.2.values plan.names.uniqueMember,
      ∀ inner ∈ Catalogue.entry? (catalogue leftFirst) (withoutUid value),
        (above.1 + 1, inner) ∈ depths := by
    decide +kernel
  induction below with
  | here => exact List.mem_cons_self
  | step _ nests ih =>
    obtain ⟨value, listed, found, -⟩ := nests
    exact steps _ ih value listed _ found

theorem clear : Clear (catalogue leftFirst) plan (staff leftFirst) policy.maxDepth := by
  have once : ∀ one ∈ depths, ∀ other ∈ depths, one.2 = other.2 → one.1 = other.1 := by
    decide +kernel
  apply clear_of_depth_unique
  intro depth depth' group below below'
  exact once _ (mem_depths below) _ (mem_depths below') rfl

theorem relists : (catalogue leftFirst).Relists plan (catalogue rightFirst) :=
  .ofEntries <| .cons
    ⟨rfl, by decide, by decide, by decide, by decide, by decide⟩
    (List.forall₂_same.mpr fun entry _ => .refl plan entry)

theorem unranged {name : String} {entry : Entry}
    (found : Catalogue.entry? (catalogue leftFirst) name = some entry) :
    entry.range? plan.names.uniqueMember = none := by
  have all : ∀ entry ∈ entries leftFirst, entry.range? plan.names.uniqueMember = none := by
    decide +kernel
  exact all entry (mem_of_found found)

end Lattice

/-- The user of the group at the last level is found, and the one below it is not, in either
    order. -/
theorem expand_group_clear_lattice :
    let one : World (Host Office.config (replyFrom (Lattice.entries Lattice.leftFirst))) :=
      { outside := {} }
    let other : World (Host Office.config (replyFrom (Lattice.entries Lattice.rightFirst))) :=
      { outside := {} }
    Clear (Lattice.catalogue Lattice.leftFirst) Office.plan (Lattice.staff Lattice.leftFirst)
        Office.policy.maxDepth ∧
      (∃ walk later, (expand 9 (.group "cn=staff,dc=x") Office.policy).run one =
        some (.ok walk, later) ∧ .user "ann" ∈ walk.members ∧ .user "zoe" ∉ walk.members) ∧
      ∃ walk later, (expand 9 (.group "cn=staff,dc=x") Office.policy).run other =
        some (.ok walk, later) ∧ .user "ann" ∈ walk.members ∧ .user "zoe" ∉ walk.members := by
  intro one other
  have consults := consults_ofEntries Office.config (by decide)
    (Lattice.entries Lattice.leftFirst) Office.plan.memberAttributes
  have consults' := consults_ofEntries Office.config (by decide)
    (Lattice.entries Lattice.rightFirst) Office.plan.memberAttributes
  have seeded : Catalogue.entry? (Lattice.catalogue Lattice.leftFirst) "cn=staff,dc=x" =
      some (Lattice.staff Lattice.leftFirst) := by
    decide +kernel
  obtain ⟨walk, later, ran, found, orders⟩ :=
    expand_group_clear consults (fun _ _ => Lattice.unranged) rfl 9
      seeded Lattice.clear one Session.informed_new
  obtain ⟨walk', later', ran', same⟩ := orders _ _ Lattice.relists consults' other
    Session.informed_new
  have ann : .user "ann" ∈ walk.members := by
    have inLeft : Nests (Lattice.catalogue Lattice.leftFirst) Office.plan
        (Lattice.staff Lattice.leftFirst) Lattice.left :=
      ⟨"cn=left,dc=x", by decide +kernel, by decide +kernel, by decide +kernel⟩
    have inBottom : Nests (Lattice.catalogue Lattice.leftFirst) Office.plan Lattice.left
        Lattice.bottom :=
      ⟨"cn=bottom,dc=x", by decide +kernel, by decide +kernel, by decide +kernel⟩
    exact (found "ann").mpr
      ⟨2, le_refl 2, Lattice.bottom, .step (.step .here inLeft) inBottom, by decide +kernel⟩
  -- Each group is on one level only, and the one that zoe is in is below the last that is looked
  -- at.
  have zoe : .user "zoe" ∉ walk.members := by
    intro there
    obtain ⟨depth, near, group, below, has⟩ := (found "zoe").mp there
    have none : ∀ one ∈ Lattice.depths, one.1 ≤ 2 →
        ¬ HasUser (Lattice.catalogue Lattice.leftFirst) Office.plan one.2 "zoe" := by
      decide +kernel
    exact none _ (Lattice.mem_depths below) near has
  exact ⟨Lattice.clear, ⟨walk, later, ran, ann, zoe⟩,
    ⟨walk', later', ran', (same "ann").mpr ann, fun there => zoe ((same "zoe").mp there)⟩⟩

/-! ## A group that is met first where the walk has to turn back -/

namespace Detour

def staff : Entry := Office.posixGroup "cn=staff,dc=x" [] ["cn=far,dc=x", "cn=near,dc=x"]

def far : Entry := Office.posixGroup "cn=far,dc=x" [] ["cn=near,dc=x"]

def near : Entry := Office.posixGroup "cn=near,dc=x" [] ["cn=deep,dc=x"]

def deep : Entry := Office.posixGroup "cn=deep,dc=x" ["ann"] []

def entries : List Entry := [staff, far, near, deep]

end Detour

/-- The walk comes to `near` by way of `far` first, with no level left for `deep`; from the start
    `deep` is two levels down and could be come to, but by then `near` has been met. -/
theorem expand_group_detour :
    let plan := Office.plan
    let catalogue := Catalogue.ofEntries Detour.entries
    let world : World (Host Office.config (replyFrom Detour.entries)) := { outside := {} }
    Service.Consults (Host Office.config (replyFrom Detour.entries)) Office.config
        plan.memberAttributes catalogue ∧
      (∀ name entry, catalogue.entry? name = some entry →
        entry.range? plan.names.uniqueMember = none) ∧
      Office.policy.nested ∧ world.session = {} ∧
      catalogue.entry? "cn=staff,dc=x" = some Detour.staff ∧
      Below (Nests catalogue plan) Detour.staff Office.policy.maxDepth Detour.deep ∧
      HasUser catalogue plan Detour.deep "ann" ∧
      ∃ walk later, (expand 9 (.group "cn=staff,dc=x") Office.policy).run world =
        some (.ok walk, later) ∧ .user "ann" ∉ walk.members := by
  intro plan catalogue world
  have consults := consults_ofEntries Office.config (by decide) Detour.entries
    plan.memberAttributes
  have unranged : ∀ name entry, catalogue.entry? name = some entry →
      entry.range? plan.names.uniqueMember = none := by
    have all : ∀ entry ∈ Detour.entries, entry.range? plan.names.uniqueMember = none := by
      decide +kernel
    exact fun name entry found => all entry (mem_of_found found)
  have seeded : catalogue.entry? "cn=staff,dc=x" = some Detour.staff := by decide +kernel
  have inNear : Nests catalogue plan Detour.staff Detour.near :=
    ⟨"cn=near,dc=x", by decide +kernel, by decide +kernel, by decide +kernel⟩
  have inDeep : Nests catalogue plan Detour.near Detour.deep :=
    ⟨"cn=deep,dc=x", by decide +kernel, by decide +kernel, by decide +kernel⟩
  -- On its long way the walk meets the near group on the last level, and never comes back to it.
  obtain ⟨later, ran⟩ := run_expand_group consults unranged 9
    "cn=staff,dc=x" world rfl
  rw [seeded] at ran
  refine ⟨consults, unranged, rfl, rfl, seeded, .step (.step .here inNear) inDeep,
    by decide +kernel, _, later, ran, by decide +kernel⟩

end Membership

end NameService
