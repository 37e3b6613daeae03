import NameService.DistinguishedName
import NameService.Membership.Group
import NameService.Proofs.Membership.Exploring

/-!
Groups as a graph. A catalogue has one entry for a name, and its groups lead to one another, in
cycles too. A walk through it meets a group once and goes no deeper than it may; what it finds is
compared here with what can be reached at all.

## Main results

- `Membership.tour_sound`: what a walk finds is in a group that is not too far below.
- `Membership.tour_allBelow`: with as many levels as there are groups, nothing is missed.
-/

namespace NameService

/-- Entries by their names. Case makes no difference between names. -/
structure Catalogue where
  entry? : String → Option Entry
  entry?_fold : ∀ {name other : String}, Text.fold name = Text.fold other →
    entry? name = entry? other
  name_fold : ∀ {name : String} {entry : Entry}, entry? name = some entry →
    Text.fold entry.name = Text.fold name

namespace Catalogue

theorem fold_of_find? {entries : List Entry} {name : String} {entry : Entry}
    (found : entries.find? (fun entry => Text.same entry.name name) = some entry) :
    Text.fold entry.name = Text.fold name := by
  have same := List.find?_some found
  rwa [Text.same_iff] at same

/-- The catalogue of some entries. Of two entries with one name the first counts. -/
def ofEntries (entries : List Entry) : Catalogue where
  entry? name := entries.find? fun entry => Text.same entry.name name
  entry?_fold same := by simp only [Text.same, same]
  name_fold found := fold_of_find? found

/-- Entries are told apart by their names. -/
theorem eq_of_fold (catalogue : Catalogue) {name other : String} {entry entry' : Entry}
    (found : catalogue.entry? name = some entry) (found' : catalogue.entry? other = some entry')
    (same : Text.fold entry.name = Text.fold entry'.name) : entry = entry' := by
  have names : Text.fold name = Text.fold other := by
    rw [← catalogue.name_fold found, ← catalogue.name_fold found', same]
  exact Option.some.inj (found.symm.trans ((catalogue.entry?_fold names).trans found'))

end Catalogue

namespace Membership

open DistinguishedName (withoutUid)

variable (catalogue : Catalogue) (plan : Plan)

/-- The second group is a member of the first. -/
def Nests (group inner : Entry) : Prop :=
  ∃ value ∈ group.values plan.names.uniqueMember,
    catalogue.entry? (withoutUid value) = some inner ∧ inner.hasClass plan.names.posixGroup

/-- A user is a member of a group, by his own name or by the name of his entry. -/
def HasUser (group : Entry) (uid : String) : Prop :=
  uid ∈ group.values plan.names.memberUid ∨
    ∃ value ∈ group.values plan.names.uniqueMember, ∃ entry,
      catalogue.entry? (withoutUid value) = some entry ∧
        ¬ entry.hasClass plan.names.posixGroup ∧ entry.first? plan.names.uid = some uid

/-- What a name stands for in the catalogue. -/
def stands (name : String) : Resolved :=
  match catalogue.entry? name with
  | none => .unknown
  | some entry =>
    if entry.hasClass plan.names.posixGroup then .group entry
    else match entry.first? plan.names.uid with
      | none => .unknown
      | some uid => .user uid

/-- Counts one member, and goes into it if it is a group. -/
def enter (into : Entry → Walk → Walk) (walk : Walk) : Resolved → Walk
  | .user uid => walk.add (.user uid)
  | .group group => if plan.policy.nested then into group walk else walk
  | .unknown => walk

def addUsers (uids : List String) (walk : Walk) : Walk :=
  uids.foldl (fun walk uid => walk.add (.user uid)) walk

/-- The walk through the members of a group, as the catalogue has them. -/
def tour : Nat → Entry → Walk → Walk
  | 0, _, walk => walk
  | levels + 1, entry, walk =>
    if walk.seen.contains entry.name then walk
    else
      let walk := (entry.values plan.names.uniqueMember).foldl (fun walk value =>
        enter plan (tour levels) walk (stands catalogue plan (withoutUid value)))
        (walk.meet entry.name)
      addUsers (entry.values plan.names.memberUid) walk

variable {catalogue plan}

theorem stands_eq_user {name uid : String} (is : stands catalogue plan name = .user uid) :
    ∃ entry, catalogue.entry? name = some entry ∧ ¬ entry.hasClass plan.names.posixGroup ∧
      entry.first? plan.names.uid = some uid := by
  unfold stands at is
  split at is
  · cases is
  · next entry found =>
    split at is
    · cases is
    · next other =>
      split at is
      · cases is
      · next first =>
        cases is
        exact ⟨entry, found, other, first⟩

theorem stands_eq_group {name : String} {group : Entry}
    (is : stands catalogue plan name = .group group) :
    catalogue.entry? name = some group ∧ group.hasClass plan.names.posixGroup := by
  unfold stands at is
  split at is
  · cases is
  · next entry found =>
    split at is
    · next member =>
      cases is
      exact ⟨found, member⟩
    · split at is <;> cases is

theorem mem_addUsers {uids : List String} {walk : Walk} {member : Member} :
    member ∈ (addUsers uids walk).members ↔
      member ∈ walk.members ∨ ∃ uid ∈ uids, member = .user uid := by
  induction uids generalizing walk with
  | nil => simp [addUsers]
  | cons uid uids ih =>
    have rest := @ih (walk.add (.user uid))
    simp only [addUsers, List.foldl_cons] at rest ⊢
    rw [rest, Walk.mem_add]
    simp [or_assoc]

theorem addUsers_seen (uids : List String) (walk : Walk) :
    (addUsers uids walk).seen = walk.seen := by
  induction uids generalizing walk with
  | nil => rfl
  | cons uid uids ih => exact (ih _).trans (Walk.seen_add walk _)

theorem addUsers_grows (uids : List String) (walk : Walk) : walk.Grows (addUsers uids walk) :=
  ⟨fun _ there => mem_addUsers.mpr (.inl there), fun _ met => by rwa [addUsers_seen]⟩

/-- With those that the group lists by their entries, all users of a group are counted. -/
theorem users_addUsers {walk : Walk} {group : Entry}
    (counted : ∀ value ∈ group.values plan.names.uniqueMember, ∀ uid,
      stands catalogue plan (withoutUid value) = .user uid → .user uid ∈ walk.members)
    {uid : String} (has : HasUser catalogue plan group uid) :
    .user uid ∈ (addUsers (group.values plan.names.memberUid) walk).members := by
  rcases has with listed | ⟨value, listed, entry, found, other, first⟩
  · exact mem_addUsers.mpr (.inr ⟨uid, listed, rfl⟩)
  · have is : stands catalogue plan (withoutUid value) = .user uid := by
      simp [stands, found, other, first]
    exact (addUsers_grows _ walk).members _ (counted value listed uid is)

/-! ### The walk as an exploration -/

/-- What a name in the list of a group contributes to it. -/
def Plan.itemsOf (plan : Plan) : Resolved → List (Listed Entry)
  | .user uid => [.member (.user uid)]
  | .group inner => if plan.policy.nested then [.node inner] else []
  | .unknown => []

variable (catalogue plan) in
/-- The groups of a catalogue, with their users and the groups in them. -/
def groups : Graph Entry where
  name := Entry.name
  items entry :=
    (entry.values plan.names.uniqueMember).flatMap
        (fun value => plan.itemsOf (stands catalogue plan (withoutUid value))) ++
      (entry.values plan.names.memberUid).map fun uid => .member (.user uid)

theorem mem_items_member {group : Entry} {member : Member} :
    .member member ∈ (groups catalogue plan).items group ↔
      ∃ uid, member = .user uid ∧ HasUser catalogue plan group uid := by
  simp only [groups, List.mem_append, List.mem_flatMap, List.mem_map]
  constructor
  · rintro (⟨value, listed, is⟩ | ⟨uid, listed, same⟩)
    · cases stood : stands catalogue plan (withoutUid value) with
      | user uid =>
        obtain ⟨entry, found⟩ := stands_eq_user stood
        obtain rfl : member = .user uid := by simpa [stood, Plan.itemsOf] using is
        exact ⟨uid, rfl, .inr ⟨value, listed, entry, found⟩⟩
      | group inner => grind [Plan.itemsOf]
      | unknown => grind [Plan.itemsOf]
    · cases same
      exact ⟨uid, rfl, .inl listed⟩
  · rintro ⟨uid, rfl, listed | ⟨value, listed, entry, found, other, first⟩⟩
    · exact .inr ⟨uid, listed, rfl⟩
    · exact .inl ⟨value, listed, by simp [Plan.itemsOf, stands, found, other, first]⟩

theorem mem_items_node {group inner : Entry} :
    .node inner ∈ (groups catalogue plan).items group ↔
      plan.policy.nested ∧ Nests catalogue plan group inner := by
  simp only [groups, List.mem_append, List.mem_flatMap, List.mem_map, reduceCtorEq, and_false,
    exists_false, or_false]
  constructor
  · rintro ⟨value, listed, is⟩
    cases stood : stands catalogue plan (withoutUid value) with
    | user uid => grind [Plan.itemsOf]
    | group inner => grind [Plan.itemsOf, Nests, stands_eq_group stood]
    | unknown => grind [Plan.itemsOf]
  · rintro ⟨nested, value, listed, found, member⟩
    exact ⟨value, listed, by simp [Plan.itemsOf, stands, found, member, nested]⟩

/-- A walk through groups explores what they list. -/
theorem tour_eq_explore (levels : Nat) (entry : Entry) (walk : Walk) :
    tour catalogue plan levels entry walk = (groups catalogue plan).explore levels entry walk := by
  induction levels generalizing entry walk with
  | zero => rfl
  | succ levels ih =>
    have step (walk : Walk) (is : Resolved) : enter plan (tour catalogue plan levels) walk is =
        (plan.itemsOf is).foldl (Graph.count ((groups catalogue plan).explore levels)) walk := by
      cases is with
      | user uid => rfl
      | group inner =>
        simp only [enter, Plan.itemsOf]
        split
        · exact ih inner walk
        · rfl
      | unknown => rfl
    -- Users of the group itself come last, as they do among its items.
    have items (walk : Walk) : ((groups catalogue plan).items entry).foldl
        (Graph.count ((groups catalogue plan).explore levels)) walk =
          addUsers (entry.values plan.names.memberUid) ((entry.values plan.names.uniqueMember).foldl
            (fun walk value => enter plan (tour catalogue plan levels) walk
              (stands catalogue plan (withoutUid value))) walk) := by
      change List.foldl _ walk (_ ++ _) = _
      rw [List.foldl_append, List.foldl_flatMap, List.foldl_map]
      simp only [step]
      rfl
    rw [tour, Graph.explore, items]
    rfl

/-- No member is counted twice. -/
theorem tour_nodup {levels : Nat} {entry : Entry} {walk : Walk} (nodup : walk.members.Nodup) :
    (tour catalogue plan levels entry walk).members.Nodup := by
  rw [tour_eq_explore]
  exact Graph.explore_nodup nodup

theorem tour_grows (levels : Nat) (entry : Entry) (walk : Walk) :
    walk.Grows (tour catalogue plan levels entry walk) := by
  rw [tour_eq_explore]
  exact Graph.explore_grows levels entry walk

theorem nests_of_leads {group inner : Entry} (leads : (groups catalogue plan).Leads group inner) :
    Nests catalogue plan group inner :=
  (mem_items_node.mp leads).2

/-- A walk with one level more than it may go down finds no more than it may. -/
theorem tour_sound (seed : Entry) (deepest : Nat) :
    ∀ member ∈ (tour catalogue plan (deepest + 1) seed {}).members, ∃ uid, member = .user uid ∧
      ∃ depth ≤ deepest, ∃ group,
        Below (Nests catalogue plan) seed depth group ∧ HasUser catalogue plan group uid := by
  intro member there
  rw [tour_eq_explore] at there
  obtain ⟨depth, near, group, below, listed⟩ := Graph.explore_sound seed deepest member there
  obtain ⟨uid, same, has⟩ := mem_items_member.mp listed
  exact ⟨uid, same, depth, near, group, below.mono nests_of_leads, has⟩

theorem Below.found {seed group : Entry} {depth : Nat}
    (below : Below (Nests catalogue plan) seed depth group)
    (seeded : ∃ name, catalogue.entry? name = some seed) :
    ∃ name, catalogue.entry? name = some group := by
  cases below with
  | here => exact seeded
  | step below nests =>
    obtain ⟨value, -, found, -⟩ := nests
    exact ⟨_, found⟩

/-- With as many levels as there are groups, a walk finds the users of all of them. -/
theorem tour_allBelow (nested : plan.policy.nested) {name : String} {seed : Entry}
    (seeded : catalogue.entry? name = some seed) {levels : Nat}
    (enough : (allBelow (Nests catalogue plan) seed).encard ≤ levels) {group : Entry}
    (below : group ∈ allBelow (Nests catalogue plan) seed) {uid : String}
    (has : HasUser catalogue plan group uid) :
    Member.user uid ∈ (tour catalogue plan levels seed {}).members := by
  have found : ∀ {group}, group ∈ allBelow (groups catalogue plan).Leads seed →
      ∃ name, catalogue.entry? name = some group := by
    rintro group ⟨depth, below⟩
    exact (below.mono nests_of_leads).found ⟨name, seeded⟩
  have fewer : ((groups catalogue plan).keys (allBelow (groups catalogue plan).Leads seed)).encard ≤
      levels := by
    have within : allBelow (groups catalogue plan).Leads seed ⊆
        allBelow (Nests catalogue plan) seed := allBelow_subset nests_of_leads seed
    exact (Set.encard_image_le _ _).trans ((Set.encard_le_encard within).trans enough)
  have explored : group ∈ allBelow (groups catalogue plan).Leads seed :=
    allBelow_subset (fun nests => mem_items_node.mpr ⟨nested, nests⟩) seed below
  rw [tour_eq_explore]
  refine Graph.explore_complete ?_ fewer explored (mem_items_member.mpr ⟨uid, rfl, has⟩)
  intro group there other there' same
  -- Entries are told apart by their names.
  obtain ⟨name, here⟩ := found there
  obtain ⟨name', here'⟩ := found there'
  rw [catalogue.eq_of_fold here here' same]

end Membership

end NameService
