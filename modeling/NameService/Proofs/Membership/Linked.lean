import NameService.Proofs.Lookup.Contents
import NameService.Proofs.Membership.Closure

/-!
Directories in which each entry lists the groups that list it, so that the groups above an entry can
be found in two ways. The questions about groups become filters, and the filters match groups that
list something, or entries that are called by a name.

## Main results

- `seeks_groupsOf`, `seeks_namedGroups` and the like: the filters that questions become.
- `matched_beginning_forward`, `matched_beginning_backlink`: the entries with which a walk begins.
- `Linked.eq_of_name`: a name belongs to one entry.
-/

namespace NameService.Membership

open NameService.Filter

/-! ### Questions in words -/

section Questions

variable {plan : Plan} (ordinary : plan.templates = .ofMap [])

/-- Asks for groups. -/
def isGroup : Formula := .equals "objectClass" "posixGroup"

def isAccount : Formula := .equals "objectClass" "posixAccount"

theorem becomes_isGroup : Becomes (isA "objectClass" "posixGroup") [] isGroup :=
  .given (by decide) (by decide) (by decide)

theorem becomes_isAccount : Becomes (isA "objectClass" "posixAccount") [] isAccount :=
  .given (by decide) (by decide) (by decide)

theorem becomes_uid (user : String) : Becomes (isA "uid" "%s") [user] (.equals "uid" user) :=
  .wanted (by decide) (by decide) user

theorem becomes_memberUid (user : String) :
    Becomes (isA "memberUid" "%s") [user] (.equals "memberUid" user) :=
  .wanted (by decide) (by decide) user

theorem becomes_uniqueMember (name : String) :
    Becomes (isA "uniqueMember" "%s") [name] (.equals "uniqueMember" name) :=
  .wanted (by decide) (by decide) name

include ordinary

theorem seeks_findUser (user : String) :
    (plan.findUser user).Seeks (.all [isAccount, .equals "uid" user]) := by
  have becomes : Becomes plan.templates.userByName [user]
      (.all [isAccount, .equals "uid" user]) := by
    rw [ordinary]
    exact becomes_isAccount.both (becomes_uid user)
  exact ⟨rfl, becomes.formed, becomes.render_text⟩

theorem seeks_groupsOfUser (user name : String) : (plan.groupsOfUser user (some name)).Seeks
    (.all [isGroup, .any [.equals "memberUid" user, .equals "uniqueMember" name]]) := by
  have becomes : Becomes plan.templates.groupsByMemberAndName [user, name]
      (.all [isGroup, .any [.equals "memberUid" user, .equals "uniqueMember" name]]) := by
    rw [ordinary]
    exact becomes_isGroup.both ((becomes_memberUid user).either (becomes_uniqueMember name))
  exact ⟨rfl, becomes.formed, becomes.render_texts⟩

theorem seeks_groupsOf (name : String) :
    (plan.groupsOf name).Seeks (.all [isGroup, .equals "uniqueMember" name]) := by
  have becomes : Becomes plan.templates.groupsByName [name]
      (.all [isGroup, .equals "uniqueMember" name]) := by
    rw [ordinary]
    exact becomes_isGroup.both (becomes_uniqueMember name)
  exact ⟨rfl, becomes.formed, becomes.render_text⟩

theorem seeks_groupsOrUser (user : String) : (plan.groupsOrUser user).Seeks
    (.any [.all [isGroup, .equals "memberUid" user], .all [isAccount, .equals "uid" user]]) := by
  have becomes : Becomes plan.templates.groupsByMemberOrUser [user, user]
      (.any [.all [isGroup, .equals "memberUid" user], .all [isAccount, .equals "uid" user]]) := by
    rw [ordinary]
    exact (becomes_isGroup.both (becomes_memberUid user)).either
      (becomes_isAccount.both (becomes_uid user))
  exact ⟨rfl, becomes.formed, becomes.render_texts⟩

theorem seeks_namedGroups {names : List String} (some : names ≠ []) :
    (plan.namedGroups names).Seeks (.any (names.map (.equals "distinguishedName"))) := by
  have becomes (name : String) :
      Becomes plan.templates.backlink [name] (.equals "distinguishedName" name) := by
    rw [ordinary]
    exact .wanted (by decide) (by decide) name
  refine ⟨rfl, ?_, Becomes.render_anyOf becomes names⟩
  apply Formula.WellFormed.any
  · simpa using some
  · intro part there
    obtain ⟨name, _, rfl⟩ := List.mem_map.mp there
    exact (becomes name).formed

end Questions

/-! ### Entries that list the groups they belong to -/

/-- The groups that list an entry. -/
def listersOf (groups : List Entry) (entry : Entry) : Set Entry :=
  { group | group ∈ groups ∧ group.has "uniqueMember" entry.name }

/-- The groups that have a user among their members by his short name. -/
def listersBy (groups : List Entry) (user : String) : Set Entry :=
  { group | group ∈ groups ∧ group.has "memberUid" user }

/-- A directory of groups and of the account of one user. Case apart, no two entries have one name,
    and each of them lists the groups that list it. -/
structure Linked (contents : Contents) (user : String) (account : Entry) (groups : List Entry) :
    Prop where
  holds : contents.entries = account :: groups
  distinct : ((account :: groups).map fun entry => Text.fold entry.name).Nodup
  grouped : ∀ group ∈ groups, group.has "objectClass" "posixGroup"
  apart : account.has "objectClass" "posixGroup" = false
  accounted : account.has "objectClass" "posixAccount"
  called : account.has "uid" user
  alone : ∀ group ∈ groups, group.has "uid" user = false
  linked : ∀ entry ∈ account :: groups, ∀ name, entry.has "memberOf" name ↔
    ∃ group ∈ listersOf groups entry, Text.fold group.name = Text.fold name

/-- What is asked for of a group. -/
def attributesOf : Direction → List String
  | .forward => ["gidNumber"]
  | .backlink => ["gidNumber", "memberOf"]

section Linking

variable (account : Entry) (groups : List Entry)

/-- The entries that a name leads to. -/
def leadsTo (direction : Direction) (name : String) : Set Entry :=
  match direction with
  | .forward => { group | group ∈ groups ∧ group.has "uniqueMember" name }
  | .backlink => { entry | entry ∈ account :: groups ∧ Text.fold entry.name = Text.fold name }

/-- The entries with which a walk begins. -/
def beginning (user : String) (direction : Direction) : Set Entry :=
  match direction with
  | .forward => listersBy groups user ∪ listersOf groups account
  | .backlink => insert account (listersBy groups user)

/-- All that a walk comes to. -/
def territory (user : String) (direction : Direction) : Set Entry :=
  { entry | Reached (listersOf groups) (beginning account groups user direction) entry }

variable {account groups} {contents : Contents} {user : String}
  (linked : Linked contents user account groups)

theorem listersOf_subset (entry : Entry) : listersOf groups entry ⊆ { group | group ∈ groups } :=
  fun _ there => there.1

theorem leadsTo_fold (direction : Direction) {name other : String}
    (same : Text.fold name = Text.fold other) :
    leadsTo account groups direction name = leadsTo account groups direction other := by
  cases direction with
  | forward => simp only [leadsTo, Entry.has_fold same]
  | backlink => simp only [leadsTo, same]

theorem territory_forward_subset :
    territory account groups user .forward ⊆ { group | group ∈ groups } := by
  intro entry reached
  apply Reached.among _ listersOf_subset reached
  exact Set.union_subset (fun _ there => there.1) (listersOf_subset account)

/-- A walk in either direction has to do with groups and the user's entry only. -/
theorem territory_subset (direction : Direction) :
    territory account groups user direction ⊆ { entry | entry ∈ account :: groups } := by
  intro entry reached
  cases direction with
  | forward => exact List.mem_cons_of_mem _ (territory_forward_subset reached)
  | backlink =>
    apply Reached.among _ _ reached
    · rintro entry (rfl | there)
      · exact List.mem_cons_self
      · exact List.mem_cons_of_mem _ there.1
    · exact fun group entry there => List.mem_cons_of_mem _ (listersOf_subset group there)

include linked

/-- Case apart, a name belongs to one entry. -/
theorem Linked.eq_of_name {entry other : Entry} (there : entry ∈ account :: groups)
    (there' : other ∈ account :: groups) (same : Text.fold entry.name = Text.fold other.name) :
    entry = other :=
  List.inj_on_of_nodup_map linked.distinct there there' same

theorem matched_findUser :
    contents.matched (.all [isAccount, .equals "uid" user]) = {account} := by
  ext entry
  simp only [Contents.matched, isAccount, Formula.Matches, Formula.MatchesAll,
    Formula.matches_equals, linked.holds, Set.mem_ofPred_eq, Set.mem_singleton_iff, List.mem_cons]
  constructor
  · rintro ⟨rfl | there, -, called, -⟩
    · rfl
    · simp [linked.alone entry there] at called
  · rintro rfl
    exact ⟨.inl rfl, linked.accounted, linked.called, trivial⟩

/-- A test that the user's entry fails at once is a test of groups. -/
theorem matched_group (passes : Formula) : contents.matched (.all [isGroup, passes]) =
    { group | group ∈ groups ∧ passes.Matches group.Passes } := by
  ext entry
  simp only [Contents.matched, isGroup, Formula.Matches, Formula.MatchesAll, Formula.matches_equals,
    linked.holds, Set.mem_ofPred_eq, List.mem_cons]
  constructor
  · rintro ⟨rfl | there, grouped, passed, -⟩
    · simp [linked.apart] at grouped
    · exact ⟨there, passed⟩
  · rintro ⟨there, passed⟩
    exact ⟨.inr there, linked.grouped entry there, passed, trivial⟩

theorem matched_beginning_forward : contents.matched
    (.all [isGroup, .any [.equals "memberUid" user, .equals "uniqueMember" account.name]]) =
      beginning account groups user .forward := by
  rw [matched_group linked]
  ext entry
  simp only [Formula.Matches, Formula.MatchesAny, Formula.matches_equals, beginning, listersBy,
    listersOf, Set.mem_union, Set.mem_ofPred_eq, or_false]
  exact and_or_left

theorem matched_beginning_backlink : contents.matched
    (.any [.all [isGroup, .equals "memberUid" user], .all [isAccount, .equals "uid" user]]) =
      beginning account groups user .backlink := by
  have either (first second : Formula) : contents.matched (.any [first, second]) =
      contents.matched first ∪ contents.matched second := by
    ext entry
    simp [Contents.matched, Formula.Matches, Formula.MatchesAny, and_or_left]
  rw [either, matched_group linked, matched_findUser linked, Set.union_singleton]
  simp only [Formula.matches_equals]
  rfl

theorem matched_groupsOf (name : String) :
    contents.matched (.all [isGroup, .equals "uniqueMember" name]) =
      leadsTo account groups .forward name := by
  rw [matched_group linked]
  simp only [Formula.matches_equals]
  rfl

theorem matched_namedGroups (names : List String) :
    contents.matched (.any (names.map (.equals "distinguishedName"))) =
      { entry | ∃ name ∈ names, entry ∈ leadsTo account groups .backlink name } := by
  ext entry
  simp only [Contents.matched, Formula.Matches, Formula.matchesAny_map, Formula.matches_equals,
    Entry.has_name_iff, linked.holds, leadsTo, Set.mem_ofPred_eq]
  constructor
  · rintro ⟨there, name, asked, same⟩
    exact ⟨name, asked, there, same⟩
  · rintro ⟨name, asked, there, same⟩
    exact ⟨there, name, asked, same⟩

end Linking

end NameService.Membership
