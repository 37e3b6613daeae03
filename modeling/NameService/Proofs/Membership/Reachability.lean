import NameService.Directory
import NameService.Proofs.Engine.Host
import NameService.Proofs.Membership.Reading

/-!
The members of a group are the users that can be reached from it. Groups may be members of each
other in any way; the walk through them comes to an end, and how deep it may go is the only limit
to what it finds.

## Main result

`expand_group`: what comes of the question for the members of a group.
-/

namespace NameService.Membership

open Engine

variable {σ : Type} [Service σ]

theorem run_expand_group_of_informed {config : Config} {catalogue : Catalogue} {policy : Policy}
    (consults : Service.Consults σ config (Plan.ofConfig config policy).memberAttributes catalogue)
    (unranged : ∀ name entry, catalogue.entry? name = some entry →
      entry.range? (Plan.ofConfig config policy).names.uniqueMember = none)
    (patience : Nat) (name : String) (world : World σ)
    (start : world.session.Informed config (.ofConfig config policy) catalogue) :
    ∃ later, (expand patience (.group name) policy).run world = some
      (match catalogue.entry? name with
        | none => .error (.error (.notFound ("group " ++ name ++ " does not exist")))
        | some seed => .ok (tour catalogue (.ofConfig config policy) (policy.maxDepth + 1) seed {}),
        later) := by
  have lasting := (Session.informed_lasting consults (.ofConfig config policy)).world
  have suits := (Session.informed_iff.mp start).toSuits
  obtain ⟨begun, -, informed, same⟩ := run_expand consults.opens lasting suits start
  obtain ⟨later, ran, informed⟩ := run_read consults informed name
  cases found : catalogue.entry? name with
  | none =>
    refine ⟨later, ?_⟩
    simp [same, Plan.pursue, expandGroup, ran, found]
  | some seed =>
    obtain ⟨last, walked, -⟩ := run_walkGroup consults unranged (policy.maxDepth + 1) 0 seed {}
      later (unranged name seed found) informed
    refine ⟨last, ?_⟩
    have depth : (Plan.ofConfig config policy).policy.maxDepth = policy.maxDepth := rfl
    simp [same, Plan.pursue, expandGroup, ran, found, depth, walked]

theorem run_expand_group {config : Config} {catalogue : Catalogue} {policy : Policy}
    (consults : Service.Consults σ config (Plan.ofConfig config policy).memberAttributes catalogue)
    (unranged : ∀ name entry, catalogue.entry? name = some entry →
      entry.range? (Plan.ofConfig config policy).names.uniqueMember = none)
    (patience : Nat) (name : String) (world : World σ) (fresh : world.session = {}) :
    ∃ later, (expand patience (.group name) policy).run world = some
      (match catalogue.entry? name with
        | none => .error (.error (.notFound ("group " ++ name ++ " does not exist")))
        | some seed => .ok (tour catalogue (.ofConfig config policy) (policy.maxDepth + 1) seed {}),
        later) :=
  run_expand_group_of_informed consults unranged patience name world
    (fresh ▸ Session.informed_new)

/-- The question for the members of a group has an answer. It holds no one twice, and no one who is
    not in a group within reach; and it leaves out no one when the walk may go as deep as there are
    groups. -/
theorem expand_group {config : Config} {catalogue : Catalogue} {policy : Policy}
    (consults : Service.Consults σ config (Plan.ofConfig config policy).memberAttributes catalogue)
    (unranged : ∀ name entry, catalogue.entry? name = some entry →
      entry.range? (Plan.ofConfig config policy).names.uniqueMember = none)
    (nested : policy.nested) (patience : Nat) (name : String) (world : World σ)
    (fresh : world.session = {}) :
    let plan := Plan.ofConfig config policy
    (catalogue.entry? name = none → ∃ later, (expand patience (.group name) policy).run world =
      some (.error (.error (.notFound ("group " ++ name ++ " does not exist"))), later)) ∧
    ∀ seed, catalogue.entry? name = some seed →
      ∃ walk later, (expand patience (.group name) policy).run world = some (.ok walk, later) ∧
        walk.members.Nodup ∧
        (∀ member ∈ walk.members, ∃ uid, member = .user uid ∧ ∃ depth ≤ policy.maxDepth, ∃ group,
          Below (Nests catalogue plan) seed depth group ∧ HasUser catalogue plan group uid) ∧
        ((allBelow (Nests catalogue plan) seed).encard ≤ policy.maxDepth →
          ∀ group ∈ allBelow (Nests catalogue plan) seed, ∀ uid, HasUser catalogue plan group uid →
            .user uid ∈ walk.members) := by
  intro plan
  obtain ⟨later, ran⟩ := run_expand_group consults unranged patience name world fresh
  refine ⟨fun missing => ⟨later, by rw [ran, missing]⟩, fun seed found => ?_⟩
  rw [found] at ran
  refine ⟨_, later, ran, tour_nodup List.nodup_nil, tour_sound seed policy.maxDepth, ?_⟩
  intro enough group below uid has
  -- The walk has a level for the first group, besides those of the policy.
  have levels : (allBelow (Nests catalogue plan) seed).encard ≤ (policy.maxDepth + 1 : Nat) :=
    enough.trans (by exact_mod_cast Nat.le_succ policy.maxDepth)
  exact tour_allBelow nested found levels below has

/-! ## Servers with a few entries -/

/-- A server has one entry under a name, or none. -/
def replyFrom (entries : List Entry) (search : Search) : Reply :=
  ⟨[Catalogue.entry? (.ofEntries entries) search.base], ⟨0, "", none⟩⟩

theorem consults_ofEntries (config : Config) (located : config.uris ≠ []) (entries : List Entry)
    (attributes : List String) :
    Service.Consults (Host config (replyFrom entries)) config attributes (.ofEntries entries) where
  located := located
  loads _ := rfl
  connects _ _ := rfl
  binds _ _ _ _ := rfl
  reads connection name outside := by
    let found := Catalogue.entry? (.ofEntries entries) name
    change List.head? (List.reduceOption [found]) = found
    cases found <;> rfl

theorem mem_of_found {entries : List Entry} {name : String} {entry : Entry}
    (found : Catalogue.entry? (.ofEntries entries) name = some entry) : entry ∈ entries :=
  List.mem_of_find?_eq_some found

/-! ## Two groups that are members of each other -/

namespace Circle

def staff : Entry where
  name := "cn=staff,dc=small"
  attributes := [("objectClass", ["posixGroup"]), ("memberUid", ["root"]),
    ("uniqueMember", ["CN=Admins,DC=small", "uid=ann,dc=small"])]

def admins : Entry where
  name := "cn=admins,dc=small"
  attributes := [("objectClass", ["top", "posixGroup"]), ("memberUid", ["root", "carol"]),
    ("uniqueMember", ["cn=staff,dc=small", "uid=bob,dc=small#'01'B"])]

def ann : Entry := ⟨"uid=ann,dc=small", [("uid", ["ann", "anna"])]⟩

def bob : Entry := ⟨"uid=bob,dc=small", [("uid", ["bob"])]⟩

def entries : List Entry := [staff, admins, ann, bob]

def catalogue : Catalogue := .ofEntries entries

def config : Config := { uris := ["ldap://one"], base := "dc=small" }

/-- The server has one entry under a name, or none. -/
def reply (search : Search) : Reply := ⟨[catalogue.entry? search.base], ⟨0, "", none⟩⟩

theorem consults (attributes : List String) :
    Service.Consults (Host config reply) config attributes catalogue :=
  consults_ofEntries config (by decide) entries attributes

theorem mem_entries_of_found {name : String} {entry : Entry}
    (found : catalogue.entry? name = some entry) : entry ∈ entries :=
  mem_of_found found

abbrev policy : Policy := { maxDepth := 2 }

abbrev plan : Plan := .ofConfig config policy

theorem mem_of_nests {group inner : Entry} (nests : Nests catalogue plan group inner) :
    inner ∈ [staff, admins] := by
  obtain ⟨value, -, found, member⟩ := nests
  have all : ∀ entry ∈ entries, entry.hasClass plan.names.posixGroup → entry ∈ [staff, admins] := by
    decide +kernel
  exact all inner (mem_entries_of_found found) member

theorem allBelow_staff : allBelow (Nests catalogue plan) staff ⊆ {staff, admins} := by
  rintro group ⟨depth, below⟩
  have among : group ∈ [staff, admins] := by
    cases below with
    | here => exact List.mem_cons_self
    | step below nests => exact mem_of_nests nests
  simpa using among

end Circle

/-- Each group is walked through once, and the users of both are found. -/
theorem expand_group_circle :
    let world : World (Host Circle.config Circle.reply) := { outside := {} }
    Service.Consults (Host Circle.config Circle.reply) Circle.config Circle.plan.memberAttributes
        Circle.catalogue ∧
      (∀ name entry, Circle.catalogue.entry? name = some entry →
        entry.range? Circle.plan.names.uniqueMember = none) ∧
      Circle.policy.nested ∧ world.session = {} ∧
      ∃ walk later, (expand 9 (.group "CN=Staff,dc=small") Circle.policy).run world =
          some (.ok walk, later) ∧
        walk.members.Nodup ∧ .user "bob" ∈ walk.members := by
  intro world
  have consults := Circle.consults Circle.plan.memberAttributes
  have unranged : ∀ name entry, Circle.catalogue.entry? name = some entry →
      entry.range? Circle.plan.names.uniqueMember = none := by
    have all : ∀ entry ∈ Circle.entries,
        entry.range? Circle.plan.names.uniqueMember = none := by decide +kernel
    exact fun name entry found => all entry (Circle.mem_entries_of_found found)
  have seeded : Circle.catalogue.entry? "CN=Staff,dc=small" = some Circle.staff := by
    decide +kernel
  obtain ⟨walk, later, ran, nodup, -, complete⟩ :=
    (expand_group consults unranged rfl 9 "CN=Staff,dc=small" world rfl).2 Circle.staff seeded
  refine ⟨consults, unranged, rfl, rfl, walk, later, ran, nodup, ?_⟩
  have two : ({Circle.staff, Circle.admins} : Set Entry).encard = 2 :=
    Set.encard_pair (by decide)
  -- Two groups that contain each other, and a depth for both of them.
  have enough : (allBelow (Nests Circle.catalogue Circle.plan) Circle.staff).encard ≤ 2 :=
    two ▸ Set.encard_le_encard Circle.allBelow_staff
  have inner : Nests Circle.catalogue Circle.plan Circle.staff Circle.admins :=
    ⟨"CN=Admins,DC=small", by decide +kernel, by decide +kernel, by decide +kernel⟩
  refine complete enough Circle.admins ⟨1, .step .here inner⟩ "bob" (.inr ?_)
  exact ⟨"uid=bob,dc=small#'01'B", by decide +kernel, Circle.bob, by decide +kernel,
    by decide +kernel, by decide +kernel⟩

end NameService.Membership
