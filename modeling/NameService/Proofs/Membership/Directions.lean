import NameService.Proofs.Membership.Gathering
import NameService.Proofs.Membership.Linked

/-!
The two directions in which the groups of a user are looked for. Forward, a group is found because
it lists a name; along the backlinks, because its own name is listed by an entry that belongs to it.
Forward, the walk begins with the groups that list the user; along the backlinks, with the user's
own entry and some of these groups.

Where each entry lists the groups that list it, both come to the same groups, circles or not.

## Main results

- `mem_gather_seen`: what a walk counts, whichever direction it takes.
- `expand_user_directions`: both directions count the same groups.
-/

namespace NameService.Membership

open Engine NameService.Filter

section Walking

variable {contents : Contents} {find : Search → Except Error (List Entry)}
  {reply : Search → Reply} {plan : Plan} {user : String} {account : Entry} {groups : List Entry}

/-- A plan for a directory of the usual kind, with nothing in parts of its own. -/
structure Plan.Ordinary (plan : Plan) : Prop where
  names : plan.names = .ofMap []
  templates : plan.templates = .ofMap []
  undivided : plan.config.searchDescriptors = []
  nests : plan.config.flags.nestedGroups
  nested : plan.policy.nested

theorem Plan.Ordinary.ofConfig {config : Config} {policy : Policy}
    (unmapped : config.attributeMap = []) (undivided : config.searchDescriptors = [])
    (nests : config.flags.nestedGroups) (nested : policy.nested) :
    (Plan.ofConfig config policy).Ordinary where
  names := by simp [Plan.ofConfig, unmapped]
  templates := by simp [Plan.ofConfig, unmapped]
  undivided := undivided
  nests := nests
  nested := nested

/-- What a walk sees of an entry. -/
def seen (contents : Contents) (plan : Plan) : Entry → Entry :=
  contents.shown (attributesOf plan.policy.direction)

/-- The question is for these entries, and for what a walk sees of them. -/
def Brings (contents : Contents) (plan : Plan) (lookup : Lookup) (entries : Set Entry) : Prop :=
  lookup.sizeLimit = none ∧ ∃ formula, lookup.Seeks formula ∧
    contents.found lookup.attributes formula = seen contents plan '' entries

/-- What a walk hears of when it asks for a name. -/
def heard (contents : Contents) (plan : Plan) (account : Entry) (groups : List Entry)
    (name : String) : Set Entry :=
  seen contents plan '' leadsTo account groups plan.policy.direction name

theorem Brings.of_seeks {lookup : Lookup} {formula : Formula} {entries : Set Entry}
    (seeks : lookup.Seeks formula) (unlimited : lookup.sizeLimit = none)
    (attributes : lookup.attributes = attributesOf plan.policy.direction)
    (matched : contents.matched formula = entries) : Brings contents plan lookup entries := by
  refine ⟨unlimited, formula, seeks, ?_⟩
  rw [Contents.found, attributes, matched, seen]

variable (ordinary : plan.Ordinary)
include ordinary

namespace Plan.Ordinary

theorem chases : plan.chases := by
  simp [Plan.chases, ordinary.nested, ordinary.nests]

theorem gidNumber : plan.names.gidNumber = "gidNumber" := by
  rw [ordinary.names]
  rfl

theorem memberOf : plan.names.memberOf = "memberOf" := by
  rw [ordinary.names]
  rfl

end Plan.Ordinary

/-- The number of a group is asked for in both directions. -/
theorem gid?_seen (entry : Entry) : plan.gid? (seen contents plan entry) = plan.gid? entry := by
  have asked : "gidNumber" ∈ attributesOf plan.policy.direction := by
    cases plan.policy.direction <;> decide
  simp only [Plan.gid?, ordinary.gidNumber, Entry.first?, seen,
    contents.values?_shown _ entry _ asked]

variable (contents) in
theorem gids_seen (primary : Option Nat) (entries : Set Entry) :
    plan.gids primary (seen contents plan '' entries) = plan.gids primary entries := by
  ext gid
  simp [Plan.gids, gid?_seen ordinary]

theorem keys_seen (entry : Entry) : plan.keys (seen contents plan entry) =
    match plan.policy.direction with
    | .forward => [entry.name]
    | .backlink => entry.values "memberOf" := by
  simp only [Plan.keys, ordinary.chases, seen, if_true]
  cases plan.policy.direction with
  | forward => rw [contents.name_shown]
  | backlink =>
    rw [ordinary.memberOf, Entry.values, contents.values?_shown _ _ _ (by decide), Entry.values]

variable (linked : Linked contents user account groups)
include linked

/-- By its names a group leads to the groups that list it, in both directions. -/
theorem exists_key_iff {group entry : Entry} (there : group ∈ account :: groups) :
    (∃ name ∈ plan.keys (seen contents plan group),
      entry ∈ leadsTo account groups plan.policy.direction name) ↔
      entry ∈ listersOf groups group := by
  rw [keys_seen ordinary]
  cases plan.policy.direction with
  | forward => simp [leadsTo, listersOf]
  | backlink =>
    have plain : Text.same "memberOf" "distinguishedName" = false := by decide
    simp only [leadsTo, Set.mem_ofPred_eq]
    constructor
    · rintro ⟨name, listed, known, same⟩
      -- The name belongs to a group that lists this one, and to no other entry.
      have lists := (linked.linked group there name).mp
        ((Entry.has_iff plain).mpr ⟨name, listed, rfl⟩)
      obtain ⟨lister, lists, same'⟩ := lists
      rwa [linked.eq_of_name known (List.mem_cons_of_mem _ lists.1) (same.trans same'.symm)]
    · intro lists
      obtain ⟨name, listed, same⟩ := (Entry.has_iff plain).mp
        ((linked.linked group there entry.name).mpr ⟨entry, lists, rfl⟩)
      exact ⟨name, listed, List.mem_cons_of_mem _ lists.1, same.symm⟩

theorem upward_seen {group : Entry} (there : group ∈ account :: groups) :
    upward plan.keys (heard contents plan account groups) (seen contents plan group) =
      seen contents plan '' listersOf groups group := by
  ext entry
  constructor
  · rintro ⟨name, key, lister, led, rfl⟩
    exact ⟨lister, (exists_key_iff ordinary linked there).mp ⟨name, key, led⟩, rfl⟩
  · rintro ⟨lister, lists, rfl⟩
    obtain ⟨name, key, led⟩ := (exists_key_iff ordinary linked there).mpr lists
    exact ⟨name, key, lister, led, rfl⟩

/-- A walk comes to the true entries, each as far as it is sent. -/
theorem closure_seen :
    { entry | Reached (upward plan.keys (heard contents plan account groups))
      (seen contents plan '' beginning account groups user plan.policy.direction) entry } =
      seen contents plan '' territory account groups user plan.policy.direction := by
  apply reached_image
  intro entry reached
  exact upward_seen ordinary linked (territory_subset _ reached)

/-- Every name that is asked for is the name of a group. -/
theorem fold_key_mem {group : Entry}
    (reached : group ∈ territory account groups user plan.policy.direction) {name : String}
    (key : name ∈ plan.keys (seen contents plan group)) :
    Text.fold name ∈ groups.map (Text.fold ·.name) := by
  have there := territory_subset _ reached
  rw [keys_seen ordinary] at key
  cases direction : plan.policy.direction with
  | forward =>
    rw [direction] at key reached
    rw [List.mem_singleton.mp key]
    exact List.mem_map.mpr ⟨group, territory_forward_subset reached, rfl⟩
  | backlink =>
    rw [direction] at key
    obtain ⟨lister, lists, same⟩ := (linked.linked group there name).mp
      ((Entry.has_iff (by decide)).mpr ⟨name, key, rfl⟩)
    exact List.mem_map.mpr ⟨lister, lists.1, same⟩

/-- The question that is asked above a group brings what its names lead to. Forward there is no more
    than one of them. -/
theorem brings_asking (name : String) (others : List String)
    (single : plan.policy.direction = .forward → others = []) :
    Brings contents plan (plan.asking name others)
      { entry | ∃ key ∈ name :: others,
        entry ∈ leadsTo account groups plan.policy.direction key } := by
  cases direction : plan.policy.direction with
  | forward =>
    simp only [Plan.asking, direction, single direction]
    apply Brings.of_seeks (seeks_groupsOf ordinary.templates name) rfl
    · simp [Plan.groupsOf, attributesOf, direction, ordinary.gidNumber]
    · simp [matched_groupsOf linked]
  | backlink =>
    simp only [Plan.asking, direction]
    apply Brings.of_seeks (seeks_namedGroups ordinary.templates (List.cons_ne_nil _ _)) rfl
    · simp [Plan.namedGroups, attributesOf, direction, ordinary.gidNumber, ordinary.memberOf]
    · exact matched_namedGroups linked _

variable (faithful : contents.Faithful plan.config find reply)
include faithful

theorem mem_found_iff {group : Entry} {names : List String}
    (asked : names.Sublist (plan.keys (seen contents plan group))) (entry : Entry) :
    entry ∈ plan.found find names ↔
      ∃ name ∈ names, entry ∈ heard contents plan account groups name := by
  cases names with
  | nil => simp [Plan.found]
  | cons name others =>
    -- A group has one name of its own, and may list many.
    have single : plan.policy.direction = .forward → others = [] := by
      intro direction
      have short := asked.length_le
      rw [keys_seen ordinary, direction] at short
      simpa using short
    obtain ⟨unlimited, formula, seeks, same⟩ := brings_asking ordinary linked name others single
    obtain ⟨entries, answered, all⟩ :=
      seeks.answer ordinary.undivided (by simp [unlimited]) faithful
    rw [same] at all
    have found : plan.found find (name :: others) = entries := by
      simp [Plan.found, answered, Except.toOption]
    rw [found]
    change entry ∈ { entry | entry ∈ entries } ↔ _
    rw [all]
    constructor
    · rintro ⟨inner, ⟨key, asked, led⟩, rfl⟩
      exact ⟨key, asked, inner, led, rfl⟩
    · rintro ⟨key, asked, inner, led, rfl⟩
      exact ⟨inner, ⟨key, asked, led⟩, rfl⟩

/-- The question about the user brings what the walk begins with. -/
theorem brings_asks : ∃ lookup, plan.asks find user = .ok lookup ∧
    Brings contents plan lookup (beginning account groups user plan.policy.direction) := by
  cases direction : plan.policy.direction with
  | backlink =>
    refine ⟨plan.groupsOrUser user, by simp [Plan.asks, direction], ?_⟩
    apply Brings.of_seeks (seeks_groupsOrUser ordinary.templates user) rfl
    · simp [Plan.groupsOrUser, attributesOf, direction, ordinary.gidNumber, ordinary.memberOf]
    · exact matched_beginning_backlink linked
  | forward =>
    -- The name of the user's entry is the answer to a question of its own, which is for one entry.
    have fits : ∀ limit ∈ (plan.findUser user).sizeLimit,
        (contents.matched (.all [isAccount, .equals "uid" user])).encard ≤ limit := by
      rintro limit ⟨⟩
      rw [matched_findUser linked, Set.encard_singleton]
      rfl
    obtain ⟨entries, answered, all⟩ :=
      (seeks_findUser ordinary.templates user).answer ordinary.undivided fits faithful
    rw [Contents.found, matched_findUser linked, Set.image_singleton] at all
    have named : entries.head?.map (·.name) = some account.name := by
      cases entries with
      | nil => simp at all
      | cons first others =>
        have same : first ∈ { entry | entry ∈ first :: others } := List.mem_cons_self
        rw [all, Set.mem_singleton_iff] at same
        simp [same, contents.name_shown]
    refine ⟨plan.groupsOfUser user (some account.name), ?_, ?_⟩
    · simp [Plan.asks, direction, ordinary.nests, answered, Except.map, named]
    · apply Brings.of_seeks (seeks_groupsOfUser ordinary.templates user account.name) rfl
      · simp [Plan.groupsOfUser, attributesOf, direction, ordinary.gidNumber]
      · exact matched_beginning_forward linked

/-- The walk counts the groups that list what it begins with, and the groups above them, as long as
    it may go up as many levels as there are groups. -/
theorem mem_gather_seen {primary : Option Nat} {first : List Entry}
    (starts : { entry | entry ∈ first } =
      seen contents plan '' beginning account groups user plan.policy.direction)
    (unlimited : plan.policy.limit = none) (deep : groups.length ≤ plan.policy.maxDepth)
    (member : Member) :
    member ∈ (gather plan primary (plan.found find) first).members ↔
      ∃ gid ∈ plan.gids primary (territory account groups user plan.policy.direction),
        member = .gid gid := by
  let leads := heard contents plan account groups
  have closure : { entry | Reached (upward plan.keys leads) { entry | entry ∈ first } entry } =
      seen contents plan '' territory account groups user plan.policy.direction := by
    rw [starts]
    exact closure_seen ordinary linked
  have known {group : Entry} (reached : Reached (upward plan.keys leads)
      { entry | entry ∈ first } group) :
      group ∈ seen contents plan '' territory account groups user plan.policy.direction :=
    closure ▸ reached
  have finds : ∀ group, Reached (upward plan.keys leads) { entry | entry ∈ first } group →
      ∀ names, names.Sublist (plan.keys group) → ∀ entry,
        entry ∈ plan.found find names ↔ ∃ name ∈ names, entry ∈ leads name := by
    intro group reached names asked
    obtain ⟨group, -, rfl⟩ := known reached
    exact mem_found_iff ordinary linked faithful asked
  constructor
  · intro counted
    have within : Within plan primary
        { entry | Reached (upward plan.keys leads) { entry | entry ∈ first } entry }
        (gather plan primary (plan.found find) first) :=
      gather_sound fun group reached names asked entry =>
        (finds group reached names asked entry).mp
    rw [closure] at within
    obtain ⟨gid, counted, same⟩ := within member counted
    rw [gids_seen contents ordinary] at counted
    exact ⟨gid, counted, same⟩
  · rintro ⟨gid, counted, rfl⟩
    rw [← gids_seen contents ordinary, ← closure] at counted
    refine (mem_gather_iff unlimited ?alike finds ?within gid).mpr counted
    case alike =>
      intro name other same
      simp only [leads, heard, leadsTo_fold _ same]
    case within =>
      intro names entry way
      -- No name is asked for twice, and there are no more than the names of the groups.
      have short := way.length_le_of_known fun _ met key asked => by
        obtain ⟨group, reached, rfl⟩ := known met
        exact fold_key_mem ordinary linked reached asked
      rw [List.length_map] at short
      exact short.trans deep

end Walking

section Directions

variable {σ : Type} [Service σ] {config : Config} {find : Search → Except Error (List Entry)}
  {reply : Search → Reply} {script : Script σ reply} {contents : Contents} {policy : Policy}
  {user : String} {account : Entry} {groups : List Entry} {primary : Option Nat}

/-- An entry whose number is not to be counted adds nothing. -/
theorem gids_insert {plan : Plan} (own : plan.gid? account = primary) (entries : Set Entry) :
    plan.gids primary (insert account entries) = plan.gids primary entries := by
  ext gid
  constructor
  · rintro ⟨entry, rfl | there, usable, other⟩
    · exact absurd (own.symm.trans usable) other
    · exact ⟨entry, there, usable, other⟩
  · rintro ⟨entry, there, counted⟩
    exact ⟨entry, .inr there, counted⟩

/-- The groups of the user, and those above them. -/
def groupsAbove (groups : List Entry) (account : Entry) (user : String) : Set Entry :=
  { entry | Reached (listersOf groups) (listersBy groups user ∪ listersOf groups account) entry }

/-- What is counted does not depend on the direction. -/
theorem gids_beginning {plan : Plan} (own : plan.gid? account = primary) (direction : Direction) :
    plan.gids primary (territory account groups user direction) =
      plan.gids primary (groupsAbove groups account user) := by
  cases direction with
  | forward => rfl
  | backlink =>
    have closure : territory account groups user .backlink =
        insert account (groupsAbove groups account user) := reached_insert account
    rw [closure, gids_insert own]

variable (supplies : Service.Supplies σ config find) (apart : script.Apart)
  (faithful : contents.Faithful config find reply) (linked : Linked contents user account groups)
  (unlimited : policy.limit = none) (deep : groups.length ≤ policy.maxDepth)
include supplies apart faithful linked unlimited deep

variable (policy) in
theorem run_expand_linked (ordinary : (Plan.ofConfig config policy).Ordinary)
    (own : (Plan.ofConfig config policy).gid? account = primary)
    (expanded : config.ignoresUser user = false) {world : World σ}
    (suits : world.session.Suits config) :
    ∃ enough, ∀ patience, enough ≤ patience → ∃ walk later,
      (expand patience (.user user primary) policy).run world = some (.ok walk, later) ∧
        walk.members.Nodup ∧ ∀ member, member ∈ walk.members ↔
          ∃ gid ∈ (Plan.ofConfig config policy).gids primary (groupsAbove groups account user),
            member = .gid gid := by
  obtain ⟨lookup, asks, unbounded, formula, seeks, same⟩ :=
    brings_asks ordinary linked faithful
  obtain ⟨search, parts, searches, answers, all⟩ :=
    seeks.answers ordinary.undivided (by simp [unbounded]) faithful
  obtain ⟨enough, ran⟩ :=
    run_expand_user primary supplies suits apart expanded asks searches answers
  refine ⟨enough, fun patience patient => ?_⟩
  obtain ⟨later, ran⟩ := ran patience patient
  refine ⟨_, later, ran, (gather_distinct unlimited).nodup, fun member => ?_⟩
  rw [← gids_beginning own policy.direction]
  exact mem_gather_seen ordinary linked faithful (all.trans same) unlimited deep member

/-- The groups of a user are the same in both directions, where each entry lists the groups that
    list it: those that list the user, and all groups above them. The walk need not be allowed to go
    up more levels than there are groups. -/
theorem expand_user_directions (unmapped : config.attributeMap = [])
    (undivided : config.searchDescriptors = []) (nests : config.flags.nestedGroups)
    (nested : policy.nested) (own : (Plan.ofConfig config policy).gid? account = primary)
    (worlds : Direction → World σ)
    (suits : ∀ direction, (worlds direction).session.Suits config) :
    let run direction patience :=
      (expand patience (.user user primary) { policy with direction }).run (worlds direction)
    (config.ignoresUser user → ∀ direction patience, ∃ later, run direction patience =
      some (.error (.error (.notFound ("group membership of " ++ user ++ " is not expanded"))),
        later)) ∧
    (config.ignoresUser user = false → ∃ enough, ∀ patience, enough ≤ patience →
      ∃ forward backlink later later', run .forward patience = some (.ok forward, later) ∧
        run .backlink patience = some (.ok backlink, later') ∧
        forward.members.Perm backlink.members ∧ forward.members.Nodup ∧
        ∀ member, member ∈ forward.members ↔
          ∃ gid ∈ (Plan.ofConfig config policy).gids primary (groupsAbove groups account user),
            member = .gid gid) := by
  intro run
  constructor
  · intro ignored direction patience
    obtain ⟨later, ran, -⟩ := run_expand_ignored supplies (suits direction) ignored patience
    exact ⟨later, ran⟩
  · intro expanded
    -- Each direction counts the closure without repetition, so that one is a permutation of the
    -- other.
    have counts (direction : Direction) : ∃ enough, ∀ patience, enough ≤ patience →
        ∃ walk later, run direction patience = some (.ok walk, later) ∧ walk.members.Nodup ∧
          ∀ member, member ∈ walk.members ↔
            ∃ gid ∈ (Plan.ofConfig config policy).gids primary (groupsAbove groups account user),
              member = .gid gid :=
      run_expand_linked { policy with direction } supplies apart faithful linked unlimited deep
        (.ofConfig unmapped undivided nests nested) own expanded (suits direction)
    obtain ⟨enough, runs⟩ := counts .forward
    obtain ⟨enough', runs'⟩ := counts .backlink
    refine ⟨max enough enough', fun patience patient => ?_⟩
    obtain ⟨forward, later, ran, nodup, counted⟩ := runs patience (by omega)
    obtain ⟨backlink, later', ran', nodup', counted'⟩ := runs' patience (by omega)
    refine ⟨forward, backlink, later, later', ran, ran', ?_, nodup, counted⟩
    apply (List.perm_ext_iff_of_nodup nodup nodup').mpr
    exact fun member => (counted member).trans (counted' member).symm

end Directions

/-! ### Groups in a circle -/

namespace Mirror

def ann : Entry where
  name := "uid=ann,dc=small"
  attributes := [("objectClass", ["posixAccount"]), ("uid", ["ann"]), ("gidNumber", ["100"]),
    ("memberOf", ["CN=Mail,dc=small"])]

def web : Entry where
  name := "cn=web,dc=small"
  attributes := [("objectClass", ["posixGroup"]), ("gidNumber", ["10"]), ("memberUid", ["Ann"]),
    ("memberOf", ["cn=ops,dc=small"])]

def mail : Entry where
  name := "cn=mail,dc=small"
  attributes := [("objectClass", ["top", "PosixGroup"]), ("gidNumber", ["20"]),
    ("uniqueMember", ["uid=ann,dc=small"])]

def ops : Entry where
  name := "cn=ops,dc=small"
  attributes := [("objectClass", ["posixGroup"]), ("gidNumber", ["30"]),
    ("uniqueMember", ["cn=web,dc=small", "CN=All,dc=small"]), ("memberOf", ["cn=all,dc=small"])]

/-- A group in a circle with another, and the primary group of ann. -/
def all : Entry where
  name := "cn=all,dc=small"
  attributes := [("objectClass", ["posixGroup"]), ("gidNumber", ["100"]),
    ("uniqueMember", ["cn=ops,dc=small"]), ("memberOf", ["cn=ops,dc=small"])]

/-- A group that lists itself, and is above no other. -/
def far : Entry where
  name := "cn=far,dc=small"
  attributes := [("objectClass", ["posixGroup"]), ("gidNumber", ["40"]),
    ("uniqueMember", ["CN=far,dc=small"]), ("memberOf", ["cn=FAR,dc=small"])]

def groups : List Entry := [web, mail, ops, all, far]

def contents : Contents := .ofEntries (ann :: groups)

def config : Config where
  uris := ["ldap://one"]
  base := "dc=small"
  flags := { nestedGroups := true, pagedResults := true }

def policy : Policy := { maxDepth := 5 }

theorem linked : Linked contents "ann" ann groups where
  holds := rfl
  distinct := by decide
  grouped := by decide
  apart := by decide
  accounted := by decide
  called := by decide
  alone := by decide
  linked := by
    have names : ∀ entry ∈ ann :: groups, (entry.values "memberOf").map Text.fold =
        (groups.filter (·.has "uniqueMember" entry.name)).map (Text.fold ·.name) := by
      decide
    intro entry there name
    have same := congrArg (Text.fold name ∈ ·) (names entry there)
    simp only [List.mem_map, List.mem_filter, eq_iff_iff] at same
    rw [Entry.has_iff (by decide), same]
    rfl

theorem mem_groupsAbove_iff {entry : Entry} :
    entry ∈ groupsAbove groups ann "ann" ↔ entry ∈ [web, mail, ops, all] := by
  have lists : ∀ entry ∈ [web, mail, ops, all], ∀ group ∈ groups,
      group.has "uniqueMember" entry.name → group ∈ [web, mail, ops, all] := by decide
  have first : ∀ group ∈ groups, group.has "memberUid" "ann" ∨ group.has "uniqueMember" ann.name →
      group ∈ [web, mail, ops, all] := by decide
  constructor
  · intro reached
    induction reached with
    | start there =>
      rcases there with there | there
      · exact first _ there.1 (.inl there.2)
      · exact first _ there.1 (.inr there.2)
    | step _ there below => exact lists _ below _ there.1 there.2
  · have byName : web ∈ groupsAbove groups ann "ann" :=
      Reached.start (.inl ⟨by decide, by decide⟩)
    have byEntry : mail ∈ groupsAbove groups ann "ann" :=
      Reached.start (.inr ⟨by decide, by decide⟩)
    have above : ops ∈ groupsAbove groups ann "ann" :=
      Reached.step byName ⟨by decide, by decide⟩
    have circle : all ∈ groupsAbove groups ann "ann" :=
      Reached.step above ⟨by decide, by decide⟩
    simp only [List.mem_cons, List.not_mem_nil, or_false]
    rintro (rfl | rfl | rfl | rfl)
    exacts [byName, byEntry, above, circle]

theorem mem_gids_iff (gid : Nat) : gid ∈ (Plan.ofConfig config policy).gids (some 100)
    (groupsAbove groups ann "ann") ↔ gid ∈ [10, 20, 30] := by
  have gids : [web, mail, ops, all].map (Plan.ofConfig config policy).gid? =
      [some 10, some 20, some 30, some 100] := by decide
  simp only [List.map_cons, List.map_nil, List.cons.injEq, and_true] at gids
  simp only [Plan.gids, mem_groupsAbove_iff, Set.mem_ofPred_eq, List.mem_cons, List.not_mem_nil,
    or_false, exists_eq_or_imp, exists_eq_left, gids]
  simp
  omega

end Mirror

/-- Two groups list ann, one by a short name and one by the name of her entry. One group above them
    is in a circle with her primary group, which is not counted. -/
theorem expand_user_directions_mirror :
    let world : World (Host Mirror.config Mirror.contents.reply) := { outside := {} }
    let run direction patience :=
      (expand patience (.user "ann" (some 100)) { Mirror.policy with direction }).run world
    ∃ enough, ∀ patience, enough ≤ patience → ∃ forward backlink later later',
      run .forward patience = some (.ok forward, later) ∧
        run .backlink patience = some (.ok backlink, later') ∧
        forward.members.Perm backlink.members ∧
        ∀ gid, .gid gid ∈ forward.members ↔ gid ∈ [10, 20, 30] := by
  intro world run
  have unlimited : Mirror.policy.limit = none := rfl
  have deep : Mirror.groups.length ≤ Mirror.policy.maxDepth := by decide
  have own : (Plan.ofConfig Mirror.config Mirror.policy).gid? Mirror.ann = some 100 := by decide
  obtain ⟨enough, runs⟩ := (expand_user_directions (Host.supplies (by decide)) Host.script_apart
    (Mirror.contents.faithful Mirror.config) Mirror.linked unlimited deep rfl rfl rfl rfl own
    (fun _ => world) fun _ => Session.suits_new Mirror.config).2 rfl
  refine ⟨enough, fun patience patient => ?_⟩
  obtain ⟨forward, backlink, later, later', ran, ran', same, -, counted⟩ := runs patience patient
  refine ⟨forward, backlink, later, later', ran, ran', same, fun gid => ?_⟩
  rw [counted, ← Mirror.mem_gids_iff]
  simp

end NameService.Membership
