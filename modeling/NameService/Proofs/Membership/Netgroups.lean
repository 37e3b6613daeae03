import NameService.Proofs.Filter.Filling
import NameService.Proofs.Lookup.Supply
import NameService.Proofs.Membership.Exploring
import NameService.Proofs.Membership.Recollection

/-!
The triples of a netgroup are those that stand in it and in the netgroups that can be reached from
it. Netgroups may name each other in any way, and may name some that do not exist; the walk through
them comes to an end, and how deep it may go is the only limit to what it finds.

## Main result

`expand_netgroup`: what comes of the question for the triples of a netgroup.
-/

namespace NameService

open Engine

namespace Netgroup

/-- The cursor comes to a member, sooner or later. -/
inductive Cursor.Yields : Cursor → Member → Prop
  | now {cursor rest : Cursor} {member : Member} (next : cursor.next = (.ok member, rest)) :
    Yields cursor member
  | later {cursor rest : Cursor} {first member : Member} (next : cursor.next = (.ok first, rest))
    (yields : Yields rest member) : Yields cursor member

theorem mem_members_iff {text : List Char} {first : Bool} {member : Member} :
    member ∈ members text ↔ Cursor.Yields ⟨some text, first⟩ member := by
  -- By the recursion of the reader. After the first step the cursor is no longer at its start, so
  -- the flag is arbitrary.
  fun_induction members text generalizing first with
  | case1 text ended =>
    refine ⟨nofun, fun yields => ?_⟩
    cases yields with
    | now next => simp [Cursor.next, ended] at next
    | later next _ => simp [Cursor.next, ended] at next
  | case2 text found rest taken ih =>
    have next : Cursor.next ⟨some text, first⟩ = (.ok found, ⟨some rest, false⟩) := by
      simp [Cursor.next, taken]
    rw [List.mem_cons, ih]
    constructor
    · rintro (rfl | yields)
      · exact .now next
      · exact .later next yields
    · intro yields
      cases yields with
      | now next' =>
        obtain ⟨⟨⟩, -⟩ := Prod.mk.inj (next.symm.trans next')
        exact .inl rfl
      | later next' yields =>
        obtain ⟨-, rfl⟩ := Prod.mk.inj (next.symm.trans next')
        exact .inr yields

/-- To read all members at once comes to the same as to read them one by one. -/
theorem Cursor.mem_members {cursor : Cursor} {member : Member} :
    member ∈ cursor.members ↔ cursor.Yields member := by
  obtain ⟨_ | text, first⟩ := cursor
  · refine ⟨nofun, fun yields => ?_⟩
    cases yields with
    | now next => cases next
    | later next _ => cases next
  · exact mem_members_iff

end Netgroup

namespace Membership

/-- The netgroups of a directory: what it answers when it is asked for a name. Case makes no
    difference between names. -/
structure Netgroups where
  entries : String → List Entry
  entries_fold : ∀ {name other : String}, Text.fold name = Text.fold other →
    entries name = entries other

/-- The cursor over what an entry says of the members of a netgroup. -/
def Plan.cursor (plan : Plan) (entry : Entry) : Netgroup.Cursor :=
  .ofValues (entry.values plan.names.memberNisNetgroup ++ entry.values plan.names.nisNetgroupTriple)

namespace Netgroups

variable (netgroups : Netgroups) (plan : Plan)

def Exists (name : String) : Prop := netgroups.entries name ≠ []

instance (name : String) : Decidable (netgroups.Exists name) :=
  inferInstanceAs (Decidable (netgroups.entries name ≠ []))

/-- A member stands in the netgroup of this name, if there is one. -/
def Names (name : String) (member : Netgroup.Member) : Prop :=
  ∃ entry, (netgroups.entries name).head? = some entry ∧ (plan.cursor entry).Yields member

/-- The first netgroup names the second. Of that nothing else is known. -/
def Leads (name inner : String) : Prop := netgroups.Names plan name (.group inner)

/-- All names that can be reached, but for case. -/
def reach (seed : String) : Set String := Text.fold '' allBelow (netgroups.Leads plan) seed

/-- What a member contributes to the walk. -/
def itemsOf (plan : Plan) : Netgroup.Member → List (Listed String)
  | .triple triple => [.member (.triple triple)]
  | .group inner => if plan.policy.nested then [.node inner] else []

/-- The members of the first entry that is found. -/
def members (name : String) : List Netgroup.Member :=
  match (netgroups.entries name).head? with
  | none => []
  | some entry => (plan.cursor entry).members

def graph : Graph String where
  name := id
  items name := (netgroups.members plan name).flatMap (itemsOf plan)

variable {netgroups plan}

theorem mem_members {name : String} {member : Netgroup.Member} :
    member ∈ netgroups.members plan name ↔ netgroups.Names plan name member := by
  unfold members Names
  cases (netgroups.entries name).head? with
  | none => simp
  | some entry => simp [Netgroup.Cursor.mem_members]

theorem mem_items_member {name : String} {member : Member} :
    .member member ∈ (netgroups.graph plan).items name ↔
      ∃ triple, member = .triple triple ∧ netgroups.Names plan name (.triple triple) := by
  simp only [graph, List.mem_flatMap, mem_members]
  constructor
  · rintro ⟨found, named, listed⟩
    cases found with
    | triple triple =>
      obtain rfl : member = .triple triple := by simpa [itemsOf] using listed
      exact ⟨triple, rfl, named⟩
    | group inner => grind [itemsOf]
  · rintro ⟨triple, rfl, named⟩
    exact ⟨.triple triple, named, by simp [itemsOf]⟩

theorem mem_items_node {name inner : String} (nested : plan.policy.nested) :
    .node inner ∈ (netgroups.graph plan).items name ↔ netgroups.Names plan name (.group inner) := by
  simp only [graph, List.mem_flatMap, mem_members]
  constructor
  · rintro ⟨found, named, listed⟩
    cases found with
    | triple triple => simp [itemsOf] at listed
    | group other =>
      obtain rfl : inner = other := by simpa [itemsOf, nested] using listed
      exact named
  · intro named
    exact ⟨.group inner, named, by simp [itemsOf, nested]⟩

/-- The lists lead to one another as the netgroups do. -/
theorem leads_graph (nested : plan.policy.nested) :
    (netgroups.graph plan).Leads = netgroups.Leads plan :=
  funext₂ fun _ _ => propext (mem_items_node nested)

theorem keys_eq_reach (nested : plan.policy.nested) (seed : String) :
    (netgroups.graph plan).keys (allBelow (netgroups.graph plan).Leads seed) =
      netgroups.reach plan seed := by
  rw [leads_graph nested]
  rfl

theorem items_fold {name other : String} (same : Text.fold name = Text.fold other) :
    (netgroups.graph plan).items name = (netgroups.graph plan).items other := by
  simp only [graph, members, netgroups.entries_fold same]

end Netgroups

section Walks

variable {σ : Type} [Service σ] {config : Config} {plan : Plan} {netgroups : Netgroups}
  {find : Search → Except Error (List Entry)} (opens : Service.Opens σ config)
  (asks : ∀ name, (plan.findNetgroup name).Asks σ config find)
  (told : ∀ name, (plan.findNetgroup name).answer find config = .ok (netgroups.entries name))
include opens asks told

theorem run_lookUp {world : World σ} (suits : world.session.Suits config) (level : Nat)
    (name : String) :
    ∃ later, (lookUp plan level name).run world = some (.ok (netgroups.entries name), later) ∧
      later.session.Suits config := by
  let noted : World σ := { world with visits := .find level name :: world.visits }
  have suits' : noted.session.Suits config := suits
  obtain ⟨later, ran, suits⟩ := Lookup.run_entries_of_asks opens (asks name) (told name) suits'
  refine ⟨later, ?_, suits⟩
  simpa only [lookUp, run_action_bind, run_lift, run_noteVisit, Option.map_some, Option.bind_some]
    using ran

theorem run_netgroup {world : World σ} (suits : world.session.Suits config) (level : Nat)
    {name : String} {known : Option Entry} (atHand : ∀ entry, known = some entry →
      (netgroups.entries name).head? = some entry) :
    ∃ later, netgroup plan level name known world = some ((netgroups.entries name).head?, later) ∧
      later.session.Suits config := by
  cases known with
  | some entry => exact ⟨world, by simp [netgroup, atHand entry rfl], suits⟩
  | none =>
    obtain ⟨later, ran, suits⟩ := run_lookUp opens asks told suits level name
    exact ⟨later, by simp [netgroup, ran], suits⟩

/-- A walk through netgroups explores what their cursors come to. -/
theorem run_walkNetgroup (levels level : Nat) {name : String} {known : Option Entry} (walk : Walk)
    {world : World σ} (suits : world.session.Suits config)
    (atHand : ∀ entry, known = some entry → (netgroups.entries name).head? = some entry) :
    ∃ later, walkNetgroup plan levels level name known walk world =
        some ((netgroups.graph plan).explore levels name walk, later) ∧
      later.session.Suits config := by
  induction levels generalizing level name known walk world with
  | zero => exact ⟨world, rfl, suits⟩
  | succ levels ih =>
    have steps : ∀ member ∈ netgroups.members plan name, ∀ (walk : Walk) (world : World σ),
        world.session.Suits config → ∃ later,
          (match member with
            | .triple triple => pure (walk.add (.triple triple))
            | .group child =>
              if plan.policy.nested then walkNetgroup plan levels (level + 1) child none walk
              else pure walk : Engine σ Walk) world =
            some ((Netgroups.itemsOf plan member).foldl
              (Graph.count ((netgroups.graph plan).explore levels)) walk, later) ∧
          later.session.Suits config := by
      intro member _ walk world suits
      cases member with
      | triple triple => exact ⟨world, rfl, suits⟩
      | group child =>
        simp only [Netgroups.itemsOf]
        split
        · exact ih _ walk suits nofun
        · exact ⟨world, rfl, suits⟩
    rw [walkNetgroup, Graph.explore]
    by_cases met : walk.seen.contains name
    · exact ⟨world, by simp [met, Netgroups.graph], suits⟩
    obtain ⟨between, looked, suits⟩ := run_netgroup opens asks told suits level atHand
    obtain ⟨later, ran, suits⟩ := run_foldlM _ steps (walk.meet name) between suits
    refine ⟨later, ?_, suits⟩
    have new : walk.seen.contains ((netgroups.graph plan).name name) = false :=
      Bool.eq_false_iff.mpr met
    have all : ((netgroups.graph plan).items name).foldl
        (Graph.count ((netgroups.graph plan).explore levels)) (walk.meet name) =
          (netgroups.members plan name).foldl (fun walk member =>
            (Netgroups.itemsOf plan member).foldl
              (Graph.count ((netgroups.graph plan).explore levels)) walk) (walk.meet name) :=
      List.foldl_flatMap
    simp only [met, new, Bool.false_eq_true, if_false, run_bind, looked, Option.bind_some]
    refine Eq.trans ?_ (ran.trans (by rw [← all]; rfl))
    -- Without an entry there are no members.
    unfold Netgroups.members
    cases (netgroups.entries name).head? <;> rfl

end Walks

/-- The question for the triples of a netgroup has an answer. It holds no triple twice, and none
    that does not stand in a netgroup within reach; and it leaves out no triple when the walk may go
    as deep as there are names. -/
theorem expand_netgroup {σ : Type} [Service σ] {config : Config} {policy : Policy}
    {netgroups : Netgroups} {find : Search → Except Error (List Entry)}
    (opens : Service.Opens σ config)
    (asks : ∀ name, ((Plan.ofConfig config policy).findNetgroup name).Asks σ config find)
    (told : ∀ name, ((Plan.ofConfig config policy).findNetgroup name).answer find config =
      .ok (netgroups.entries name))
    (nested : policy.nested) (patience : Nat) (name : String) (world : World σ)
    (suits : world.session.Suits config) :
    let plan := Plan.ofConfig config policy
    (¬ netgroups.Exists name → ∃ later, (expand patience (.netgroup name) policy).run world =
      some (.error (.error (.notFound ("netgroup " ++ name ++ " does not exist"))), later)) ∧
    (netgroups.Exists name → ∃ walk later,
      (expand patience (.netgroup name) policy).run world = some (.ok walk, later) ∧
        walk.members.Nodup ∧
        (∀ member ∈ walk.members, ∃ triple, member = .triple triple ∧
          ∃ depth ≤ policy.maxDepth, ∃ inner, Below (netgroups.Leads plan) name depth inner ∧
            netgroups.Names plan inner (.triple triple)) ∧
        ((netgroups.reach plan name).encard ≤ (policy.maxDepth + 1 : Nat) →
          ∀ depth inner, Below (netgroups.Leads plan) name depth inner →
            ∀ triple, netgroups.Names plan inner (.triple triple) →
              .triple triple ∈ walk.members)) := by
  intro plan
  obtain ⟨begun, suits, -, begins⟩ :=
    run_expand opens World.lasting_true suits trivial
  have ran := begins patience (.netgroup name) policy
  obtain ⟨between, looked, suits⟩ := run_lookUp opens asks told suits 0 name
  -- The first netgroup is looked up before the walk begins, which decides between the two cases.
  have first : (plan.pursue patience (.netgroup name)).run begun =
      (match (netgroups.entries name).head? with
        | none => throw (.error (.notFound ("netgroup " ++ name ++ " does not exist")))
        | some entry => lift (walkNetgroup plan (plan.policy.maxDepth + 1) 0 name (some entry) {}) :
          Venture σ Walk).run between := by
    cases known : (netgroups.entries name).head? <;>
      simp [Plan.pursue, expandNetgroup, looked, known, plan, Function.comp_def]
  constructor
  · intro missing
    have none : (netgroups.entries name).head? = none := by
      simpa [Netgroups.Exists] using missing
    rw [none] at first
    exact ⟨between, ran.trans first⟩
  · intro here
    obtain ⟨entry, found⟩ : ∃ entry, (netgroups.entries name).head? = some entry :=
      Option.isSome_iff_exists.mp (by simpa [Netgroups.Exists] using here)
    rw [found] at first
    have atHand : ∀ given, some entry = some given →
        (netgroups.entries name).head? = some given := by
      rintro _ ⟨⟩
      exact found
    -- From here on the program does what the walk over the graph of netgroups does, and all that is
    -- left is known of that walk.
    obtain ⟨later, walked, -⟩ :=
      run_walkNetgroup opens asks told (plan.policy.maxDepth + 1) 0 {} suits atHand
    refine ⟨_, later, ran.trans (first.trans (by rw [run_lift, walked]; rfl)), ?_, ?_, ?_⟩
    · exact Graph.explore_nodup List.nodup_nil
    · intro member there
      obtain ⟨depth, near, inner, below, listed⟩ :=
        Graph.explore_sound name policy.maxDepth member there
      obtain ⟨triple, same, names⟩ := Netgroups.mem_items_member.mp listed
      rw [Netgroups.leads_graph nested] at below
      exact ⟨triple, same, depth, near, inner, below, names⟩
    · intro enough depth inner leads triple names
      have below : inner ∈ allBelow (netgroups.graph plan).Leads name := by
        rw [Netgroups.leads_graph nested]
        exact ⟨depth, leads⟩
      refine Graph.explore_complete (fun name _ other _ same => Netgroups.items_fold same) ?_ below
        (Netgroups.mem_items_member.mpr ⟨triple, rfl, names⟩)
      rw [Netgroups.keys_eq_reach nested]
      exact enough

/-! ### Two netgroups that name each other -/

namespace Web

def staff : Entry where
  name := "cn=staff,ou=netgroups,dc=small"
  attributes := [("cn", ["staff"]), ("memberNisNetgroup", ["ADMINS", "ghosts"]),
    ("nisNetgroupTriple", ["(one,ann,)"])]

/-- What stands last is no member. -/
def admins : Entry where
  name := "cn=admins,ou=netgroups,dc=small"
  attributes := [("cn", ["admins"]), ("memberNisNetgroup", ["staff"]),
    ("nisNetgroupTriple", ["(,bob,small)", "(one,ann,) (two"])]

def entries : List Entry := [staff, admins]

def named (name : String) : List Entry :=
  entries.filter fun entry => (entry.values "cn").any (Text.same name)

def netgroups : Netgroups where
  entries := named
  entries_fold {name other} same := by
    have alike : Text.same name = Text.same other := by
      funext value
      simp [Text.same, same]
    rw [named, named, alike]

def config : Config := { uris := ["ldap://one"], base := "dc=small" }

abbrev policy : Policy := { maxDepth := 2 }

abbrev plan : Plan := .ofConfig config policy

/-- What stands before the name in a question about a netgroup. -/
def before : List Char := "(&(objectClass=nisNetgroup)(cn=".toList

def reply (search : Search) : Reply :=
  ⟨((Filter.valueAfter? before search.filter).elim [] named).map some, 0, "", none⟩

def find (search : Search) : Except Error (List Entry) := .ok (reply search).messages.reduceOption

theorem opens : Service.Opens (Host config reply) config :=
  ⟨by decide, fun _ => rfl, fun _ _ => rfl, fun _ _ _ _ => rfl⟩

theorem asks (name : String) : (plan.findNetgroup name).Asks (Host config reply) config find :=
  fun _ _ _ _ _ _ => rfl

theorem told (name : String) : (plan.findNetgroup name).answer find config =
    .ok (netgroups.entries name) := by
  have parts : plan.templates.netgroupByName.toList = before ++ '%' :: 's' :: [')', ')'] := by
    decide
  have rendered := Filter.render_between parts (by decide) (by decide) name
  have asked : ∃ search,
      (plan.findNetgroup name).search config ⟨"dc=small", .subtree, none⟩ = .ok search ∧
        search.filter = String.ofList (before ++ Filter.escape name ++ [')', ')']) := by
    simp [Plan.findNetgroup, Lookup.search, Filter.build, rendered, bind, Except.bind, pure,
      Except.pure]
  obtain ⟨search, searches, filter⟩ := asked
  have told : Filter.valueAfter? before search.filter = some name := by
    rw [filter]
    exact Filter.valueAfter?_escape before name
  have found : find search = .ok (named name) := by
    simp [find, reply, told, List.reduceOption]
  have targets : (plan.findNetgroup name).targets config = [⟨"dc=small", .subtree, none⟩] := rfl
  rw [Lookup.answer, targets, Lookup.answerIn_asked searches, found]
  change _ = Except.ok (named name)
  cases named name <;> rfl

theorem mem_entries {name : String} {entry : Entry} (there : entry ∈ netgroups.entries name) :
    entry ∈ entries := by
  simp only [netgroups, named] at there
  exact List.mem_of_mem_filter there

theorem reach_subset :
    netgroups.reach plan "Staff" ⊆ ({"staff", "admins", "ghosts"} : Set String) := by
  rintro _ ⟨name, ⟨depth, leads⟩, rfl⟩
  cases leads with
  | here => simp [show Text.fold "Staff" = "staff" by decide]
  | step leads names =>
    obtain ⟨entry, found, yields⟩ := names
    have known : entry ∈ entries := mem_entries (List.mem_of_head? found)
    have listed := Netgroup.Cursor.mem_members.mpr yields
    have all : ∀ entry ∈ entries, ∀ member ∈ (plan.cursor entry).members,
        member ∈ [.group "ADMINS", .group "ghosts", .group "staff",
          .triple ⟨some "one", some "ann", none⟩, .triple ⟨none, some "bob", some "small"⟩] := by
      decide +kernel
    have among := all entry known _ listed
    simp only [List.mem_cons, Netgroup.Member.group.injEq, reduceCtorEq, List.not_mem_nil,
      or_false] at among
    rcases among with rfl | rfl | rfl
    · simp [show Text.fold "ADMINS" = "admins" by decide]
    · simp [show Text.fold "ghosts" = "ghosts" by decide]
    · simp [show Text.fold "staff" = "staff" by decide]

end Web

/-- Each netgroup is gone through once, and the triples of both are found. -/
theorem expand_netgroup_web :
    let world : World (Host Web.config Web.reply) := { outside := {} }
    Service.Opens (Host Web.config Web.reply) Web.config ∧
      (∀ name, (Web.plan.findNetgroup name).Asks (Host Web.config Web.reply) Web.config
        Web.find) ∧
      (∀ name, (Web.plan.findNetgroup name).answer Web.find Web.config =
        .ok (Web.netgroups.entries name)) ∧
      Web.policy.nested ∧ world.session.Suits Web.config ∧
      ¬ Web.netgroups.Exists "ghosts" ∧ Web.netgroups.Exists "Staff" ∧
      ∃ walk later, (expand 9 (.netgroup "Staff") Web.policy).run world = some (.ok walk, later) ∧
        walk.members.Nodup ∧ .triple ⟨none, some "bob", some "small"⟩ ∈ walk.members := by
  intro world
  have suits : world.session.Suits Web.config := Session.suits_new Web.config
  have here : Web.netgroups.Exists "Staff" := by decide +kernel
  refine ⟨Web.opens, Web.asks, Web.told, rfl, suits, by decide +kernel, here, ?_⟩
  obtain ⟨walk, later, ran, nodup, -, complete⟩ :=
    (expand_netgroup Web.opens Web.asks Web.told rfl 9 "Staff" world suits).2 here
  refine ⟨walk, later, ran, nodup, ?_⟩
  -- There are three netgroups to be met, one of which does not exist, and a depth of two.
  have three : ({"staff", "admins", "ghosts"} : Set String).encard ≤ (2 + 1 : Nat) := by
    refine (Set.encard_insert_le _ _).trans ?_
    rw [Set.encard_pair (by decide)]
    rfl
  have enough := (Set.encard_le_encard Web.reach_subset).trans three
  have inner : Web.netgroups.Names Web.plan "Staff" (.group "ADMINS") :=
    ⟨Web.staff, by decide +kernel, Netgroup.Cursor.mem_members.mp (by decide +kernel)⟩
  refine complete enough 1 "ADMINS" (.step .here inner) _ ?_
  exact ⟨Web.admins, by decide +kernel, Netgroup.Cursor.mem_members.mp (by decide +kernel)⟩

end Membership

end NameService
