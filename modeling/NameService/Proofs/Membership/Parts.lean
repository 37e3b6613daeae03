import NameService.Proofs.Membership.Gathering

/-!
Groups that are looked for in several parts of the tree. The groups of a user are received from all
parts, but a question about the groups above a group is answered by the first part that has any of
them, and those in the parts after it are lost. Nothing is lost where the groups above each group
are kept together.

## Main results

- `Chart.found_eq`: what is found by some names is what the first part has that has anything.
- `expand_user_parts`: the groups of a user, where groups above a group are kept together.
- `expand_user_parts_lost`: a group that is lost.
-/

namespace NameService.Membership

open Engine World

/-- The parts of the tree in which groups are looked for. -/
def Plan.parts (plan : Plan) : List Lookup.Target := (plan.namedGroups []).targets plan.config

theorem Plan.targets_asking (plan : Plan) (name : String) (others : List String) :
    (plan.asking name others).targets plan.config = plan.parts := by
  cases direction : plan.policy.direction <;> simp only [asking, direction] <;> rfl

/-- What a directory has in each part of the tree, and the entries to which a name leads: those that
    list it, or those that are called by it. -/
structure Chart where
  under : Lookup.Target → List Entry
  leads : String → Entry → Bool

namespace Chart

variable (chart : Chart)

/-- Whether one of some names leads to an entry. -/
def anyLeads (names : List String) (entry : Entry) : Bool := names.any (chart.leads · entry)

/-- The entries of a part to which some names lead. -/
def inPart (names : List String) (part : Lookup.Target) : List Entry :=
  (chart.under part).filter (chart.anyLeads names)

/-- The entries to which some names lead, in the first part that has any. -/
def inFirst (names : List String) : List Lookup.Target → List Entry
  | [] => []
  | part :: parts =>
    if chart.inPart names part = [] then inFirst names parts else chart.inPart names part

/-- The entries to which a name leads, wherever they are. -/
def above (plan : Plan) (name : String) : Set Entry :=
  { entry | ∃ part ∈ plan.parts, entry ∈ chart.under part ∧ chart.leads name entry }

/-- Everything above some groups, wherever it is. -/
def closure (plan : Plan) (first : Set Entry) : Set Entry :=
  { entry | Reached (upward plan.keys (chart.above plan)) first entry }

/-- A directory answers by its chart whatever is asked above some groups. -/
structure Describes (plan : Plan) (find : Search → Except Error (List Entry)) (first : Set Entry) :
    Prop where
  alike : ∀ name other, Text.fold name = Text.fold other → chart.leads name = chart.leads other
  finds : ∀ group ∈ chart.closure plan first, ∀ name others,
    (name :: others).Sublist (plan.keys group) → ∀ part ∈ plan.parts,
      (plan.asking name others).search plan.config part >>= find =
        .ok (chart.inPart (name :: others) part)

/-- A part that has one of the groups above a group has all of them. -/
def Together (plan : Plan) (group : Entry) : Prop :=
  ∀ part ∈ plan.parts, ∀ other ∈ plan.parts, ∀ entry ∈ chart.inPart (plan.keys group) part,
    chart.inPart (plan.keys group) other ≠ [] → entry ∈ chart.under other

variable {chart} {plan : Plan} {find : Search → Except Error (List Entry)} {first : Set Entry}

theorem mem_inPart {names : List String} {part : Lookup.Target} {entry : Entry} :
    entry ∈ chart.inPart names part ↔
      entry ∈ chart.under part ∧ ∃ name ∈ names, chart.leads name entry := by
  simp [inPart, anyLeads]

theorem inPart_subset {names keys : List String} (listed : names ⊆ keys) (part : Lookup.Target) :
    chart.inPart names part ⊆ chart.inPart keys part := by
  intro entry there
  rw [mem_inPart] at there ⊢
  obtain ⟨known, name, asked, led⟩ := there
  exact ⟨known, name, listed asked, led⟩

theorem mem_of_mem_inFirst {names : List String} {entry : Entry} :
    ∀ {parts : List Lookup.Target}, entry ∈ chart.inFirst names parts →
      ∃ part ∈ parts, entry ∈ chart.inPart names part
  | [], there => by cases there
  | part :: parts, there => by
    rw [inFirst] at there
    split at there
    · obtain ⟨later, among, there⟩ := mem_of_mem_inFirst there
      exact ⟨later, List.mem_cons_of_mem _ among, there⟩
    · exact ⟨part, List.mem_cons_self, there⟩

/-- The first part leaves nothing out, if what it has of the entries is all of them. -/
theorem mem_inFirst {names : List String} {entry : Entry} : ∀ {parts : List Lookup.Target},
    (∀ part ∈ parts, chart.inPart names part ≠ [] → entry ∈ chart.under part) →
    (∃ part ∈ parts, entry ∈ chart.inPart names part) → entry ∈ chart.inFirst names parts
  | [], _, there => by simp at there
  | part :: parts, whole, ⟨other, among, there⟩ => by
    rw [inFirst]
    split
    · next none =>
      refine mem_inFirst (fun later among => whole later (List.mem_cons_of_mem _ among)) ?_
      rcases List.mem_cons.mp among with rfl | among
      · simp [none] at there
      · exact ⟨other, among, there⟩
    · next some =>
      -- The parts after this one are not asked, and need not be.
      exact mem_inPart.mpr ⟨whole part List.mem_cons_self some, (mem_inPart.mp there).2⟩

theorem answerIn_eq {lookup : Lookup} {config : Config} {names : List String} :
    ∀ {parts : List Lookup.Target}, (∀ part ∈ parts,
      lookup.search config part >>= find = .ok (chart.inPart names part)) →
      lookup.answerIn find config parts = .ok (chart.inFirst names parts)
  | [], _ => rfl
  | part :: parts, finds => by
    have here := finds part List.mem_cons_self
    have rest : lookup.answerIn find config parts = .ok (chart.inFirst names parts) :=
      answerIn_eq fun later among => finds later (List.mem_cons_of_mem _ among)
    cases searched : lookup.search config part with
    | error error => simp [searched, bind, Except.bind] at here
    | ok search =>
      have told : find search = .ok (chart.inPart names part) := by
        simpa [searched, bind, Except.bind] using here
      rw [Lookup.answerIn_asked searched, told, inFirst, rest]
      cases chart.inPart names part <;> simp

/-- What is found by some names is what the first part has that has anything. -/
theorem found_eq (describes : chart.Describes plan find first) {group : Entry}
    (reached : group ∈ chart.closure plan first) {names : List String}
    (asked : names.Sublist (plan.keys group)) :
    plan.found find names = chart.inFirst names plan.parts := by
  cases names with
  | nil =>
    have none : ∀ parts : List Lookup.Target, chart.inFirst [] parts = [] := by
      intro parts
      induction parts with
      | nil => rfl
      | cons part parts ih => simpa [inFirst, inPart, anyLeads] using ih
    exact (none _).symm
  | cons name others =>
    have answered := answerIn_eq (describes.finds group reached name others asked)
    simp [Plan.found, Lookup.answer, plan.targets_asking, answered, Except.toOption]

/-- What is found above a group is above it in some part. -/
theorem above_of_found (describes : chart.Describes plan find first) {group : Entry}
    (reached : group ∈ chart.closure plan first) {names : List String}
    (asked : names.Sublist (plan.keys group)) {entry : Entry}
    (there : entry ∈ plan.found find names) :
    ∃ name ∈ names, entry ∈ chart.above plan name := by
  rw [found_eq describes reached asked] at there
  obtain ⟨part, among, there⟩ := mem_of_mem_inFirst there
  obtain ⟨known, name, key, led⟩ := mem_inPart.mp there
  exact ⟨name, key, part, among, known, led⟩

/-- Where the groups above a group are kept together, those to which names lead are found. -/
theorem found_of_above (describes : chart.Describes plan find first) {group : Entry}
    (reached : group ∈ chart.closure plan first) (together : chart.Together plan group)
    {names : List String} (asked : names.Sublist (plan.keys group)) {name : String}
    (key : name ∈ names) {entry : Entry} (led : entry ∈ chart.above plan name) :
    entry ∈ plan.found find names := by
  rw [found_eq describes reached asked]
  obtain ⟨part, among, known, led⟩ := led
  have there : entry ∈ chart.inPart names part := mem_inPart.mpr ⟨known, name, key, led⟩
  refine mem_inFirst (fun other among' some => ?_) ⟨part, among, there⟩
  -- What is asked for may be less than all names of the group, and what is found is not more.
  have there' := inPart_subset asked.subset part there
  refine together part among other among' entry there' fun none => ?_
  exact some (List.eq_nil_of_subset_nil (none ▸ inPart_subset asked.subset other))

theorem above_alike (describes : chart.Describes plan find first) (name other : String)
    (same : Text.fold name = Text.fold other) : chart.above plan name = chart.above plan other := by
  simp only [above, describes.alike name other same]

end Chart

section Parts

variable {σ : Type} [Service σ] {config : Config} {find : Search → Except Error (List Entry)}
  {reply : Search → Reply} {script : Script σ reply} {policy : Policy}

/-- The groups of a user, where groups are looked for in several parts of the tree. All that are
    counted are in the closure of what comes first. The closure is everything above it, wherever it
    is, and nothing of it is lost where the groups above each group are kept together, as long as
    the walk may go as far up as there is a way. -/
theorem expand_user_parts (supplies : Service.Supplies σ config find) (apart : script.Apart)
    (unlimited : policy.limit = none) (chart : Chart) (user : String) (primary : Option Nat)
    (expanded : config.ignoresUser user = false) {lookup : Lookup} {search : Search}
    {parts : List (List (List (Option Entry)))}
    (asks : (Plan.ofConfig config policy).asks find user = .ok lookup)
    (searches : lookup.search? config 0 = .ok (some search))
    (answers : lookup.Answers config reply parts)
    (describes : chart.Describes (.ofConfig config policy) find
      { entry | entry ∈ parts.flatten.flatten.reduceOption })
    (world : World σ) (suits : world.session.Suits config) :
    let plan := Plan.ofConfig config policy
    let first : Set Entry := { entry | entry ∈ parts.flatten.flatten.reduceOption }
    ∃ enough, ∀ patience, enough ≤ patience → ∃ walk later,
      (expand patience (.user user primary) policy).run world = some (.ok walk, later) ∧
        walk.limitReached = false ∧ walk.members.Nodup ∧
        (∀ member ∈ walk.members,
          ∃ gid ∈ plan.gids primary (chart.closure plan first), member = .gid gid) ∧
        ((∀ group ∈ chart.closure plan first, chart.Together plan group) →
          (∀ names entry, Ascent plan.keys (chart.above plan) first names entry →
            names.length ≤ policy.maxDepth) →
          ∀ gid, .gid gid ∈ walk.members ↔ gid ∈ plan.gids primary (chart.closure plan first)) := by
  intro plan first
  obtain ⟨enough, ran⟩ :=
    run_expand_user primary supplies suits apart expanded asks searches answers
  refine ⟨enough, fun patience patient => ?_⟩
  obtain ⟨later, ran⟩ := ran patience patient
  refine ⟨_, later, ran, gather_goesOn unlimited, (gather_distinct unlimited).nodup, ?_, ?_⟩
  · exact gather_sound fun group reached names asked entry there =>
      Chart.above_of_found describes reached asked there
  · -- Where all parents of a group are under one descriptor, the search that stops there has found
    -- them all.
    intro together within
    refine mem_gather_iff unlimited (Chart.above_alike describes)
      (fun group reached names asked entry =>
        ⟨fun there => Chart.above_of_found describes reached asked there, ?_⟩) within
    rintro ⟨name, key, led⟩
    exact Chart.found_of_above describes reached (together group reached) asked key led

end Parts

/-! ### A tree with two parts -/

namespace Split

def ann : Entry := ⟨"uid=ann,dc=small", [("objectClass", ["posixAccount"]), ("uid", ["ann"])]⟩

def web : Entry where
  name := "cn=web,ou=one,dc=small"
  attributes := [("objectClass", ["posixGroup"]), ("gidNumber", ["10"]), ("memberUid", ["ann"]),
    ("memberOf", ["cn=ops,ou=one,dc=small", "cn=dev,ou=two,dc=small"])]

def ops : Entry where
  name := "cn=ops,ou=one,dc=small"
  attributes := [("objectClass", ["posixGroup"]), ("gidNumber", ["20"]),
    ("uniqueMember", ["cn=web,ou=one,dc=small"]), ("memberOf", ["cn=top,ou=two,dc=small"])]

def dev : Entry where
  name := "cn=dev,ou=two,dc=small"
  attributes := [("objectClass", ["posixGroup"]), ("gidNumber", ["30"]),
    ("uniqueMember", ["cn=web,ou=one,dc=small"])]

def top : Entry where
  name := "cn=top,ou=two,dc=small"
  attributes := [("objectClass", ["posixGroup"]), ("gidNumber", ["40"]),
    ("uniqueMember", ["cn=ops,ou=one,dc=small"])]

def everyone : List Entry := [ann, web, ops, dev, top]

def config : Config where
  uris := ["ldap://one"]
  base := "dc=small"
  flags := { nestedGroups := true }
  searchDescriptors := [(.group, [{ base := "ou=one," }, { base := "ou=two," }])]

/-- What the filters of questions match. -/
def matching : List (String × List Entry) := [
  ("(&(objectClass=posixAccount)(uid=ann))", [ann]),
  ("(&(objectClass=posixGroup)(|(memberUid=ann)(uniqueMember=uid=ann,dc=small)))", [web]),
  ("(&(objectClass=posixGroup)(uniqueMember=cn=web,ou=one,dc=small))", [ops, dev]),
  ("(&(objectClass=posixGroup)(uniqueMember=cn=ops,ou=one,dc=small))", [top]),
  ("(|(&(objectClass=posixGroup)(memberUid=ann))(&(objectClass=posixAccount)(uid=ann)))",
    [ann, web]),
  ("(|(distinguishedName=cn=ops,ou=one,dc=small)(distinguishedName=cn=dev,ou=two,dc=small))",
    [ops, dev]),
  ("(|(distinguishedName=cn=ops,ou=one,dc=small))", [ops]),
  ("(|(distinguishedName=cn=dev,ou=two,dc=small))", [dev]),
  ("(|(distinguishedName=cn=top,ou=two,dc=small))", [top])]

def matched (filter : String) : List Entry := (matching.lookup filter).getD []

/-- The entries below a base. -/
def below (entries : List Entry) (base : String) : List Entry :=
  entries.filter fun entry => base.toList.isSuffixOf entry.name.toList

def reply (entries : List Entry) (search : Search) : Reply :=
  ⟨((below entries search.base).filter (· ∈ matched search.filter)).map some, 0, "", none⟩

def find (entries : List Entry) (search : Search) : Except Error (List Entry) :=
  .ok (reply entries search).messages.reduceOption

abbrev plan (direction : Direction) : Plan := .ofConfig config { direction }

/-- The groups that list a name, or the group that is called by it. -/
def chart (entries : List Entry) (direction : Direction) : Chart where
  under part := below entries part.base
  leads name entry :=
    match direction with
    | .forward => (entry.values "uniqueMember").any (Text.same name)
    | .backlink => Text.same name entry.name

theorem leads_alike (entries : List Entry) (direction : Direction) (name other : String)
    (same : Text.fold name = Text.fold other) :
    (chart entries direction).leads name = (chart entries direction).leads other := by
  have same' : Text.same name = Text.same other := by
    funext value
    simp [Text.same, same]
  simp only [chart, same']

/-- Of whatever is asked above some entry, the filter matches what the names lead to. -/
theorem matched_asking : ∀ direction, ∀ group ∈ everyone,
    ∀ names ∈ ((plan direction).keys group).sublists, ∀ name ∈ names.head?,
      ∀ part ∈ (plan direction).parts,
        (((plan direction).asking name names.tail).search config part).map
            (fun search => (search.base, everyone.filter (· ∈ matched search.filter))) =
          .ok (part.base, everyone.filter ((chart [] direction).anyLeads names)) := by
  intro direction
  cases direction <;> decide +kernel

section Some

variable {entries : List Entry} (direction : Direction) {first : Set Entry}
  (starts : ∀ entry ∈ first, entry ∈ entries)
include starts

theorem closure_subset :
    ∀ group ∈ (chart entries direction).closure (plan direction) first, group ∈ entries := by
  rintro group (there | ⟨-, name, -, part, -, there, -⟩)
  · exact starts group there
  · exact List.mem_of_mem_filter there

variable (known : entries ⊆ everyone)
include known

/-- No way up is longer than there are names. -/
theorem ascent_le {names : List String} {entry : Entry}
    (way : Ascent (plan direction).keys ((chart entries direction).above (plan direction)) first
      names entry) :
    names.length ≤ (plan direction).policy.maxDepth := by
  have short : ((everyone.flatMap (plan direction).keys).map Text.fold).length ≤
      (plan direction).policy.maxDepth := by
    cases direction <;> decide
  refine (way.length_le_of_known ?_).trans short
  intro group reached key asked
  refine List.mem_map_of_mem (List.mem_flatMap.mpr ⟨group, ?_, asked⟩)
  exact known (closure_subset direction starts group reached)

theorem describes : (chart entries direction).Describes (plan direction) (find entries) first where
  alike := leads_alike entries direction
  finds group reached name others asked part among := by
    have among' := known (closure_subset direction starts group reached)
    have checked := matched_asking direction group among' (name :: others)
      (List.mem_sublists.mpr asked) name rfl part among
    cases searched : ((plan direction).asking name others).search config part with
    | error error => simp [searched, Except.map] at checked
    | ok search =>
      simp only [List.tail_cons, searched, Except.map, Except.ok.injEq, Prod.mk.injEq] at checked
      obtain ⟨base, filters⟩ := checked
      have agree : ∀ entry ∈ below entries search.base, decide (entry ∈ matched search.filter) =
          (chart entries direction).anyLeads (name :: others) entry := by
        intro entry there
        have among := known (List.mem_of_mem_filter there)
        have same := congrArg (entry ∈ ·) filters
        simp only [List.mem_filter, among, true_and, eq_iff_iff] at same
        exact Bool.eq_iff_iff.mpr same
      have told : find entries search =
          .ok ((below entries search.base).filter (· ∈ matched search.filter)) := by
        simp [find, reply, List.reduceOption]
      rw [List.filter_congr agree, base] at told
      exact searched ▸ told

end Some

theorem step_closure {entries : List Entry} {direction : Direction} {first : Set Entry}
    {group : Entry} (entry : Entry)
    (reached : group ∈ (chart entries direction).closure (plan direction) first)
    (led : ∃ name ∈ (plan direction).keys group, ∃ part ∈ (plan direction).parts,
      entry ∈ below entries part.base ∧ (chart entries direction).leads name entry) :
    entry ∈ (chart entries direction).closure (plan direction) first :=
  Reached.step reached led

/-- A directory without one of the groups. -/
def others : List Entry := [ann, web, ops, top]

def question : Lookup := (plan .backlink).groupsOrUser "ann"

theorem answers : question.Answers config (reply others) [[[some ann, some web]]] := by
  have targets : question.targets config = [⟨"dc=small", .subtree, none⟩] := by decide
  have replied : (question.search config ⟨"dc=small", .subtree, none⟩).map
      (fun search => (reply others { search with page := config.page? [] }).messages) =
        .ok [some ann, some web] := by
    decide
  unfold Lookup.Answers
  rw [targets]
  refine .cons ?_ .nil
  intro search searches
  rw [searches] at replied
  have replied : (reply others { search with page := config.page? [] }).messages =
    [some ann, some web] := Except.ok.inj replied
  exact replied ▸ .last (Or.inl rfl) rfl

theorem together : ∀ group ∈ others, (chart others .backlink).Together (plan .backlink) group := by
  unfold Chart.Together
  decide

end Split

/-- In each part are all groups above a group, or none. -/
theorem expand_user_parts_together :
    let world : World (Host Split.config (Split.reply Split.others)) := { outside := {} }
    ∃ enough, ∀ patience, enough ≤ patience → ∃ walk later,
      (expand patience (.user "ann" none) { direction := .backlink }).run world =
          some (.ok walk, later) ∧
        .gid 20 ∈ walk.members ∧ .gid 40 ∈ walk.members := by
  intro world
  have starts : ∀ entry ∈ [Split.ann, Split.web], entry ∈ Split.others := by decide
  have known : Split.others ⊆ Split.everyone := by decide
  obtain ⟨enough, runs⟩ := expand_user_parts (Host.supplies (by decide)) Host.script_apart rfl
    (Split.chart Split.others .backlink) "ann" none rfl rfl rfl Split.answers
    (Split.describes .backlink starts known) world (Session.suits_new Split.config)
  refine ⟨enough, fun patience patient => ?_⟩
  obtain ⟨walk, later, ran, -, -, -, complete⟩ := runs patience patient
  have counted := complete
    (fun group reached =>
      Split.together group (Split.closure_subset .backlink starts group reached))
    (fun _ _ way => Split.ascent_le .backlink starts known way)
  -- From the first group a chain of three leads to the last, one search for each step.
  have first : Split.web ∈ (Split.chart Split.others .backlink).closure (Split.plan .backlink)
      { entry | entry ∈ [Split.ann, Split.web] } := .start (by decide)
  have second := Split.step_closure Split.ops first (by decide)
  have third := Split.step_closure Split.top second (by decide)
  exact ⟨walk, later, ran, (counted 20).mpr ⟨_, second, by decide, nofun⟩,
    (counted 40).mpr ⟨_, third, by decide, nofun⟩⟩

namespace Split

/-- Two groups are above the group of ann, one in each part of the tree. The walk may go as far up
    as there is a way, and what is counted is `members`. -/
structure Counted (direction : Direction) (first : List Entry) (members : List Member) : Prop where
  describes : (chart everyone direction).Describes (plan direction) (find everyone)
    { entry | entry ∈ first }
  chases : (plan direction).chases
  within : ∀ names entry, Ascent (plan direction).keys
    ((chart everyone direction).above (plan direction)) { entry | entry ∈ first } names entry →
      names.length ≤ (plan direction).policy.maxDepth
  starts : web ∈ first
  above : ∀ group ∈ [ops, dev], ∃ name ∈ (plan direction).keys web,
    ∃ part ∈ (plan direction).parts, group ∈ (chart everyone direction).inPart [name] part
  counted : let world : World (Host config (reply everyone)) := { outside := {} }
    ((expand 9 (.user "ann" none) { direction }).run world).map
      (fun out => out.1.toOption.map Walk.members) = some (some members)

end Split

/-- A group in the second part is lost, because the first part has one above the same group. What is
    above that one is in the second part too, and is not lost. -/
theorem expand_user_parts_lost :
    Split.dev.first? "gidNumber" = some "30" ∧
      Split.Counted .forward [Split.web] [.gid 10, .gid 20, .gid 40] ∧
      Split.Counted .backlink [Split.ann, Split.web] [.gid 10, .gid 20, .gid 40] := by
  have everyone : Split.everyone ⊆ Split.everyone := List.Subset.refl _
  refine ⟨by decide, ?forward, ?backlink⟩
  case forward =>
    have starts : ∀ entry ∈ [Split.web], entry ∈ Split.everyone := by decide
    exact {
      describes := Split.describes .forward starts everyone
      chases := rfl
      within := fun _ _ way => Split.ascent_le .forward starts everyone way
      starts := by decide
      above := by decide
      counted := by decide +kernel }
  case backlink =>
    have starts : ∀ entry ∈ [Split.ann, Split.web], entry ∈ Split.everyone := by decide
    exact {
      describes := Split.describes .backlink starts everyone
      chases := rfl
      within := fun _ _ way => Split.ascent_le .backlink starts everyone way
      starts := by decide
      above := by decide
      counted := by decide +kernel }

end NameService.Membership
