import NameService.Membership.Plan
import Mathlib.Data.Set.Card

/-!
Lists of members that lead to further lists, in cycles too. An exploration adds what stands in a
list and goes on into the lists that are named there, unless a list was met before by its name or no
level is left. What it finds is compared here with what stands in the lists that can be reached.

## Main results

- `Graph.explore_sound`: what is found stands in a list that is not too far below the first.
- `Graph.explore_complete`: with as many levels as there are names, nothing is missed.
-/

namespace NameService.Membership

namespace Walk

@[simp] theorem seen_add (walk : Walk) (member : Member) : (walk.add member).seen = walk.seen := by
  unfold add
  split <;> rfl

theorem mem_add {walk : Walk} {member other : Member} :
    other ∈ (walk.add member).members ↔ other ∈ walk.members ∨ other = member := by
  unfold add
  split
  · next there => grind
  · simp

theorem nodup_add {walk : Walk} (nodup : walk.members.Nodup) (member : Member) :
    (walk.add member).members.Nodup := by
  unfold add
  split
  · exact nodup
  · next new => simpa [List.nodup_append, nodup] using fun other there => by grind

@[simp] theorem members_meet (walk : Walk) (name : String) :
    (walk.meet name).members = walk.members := rfl

end Walk

theorem Roster.contains_iff {roster : Roster} {name : String} :
    roster.contains name ↔ ∃ other ∈ roster.names, Text.fold name = Text.fold other := by
  simp [contains, Text.same_iff]

theorem Roster.contains_add {roster : Roster} {name other : String} :
    (roster.add name).contains other ↔
      roster.contains other ∨ Text.fold other = Text.fold name := by
  simp [contains_iff, add, or_and_right, exists_or]

/-! ### From one to the next -/

section Leading

variable {ν : Type} (leads : ν → ν → Prop)

/-- One is so many steps below another. -/
inductive Below (seed : ν) : Nat → ν → Prop
  | here : Below seed 0 seed
  | step {depth : Nat} {node inner : ν} (below : Below seed depth node) (led : leads node inner) :
    Below seed (depth + 1) inner

/-- All that is below, however deep, and the seed itself. -/
def allBelow (seed : ν) : Set ν := { node | ∃ depth, Below leads seed depth node }

variable {leads} {leads' : ν → ν → Prop} (wider : ∀ {node inner : ν}, leads node inner →
  leads' node inner)
include wider

theorem Below.mono {seed node : ν} {depth : Nat} (below : Below leads seed depth node) :
    Below leads' seed depth node := by
  induction below with
  | here => exact .here
  | step _ led ih => exact ih.step (wider led)

theorem allBelow_subset (seed : ν) : allBelow leads seed ⊆ allBelow leads' seed :=
  fun _ ⟨depth, below⟩ => ⟨depth, below.mono wider⟩

end Leading

/-! ### What a walk keeps -/

/-- What has been found stays found. -/
structure Walk.Grows (walk later : Walk) : Prop where
  members : ∀ member ∈ walk.members, member ∈ later.members
  seen : ∀ name, walk.seen.contains name → later.seen.contains name

namespace Walk

theorem Grows.refl (walk : Walk) : walk.Grows walk := ⟨fun _ there => there, fun _ met => met⟩

theorem Grows.trans {walk between later : Walk} (first : walk.Grows between)
    (second : between.Grows later) : walk.Grows later :=
  ⟨fun member there => second.members member (first.members member there),
    fun name met => second.seen name (first.seen name met)⟩

theorem grows_add (walk : Walk) (member : Member) : walk.Grows (walk.add member) :=
  ⟨fun _ there => mem_add.mpr (.inl there), fun _ met => by simpa using met⟩

theorem grows_meet (walk : Walk) (name : String) : walk.Grows (walk.meet name) :=
  ⟨fun _ there => there, fun _ met => Roster.contains_add.mpr (.inl met)⟩

end Walk

/-- What every step of a fold does for its element is done for all of them at the end, if it lasts
    while the walk grows. -/
theorem foldl_each {α : Type} {step : Walk → α → Walk} {holds : Walk → Prop}
    (done : α → Walk → Prop)
    (lasts : ∀ a walk later, Walk.Grows walk later → done a walk → done a later) :
    ∀ (list : List α) (walk : Walk),
      (∀ a ∈ list, ∀ walk, holds walk →
        holds (step walk a) ∧ walk.Grows (step walk a) ∧ done a (step walk a)) →
      holds walk →
      holds (list.foldl step walk) ∧ walk.Grows (list.foldl step walk) ∧
        ∀ a ∈ list, done a (list.foldl step walk)
  | [], walk, _, start => ⟨start, .refl walk, nofun⟩
  | a :: list, walk, steps, start => by
    obtain ⟨kept, first, now⟩ := steps a List.mem_cons_self walk start
    obtain ⟨kept, rest, others⟩ := foldl_each done lasts list (step walk a)
      (fun a there => steps a (List.mem_cons_of_mem _ there)) kept
    refine ⟨kept, first.trans rest, ?_⟩
    rintro other (_ | ⟨_, there⟩)
    · exact lasts a _ _ rest now
    · exact others other there

theorem encard_sdiff_insert_le {α : Type} {all inside : Set α} {a : α} {levels : Nat}
    (outside : a ∈ all \ inside) (left : (all \ inside).encard ≤ (levels + 1 : Nat)) :
    (all \ insert a inside).encard ≤ levels := by
  rw [← Set.encard_sdiff_singleton_add_one outside, Set.sdiff_sdiff, Set.union_singleton] at left
  exact (WithTop.add_le_add_iff_right ENat.one_ne_top).mp left

/-! ### Explorations -/

/-- What stands in a list: a member, or something that has a list of its own. -/
inductive Listed (ν : Type) where
  | member (member : Member)
  | node (node : ν)
deriving DecidableEq, Repr

/-- Lists of members that lead to further lists. -/
structure Graph (ν : Type) where
  name : ν → String
  items : ν → List (Listed ν)

namespace Graph

variable {ν : Type} (graph : Graph ν)

/-- Adds a member, or goes into a list. -/
def count (into : ν → Walk → Walk) (walk : Walk) : Listed ν → Walk
  | .member member => walk.add member
  | .node node => into node walk

/-- Goes through a list and all below it, unless it was met before or no level is left. -/
def explore : Nat → ν → Walk → Walk
  | 0, _, walk => walk
  | levels + 1, node, walk =>
    if walk.seen.contains (graph.name node) then walk
    else (graph.items node).foldl (count (explore levels)) (walk.meet (graph.name node))

def Leads (node inner : ν) : Prop := .node inner ∈ graph.items node

/-- The names of some lists, but for case. -/
def keys (nodes : Set ν) : Set String := (fun node => Text.fold (graph.name node)) '' nodes

/-- What every step of an exploration keeps. Something may be known of the lists that are entered,
    and of how many levels are left there. -/
structure Kept (known : Nat → ν → Prop) (holds : Walk → Prop) : Prop where
  meet : ∀ {levels : Nat} {node : ν} {walk : Walk}, known (levels + 1) node → holds walk →
    holds (walk.meet (graph.name node))
  add : ∀ {levels : Nat} {node : ν} {walk : Walk} {member : Member}, known (levels + 1) node →
    .member member ∈ graph.items node → holds walk → holds (walk.add member)
  enter : ∀ {levels : Nat} {node inner : ν}, known (levels + 1) node →
    .node inner ∈ graph.items node → known levels inner

variable {graph}

theorem Kept.explore {known : Nat → ν → Prop} {holds : Walk → Prop} (kept : graph.Kept known holds)
    {levels : Nat} {node : ν} {walk : Walk} (knows : known levels node) (start : holds walk) :
    holds (graph.explore levels node walk) := by
  induction levels generalizing node walk with
  | zero => exact start
  | succ levels ih =>
    rw [Graph.explore]
    split
    · exact start
    refine List.foldlRecOn _ _ (kept.meet knows start) fun walk start item listed => ?_
    cases item with
    | member member => exact kept.add knows listed start
    | node inner => exact ih (kept.enter knows listed) start

/-- No member is counted twice. -/
theorem explore_nodup {levels : Nat} {node : ν} {walk : Walk} (nodup : walk.members.Nodup) :
    (graph.explore levels node walk).members.Nodup := by
  have kept : graph.Kept (fun _ _ => True) fun walk => walk.members.Nodup :=
    ⟨fun _ nodup => nodup, fun _ _ nodup => Walk.nodup_add nodup _, fun _ _ => trivial⟩
  exact kept.explore trivial nodup

theorem explore_grows (levels : Nat) (node : ν) (walk : Walk) :
    walk.Grows (graph.explore levels node walk) := by
  have kept : graph.Kept (fun _ _ => True) walk.Grows :=
    ⟨fun _ grows => grows.trans (Walk.grows_meet _ _),
      fun _ _ grows => grows.trans (Walk.grows_add _ _), fun _ _ => trivial⟩
  exact kept.explore trivial (.refl walk)

/-- With one level more than it may go down, an exploration finds no more than it may. -/
theorem explore_sound (seed : ν) (deepest : Nat) :
    ∀ member ∈ (graph.explore (deepest + 1) seed {}).members, ∃ depth ≤ deepest, ∃ node,
      Below graph.Leads seed depth node ∧ .member member ∈ graph.items node := by
  have kept : graph.Kept (fun levels node => ∃ depth, depth + levels ≤ deepest + 1 ∧
      Below graph.Leads seed depth node) fun walk => ∀ member ∈ walk.members, ∃ depth ≤ deepest,
        ∃ node, Below graph.Leads seed depth node ∧ .member member ∈ graph.items node := by
    refine ⟨fun _ sound => sound, ?_, ?_⟩
    · rintro levels node walk member ⟨depth, above, below⟩ listed sound other there
      rcases Walk.mem_add.mp there with there | rfl
      · exact sound other there
      · exact ⟨depth, by omega, node, below, listed⟩
    · rintro levels node inner ⟨depth, above, below⟩ listed
      exact ⟨depth + 1, by omega, below.step listed⟩
  exact kept.explore ⟨0, by omega, .here⟩ (by simp)

/-! ### What an exploration does not miss -/

variable (graph) in
/-- What stands in a list has had its effect. -/
def Counted (walk : Walk) : Listed ν → Prop
  | .member member => member ∈ walk.members
  | .node inner => walk.seen.contains (graph.name inner)

theorem Counted.grows {walk later : Walk} (grows : walk.Grows later) :
    ∀ {item : Listed ν}, graph.Counted walk item → graph.Counted later item
  | .member member, there => grows.members member there
  | .node inner, met => grows.seen (graph.name inner) met

variable (graph) in
/-- All lists that have been met are finished, but for those that the exploration is still in. -/
structure Closed (nodes : Set ν) (inside : Set String) (walk : Walk) : Prop where
  finished : ∀ node ∈ nodes, walk.seen.contains (graph.name node) →
    Text.fold (graph.name node) ∉ inside → ∀ item ∈ graph.items node, graph.Counted walk item
  met : ∀ node ∈ nodes, Text.fold (graph.name node) ∈ inside →
    walk.seen.contains (graph.name node)

/-- A list that is met is one that the exploration is in. -/
theorem Closed.meet {nodes : Set ν} {inside : Set String} {walk : Walk}
    (closed : graph.Closed nodes inside walk) (node : ν) :
    graph.Closed nodes (insert (Text.fold (graph.name node)) inside)
      (walk.meet (graph.name node)) := by
  have grows := walk.grows_meet (graph.name node)
  refine ⟨fun other there met outside item listed => ?_, ?_⟩
  · rcases Roster.contains_add.mp met with met | same
    · have before := closed.finished other there met fun was => outside (.inr was)
      exact (before item listed).grows grows
    · exact absurd (.inl same) outside
  · rintro other there (same | was)
    · exact Roster.contains_add.mpr (.inr same)
    · exact grows.seen _ (closed.met other there was)

/-- What changes nothing but members leaves all finished that was. -/
theorem Closed.of_seen {nodes : Set ν} {inside : Set String} {walk later : Walk}
    (closed : graph.Closed nodes inside walk) (grows : walk.Grows later)
    (same : later.seen = walk.seen) : graph.Closed nodes inside later where
  finished node there met outside item listed :=
    (closed.finished node there (same ▸ met) outside item listed).grows grows
  met node there was := grows.seen _ (closed.met node there was)

section Completeness

variable {nodes : Set ν}
  (whole : ∀ node ∈ nodes, ∀ inner, .node inner ∈ graph.items node → inner ∈ nodes)
  (alike : ∀ node ∈ nodes, ∀ other ∈ nodes,
    Text.fold (graph.name node) = Text.fold (graph.name other) →
      graph.items node = graph.items other)
include whole alike

/-- The exploration is inside of lists that it has met, and no two of them have one name. It can
    therefore not run out of levels before it has met all names. -/
theorem explore_closed {levels : Nat} {node : ν} {walk : Walk} {inside : Set String}
    (among : node ∈ nodes) (left : (graph.keys nodes \ inside).encard ≤ levels)
    (closed : graph.Closed nodes inside walk) :
    graph.Closed nodes inside (graph.explore levels node walk) ∧
      (graph.explore levels node walk).seen.contains (graph.name node) := by
  induction levels generalizing node walk inside with
  | zero =>
    -- No name is left outside, so this list is one that the exploration is in already.
    have none : graph.keys nodes \ inside = ∅ := by simpa using left
    have all := Set.sdiff_eq_empty.mp none (Set.mem_image_of_mem _ among)
    exact ⟨closed, closed.met node among all⟩
  | succ levels ih =>
    rw [explore]
    split
    · next met => exact ⟨closed, met⟩
    next new =>
    have outside : Text.fold (graph.name node) ∈ graph.keys nodes \ inside :=
      ⟨Set.mem_image_of_mem _ among, fun there => new (closed.met node among there)⟩
    have fewer := encard_sdiff_insert_le outside left
    -- The items are gone through from inside of this list, with one level less.
    have steps : ∀ item ∈ graph.items node, ∀ walk,
        graph.Closed nodes (insert (Text.fold (graph.name node)) inside) walk →
        let later := count (graph.explore levels) walk item
        graph.Closed nodes (insert (Text.fold (graph.name node)) inside) later ∧
          walk.Grows later ∧ graph.Counted later item := by
      intro item listed walk closed
      cases item with
      | member member =>
        have grows := walk.grows_add member
        exact ⟨closed.of_seen grows (walk.seen_add _), grows, Walk.mem_add.mpr (.inr rfl)⟩
      | node inner =>
        obtain ⟨closed, met⟩ := ih (whole node among inner listed) fewer closed
        exact ⟨closed, explore_grows levels inner walk, met⟩
    obtain ⟨closed, -, counted⟩ := foldl_each (fun item walk => graph.Counted walk item)
      (fun _ _ _ grows counted => counted.grows grows) _ _ steps (closed.meet node)
    have met := closed.met node among (.inl rfl)
    refine ⟨⟨fun other there met' out => ?_, fun other there was => ?_⟩, met⟩
    · -- The exploration is no longer inside of this list, and has finished it.
      by_cases this : Text.fold (graph.name other) = Text.fold (graph.name node)
      · rw [alike other there node among this]
        exact counted
      · exact closed.finished other there met' (by simp [this, out])
    · exact closed.met other there (.inr was)

end Completeness

/-- An exploration that has as many levels as there are names finds all that stands in the lists. -/
theorem explore_complete {seed : ν}
    (alike : ∀ node ∈ allBelow graph.Leads seed, ∀ other ∈ allBelow graph.Leads seed,
      Text.fold (graph.name node) = Text.fold (graph.name other) →
        graph.items node = graph.items other)
    {levels : Nat} (enough : (graph.keys (allBelow graph.Leads seed)).encard ≤ levels) {node : ν}
    (below : node ∈ allBelow graph.Leads seed) {member : Member}
    (listed : .member member ∈ graph.items node) :
    member ∈ (graph.explore levels seed {}).members := by
  have whole : ∀ node ∈ allBelow graph.Leads seed, ∀ inner, .node inner ∈ graph.items node →
      inner ∈ allBelow graph.Leads seed := by
    rintro node ⟨depth, below⟩ inner listed
    exact ⟨depth + 1, below.step listed⟩
  have start : graph.Closed (allBelow graph.Leads seed) ∅ {} :=
    ⟨fun node _ met => by simp [Roster.contains] at met, nofun⟩
  obtain ⟨closed, met⟩ :=
    explore_closed whole alike ⟨0, .here⟩ (by simpa using enough) start
  obtain ⟨depth, below⟩ := below
  -- In the end the exploration is inside of nothing, so what has been met is finished.
  have reached : (graph.explore levels seed {}).seen.contains (graph.name node) := by
    clear listed
    induction below with
    | here => exact met
    | step below listed ih => exact closed.finished _ ⟨_, below⟩ ih (by simp) _ listed
  exact closed.finished node ⟨depth, below⟩ reached (by simp) _ listed

end Graph

end NameService.Membership
