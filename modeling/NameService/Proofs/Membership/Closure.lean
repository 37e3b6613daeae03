import NameService.Proofs.Lookup.Supply
import NameService.Proofs.Membership.Nesting
import NameService.Proofs.Membership.Truncation

/-!
The groups above some groups, as a set and as a walk. A walk asks for the groups above a group by
names: by its own name, or by those that it lists. It asks for no name twice, and it may ask for all
new names of a group at once.

A name leads to some groups. A walk hears of nothing else, and when it hears of all of them it comes
to everything that can be come to, unless it is not allowed to go so far up.

## Main results

- `reached_insert`: the closures of an entry and of what is above it differ in the entry alone.
- `gather_sound`: what a walk counts is above the groups it begins with.
- `mem_gather_iff`: a walk that may go far enough misses nothing of it.
-/

namespace NameService.Membership

section Going

variable (keys : Entry → List String) (leads : String → Set Entry)

/-- What can be come to from some entries by going up. -/
inductive Reached (above : Entry → Set Entry) (first : Set Entry) : Entry → Prop
  | start {entry : Entry} (there : entry ∈ first) : Reached above first entry
  | step {group entry : Entry} (reached : Reached above first group) (there : entry ∈ above group) :
    Reached above first entry

/-- The groups to which the names of a group lead. -/
def upward (group : Entry) : Set Entry := { entry | ∃ name ∈ keys group, entry ∈ leads name }

/-- A way up that asks for no name twice: the names it has asked for, the last one first, and the
    entry it has come to. -/
inductive Ascent (first : Set Entry) : List String → Entry → Prop
  | start {entry : Entry} (there : entry ∈ first) : Ascent first [] entry
  | step {names : List String} {group entry : Entry} {name : String}
    (way : Ascent first names group) (key : name ∈ keys group)
    (new : Text.fold name ∉ names.map Text.fold) (there : entry ∈ leads name) :
    Ascent first (name :: names) entry

variable {keys leads} {first : Set Entry}

theorem Ascent.reached {names : List String} {entry : Entry}
    (way : Ascent keys leads first names entry) : Reached (upward keys leads) first entry := by
  induction way with
  | start there => exact .start there
  | step _ key _ there reached => exact .step reached ⟨_, key, there⟩

/-- Case apart, all names on a way are different. -/
theorem Ascent.nodup {names : List String} {entry : Entry}
    (way : Ascent keys leads first names entry) : (names.map Text.fold).Nodup := by
  induction way with
  | start => exact List.nodup_nil
  | step _ _ new _ nodup => exact List.nodup_cons.mpr ⟨new, nodup⟩

theorem Ascent.mem_keys {names : List String} {entry : Entry}
    (way : Ascent keys leads first names entry) :
    ∀ name ∈ names, ∃ group, Reached (upward keys leads) first group ∧ name ∈ keys group := by
  induction way with
  | start => simp
  | step way key _ _ known =>
    rintro name (_ | ⟨_, there⟩)
    · exact ⟨_, way.reached, key⟩
    · exact known name there

end Going

/-! ### Two closures -/

section Reaching

variable {above above' : Entry → Set Entry} {first : Set Entry}

/-- What can be come to stays among some entries, if no step leads out of them. -/
theorem Reached.among {kept : Set Entry} (begins : first ⊆ kept)
    (climbs : ∀ group, above group ⊆ kept) {entry : Entry} (reached : Reached above first entry) :
    entry ∈ kept := by
  cases reached with
  | start there => exact begins there
  | step _ there => exact climbs _ there

/-- What can be come to does not depend on how much is seen of each entry. -/
theorem reached_image (shown : Entry → Entry)
    (alike : ∀ entry, Reached above first entry → above' (shown entry) = shown '' above entry) :
    { entry | Reached above' (shown '' first) entry } =
      shown '' { entry | Reached above first entry } := by
  apply Set.Subset.antisymm
  · intro entry reached
    induction reached with
    | start there =>
      obtain ⟨entry, there, rfl⟩ := there
      exact ⟨entry, .start there, rfl⟩
    | step _ there below =>
      obtain ⟨group, reached, rfl⟩ := below
      rw [alike group reached] at there
      obtain ⟨entry, there, rfl⟩ := there
      exact ⟨entry, Reached.step reached there, rfl⟩
  · rintro _ ⟨entry, reached, rfl⟩
    induction reached with
    | start there => exact .start ⟨_, there, rfl⟩
    | step reached there below =>
      apply Reached.step below
      rw [alike _ reached]
      exact ⟨_, there, rfl⟩

/-- To begin with an entry is to begin with what is above it, but for the entry itself. -/
theorem reached_insert (account : Entry) :
    { entry | Reached above (insert account first) entry } =
      insert account { entry | Reached above (first ∪ above account) entry } := by
  apply Set.Subset.antisymm
  · intro entry reached
    induction reached with
    | start there =>
      rcases there with rfl | there
      · exact .inl rfl
      · exact .inr (.start (.inl there))
    | step _ there below =>
      rcases below with rfl | below
      · exact .inr (Reached.start (.inr there))
      · exact .inr (Reached.step below there)
  · have begun : Reached above (insert account first) account := .start (.inl rfl)
    rintro entry (rfl | reached)
    · exact begun
    · induction reached with
      | start there =>
        rcases there with there | there
        · exact Reached.start (.inr there)
        · exact Reached.step begun there
      | step _ there below => exact Reached.step below there

end Reaching

/-! ### The walk -/

/-- The names by which a walk asks for the groups above a group. -/
def Plan.keys (plan : Plan) (entry : Entry) : List String :=
  if plan.chases then
    match plan.policy.direction with
    | .forward => [entry.name]
    | .backlink => entry.values plan.names.memberOf
  else []

/-- The walk through the groups above a group, when `found` has what is found by some names. -/
def spread (plan : Plan) (primary : Option Nat) (found : List String → List Entry) :
    Nat → Entry → Walk → Walk
  | levels, entry, walk =>
    if walk.limitReached then walk
    else
      let walk := own plan primary entry walk
      match levels with
      | 0 => walk
      | levels + 1 =>
        match walk.meetAll (plan.keys entry) with
        | ([], walk) => walk
        | (names, walk) =>
          (found names).foldl (fun walk entry => spread plan primary found levels entry walk) walk

/-- All groups of a user, from those that come first. -/
def gather (plan : Plan) (primary : Option Nat) (found : List String → List Entry)
    (first : List Entry) : Walk :=
  first.foldl (fun walk entry => spread plan primary found plan.policy.maxDepth entry walk) {}

namespace Walk

theorem contains_meet {walk : Walk} {name other : String} :
    (walk.meet name).seen.contains other ↔
      walk.seen.contains other ∨ Text.fold other = Text.fold name :=
  Roster.contains_add

/-- What it is to meet some names: those that are new are given back, and all are known after it. -/
structure Meets (names : List String) (walk : Walk) (new : List String) (later : Walk) : Prop where
  listed : new.Sublist names
  fresh : ∀ name ∈ new, ¬ walk.seen.contains name
  seen : ∀ name, later.seen.contains name ↔
    walk.seen.contains name ∨ ∃ other ∈ new, Text.fold name = Text.fold other
  known : ∀ name ∈ names, later.seen.contains name
  members : later.members = walk.members
  limitReached : later.limitReached = walk.limitReached

theorem meets_meetAll : ∀ (names : List String) (walk : Walk),
    Meets names walk (walk.meetAll names).1 (walk.meetAll names).2
  | [], walk => ⟨.slnil, by simp [meetAll], by simp [meetAll], by simp, rfl, rfl⟩
  | name :: names, walk => by
    rw [meetAll]
    split
    · next old =>
      -- The name may have been met under another spelling, in this list or before it.
      have rest := meets_meetAll names walk
      refine ⟨rest.listed.cons name, rest.fresh, rest.seen, ?_, rest.members, rest.limitReached⟩
      rw [List.forall_mem_cons]
      exact ⟨(rest.seen name).mpr (.inl old), rest.known⟩
    · next new =>
      have rest := meets_meetAll names (walk.meet name)
      have seen : ∀ other, ((walk.meet name).meetAll names).2.seen.contains other ↔
          walk.seen.contains other ∨ ∃ first ∈ name :: ((walk.meet name).meetAll names).1,
            Text.fold other = Text.fold first := by
        intro other
        rw [rest.seen other, contains_meet]
        simp [or_assoc]
      refine ⟨rest.listed.cons_cons name, ?_, seen, ?_, rest.members, rest.limitReached⟩
      · rw [List.forall_mem_cons]
        refine ⟨new, fun other there old => rest.fresh other there ?_⟩
        exact contains_meet.mpr (.inl old)
      · rw [List.forall_mem_cons]
        exact ⟨(seen name).mpr (.inr ⟨name, List.mem_cons_self, rfl⟩), rest.known⟩

theorem Meets.grows {names new : List String} {walk later : Walk}
    (meets : Meets names walk new later) : walk.Grows later :=
  ⟨fun _ there => meets.members ▸ there, fun name met => (meets.seen name).mpr (.inl met)⟩

end Walk

/-- The walk above a group, in one case for what it may still do. -/
theorem spread_eq (plan : Plan) (primary : Option Nat) (found : List String → List Entry)
    (levels : Nat) (entry : Entry) {walk : Walk} (goesOn : walk.limitReached = false) :
    spread plan primary found levels entry walk =
      let counted := own plan primary entry walk
      match levels with
      | 0 => counted
      | levels + 1 =>
        let met := counted.meetAll (plan.keys entry)
        if met.1 = [] then met.2
        else (found met.1).foldl
          (fun walk entry => spread plan primary found levels entry walk) met.2 := by
  rw [spread, if_neg (by simp [goesOn])]
  cases levels with
  | zero => rfl
  | succ levels =>
    dsimp only
    rcases (own plan primary entry walk).meetAll (plan.keys entry) with ⟨_ | ⟨name, names⟩, met⟩ <;>
      rfl

section Keeping

variable {plan : Plan} {primary : Option Nat} {found : List String → List Entry}
  {known : Entry → Prop} {holds : Walk → Prop}

/-- What lasts while groups are counted and names are met, lasts through a walk. -/
theorem spread_keeps
    (owns : ∀ entry walk, known entry → holds walk → holds (own plan primary entry walk))
    (meets : ∀ names walk, holds walk → holds (walk.meetAll names).2)
    (finds : ∀ group names entry, known group → names.Sublist (plan.keys group) →
      entry ∈ found names → known entry) :
    ∀ (levels : Nat) (entry : Entry) (walk : Walk), known entry → holds walk →
      holds (spread plan primary found levels entry walk)
  | levels, entry, walk, knows, start => by
    cases goesOn : walk.limitReached with
    | true =>
      rw [spread, if_pos goesOn]
      exact start
    | false =>
      rw [spread_eq _ _ _ _ _ goesOn]
      have counted := owns entry walk knows start
      cases levels with
      | zero => exact counted
      | succ levels =>
        have met := meets (plan.keys entry) _ counted
        -- All names that are asked for are keys of the entry, so only what is known is found.
        have listed := (Walk.meets_meetAll (plan.keys entry) (own plan primary entry walk)).listed
        dsimp only
        split
        · exact met
        · refine List.foldlRecOn _ _ met fun walk kept inner there => ?_
          exact spread_keeps owns meets finds levels inner walk
            (finds entry _ inner knows listed there) kept

variable (known holds) in
theorem gather_keeps
    (owns : ∀ entry walk, known entry → holds walk → holds (own plan primary entry walk))
    (meets : ∀ names walk, holds walk → holds (walk.meetAll names).2)
    (finds : ∀ group names entry, known group → names.Sublist (plan.keys group) →
      entry ∈ found names → known entry)
    {first : List Entry} (knows : ∀ entry ∈ first, known entry) (start : holds {}) :
    holds (gather plan primary found first) :=
  List.foldlRecOn _ _ start fun walk kept entry there =>
    spread_keeps owns meets finds _ entry walk (knows entry there) kept

end Keeping

section Counting

variable {plan : Plan} {primary : Option Nat}

@[simp] theorem own_seen (entry : Entry) (walk : Walk) :
    (own plan primary entry walk).seen = walk.seen := by
  unfold own
  split
  · split
    · rfl
    · unfold Walk.addGid
      split
      · rfl
      split
      · rfl
      · exact walk.seen_add _
  · rfl

theorem own_grows (entry : Entry) (walk : Walk) : walk.Grows (own plan primary entry walk) :=
  ⟨fun _ there => (own_extends plan primary entry walk).members.subset there,
    fun _ met => by rwa [own_seen]⟩

/-- The groups of some entries that are to be counted. -/
def Plan.gids (plan : Plan) (primary : Option Nat) (entries : Set Entry) : Set Nat :=
  { gid | ∃ entry ∈ entries, plan.gid? entry = some gid ∧ primary ≠ some gid }

/-- Only groups of these entries have been counted. -/
def Within (plan : Plan) (primary : Option Nat) (entries : Set Entry) (walk : Walk) : Prop :=
  ∀ member ∈ walk.members, ∃ gid ∈ plan.gids primary entries, member = .gid gid

theorem own_within {entries : Set Entry} {entry : Entry} (there : entry ∈ entries) {walk : Walk}
    (within : Within plan primary entries walk) :
    Within plan primary entries (own plan primary entry walk) := by
  unfold own
  split
  · next gid usable =>
    split
    · exact within
    · next other =>
      unfold Walk.addGid
      split
      · exact within
      split
      · exact within
      · intro member counted
        rcases Walk.mem_add.mp counted with before | rfl
        · exact within member before
        · exact ⟨gid, ⟨entry, there, usable, other⟩, rfl⟩
  · exact within

variable {found : List String → List Entry} {leads : String → Set Entry} {first : List Entry}

/-- What a walk counts is above the groups it begins with, if it hears of nothing else. -/
theorem gather_sound
    (hears : ∀ group, Reached (upward plan.keys leads) { entry | entry ∈ first } group →
      ∀ names, names.Sublist (plan.keys group) → ∀ entry ∈ found names,
        ∃ name ∈ names, entry ∈ leads name) :
    Within plan primary { entry | Reached (upward plan.keys leads) { entry | entry ∈ first } entry }
      (gather plan primary found first) := by
  refine gather_keeps (Reached (upward plan.keys leads) { entry | entry ∈ first })
    (Within plan primary _) (fun _ _ reached within => own_within reached within) ?_ ?_
    (fun _ there => .start there) ?_
  · intro names walk within member there
    exact within member ((Walk.meets_meetAll names walk).members ▸ there)
  · intro group names entry reached listed there
    obtain ⟨name, asked, led⟩ := hears group reached names listed entry there
    exact reached.step ⟨name, listed.subset asked, led⟩
  · intro member there
    cases there

variable (unlimited : plan.policy.limit = none)
include unlimited

theorem gather_goesOn : (gather plan primary found first).limitReached = false := by
  refine gather_keeps (fun _ => True) (fun walk => walk.limitReached = false)
    (fun entry walk _ goesOn => (own_unlimited primary unlimited entry walk).trans goesOn) ?_
    (fun _ _ _ _ _ _ => trivial) (fun _ _ => trivial) rfl
  exact fun names walk goesOn => (Walk.meets_meetAll names walk).limitReached.trans goesOn

theorem gather_distinct : Distinct primary (gather plan primary found first).members := by
  refine gather_keeps (fun _ => True) (fun walk => Distinct primary walk.members)
    (fun entry walk _ distinct => own_distinct unlimited entry distinct) ?_
    (fun _ _ _ _ _ _ => trivial) (fun _ _ => trivial) ⟨List.nodup_nil, nofun⟩
  intro names walk distinct
  rwa [(Walk.meets_meetAll names walk).members]

end Counting

/-! ### What a walk does not miss -/

/-- Nothing above a group is missing: it is counted, and all its names that lead to something are
    known. -/
structure Climbed (plan : Plan) (primary : Option Nat) (leads : String → Set Entry) (walk : Walk)
    (entry : Entry) : Prop where
  counts : plan.Counts primary walk entry
  known : ∀ name ∈ plan.keys entry, (leads name).Nonempty → walk.seen.contains name

theorem Climbed.grows {plan : Plan} {primary : Option Nat} {leads : String → Set Entry}
    {walk later : Walk} {entry : Entry} (climbed : Climbed plan primary leads walk entry)
    (grows : walk.Grows later) : Climbed plan primary leads later entry :=
  ⟨fun gid usable other => grows.members _ (climbed.counts gid usable other),
    fun name key some => grows.seen _ (climbed.known name key some)⟩

/-- A walk that has not come to its end, on a way on which it has passed some names. All that known
    names lead to has been climbed from, but for the names that the walk is still with. -/
structure Underway (plan : Plan) (primary : Option Nat) (leads : String → Set Entry)
    (inside passed : List String) (walk : Walk) : Prop where
  exhausted : ∀ name, walk.seen.contains name → Text.fold name ∉ inside.map Text.fold →
    ∀ entry ∈ leads name, Climbed plan primary leads walk entry
  passed : ∀ name ∈ passed, walk.seen.contains name
  goesOn : walk.limitReached = false

theorem Roster.contains_fold {roster : Roster} {name other : String}
    (same : Text.fold name = Text.fold other) (met : roster.contains other) :
    roster.contains name := by
  rw [contains_iff] at met ⊢
  rwa [same]

namespace Underway

variable {plan : Plan} {primary : Option Nat} {leads : String → Set Entry}
  {inside passed names new : List String} {walk later : Walk}

theorem grows (underway : Underway plan primary leads inside passed walk) (grows : walk.Grows later)
    (same : ∀ name, later.seen.contains name → Text.fold name ∉ inside.map Text.fold →
      walk.seen.contains name) (goesOn : later.limitReached = false) :
    Underway plan primary leads inside passed later where
  exhausted name met outside entry led :=
    (underway.exhausted name (same name met outside) outside entry led).grows grows
  passed name there := grows.seen name (underway.passed name there)
  goesOn := goesOn

theorem own (unlimited : plan.policy.limit = none)
    (underway : Underway plan primary leads inside passed walk) (entry : Entry) :
    Underway plan primary leads inside passed (own plan primary entry walk) := by
  refine underway.grows (own_grows entry walk) (fun name met _ => ?_)
    ((own_unlimited primary unlimited entry walk).trans underway.goesOn)
  rwa [own_seen] at met

/-- New names are names that the walk is with. -/
theorem meet (underway : Underway plan primary leads inside passed walk)
    (meets : walk.Meets names new later) :
    Underway plan primary leads (new ++ inside) (new ++ passed) later where
  exhausted name known outside entry led := by
    simp only [List.map_append, List.mem_append, not_or] at outside
    rcases (meets.seen name).mp known with old | ⟨other, there, same⟩
    · exact (underway.exhausted name old outside.2 entry led).grows meets.grows
    · exact absurd (same ▸ List.mem_map_of_mem there) outside.1
  passed name there := by
    rcases List.mem_append.mp there with there | there
    · exact meets.known name (meets.listed.subset there)
    · exact meets.grows.seen name (underway.passed name there)
  goesOn := meets.limitReached.trans underway.goesOn

/-- The walk is with some names no longer when it has climbed from all they lead to. -/
theorem leave (alike : ∀ name other, Text.fold name = Text.fold other → leads name = leads other)
    (underway : Underway plan primary leads (new ++ inside) (new ++ passed) walk)
    (climbed : ∀ name ∈ new, ∀ entry ∈ leads name, Climbed plan primary leads walk entry) :
    Underway plan primary leads inside passed walk where
  exhausted name known outside entry led := by
    by_cases asked : Text.fold name ∈ new.map Text.fold
    · obtain ⟨other, asked, same⟩ := List.mem_map.mp asked
      rw [← alike other name same] at led
      exact climbed other asked entry led
    · refine underway.exhausted name known ?_ entry led
      simp only [List.map_append, List.mem_append, not_or]
      exact ⟨asked, outside⟩
  passed name there := underway.passed name (List.mem_append_right _ there)
  goesOn := underway.goesOn

/-- A name that is new to the walk is new on the way. -/
theorem fresh (underway : Underway plan primary leads inside passed walk) (way : names ⊆ passed)
    {name : String} (fresh : ¬ walk.seen.contains name) :
    Text.fold name ∉ names.map Text.fold := by
  intro there
  obtain ⟨other, there, same⟩ := List.mem_map.mp there
  exact fresh (Roster.contains_fold same.symm (underway.passed other (way there)))

end Underway

section Completeness

variable {plan : Plan} {primary : Option Nat} {found : List String → List Entry}
  {leads : String → Set Entry} {first : Set Entry} (unlimited : plan.policy.limit = none)
  (alike : ∀ name other, Text.fold name = Text.fold other → leads name = leads other)
  (finds : ∀ group, Reached (upward plan.keys leads) first group →
    ∀ names, names.Sublist (plan.keys group) → ∀ entry, entry ∈ found names ↔
      ∃ name ∈ names, entry ∈ leads name)
  (within : ∀ names entry, Ascent plan.keys leads first names entry →
    names.length ≤ plan.policy.maxDepth)
include unlimited alike finds within

/-- A walk leaves nothing behind above the group that it was sent to. What it has asked for on its
    way and the levels it has left make up the depth it may go to, so that a group at the last level
    has no new names that lead to anything. -/
theorem spread_climbs : ∀ (levels : Nat) {entry : Entry} {walk : Walk}
    {names passed inside : List String}, Ascent plan.keys leads first names entry →
    names.length + levels = plan.policy.maxDepth → names ⊆ passed →
    Underway plan primary leads inside passed walk →
    let later := spread plan primary found levels entry walk
    Underway plan primary leads inside passed later ∧ walk.Grows later ∧
      Climbed plan primary leads later entry
  | levels, entry, walk, names, passed, inside, way, depth, onWay, underway => by
    rw [spread_eq _ _ _ _ _ underway.goesOn]
    have grows : walk.Grows (own plan primary entry walk) := own_grows entry walk
    have counts := own_counts plan primary entry walk
    replace underway := underway.own unlimited entry
    generalize own plan primary entry walk = counted at *
    replace counts := counts.resolve_left (by simp [underway.goesOn])
    cases levels with
    | zero =>
      refine ⟨underway, grows, counts, fun name key ⟨above, led⟩ => ?_⟩
      -- A new name that leads to something would be one step too many for a way.
      by_contra fresh
      have longer := within _ _ (way.step key (underway.fresh onWay fresh) led)
      rw [List.length_cons] at longer
      omega
    | succ levels =>
      have meets := counted.meets_meetAll (plan.keys entry)
      dsimp only
      generalize counted.meetAll (plan.keys entry) = met at meets ⊢
      have climbed : Climbed plan primary leads met.2 entry :=
        ⟨fun gid usable other => meets.grows.members _ (counts gid usable other),
          fun name key _ => meets.known name key⟩
      have inwards := underway.meet meets
      split
      · next none =>
        refine ⟨inwards.leave alike (by simp [none]), grows.trans meets.grows, climbed⟩
      · -- One entry after the other is climbed from, and none undoes what another has done.
        have each : ∀ inner ∈ found met.1, ∀ walk,
            Underway plan primary leads (met.1 ++ inside) (met.1 ++ passed) walk →
            Underway plan primary leads (met.1 ++ inside) (met.1 ++ passed)
                (spread plan primary found levels inner walk) ∧
              walk.Grows (spread plan primary found levels inner walk) ∧
              Climbed plan primary leads (spread plan primary found levels inner walk) inner := by
          intro inner there walk inwards
          obtain ⟨name, asked, led⟩ :=
            (finds entry way.reached met.1 meets.listed inner).mp there
          have new := underway.fresh onWay (meets.fresh name asked)
          refine spread_climbs levels (way.step (meets.listed.subset asked) new led)
            (by rw [List.length_cons]; omega) ?_ inwards
          exact List.cons_subset.mpr
            ⟨List.mem_append_left _ asked, fun _ there => List.mem_append_right _ (onWay there)⟩
        obtain ⟨outwards, grows', all⟩ := foldl_each
          (fun inner walk => Climbed plan primary leads walk inner)
          (fun _ _ _ grows climbed => climbed.grows grows) (found met.1) met.2 each inwards
        refine ⟨outwards.leave alike fun name asked inner led => ?_,
          grows.trans (meets.grows.trans grows'), climbed.grows grows'⟩
        exact all inner ((finds entry way.reached met.1 meets.listed inner).mpr ⟨name, asked, led⟩)

end Completeness

section Gathering

variable {plan : Plan} {primary : Option Nat} {found : List String → List Entry}
  {leads : String → Set Entry} {first : List Entry}

/-- A walk that hears of all that names lead to, and may go as far up as there is a way, counts all
    that can be come to and nothing else. -/
theorem mem_gather_iff (unlimited : plan.policy.limit = none)
    (alike : ∀ name other, Text.fold name = Text.fold other → leads name = leads other)
    (finds : ∀ group, Reached (upward plan.keys leads) { entry | entry ∈ first } group →
      ∀ names, names.Sublist (plan.keys group) → ∀ entry, entry ∈ found names ↔
        ∃ name ∈ names, entry ∈ leads name)
    (within : ∀ names entry, Ascent plan.keys leads { entry | entry ∈ first } names entry →
      names.length ≤ plan.policy.maxDepth) (gid : Nat) :
    Member.gid gid ∈ (gather plan primary found first).members ↔
      gid ∈ plan.gids primary
        { entry | Reached (upward plan.keys leads) { entry | entry ∈ first } entry } := by
  constructor
  · intro there
    have hears group reached names listed entry := (finds group reached names listed entry).mp
    obtain ⟨_, counted, same⟩ := gather_sound hears _ there
    cases same
    exact counted
  rintro ⟨entry, reached, usable, other⟩
  have begun : Underway plan primary leads [] [] {} :=
    ⟨fun name met => by simp [Roster.contains] at met, nofun, rfl⟩
  obtain ⟨ended, -, climbed⟩ := foldl_each
    (fun entry walk => Climbed plan primary leads walk entry)
    (fun _ _ _ grows climbed => climbed.grows grows) first {}
    (fun entry there walk underway => spread_climbs unlimited alike finds within
      plan.policy.maxDepth (.start there) (Nat.zero_add _) (List.nil_subset _) underway) begun
  -- In the end the walk is with no name, so all that is above a climbed group is climbed from.
  have all : ∀ {entry}, Reached (upward plan.keys leads) { entry | entry ∈ first } entry →
      Climbed plan primary leads (gather plan primary found first) entry := by
    intro entry reached
    induction reached with
    | start there => exact climbed _ there
    | step _ there below =>
      obtain ⟨name, key, led⟩ := there
      exact ended.exhausted name (below.known name key ⟨_, led⟩) (by simp) _ led
  exact (all reached).counts gid usable other

/-- No way asks for more names than there are, case apart. -/
theorem Ascent.length_le {first : Set Entry} {names : List String} {entry : Entry}
    (way : Ascent plan.keys leads first names entry) :
    names.length ≤ Set.encard { name | ∃ group, Reached (upward plan.keys leads) first group ∧
      ∃ key ∈ plan.keys group, Text.fold key = name } := by
  have all : ((names.map Text.fold).toFinset : Set String) ⊆ { name | ∃ group,
      Reached (upward plan.keys leads) first group ∧
        ∃ key ∈ plan.keys group, Text.fold key = name } := by
    intro name there
    simp only [List.coe_toFinset, Set.mem_ofPred_eq, List.mem_map] at there
    obtain ⟨key, there, same⟩ := there
    obtain ⟨group, reached, listed⟩ := way.mem_keys key there
    exact ⟨group, reached, key, listed, same⟩
  have size := Set.encard_le_encard all
  rwa [Set.encard_coe_eq_coe_finsetCard, List.toFinset_card_of_nodup way.nodup, List.length_map]
    at size

/-- A way is no longer than a list of all names that may be asked for, case apart. -/
theorem Ascent.length_le_of_known {first : Set Entry} {names known : List String} {entry : Entry}
    (way : Ascent plan.keys leads first names entry)
    (listed : ∀ group, Reached (upward plan.keys leads) first group → ∀ key ∈ plan.keys group,
      Text.fold key ∈ known) : names.length ≤ known.length := by
  have all : names.map Text.fold ⊆ known := by
    intro name there
    obtain ⟨key, passed, rfl⟩ := List.mem_map.mp there
    obtain ⟨group, reached, asked⟩ := way.mem_keys key passed
    exact listed group reached key asked
  have size := (way.nodup.subperm all).length_le
  rwa [List.length_map] at size

end Gathering

end NameService.Membership
