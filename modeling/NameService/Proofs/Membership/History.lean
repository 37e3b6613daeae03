import NameService.Proofs.Membership.Agreement

/-!
Sessions with a past. A session that was used for questions about the members of groups may remember
user names, and may have forgotten others; it may be at another server than the first, or without a
connection. None of that can be seen in the answers that it gives.

## Main result

`expand_group_timeless`: the answer for the members of a group does not depend on the past.
-/

namespace NameService.Membership

open Engine

/-- A session that was asked for the members of groups, any number of times, and for nothing else.
    Between the questions anything may happen outside. -/
inductive Used {σ : Type} [Service σ] : World σ → Prop
  | fresh {world : World σ} (fresh : world.session = {}) : Used world
  | expand {world later : World σ} {patience : Nat} {name : String} {policy : Policy}
    {result : Except Failure Walk} (used : Used world)
    (ran : (expand patience (.group name) policy).run world = some (result, later)) : Used later
  | elapse {world : World σ} (used : Used world) (outside : σ) : Used { world with outside }

section Answers

variable {σ : Type} [Service σ] {config : Config} {readings : Readings}
  (reads : Service.Reads σ config readings)
  (unfailing : ∀ name attributes, ∃ entries, readings.read name attributes = .ok entries)
include reads unfailing

/-- On two sessions that know nothing false a question has one answer, and leaves it at that. -/
theorem expand_group_known (patience : Nat) (name : String) (policy : Policy) :
    Agree (World.Knows (σ := σ) config readings (.ofConfig config policy))
      (World.Knows (σ := σ) config readings (.ofConfig config policy)) Eq
      (expand patience (.group name) policy : Venture σ Walk).run
      (expand patience (.group name) policy : Venture σ Walk).run := by
  obtain ⟨entries, answered⟩ := unfailing name (Plan.ofConfig config policy).memberAttributes
  have known : told (readings.read name (Plan.ofConfig config policy).memberAttributes) =
      .ok entries.head? := by rw [answered]; rfl
  have agree := expand_group_agrees reads reads (fun _ _ => rfl) known known patience
  intro world world' knows knows'
  obtain ⟨result, later, _, later', ran, ran', ⟨rfl, -⟩, kept⟩ := agree world world' knows knows'
  exact ⟨result, later, result, later', ran, ran', rfl, kept⟩

/-- What a used session remembers is what any plan for the configuration would find. -/
theorem Used.knows {world : World σ} (used : Used world) (policy : Policy) :
    world.Knows config readings (.ofConfig config policy) := by
  induction used with
  | fresh fresh =>
    rw [World.Knows, fresh]
    exact Session.recalls_new
  | @expand world later patience name policy' result used ran ih =>
    -- Policies make no difference to what a name stands for.
    have knows : world.Knows config readings (.ofConfig config policy') := ih
    obtain ⟨result', later', -, -, ran', -, -, kept, -⟩ :=
      expand_group_known reads unfailing patience name policy' world world knows knows
    obtain ⟨-, rfl⟩ : result' = result ∧ later' = later := by
      simpa using ran'.symm.trans ran
    exact kept
  | elapse used outside ih => exact ih

/-- Whatever has been asked before, a question for the members of a group has the answer that it
    has on a fresh session. -/
theorem expand_group_timeless {world world' : World σ} (used : Used world)
    (fresh : world'.session = {}) (patience : Nat) (name : String) (policy : Policy) :
    ∃ result later later', (expand patience (.group name) policy).run world =
        some (result, later) ∧
      (expand patience (.group name) policy).run world' = some (result, later') := by
  have knows := used.knows reads unfailing policy
  have knows' := (Used.fresh fresh).knows reads unfailing policy
  obtain ⟨result, later, _, later', ran, ran', rfl, -⟩ :=
    expand_group_known reads unfailing patience name policy world world' knows knows'
  exact ⟨result, later, later', ran, ran'⟩

end Answers

/-- A session that has learned two users answers like one that knows nobody. -/
theorem expand_group_timeless_circle :
    let world : World (Host Circle.config Circle.reply) := { outside := {} }
    Service.Reads (Host Circle.config Circle.reply) Circle.config Circle.readings ∧
      (∀ name attributes, ∃ entries, Circle.readings.read name attributes = .ok entries) ∧
      world.session = {} ∧
      ∃ learned : World (Host Circle.config Circle.reply), Used learned ∧
        learned.session.uids = [("uid=ann,dc=small", "ann"), ("uid=bob,dc=small", "bob")] ∧
        ∃ result later later',
          (expand 9 (.group "cn=STAFF,dc=small") {}).run learned = some (result, later) ∧
            (expand 9 (.group "cn=STAFF,dc=small") {}).run world = some (result, later') := by
  intro world
  have unfailing : ∀ name attributes, ∃ entries,
      Circle.readings.read name attributes = .ok entries := fun _ _ => ⟨_, rfl⟩
  have asked : ((expand 9 (.group "CN=Admins,dc=small") Circle.policy).run world).map
      (fun out => out.2.session.uids) =
        some [("uid=ann,dc=small", "ann"), ("uid=bob,dc=small", "bob")] := by decide +kernel
  obtain ⟨⟨result, learned⟩, ran, remembers⟩ := Option.map_eq_some_iff.mp asked
  have used : Used learned := .expand (.fresh rfl) ran
  refine ⟨Circle.reads, unfailing, rfl, learned, used, remembers, ?_⟩
  exact expand_group_timeless Circle.reads unfailing used rfl 9 "cn=STAFF,dc=small" {}

end NameService.Membership
