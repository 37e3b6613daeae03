import NameService.Directory
import NameService.Proofs.Lookup.Asking
import NameService.Proofs.Session.Deeds

/-!
What outlasts a walk through groups. A walk is made of questions, so what no question ends is true
when the walk is over, and a walk is over when its questions are answered. Only an enumeration may
keep a caller waiting; what no step of one ends is true at the end of an expansion, if there is one.

## Main results

- `walkGroup_lasts`, `collect_lasts`, `walkNetgroup_lasts`: a walk comes to an end, and what no
  question ends is true then.
- `expand_endures`: what no step of an enumeration ends either is true after every expansion.
-/

namespace NameService

open Engine

variable {σ : Type} [Service σ] {holds : World σ → Prop}

/-- What no question ends. -/
structure World.Answering (holds : World σ → Prop) : Prop where
  ready : Lasts holds (Session.ensureReady : Action σ Unit).run
  asks : ∀ lookup : Lookup, Lasts holds (lookup.entries : Action σ (List Entry)).run
  reads : ∀ (name : String) (attributes : List String),
    Lasts holds (Entry.read name attributes : Action σ (Option Entry)).run
  resolves : ∀ (plan : Membership.Plan) (name : String),
    Lasts holds (Membership.resolve plan name : Action σ Membership.Resolved).run
  visits : ∀ (visit : Visit) (world : World σ), holds world →
    holds { world with visits := visit :: world.visits }

/-- What no step of an enumeration ends either. -/
structure World.Enduring (holds : World σ → Prop) : Prop extends World.Answering holds where
  touches : Upholds holds (touch : Engine σ Unit)
  closes : Upholds holds (close : Engine σ Unit)
  starts : ∀ (e : Enumeration) (lookup : Lookup), Upholds holds (e.start lookup)
  fetches : ∀ e : Enumeration, Upholds holds e.fetch
  stops : ∀ e : Enumeration, Upholds holds e.stop

omit [Service σ] in
theorem Engine.Lasts.upholds {α : Type} {m : Engine σ α} (lasts : Lasts holds m) :
    Upholds holds m :=
  fun _ start => lasts.ends start

namespace Membership

/-- What is read, and that a user name is learned from it, is all there is to a member. -/
theorem resolve_lasts (reads : ∀ (name : String) (attributes : List String),
      Lasts holds (Entry.read name attributes : Action σ (Option Entry)).run)
    (learns : ∀ (world : World σ) (name uid : String), holds world →
      holds { world with session := world.session.learn name uid })
    (plan : Plan) (name : String) : Lasts holds (resolve plan name : Action σ Resolved).run := by
  refine Lasts.session.lift.action_bind fun session => ?_
  split
  · exact .pure _
  refine (reads name plan.memberAttributes).action_bind fun found => ?_
  split
  · exact .pure _
  split
  · exact .pure _
  split
  · exact .pure _
  · exact (Lasts.update fun world => learns world name _).lift.action_bind fun _ => .pure _

theorem resolve_halts (plan : Plan) (name : String) :
    Halts (resolve plan name : Action σ Resolved).run :=
  (resolve_lasts (fun name attributes => .of_ends (Entry.read_halts name attributes)
    fun _ _ _ _ _ => trivial) (fun _ _ _ => id) plan name : Lasts (fun _ => True) _).halts

/-- What a question leaves alone, all questions about the groups above a group leave alone. -/
theorem collect_lasts (asks : ∀ lookup : Lookup,
      Lasts holds (lookup.entries : Action σ (List Entry)).run)
    (visits : ∀ (visit : Visit) (world : World σ), holds world →
      holds { world with visits := visit :: world.visits })
    (plan : Plan) (primary : Option Nat) :
    ∀ (levels level : Nat) (entry : Entry) (walk : Walk),
      Lasts holds (collect plan primary levels level entry walk : Engine σ Walk)
  | levels, level, entry, walk => by
    unfold collect
    split
    · exact .pure _
    cases levels with
    | zero => exact .pure _
    | succ levels =>
      dsimp only
      split
      · exact .pure _
      split
      · exact .pure _
      · -- The search is the only thing that is done to the world, apart from the note of it.
        next lookup walk _ =>
        refine (Lasts.noteVisit (visits _)).bind fun _ => ?_
        refine Lasts.bind (asks lookup) fun result => ?_
        split
        · exact .pure _
        · refine .foldlM (fun walk entry => ?_) _ walk
          exact collect_lasts asks visits plan primary levels _ entry walk

/-- The names in a list are what its retrieval comes to. -/
theorem run_memberNames_of_retrieve {plan : Plan} {entry : Entry} {retrieval : Retrieval}
    {world later : World σ}
    (ran : retrieve plan.names.uniqueMember entry.name none
      (entry.range? plan.names.uniqueMember) world = some (retrieval, later)) :
    (memberNames plan entry).run world =
      some (retrieval.values (entry.values plan.names.uniqueMember), later) := by
  rw [memberNames, run_mk, run_bind, ran]
  rfl

section Reading

variable (reads : ∀ (name : String) (attributes : List String),
  Lasts holds (Entry.read name attributes : Action σ (Option Entry)).run)
include reads

theorem retrieve_lasts (type name : String) (last : Option Nat) (range : Option Slice) :
    Lasts holds (retrieve type name last range : Engine σ Retrieval) := by
  fun_induction retrieve (σ := σ) type name last range with
  | case1 => exact .pure _
  | case2 => exact .pure _
  | case3 => exact .pure _
  | case4 last slice high ended progress following continues rest =>
    refine Lasts.bind (reads name _) fun result => ?_
    split
    · exact (rest _).bind fun _ => .pure _
    · exact .pure _
    · exact .pure _
  | case5 => exact .pure _

theorem memberNames_lasts (plan : Plan) (entry : Entry) :
    Lasts holds (memberNames plan entry : Brittle σ (List String)).run :=
  (retrieve_lasts reads _ _ _ _).bind fun _ => .pure _

end Reading

section Answering

variable (answering : World.Answering holds)
include answering

theorem walkGroup_lasts (plan : Plan) (levels level : Nat) (entry : Entry) (walk : Walk) :
    Lasts holds (walkGroup plan levels level entry walk : Brittle σ Walk).run := by
  induction levels generalizing level entry walk with
  | zero => exact .pure _
  | succ levels ih =>
    rw [walkGroup]
    split
    · exact .pure _
    refine (Lasts.noteVisit (answering.visits _)).lift.action_bind fun _ => ?_
    refine (memberNames_lasts answering.reads plan entry).action_bind fun names => ?_
    refine (Lasts.action_foldlM (fun walk value => ?_) names _).action_bind fun _ => .pure _
    refine Lasts.action_bind (.lift (answering.resolves plan _)) fun result => ?_
    split
    · exact .pure _
    · split
      · exact ih _ _ walk
      · exact .pure _
    · exact .pure _
    · exact .pure _

theorem expandGroup_lasts (plan : Plan) (name : String) :
    Lasts holds (expandGroup plan name : Venture σ Walk).run := by
  refine (answering.reads name _).attempt.action_bind fun found => ?_
  split
  · exact .throw _
  · exact (walkGroup_lasts answering plan _ _ _ _).risk

theorem lookUp_lasts (plan : Plan) (level : Nat) (name : String) :
    Lasts holds (lookUp plan level name : Action σ (List Entry)).run :=
  (Lasts.noteVisit (answering.visits _)).lift.action_bind fun _ => answering.asks _

theorem netgroup_lasts (plan : Plan) (level : Nat) (name : String) (known : Option Entry) :
    Lasts holds (netgroup plan level name known : Engine σ (Option Entry)) := by
  cases known with
  | some entry => exact .pure _
  | none =>
    refine Lasts.bind (lookUp_lasts answering plan level name) fun result => ?_
    cases result <;> exact .pure _

theorem walkNetgroup_lasts (plan : Plan) (levels level : Nat) (name : String)
    (known : Option Entry) (walk : Walk) :
    Lasts holds (walkNetgroup plan levels level name known walk : Engine σ Walk) := by
  induction levels generalizing level name known walk with
  | zero => exact .pure _
  | succ levels ih =>
    rw [walkNetgroup]
    split
    · exact .pure _
    refine (netgroup_lasts answering plan level name known).bind fun found => ?_
    split
    · exact .pure _
    refine .foldlM (fun walk member => ?_) _ _
    split
    · exact .pure _
    split
    · exact ih _ _ none walk
    · exact .pure _

theorem expandNetgroup_lasts (plan : Plan) (name : String) :
    Lasts holds (expandNetgroup plan name : Action σ Walk).run := by
  refine (lookUp_lasts answering plan 0 name).action_bind fun entries => ?_
  split
  · exact .throw _
  · exact (walkNetgroup_lasts answering plan _ _ _ _ _).lift

end Answering

theorem question_lasts (asks : ∀ lookup : Lookup,
      Lasts holds (lookup.entries : Action σ (List Entry)).run) (plan : Plan) (user : String) :
    Lasts holds (question plan user : Action σ Lookup).run := by
  unfold question
  split
  · exact .pure _
  split
  · exact (asks _).action_bind fun _ => .pure _
  · exact .pure _

end Membership

section Enduring

variable (enduring : World.Enduring holds)
include enduring

namespace Enumeration

theorem next_endures {ρ : Type} (parser : RecordParser ρ) (patience : Nat) (e : Enumeration)
    (arena : Arena) :
    Upholds holds (next parser patience e arena : Engine σ (Reading ρ × Enumeration)) := by
  induction patience generalizing e arena with
  | zero =>
    -- Without patience there is no result, of which anything would have to be true.
    intro world start result later ran
    cases ran
  | succ patience ih =>
    rw [next]
    split
    · refine (enduring.fetches e).bind fun out => ?_
      split
      · exact .pure _
      · exact ih _ arena
    · split
      · exact enduring.touches.bind fun _ => .pure _
      · exact .pure _
      · exact ih _ _

omit enduring in
theorem nextEntry_endures (fetches : ∀ e : Enumeration, Upholds holds e.fetch) (patience : Nat)
    (e : Enumeration) :
    Upholds holds
      (e.nextEntry patience : Engine σ (Except Error (Option Entry) × Enumeration)) := by
  induction patience generalizing e with
  | zero =>
    intro world start result later ran
    cases ran
  | succ patience ih =>
    rw [nextEntry]
    split
    · exact .pure _
    · refine (fetches e).bind fun out => ?_
      split
      · exact ih _
      · exact .pure _
      · exact .pure _

end Enumeration

namespace Membership

theorem collectAll_endures (plan : Plan) (primary : Option Nat) (patience rounds : Nat)
    (e : Enumeration) (walk : Walk) :
    Upholds holds (collectAll plan primary patience rounds e walk :
      Engine σ (Except Error Walk × Enumeration)) := by
  induction rounds generalizing e walk with
  | zero =>
    intro world start result later ran
    cases ran
  | succ rounds ih =>
    rw [collectAll]
    refine (e.nextEntry_endures enduring.fetches patience).bind fun out => ?_
    split
    · exact .pure _
    · exact .pure _
    · refine (collect_lasts enduring.asks enduring.visits plan primary _ _ _ walk).upholds.bind
        fun walk => ?_
      split
      · exact .pure _
      · exact ih _ walk

theorem collectAnswer_endures (plan : Plan) (primary : Option Nat) (patience : Nat)
    (lookup : Lookup) :
    Upholds holds
      (collectAnswer plan primary patience lookup :
        Engine σ (Except Error Walk × Enumeration)) := by
  refine (enduring.starts {} lookup).bind fun out => ?_
  split
  · exact .pure _
  · exact .pure _
  · exact collectAll_endures enduring plan primary patience patience _ {}

theorem expandUser_endures (plan : Plan) (patience : Nat) (user : String) (primary : Option Nat) :
    Upholds holds (expandUser plan patience user primary : Action σ Walk).run := by
  rw [expandUser_eq]
  split
  · exact .throw _
  refine (question_lasts enduring.asks plan user).upholds.action_bind fun lookup => ?_
  refine (collectAnswer_endures enduring plan primary patience lookup).bind fun out => ?_
  exact (enduring.stops out.2).bind fun _ => .pure _

theorem expand_endures (patience : Nat) (seed : Seed) (policy : Policy) :
    Upholds holds (expand patience seed policy : Venture σ Walk).run := by
  refine enduring.ready.upholds.attempt.action_bind fun _ => ?_
  refine Upholds.config.attempt.action_bind fun config => ?_
  cases seed with
  | group name => exact (expandGroup_lasts enduring.toAnswering _ name).upholds
  | user name primary => exact (expandUser_endures enduring _ patience name primary).attempt
  | netgroup name => exact (expandNetgroup_lasts enduring.toAnswering _ name).upholds.attempt

end Membership

end Enduring

end NameService
