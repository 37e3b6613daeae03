import NameService.Directory
import NameService.Proofs.Enumeration.Conduct

/-!
How members are looked for. A walk through groups is made of questions and of what is remembered of
their answers, and each question looks for hazards of its own.
-/

namespace NameService.Membership

open Engine World

variable {σ : Type} [Service σ] (keeps : Service.KeepsProcess σ)
include keeps

theorem retrieve_keeps (type name : String) (last : Option Nat) (range : Option Slice) :
    Keeps Regular (retrieve type name last range : Engine σ Retrieval) := by
  fun_induction retrieve (σ := σ) type name last range with
  | case1 => exact .pure _
  | case2 => exact .pure _
  | case3 => exact .pure _
  | case4 last slice high ended progress following continues rest =>
    refine (Entry.read_keeps keeps name _).bind fun result => ?_
    split
    · exact (rest _).bind fun _ => .pure _
    · exact .pure _
    · exact .pure _
  | case5 => exact .pure _

theorem memberNames_keeps (plan : Plan) (entry : Entry) :
    Keeps Regular (memberNames plan entry : Brittle σ (List String)).run :=
  (retrieve_keeps keeps _ _ _ _).bind fun _ => .pure _

theorem resolve_keeps (plan : Plan) (name : String) :
    Keeps Regular (resolve plan name : Action σ Resolved).run := by
  -- A name that is learned is nothing that decides about the connection.
  have learns (uid : String) :
      Keeps Regular (update fun session => session.learn name uid : Engine σ Unit) :=
    update_keeps (fun regular alike => regular.tend alike) fun _ => .of_held rfl rfl rfl rfl
  refine fun world regular => .of_session ?_
  split
  · exact .pure regular
  · refine ((Entry.read_keeps keeps name _).action_bind fun found => ?_) world regular
    split
    · exact .pure _
    split
    · exact .pure _
    split
    · exact .pure _
    · exact (learns _).lift.action_bind fun _ => .pure _

omit [Service σ] keeps in
/-- The record of what is visited says nothing of the session. -/
theorem regular_visit (visit : Visit) (world : World σ) (regular : Regular world) :
    Regular { world with visits := visit :: world.visits } :=
  ⟨regular.coherent, regular.bound, regular.timed⟩

theorem walkGroup_keeps (plan : Plan) : ∀ (levels level : Nat) (entry : Entry) (walk : Walk),
    Keeps Regular (walkGroup plan levels level entry walk : Brittle σ Walk).run
  | 0, _, _, _ => .pure _
  | levels + 1, level, entry, walk => by
    rw [walkGroup]
    split
    · exact .pure _
    refine (Keeps.noteVisit (regular_visit _)).lift.action_bind fun _ => ?_
    refine (memberNames_keeps keeps plan entry).action_bind fun names => ?_
    refine (Keeps.action_foldlM (fun walk value => ?_) names _).action_bind fun _ => .pure _
    refine (resolve_keeps keeps plan _).lift.action_bind fun result => ?_
    split
    · exact .pure _
    · split
      · exact walkGroup_keeps plan levels _ _ walk
      · exact .pure _
    · exact .pure _
    · exact .pure _

theorem expandGroup_keeps (plan : Plan) (name : String) :
    Keeps Regular (expandGroup plan name : Venture σ Walk).run := by
  refine (Entry.read_keeps keeps name _).attempt.action_bind fun found => ?_
  split
  · exact .throw _
  · exact (walkGroup_keeps keeps plan _ _ _ _).risk

theorem lookUp_keeps (plan : Plan) (level : Nat) (name : String) :
    Keeps Regular (lookUp plan level name : Action σ (List Entry)).run :=
  (Keeps.noteVisit (regular_visit _)).lift.action_bind fun _ =>
    (plan.findNetgroup name).entries_keeps keeps

theorem netgroup_keeps (plan : Plan) (level : Nat) (name : String) (known : Option Entry) :
    Keeps Regular (netgroup plan level name known : Engine σ (Option Entry)) := by
  cases known with
  | some entry => exact .pure _
  | none =>
    refine (lookUp_keeps keeps plan level name).bind fun result => ?_
    cases result <;> exact .pure _

theorem walkNetgroup_keeps (plan : Plan) :
    ∀ (levels level : Nat) (name : String) (known : Option Entry) (walk : Walk),
      Keeps Regular (walkNetgroup plan levels level name known walk : Engine σ Walk)
  | 0, _, _, _, _ => .pure _
  | levels + 1, level, name, known, walk => by
    rw [walkNetgroup]
    split
    · exact .pure _
    refine (netgroup_keeps keeps plan level name known).bind fun found => ?_
    split
    · exact .pure _
    refine .foldlM (fun walk member => ?_) _ _
    split
    · exact .pure _
    split
    · exact walkNetgroup_keeps plan levels _ _ none walk
    · exact .pure _

theorem expandNetgroup_keeps (plan : Plan) (name : String) :
    Keeps Regular (expandNetgroup plan name : Action σ Walk).run := by
  refine (lookUp_keeps keeps plan 0 name).action_bind fun entries => ?_
  split
  · exact .throw _
  · exact (walkNetgroup_keeps keeps plan _ _ _ _ _).lift

theorem collect_keeps (plan : Plan) (primary : Option Nat) :
    ∀ (levels level : Nat) (entry : Entry) (walk : Walk),
      Keeps Regular (collect plan primary levels level entry walk : Engine σ Walk)
  | levels, level, entry, walk => by
    unfold collect
    split
    · exact .pure _
    cases levels with
    | zero => exact .pure _
    | succ levels =>
      dsimp only
      split
      · exact .pure _
      split
      · exact .pure _
      · next lookup walk _ =>
        refine (Keeps.noteVisit (regular_visit _)).bind fun _ => ?_
        refine (lookup.entries_keeps keeps).bind fun result => ?_
        split
        · exact .pure _
        · exact .foldlM (fun walk entry => collect_keeps plan primary levels _ entry walk) _ walk

theorem collectAll_keeps (plan : Plan) (primary : Option Nat) (patience : Nat) :
    ∀ (rounds : Nat) (e : Enumeration) (walk : Walk),
      Keeps Regular
        (collectAll plan primary patience rounds e walk :
          Engine σ (Except Error Walk × Enumeration))
  | 0, _, _ => fun _ _ _ _ ran => nomatch ran
  | rounds + 1, e, walk => by
    rw [collectAll]
    refine (e.nextEntry_keeps keeps patience).bind fun out => ?_
    split
    · exact .pure _
    · exact .pure _
    · refine (collect_keeps keeps plan primary _ _ _ walk).bind fun walk => ?_
      split
      · exact .pure _
      · exact collectAll_keeps plan primary patience rounds _ walk

theorem question_keeps (plan : Plan) (user : String) :
    Keeps Regular (question plan user : Action σ Lookup).run := by
  unfold question
  split
  · exact .pure _
  split
  · exact ((plan.findUser user).entries_keeps keeps).action_bind fun _ => .pure _
  · exact .pure _

theorem collectAnswer_keeps (plan : Plan) (primary : Option Nat) (patience : Nat)
    (lookup : Lookup) :
    Keeps Regular
      (collectAnswer plan primary patience lookup :
        Engine σ (Except Error Walk × Enumeration)) := by
  refine (Enumeration.start_keeps keeps {} lookup).bind fun out => ?_
  split
  · exact .pure _
  · exact .pure _
  · exact collectAll_keeps keeps plan primary patience patience _ {}

theorem expandUser_keeps (plan : Plan) (patience : Nat) (user : String) (primary : Option Nat) :
    Keeps Regular (expandUser plan patience user primary : Action σ Walk).run := by
  rw [expandUser_eq]
  split
  · exact .throw _
  -- The enumeration is ended whether all members have come or not.
  refine (question_keeps keeps plan user).action_bind fun lookup => ?_
  refine (collectAnswer_keeps keeps plan primary patience lookup).bind fun out => ?_
  exact (out.2.stop_keeps keeps).bind fun _ => .pure _

theorem expand_keeps (patience : Nat) (seed : Seed) (policy : Policy) :
    Keeps Regular (expand patience seed policy : Venture σ Walk).run := by
  have ready : Keeps Regular (Session.ensureReady : Action σ Unit).run := fun world regular =>
    (Session.ensureReady_goes regular).mono fun _ _ reached => reached.1
  refine ready.attempt.action_bind fun _ => ?_
  refine (config_keeps Regular).attempt.action_bind fun config => ?_
  cases seed with
  | group name => exact expandGroup_keeps keeps _ name
  | user name primary => exact (expandUser_keeps keeps _ patience name primary).attempt
  | netgroup name => exact (expandNetgroup_keeps keeps _ name).attempt

end NameService.Membership
