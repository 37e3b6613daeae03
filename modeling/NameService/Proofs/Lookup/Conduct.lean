import NameService.Lookup.Answer
import NameService.Proofs.Session.Conduct

/-!
How questions are put. A question is asked of the connection at hand only, after a look for hazards
and at every server it is tried at.
-/

namespace NameService

open Engine World

variable {σ : Type} [Service σ]

/-- What is done with the connection at hand is done with the one that is held. -/
theorem connection_keeps {α : Type} {rest : Connection → Action σ α}
    (steady : ∀ (world : World σ) (link : Link), world.Ready → world.session.link = some link →
      Goes world (rest link.connection).run fun _ => Ready) :
    Keeps Ready (connection >>= rest).run := by
  intro world ready
  cases held : world.session.link with
  | none =>
    -- Without a connection nothing is sent.
    refine .of_run (a := .error (.unavailable "no directory connection")) ?_ ⟨.refl, ready⟩
    simp [held]
  | some link => exact .reads (by simp [held]) (steady world link ready held)

theorem query_goes (keeps : Service.KeepsProcess σ) {world : World σ} {link : Link}
    (ready : world.Ready) (held : world.session.link = some link) {call : Call}
    (query : call.isQuery) (target : call.connection? = some link.connection) :
    Goes world (perform call) fun _ => Ready :=
  .step (run_perform world call) (.query ready held query target) (ready.after keeps call)

namespace Lookup

variable (keeps : Service.KeepsProcess σ)
include keeps

theorem searchTargets_keeps (lookup : Lookup) (config : Config) :
    ∀ targets, Keeps Ready (lookup.searchTargets config targets : Action σ (List Entry)).run
  | [] => .pure _
  | target :: targets => by
    rw [searchTargets]
    refine (Keeps.except _).action_bind fun search => ?_
    refine connection_keeps fun world link ready held => ?_
    refine (query_goes keeps ready held rfl rfl).lift_bind fun answer later ready => ?_
    match answer with
    | .ok [] => exact searchTargets_keeps lookup config targets later ready
    | .ok (entry :: entries) => exact .pure ready
    | .error error =>
      dsimp only
      split
      · exact searchTargets_keeps lookup config targets later ready
      · exact .stay rfl ready

theorem entries_keeps (lookup : Lookup) :
    Keeps Regular (lookup.entries : Action σ (List Entry)).run :=
  Failover.run_keeps keeps <| (config_keeps Ready).action_bind fun config =>
    searchTargets_keeps keeps lookup config _

theorem startPage_keeps (lookup : Lookup) (index : Nat) (cookie : List UInt8) :
    Keeps Ready (lookup.startPage index cookie : Action σ (Option MessageId)).run := by
  refine (config_keeps Ready).action_bind fun config => ?_
  refine (Keeps.except _).action_bind fun search? => ?_
  match search? with
  | none => exact .pure _
  | some search =>
    refine connection_keeps fun world link ready held => ?_
    exact (query_goes keeps ready held rfl rfl).mk_bind fun id later ready => .pure ready

theorem start_keeps (lookup : Lookup) (index : Nat) :
    Keeps Regular (lookup.start index : Action σ (Option MessageId)).run :=
  Failover.run_keeps keeps (startPage_keeps keeps lookup index [])

theorem one_keeps (lookup : Lookup) {ρ : Type} (parser : RecordParser ρ) (arena : Arena) :
    Keeps Regular (lookup.one parser arena : Engine σ (Reading (Sized ρ))) := by
  refine (entries_keeps keeps lookup).bind fun result => ?_
  cases result <;> exact .pure _

end Lookup

theorem Entry.read_keeps (keeps : Service.KeepsProcess σ) (name : String)
    (attributes : List String) :
    Keeps Regular (Entry.read name attributes : Action σ (Option Entry)).run := by
  refine Failover.run_keeps keeps ((config_keeps Ready).action_bind fun config => ?_)
  refine connection_keeps fun world link ready held => ?_
  refine (query_goes keeps ready held rfl rfl).lift_bind fun answer later ready => ?_
  match answer with
  | .ok entries => exact .pure ready
  | .error error =>
    dsimp only
    split
    · exact .pure ready
    · exact .stay rfl ready

end NameService
