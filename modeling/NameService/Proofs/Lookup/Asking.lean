import NameService.Lookup.Answer
import NameService.Proofs.Session.Lasting

/-!
Questions leave a session as it is. What is asked at a server is asked on the connection at hand and
nothing is remembered of it, so what the question cannot end is true when the answer has come; and
there is always an answer, if only that the server has failed.
-/

namespace NameService

open Engine

variable {σ : Type} [Service σ]

variable {holds : World σ → Prop}

/-- To read an entry asks for that entry and nothing else. -/
theorem Entry.readOnce_lasts_of_read (name : String) (attributes : List String)
    (asked : ∀ (world : World σ) (connection : Connection) (limit : Option Nat), holds world →
      holds (world.after (.search connection (.read name attributes limit)))) :
    Lasts holds (readOnce name attributes : Action σ (Option Entry)).run := by
  refine Lasts.config.action_bind fun config => Lasts.connection.action_bind fun link => ?_
  refine (Lasts.perform fun world => asked world _ _).lift.action_bind fun answer => ?_
  match answer with
  | .ok entries => exact .pure _
  | .error error =>
    dsimp only
    split
    · exact .pure _
    · exact .throw error

section Searching

variable (asked : ∀ (world : World σ) (connection : Connection) (search : Search), holds world →
    holds (world.after (.search connection search)))
include asked

theorem Lookup.searchTargets_lasts (lookup : Lookup) (config : Config) :
    ∀ targets, Lasts holds (lookup.searchTargets config targets : Action σ (List Entry)).run
  | [] => .pure _
  | target :: targets => by
    rw [searchTargets]
    refine (Lasts.except _).action_bind fun search => Lasts.connection.action_bind fun link => ?_
    refine (Lasts.perform fun world => asked world _ _).lift.action_bind fun answer => ?_
    match answer with
    | .ok [] => exact searchTargets_lasts lookup config targets
    | .ok (entry :: entries) => exact .pure _
    | .error error =>
      dsimp only
      split
      · exact searchTargets_lasts lookup config targets
      · exact .throw error

theorem Lookup.searchOnce_lasts (lookup : Lookup) :
    Lasts holds (lookup.searchOnce : Action σ (List Entry)).run :=
  Lasts.config.action_bind fun config => searchTargets_lasts asked lookup config _

theorem Entry.readOnce_lasts (name : String) (attributes : List String) :
    Lasts holds (readOnce name attributes : Action σ (Option Entry)).run :=
  readOnce_lasts_of_read name attributes fun world connection _ => asked world connection _

end Searching

/-- There is always an answer, or an error instead of it. -/
theorem Lookup.entries_halts (lookup : Lookup) :
    Halts (lookup.entries : Action σ (List Entry)).run := by
  have searches : Lasts (fun _ : World σ => True) lookup.searchOnce.run :=
    lookup.searchOnce_lasts fun _ _ _ _ => trivial
  exact Failover.run_halts searches.halts

theorem Lookup.one_lasts {lookup : Lookup}
    (asks : Lasts holds (lookup.entries : Action σ (List Entry)).run) {ρ : Type}
    (parser : RecordParser ρ) (arena : Arena) :
    Lasts holds (lookup.one parser arena : Engine σ (Reading (Sized ρ))) := by
  refine Lasts.bind asks fun result => ?_
  cases result <;> exact .pure _

theorem Entry.read_halts (name : String) (attributes : List String) :
    Halts (read name attributes : Action σ (Option Entry)).run := by
  have reads : Lasts (fun _ : World σ => True) (readOnce name attributes).run :=
    readOnce_lasts (fun _ _ _ _ => trivial) name attributes
  exact Failover.run_halts reads.halts

theorem Lookup.startPage_lasts (started : ∀ (world : World σ) (connection : Connection)
      (search : Search), holds world → holds (world.after (.start connection search)))
    (lookup : Lookup) (index : Nat) (cookie : List UInt8) :
    Lasts holds (lookup.startPage index cookie : Action σ (Option MessageId)).run := by
  refine Lasts.config.action_bind fun config => (Lasts.except _).action_bind fun search? => ?_
  match search? with
  | none => exact .pure _
  | some search =>
    refine Lasts.connection.action_bind fun link => ?_
    have starts : Lasts holds (ExceptT.mk (perform (.start link
        { search with page := config.page? cookie })) : Action σ MessageId).run :=
      .mk (.perform fun world => started world link _)
    exact starts.action_bind fun id => .pure _

end NameService
