import NameService.Enumeration
import NameService.Proofs.Session.Deeds

/-!
Questions and enumerations as rows of deeds. Nothing is done in them but what a session does, so
what no deed can end is true after each of them.
-/

namespace NameService

open Engine World

variable {σ : Type} [Service σ] {holds : World σ → Prop}

section Asking

variable (upkept : World.Upkept holds)
include upkept

/-- A search goes out on the connection that is held. -/
theorem search_upholds {world : World σ} {link : Link} (start : holds world)
    (held : world.session.link = some link) (search : Search) :
    Ends world (perform (.search link.connection search)) fun _ => holds :=
  .of_run (run_perform world _) (upkept.deed (.query held rfl rfl) rfl start)

namespace Lookup

theorem searchTargets_upholds (lookup : Lookup) (config : Config) (targets : List Target) :
    Upholds holds (lookup.searchTargets config targets : Action σ (List Entry)).run := by
  induction targets with
  | nil => exact .pure _
  | cons target targets ih =>
    rw [searchTargets]
    refine (Upholds.except _).action_bind fun search => connection_upholds ?_
    -- The answer of one part decides whether the next one is searched.
    intro world link start held
    refine (search_upholds upkept start held search).lift_bind fun answer later kept => ?_
    cases answer with
    | ok entries =>
      cases entries with
      | nil => exact ih later kept
      | cons entry entries => exact .pure kept
    | error error =>
      dsimp only
      split
      · exact ih later kept
      · exact .of_run (run_throw later error) kept

theorem entries_upholds (lookup : Lookup) :
    Upholds holds (lookup.entries : Action σ (List Entry)).run :=
  Failover.run_upholds upkept <| Upholds.config.action_bind fun config =>
    searchTargets_upholds upkept lookup config _

end Lookup

namespace Entry

/-- The entry that was found for a name was shown on the connection that is held. -/
def FoundHere (name : String) (attributes : List String) (found : Option Entry)
    (world : World σ) : Prop :=
  ∀ entry, found = some entry → ∃ link, world.session.link = some link ∧
    ∃ event ∈ world.history, event.Shows link.connection name attributes entry

theorem readOnce_yields (name : String) (attributes : List String) :
    Yields holds (readOnce name attributes : Action σ (Option Entry))
      (FoundHere name attributes) := by
  intro world start
  refine (Upholds.config world start).action_bind ?_ fun _ _ kept => ⟨kept, by simp⟩
  intro config later kept
  refine connection_yields ?_ later kept
  intro world link start held
  -- The search is what shows the entry; it is the latest thing that has happened when it is found.
  let call := Call.search link.connection (.read name attributes config.timeLimit)
  have asked : holds (world.after call) := upkept.deed (.query held rfl rfl) rfl start
  refine .action_bind_run (run_lift world (perform call)) ?_
  dsimp only
  split
  · next entries answered =>
    refine .pure ⟨asked, ?_⟩
    rintro found ⟨⟩ entry first
    obtain ⟨rest, rfl⟩ : ∃ rest, entries = entry :: rest := by
      cases entries with
      | nil => cases first
      | cons head rest => exact ⟨rest, by simpa using first⟩
    refine ⟨link, held, _, List.mem_cons_self, ?_⟩
    rw [answered]
    exact .intro config.timeLimit rest _ _
  · next error answered =>
    split
    · exact .pure ⟨asked, fun _ same entry found => by cases same; cases found⟩
    · exact .of_run (run_throw _ error) ⟨asked, by simp⟩

theorem read_yields (name : String) (attributes : List String) :
    Yields holds (read name attributes : Action σ (Option Entry)) (FoundHere name attributes) := by
  refine Failover.run_yields upkept (readOnce_yields upkept name attributes) ?_
  -- To note the time changes neither the connection nor what has happened.
  intro found world now before entry same
  obtain ⟨link, held, shown⟩ := before entry same
  exact ⟨{ link with lastActivity := now }, by simp [held], shown⟩

end Entry

end Asking

section Receiving

variable (upheld : World.Upheld holds)
include upheld

/-- A query goes out on the connection that is held. -/
theorem query_upholds {world : World σ} {link : Link} (start : holds world)
    (held : world.session.link = some link) {call : Call} (query : call.isQuery)
    (target : call.connection? = some link.connection) :
    Ends world (perform call) fun _ => holds :=
  .of_run (run_perform world call) (upheld.deed (.query held query target) start)

namespace Lookup

theorem startPage_upholds (lookup : Lookup) (index : Nat) (cookie : List UInt8) :
    Upholds holds (lookup.startPage index cookie : Action σ (Option MessageId)).run := by
  refine Upholds.config.action_bind fun config => (Upholds.except _).action_bind fun search? => ?_
  cases search? with
  | none => exact .pure _
  | some search =>
    refine connection_upholds fun world link start held => ?_
    have asks : Ends world (ExceptT.mk (perform (.start link.connection { search with
        page := config.page? cookie })) : Action σ MessageId).run fun _ => holds :=
      query_upholds upheld start held rfl rfl
    exact asks.action_bind (fun id later kept => .pure kept) fun error later kept => kept

theorem start_upholds (lookup : Lookup) (index : Nat) :
    Upholds holds (lookup.start index : Action σ (Option MessageId)).run :=
  Failover.run_upholds upheld.upkept (startPage_upholds upheld lookup index [])

end Lookup

namespace Enumeration

theorem abandon_upholds (e : Enumeration) : Upholds holds (e.abandon : Engine σ Enumeration) := by
  refine (Session.releaseInherited_upholds upheld.upkept).bind fun released => ?_
  dsimp only
  split
  · exact .pure _
  split
  · next id pending =>
    refine .with_session fun world start => ?_
    split
    · split
      · next link held =>
        -- That the connection is held is enough for a deed; what has become of it is not asked.
        have tells : Ends world (perform (.abandon link.connection id)) fun _ => holds :=
          .of_run (run_perform world _) (upheld.deed (.abandon held id) start)
        exact tells.bind fun _ _ kept => .pure kept
      · exact .pure start
    · exact .pure start
  · exact .pure _

theorem start_upholds (e : Enumeration) (lookup : Lookup) :
    Upholds holds (e.start lookup : Engine σ (Except Error Unit × Enumeration)) := by
  refine (abandon_upholds upheld e).bind fun e => ?_
  refine (lookup.start_upholds upheld 0).bind fun result => ?_
  split
  · exact .pure _
  · refine .with_session fun world start => ?_
    dsimp only
    split <;> exact .pure start

theorem startNext_upholds (e : Enumeration) :
    Upholds holds (e.startNext : Engine σ (Except Error Unit × Enumeration)) := by
  unfold startNext
  split
  · exact .pure _
  · next lookup _ =>
    refine (lookup.startPage_upholds upheld e.index e.cookie).bind fun result => ?_
    cases result <;> exact .pure _

theorem take_upholds (e : Enumeration) (message : Message) :
    Upholds holds (e.take message : Engine σ (Except Error Unit × Enumeration)) := by
  cases message with
  | entry entry => exact .pure _
  | reference => exact .pure _
  | done done =>
    change Upholds holds (e.finish done)
    unfold finish
    dsimp only
    split
    · exact .pure _
    split
    · exact startNext_upholds upheld _
    · refine (startNext_upholds upheld _).bind fun out => ?_
      split <;> exact .pure _

theorem fetch_upholds (e : Enumeration) :
    Upholds holds (e.fetch : Engine σ (Except Error Unit × Enumeration)) := by
  unfold fetch
  split
  · refine (Session.ensureReady_upholds upheld.upkept).bind fun result => ?_
    cases result with
    | error error => exact .pure _
    | ok ready =>
      refine .with_session fun world start => ?_
      split
      · next link held =>
        split
        · exact .pure start
        refine (query_upholds upheld start held rfl rfl).bind fun answer later kept => ?_
        split
        · split
          · exact (close_upholds upheld.upkept later kept).bind fun _ _ kept => .pure kept
          · exact .pure kept
        · exact take_upholds upheld e _ later kept
      · exact .pure start
  · exact .pure _

theorem stop_upholds (e : Enumeration) : Upholds holds (e.stop : Engine σ Enumeration) := by
  refine (abandon_upholds upheld e).bind fun e => .with_session fun world start => ?_
  dsimp only
  split
  · split
    · exact (close_upholds upheld.upkept world start).bind fun _ _ kept => .pure kept
    · exact .pure start
  · exact .pure start

end Enumeration

end Receiving

end NameService
