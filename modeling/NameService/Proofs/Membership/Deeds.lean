import NameService.Proofs.Enumeration.Deeds
import NameService.Proofs.Membership.Lasting

/-!
Walks through groups as rows of deeds. All that a walk leaves in the session is the user names it
has learned, and each of them comes from an entry that was read on the connection at hand.
-/

namespace NameService

open Engine World

variable {σ : Type} [Service σ] {holds : World σ → Prop}

section Reading

variable (upkept : World.Upkept holds)
include upkept

theorem Membership.resolve_upholds (plan : Plan) (name : String) :
    Upholds holds (resolve plan name : Action σ Resolved).run := by
  intro world start
  refine .action_bind_run (run_lift world session) ?_
  dsimp only
  split
  · exact .pure start
  refine (Entry.read_yields upkept name plan.memberAttributes world start).action_bind ?_
    fun _ _ reached => reached.1
  rintro found later ⟨kept, shown⟩
  cases found with
  | none => exact .pure kept
  | some entry =>
    dsimp only
    split
    · exact .pure kept
    split
    · exact .pure kept
    · next uid first =>
      -- The entry was shown on the connection that is still held, so its user name may be learned.
      obtain ⟨link, held, event, member, shows⟩ := shown _ rfl entry rfl
      have taught : ∃ event ∈ later.history, event.Teaches link.connection name uid :=
        ⟨event, member, plan.memberAttributes, entry, shows, plan.names.uid, by
          simp [Plan.memberAttributes], first⟩
      have learns : Ends later (update fun session => session.learn name uid) fun _ => holds :=
        .of_run (run_update later _) (upkept.deed (.learn held taught) rfl kept)
      exact learns.lift_bind fun _ _ kept => .pure kept

theorem World.Upkept.answering : World.Answering holds where
  ready := .of_ends Session.ensureReady_halts (Session.ensureReady_upholds upkept)
  asks lookup := .of_ends lookup.entries_halts (lookup.entries_upholds upkept)
  reads name attributes := .of_ends (Entry.read_halts name attributes)
    (Entry.read_yields upkept name attributes).upholds
  resolves plan name :=
    .of_ends (Membership.resolve_halts plan name) (Membership.resolve_upholds upkept plan name)
  visits visit world := upkept.deed (.visit world visit) rfl

end Reading

/-- All that is done for a request is done by deeds. -/
theorem World.Upheld.enduring (upheld : World.Upheld holds) : World.Enduring holds :=
  { upheld.upkept.answering with
    touches := touch_upholds upheld.upkept
    closes := close_upholds upheld.upkept
    starts := Enumeration.start_upholds upheld
    fetches := Enumeration.fetch_upholds upheld
    stops := Enumeration.stop_upholds upheld }

end NameService
