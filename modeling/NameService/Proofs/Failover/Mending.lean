import NameService.Proofs.Session.Deeds

/-!
What is made good when a server is lost. An operation may come to its end in the middle of
something; if it ends with the loss of its server, the connection is closed before the next one is
tried or the error is told, and nothing that the operation has left undone need be left undone then.

## Main result

`Failover.run_mends`: what lasts, and holds again once the connection is closed, holds when an
operation has been tried at the servers.
-/

namespace NameService

open Engine World

variable {σ α : Type} [Service σ] {holds owing : World σ → Prop}

/-- What lasts, and is made good by closing the connection if anything is owed to it. -/
structure World.Mending (holds owing : World σ → Prop) : Prop extends World.Lasting holds where
  mended : ∀ world : World σ, owing world → holds (world.drop .unbind)

/-- Nothing is owed to what nothing can end. -/
theorem World.Lasting.mending (lasting : World.Lasting holds) :
    World.Mending holds fun _ => False :=
  { lasting with mended := fun _ => False.elim }

theorem World.Mending.bears (mending : World.Mending holds owing) :
    Failover.Bears holds owing where
  ready _ start := (Session.ensureReady_lasts mending.toLasting).ends start
  established _ start := (Session.establish_lasts mending.toSteady).ends start
  waited policy attempt _ start :=
    (Failover.wait_lasts mending.toTended policy attempt).ends start
  left world kept := by
    have closed : holds (world.drop .unbind) :=
      kept.elim (fun kept => mending.toTended.drop kept fun _ => rfl) (mending.mended world)
    exact mending.advance _ closed

/-- What lasts and is mended holds after the trials of an operation. -/
theorem Failover.run_mends (mending : World.Mending holds owing) {operation : Action σ α}
    {after : α → World σ → Prop}
    (owes : Owes holds owing operation fun a later => holds later ∧ after a later)
    (touched : ∀ (a : α) (world : World σ) (now : Nat), after a world →
      after a { world with session := world.session.touch now }) :
    Yields holds (run operation) after :=
  (run_bears mending.bears owes fun a world now reached =>
    ⟨mending.touch world now reached.1, touched a world now reached.2⟩).yields

theorem Failover.run_mends_upholds (mending : World.Mending holds owing) {operation : Action σ α}
    (owes : Owes holds owing operation fun _ later => holds later) :
    Upholds holds (run operation).run := by
  have leads := run_bears mending.bears owes fun _ world now kept => mending.touch world now kept
  refine fun world start => (leads world start).mono fun result later reached => ?_
  cases result <;> exact reached

end NameService
