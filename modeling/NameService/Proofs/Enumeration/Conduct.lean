import NameService.Enumeration
import NameService.Proofs.Lookup.Conduct

/-!
How an enumeration goes on. It talks to the server on two occasions: when it fetches a message,
which it does after a look for hazards, and when it gives up a search, before which it has parted
with a connection of another process.
-/

namespace NameService.Enumeration

open Engine World

variable {σ : Type} [Service σ] (keeps : Service.KeepsProcess σ)
include keeps

theorem abandon_goes (e : Enumeration) {world : World σ} (regular : world.Regular) :
    Goes world e.abandon fun _ later => later.Owning := by
  refine (Session.releaseInherited_goes regular).bind fun released world owning => ?_
  dsimp only
  split
  · exact .pure owning
  split
  · next id pending =>
    refine .with_session ?_
    split
    · split
      · next link held =>
        -- What is held now belongs to the process, so the server may be told.
        have tells : Goes world (perform (.abandon link.connection id)) fun _ later =>
            later.Owning :=
          .step (run_perform world _) (.abandon owning held id) (owning.after keeps _)
        exact tells.bind fun _ _ owning => .pure owning
      · exact .pure owning
    · exact .pure owning
  · exact .pure owning

theorem start_keeps (e : Enumeration) (lookup : Lookup) :
    Keeps Regular (e.start lookup : Engine σ (Except Error Unit × Enumeration)) := by
  intro world regular
  refine (abandon_goes keeps e regular).bind fun e world owning => ?_
  refine (lookup.start_keeps keeps 0 world owning.toRegular).bind fun result world regular => ?_
  split
  · exact .pure regular
  · refine .with_session ?_
    dsimp only
    split <;> exact .pure regular

theorem startNext_keeps (e : Enumeration) :
    Keeps Ready (e.startNext : Engine σ (Except Error Unit × Enumeration)) := by
  unfold startNext
  split
  · exact .pure _
  · next lookup _ =>
    refine (lookup.startPage_keeps keeps e.index e.cookie).bind fun result => ?_
    cases result <;> exact .pure _

theorem finish_keeps (e : Enumeration) (done : Done) :
    Keeps Ready (e.finish done : Engine σ (Except Error Unit × Enumeration)) := by
  unfold finish
  dsimp only
  split
  · exact .pure _
  split
  · exact startNext_keeps keeps _
  · refine (startNext_keeps keeps _).bind fun out => ?_
    split <;> exact .pure _

theorem take_keeps (e : Enumeration) (message : Message) :
    Keeps Ready (e.take message : Engine σ (Except Error Unit × Enumeration)) := by
  cases message with
  | entry entry => exact .pure _
  | reference => exact .pure _
  | done done => exact finish_keeps keeps e done

theorem fetch_keeps (e : Enumeration) :
    Keeps Regular (e.fetch : Engine σ (Except Error Unit × Enumeration)) := by
  unfold fetch
  split
  · next id _ =>
    intro world regular
    refine (Session.ensureReady_goes regular).bind fun result world reached => ?_
    match result with
    | .error error => exact .pure reached.1
    | .ok () =>
      -- Nothing comes between the look for hazards and the message that is asked for.
      have ready := reached.2 rfl
      refine .with_session ?_
      split
      · next link held =>
        split
        · exact .pure ready.toRegular
        refine (query_goes keeps ready held rfl rfl).bind fun answer world ready => ?_
        split
        · split
          · exact (close_keeps world ready).bind fun _ _ ready => .pure ready.toRegular
          · exact .pure ready.toRegular
        · exact (take_keeps keeps e _ world ready).mono fun _ _ ready => ready.toRegular
      · exact .pure ready.toRegular
  · exact .pure _

theorem next_keeps {ρ : Type} (parser : RecordParser ρ) :
    ∀ (patience : Nat) (e : Enumeration) (arena : Arena),
      Keeps Regular (next parser patience e arena : Engine σ (Reading ρ × Enumeration))
  | 0, _, _ => fun _ _ _ _ ran => nomatch ran
  | patience + 1, e, arena => by
    rw [next]
    split
    · refine (fetch_keeps keeps e).bind fun out => ?_
      split
      · exact .pure _
      · exact next_keeps parser patience _ arena
    · split
      · exact (touch_keeps fun regular alike => regular.tend alike).bind fun _ => .pure _
      · exact .pure _
      · exact next_keeps parser patience _ _

theorem nextEntry_keeps : ∀ (patience : Nat) (e : Enumeration),
    Keeps Regular (e.nextEntry patience : Engine σ (Except Error (Option Entry) × Enumeration))
  | 0, _ => fun _ _ _ _ ran => nomatch ran
  | patience + 1, e => by
    rw [nextEntry]
    split
    · exact .pure _
    · refine (fetch_keeps keeps e).bind fun out => ?_
      split
      · exact nextEntry_keeps patience _
      · exact .pure _
      · exact .pure _

theorem stop_keeps (e : Enumeration) : Keeps Regular (e.stop : Engine σ Enumeration) := by
  intro world regular
  refine (abandon_goes keeps e regular).bind fun e world owning => .with_session ?_
  dsimp only
  split
  · split
    · -- Only a connection of the process is left, and that may be closed in words.
      have closes : Goes world close fun _ => Regular :=
        .step (run_close world) (.unbind owning) (drop_regular _)
      exact closes.bind fun _ _ regular => .pure regular
    · exact .pure owning.toRegular
  · exact .pure owning.toRegular

end NameService.Enumeration
