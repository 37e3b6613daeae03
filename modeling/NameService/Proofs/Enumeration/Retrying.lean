import NameService.Proofs.Engine.Host
import NameService.Proofs.Enumeration.Faults
import NameService.Proofs.Enumeration.Values

/-!
When an enumeration counts as retrying. The mark is set when a record finds no room, and is to say
that the last call ended so. A call that gives a record takes it away, and so does one that gives
the search up; a call that ends otherwise leaves it as it was.

## Main result

`Enumeration.Course.retrying_iff`: for every row of calls on one context, whether the mark is set
after the last of them, and when it says the truth about it.
-/

namespace NameService

/-- No servers have come of a call for the configuration. -/
def Call.isVain : (call : Call) → call.Answer → Bool
  | .load, .error _ => true
  | .load, .ok config => config.uris.isEmpty
  | _, _ => false

def Event.isVain (event : Event) : Bool := event.call.isVain event.answer

/-- Nothing has gone wrong. -/
def Smooth (history : List Event) : Prop :=
  ∀ event ∈ history, event.fault? = none ∧ event.isVain = false

instance : DecidablePred Smooth := fun history =>
  inferInstanceAs (Decidable (∀ event ∈ history, event.fault? = none ∧ event.isVain = false))

/-- A call has failed, and it was not the one for the configuration. -/
def Marred (history : List Event) : Prop :=
  (∃ event ∈ history, event.fault?.isSome) ∧ ∀ event ∈ history, event.isVain = false

section Histories

variable {history : List Event}

theorem smooth_nil : Smooth [] := by
  simp [Smooth]

theorem Smooth.not_vain (smooth : Smooth history) : ¬ ∃ event ∈ history, event.isVain := by
  rintro ⟨event, member, vain⟩
  rw [(smooth event member).2] at vain
  cases vain

theorem Marred.not_smooth (marred : Marred history) : ¬ Smooth history := by
  intro smooth
  obtain ⟨⟨event, member, failed⟩, -⟩ := marred
  rw [(smooth event member).1] at failed
  cases failed

variable {σ : Type} [Service σ] {world : World σ} {call : Call}

theorem Call.vain_of_farewell (farewell : call.isFarewell) (answer : call.Answer) :
    call.isVain answer = false := by
  cases call <;> first | rfl | cases farewell

theorem Smooth.after (smooth : Smooth world.history)
    (spared : call.fault? (world.answer call) = none)
    (useful : call.isVain (world.answer call) = false) : Smooth (world.after call).history := by
  intro event member
  rcases List.mem_cons.mp member with rfl | before
  · exact ⟨spared, useful⟩
  · exact smooth event before

theorem Smooth.fails (smooth : Smooth world.history)
    (failed : (call.fault? (world.answer call)).isSome)
    (useful : call.isVain (world.answer call) = false) : Marred (world.after call).history := by
  refine ⟨⟨_, List.mem_cons_self, failed⟩, fun event member => ?_⟩
  rcases List.mem_cons.mp member with rfl | before
  · exact useful
  · exact (smooth event before).2

theorem Smooth.drop (smooth : Smooth world.history) {part : Connection → Call}
    (farewell : ∀ connection, (part connection).isFarewell) :
    Smooth (world.drop part).history := by
  unfold World.drop
  split
  · apply smooth.after
    · exact Call.fault_of_farewell (farewell _) _
    · exact Call.vain_of_farewell (farewell _) _
  · exact smooth

/-- What has gone wrong stays so when the connection is closed for it. -/
theorem Marred.drop (marred : Marred world.history) {part : Connection → Call}
    (farewell : ∀ connection, (part connection).isFarewell) :
    Marred (world.drop part).history := by
  unfold World.drop
  split
  · obtain ⟨⟨event, member, failed⟩, useful⟩ := marred
    refine ⟨⟨event, List.mem_cons_of_mem _ member, failed⟩, fun other among => ?_⟩
    rcases List.mem_cons.mp among with rfl | before
    · exact Call.vain_of_farewell (farewell _) _
    · exact useful other before
  · exact marred

end Histories

open Engine

variable {σ : Type} [Service σ]

namespace Session

variable {world : World σ}

/-- What an action comes to that may ask for the configuration. -/
def Provided (result : Except Error Unit) (later : World σ) : Prop :=
  match result with
  | .ok () => Smooth later.history
  | .error _ => ∃ event ∈ later.history, event.isVain

theorem load_provided (smooth : Smooth world.history) :
    Ends world (load : Action σ Unit).run Provided := by
  have ran : (load : Action σ Unit).run world = _ := run_load
  cases answered : world.answer .load with
  | error error =>
    rw [answered] at ran
    refine .of_run ran ?_
    refine ⟨_, List.mem_cons_self, ?_⟩
    change Call.isVain .load (world.answer .load) = true
    rw [answered]
    rfl
  | ok config =>
    simp only [answered] at ran
    split at ran
    · -- A configuration without servers counts as none.
      next empty =>
      refine .of_run ran ?_
      refine ⟨_, List.mem_cons_self, ?_⟩
      change Call.isVain .load (world.answer .load) = true
      rw [answered]
      exact empty
    · next served =>
      refine .of_run ran ?_
      have told : Smooth (world.after .load).history := by
        apply smooth.after
        · rw [answered]
          rfl
        · rw [answered]
          exact Bool.eq_false_iff.mpr served
      exact told

theorem ensureReady_provided (smooth : Smooth world.history) :
    Ends world (ensureReady : Action σ Unit).run Provided := by
  have first : Ends world (loadFirst : Action σ Unit).run Provided := by
    cases configured : world.session.loaded with
    | none =>
      rw [Ends, run_loadFirst_missing configured]
      exact load_provided smooth
    | some loaded => exact .of_run (run_loadFirst (by simp [configured])) smooth
  refine first.action_bind (fun _ begun smooth => ?_) fun _ _ vain => vain
  have inspects : Ends begun (inspect : Engine σ Unit) fun _ later => Smooth later.history :=
    inspect_keeps (fun _ _ same smooth => same ▸ smooth)
      (fun _ _ farewell smooth => smooth.drop farewell) smooth
  refine inspects.lift_bind fun _ later smooth => ?_
  by_cases current : later.session.loaded.bind Loaded.modified = Service.modified later.outside
  · have ran : (refresh : Action σ Unit).run later = some (.ok (), later) := by
      simp [refresh, current]
    exact .of_run ran smooth
  · have ran : (refresh : Action σ Unit).run later =
        (load : Action σ Unit).run (later.drop .unbind) := by
      simp [refresh, current]
    rw [Ends, ran]
    exact load_provided (smooth.drop fun _ => rfl)

end Session

namespace Enumeration

/-- A record has found no room. The error is the parser's, and not one that a call has failed
    with. -/
def Cramped (error? : Option Error) (history : List Event) : Prop :=
  (∃ requested remaining, error? = some (.bufferTooSmall requested remaining)) ∧ Smooth history

/-- The call has come to no record, and has not given up the search either: there was no
    configuration to go by, or nothing was left. -/
def Idle (error? : Option Error) (history : List Event) : Prop :=
  (∃ event ∈ history, event.isVain) ∨ error? = some exhausted ∧ Smooth history

/-- The search has been given up for the error. -/
def Settled (error : Error) (history : List Event) : Prop :=
  ¬ Cramped (some error) history ∧ ¬ Idle (some error) history

/-- An error that neither says that there is no room nor that nothing is left. -/
def IsOther (error : Error) : Prop :=
  (∀ requested remaining, error ≠ .bufferTooSmall requested remaining) ∧ error ≠ exhausted

section Errors

variable {error : Error} {history : List Event}

theorem settled_of_marred (marred : Marred history) : Settled error history := by
  constructor
  · rintro ⟨-, smooth⟩
    exact marred.not_smooth smooth
  · rintro (⟨event, member, vain⟩ | ⟨-, smooth⟩)
    · rw [marred.2 event member] at vain
      cases vain
    · exact marred.not_smooth smooth

theorem settled_of_smooth (smooth : Smooth history) (other : IsOther error) :
    Settled error history := by
  constructor
  · rintro ⟨⟨requested, remaining, same⟩, -⟩
    exact other.1 requested remaining (Option.some.inj same)
  · rintro (vain | ⟨same, -⟩)
    · exact smooth.not_vain vain
    · exact other.2 (Option.some.inj same)

theorem not_idle_of_ok (smooth : Smooth history) : ¬ Idle none history := by
  rintro (vain | ⟨same, -⟩)
  · exact smooth.not_vain vain
  · cases same

theorem isOther_of_render {template : String} {args : Filter.Args}
    (failed : Filter.render template args = .error error) : IsOther error := by
  unfold Filter.render at failed
  cases filled : Filter.fill template.toList args with
  | ok filter =>
    rw [filled] at failed
    cases failed
  | error misfit =>
    rw [filled] at failed
    rw [← Except.error.inj failed]
    cases misfit <;> exact ⟨nofun, nofun⟩

theorem isOther_of_own {lookup : Lookup} (own : lookup.Own error) : IsOther error := by
  rcases own with unavailable | failed
  · constructor
    · rintro _ _ rfl
      cases unavailable
    · rintro rfl
      cases unavailable
  · exact isOther_of_render failed

end Errors

/-- What an action comes to that goes on with the search, or gives it up for an error. -/
def Persists {α : Type} (result : Except Error α) (history : List Event) : Prop :=
  match result with
  | .ok _ => Smooth history
  | .error error => Settled error history

theorem startPage_persists (lookup : Lookup) (index : Nat) (cookie : List UInt8) {world : World σ}
    (smooth : Smooth world.history) :
    Ends world (lookup.startPage index cookie : Action σ (Option MessageId)).run
      fun result later => Persists result later.history := by
  refine (lookup.startPage_ends index cookie world).mono ?_
  rintro result later (⟨rfl, own⟩ | ⟨link, search, held, rfl, rfl⟩)
  · cases result with
    | ok id => exact smooth
    | error error => exact settled_of_smooth smooth (isOther_of_own (own error rfl))
  · cases answered : world.answer (.start link.connection search) with
    | ok id => exact smooth.after (by rw [answered]; rfl) rfl
    | error error => exact settled_of_marred (smooth.fails (by rw [answered]; rfl) rfl)

/-- What an action on an enumeration does to the mark: nothing, unless the search is given up. -/
def Leaves (e : Enumeration) (out : Except Error Unit × Enumeration) (later : World σ) : Prop :=
  match out with
  | (.ok (), e') => e'.retrying = e.retrying ∧ Smooth later.history
  | (.error error, e') => ¬ Cramped (some error) later.history ∧
      (e'.retrying = true ↔ Idle (some error) later.history ∧ e.retrying = true)

omit [Service σ] in
theorem leaves_of_settled {e e' : Enumeration} {error : Error} {later : World σ}
    (settled : Settled error later.history) (cleared : e'.retrying = false) :
    Leaves e (.error error, e') later := by
  refine ⟨settled.1, ?_⟩
  simp [cleared, settled.2]

omit [Service σ] in
theorem leaves_of_idle {e e' : Enumeration} {error : Error} {later : World σ}
    (roomy : ¬ Cramped (some error) later.history) (idle : Idle (some error) later.history)
    (same : e'.retrying = e.retrying) : Leaves e (.error error, e') later := by
  refine ⟨roomy, ?_⟩
  simp [same, idle]

omit [Service σ] in
/-- Nothing is left to ask for. -/
theorem leaves_of_exhausted {e e' : Enumeration} {later : World σ} (smooth : Smooth later.history)
    (same : e'.retrying = e.retrying) : Leaves e (.error exhausted, e') later := by
  refine leaves_of_idle ?_ (.inr ⟨rfl, smooth⟩) same
  rintro ⟨⟨requested, remaining, other⟩, -⟩
  cases other

theorem startNext_leaves (e : Enumeration) {world : World σ} (smooth : Smooth world.history) :
    Ends world (e.startNext : Engine σ _) (Leaves e) := by
  unfold startNext
  cases e.lookup with
  | none => exact .pure ⟨rfl, smooth⟩
  | some lookup =>
    refine (startPage_persists lookup e.index e.cookie smooth).bind fun result later persists => ?_
    cases result with
    | ok id => exact .pure ⟨rfl, persists⟩
    | error error => exact .pure (leaves_of_settled persists rfl)

theorem finish_leaves (e : Enumeration) (done : Done) {world : World σ}
    (smooth : Smooth world.history) : Ends world (e.finish done : Engine σ _) (Leaves e) := by
  unfold finish
  dsimp only
  split
  · exact .pure (leaves_of_settled (settled_of_smooth smooth ⟨nofun, nofun⟩) rfl)
  split
  · exact startNext_leaves _ smooth
  · refine (startNext_leaves _ smooth).bind fun out later leaves => ?_
    match out with
    | (.ok (), e') =>
      dsimp only
      cases e'.pending with
      | none => exact .pure (leaves_of_exhausted leaves.2 leaves.1)
      | some id => exact .pure leaves
    | (.error error, e') => exact .pure leaves

theorem fetch_leaves (e : Enumeration) {world : World σ} (smooth : Smooth world.history) :
    Ends world (e.fetch : Engine σ _) (Leaves e) := by
  unfold fetch
  split
  next id pending =>
    refine (Session.ensureReady_provided smooth).bind fun ready world provided => ?_
    cases ready with
    | error error =>
      refine .pure (leaves_of_idle ?_ (.inl provided) rfl)
      rintro ⟨-, smooth⟩
      exact smooth.not_vain provided
    | ok _ =>
      have smooth : Smooth world.history := provided
      -- That a connection is gone says neither that there is no room nor that nothing is left.
      have stopped {e' : Enumeration} (cleared : e'.retrying = false) :
          Leaves e (.error interrupted, e') world :=
        leaves_of_settled (settled_of_smooth smooth ⟨nofun, nofun⟩) cleared
      refine .bind_run (run_session world) ?_
      split
      · next link held =>
        split
        · exact .pure (stopped rfl)
        let call := Call.next link.connection id
        refine .bind_run (run_perform world call) ?_
        -- A call that fails is on record, and it is not the one for the configuration.
        cases answered : world.answer call with
        | error error =>
          have marred : Marred (world.after call).history :=
            smooth.fails (by rw [answered]; rfl) rfl
          dsimp only
          split
          · refine .bind_run (run_close _) (.pure (leaves_of_settled ?_ rfl))
            exact settled_of_marred (marred.drop fun _ => rfl)
          · exact .pure (leaves_of_settled (settled_of_marred marred) rfl)
        | ok message =>
          have received : Smooth (world.after call).history :=
            smooth.after (by rw [answered]; rfl) rfl
          cases message with
          | entry entry => exact .pure ⟨rfl, received⟩
          | reference => exact .pure ⟨rfl, received⟩
          | done done => exact finish_leaves e done received
      · exact .pure (stopped rfl)
  next => exact .pure (leaves_of_exhausted smooth rfl)

/-- What an offer does to the mark. -/
def Marks {ρ : Type} (e : Enumeration) : Offer ρ × Enumeration × Arena → Prop
  | (.taken _, e', _) => e'.retrying = false
  | (.refused error, e', _) => e'.retrying = true ∧
      ∃ requested remaining, error = .bufferTooSmall requested remaining
  | (.passed, e', _) => e'.retrying = e.retrying

theorem offer_marks {ρ : Type} (e : Enumeration) (entry : Entry) (parser : RecordParser ρ)
    (arena : Arena) : e.Marks (e.offer entry parser arena) := by
  unfold offer
  dsimp only
  split
  · -- The entry may be done with or not; there was a record in it.
    change Enumeration.retrying (if _ then _ else _) = false
    split <;> rfl
  · exact ⟨rfl, _, _, rfl⟩
  · rfl
  · rfl

end Enumeration

/-- The error that a reading ended with. -/
def Reading.error? {ρ : Type} (reading : Reading ρ) : Option Error :=
  match reading.result with
  | .ok _ => none
  | .error error => some error

namespace Enumeration

/-- After a call for the next record the mark is set when the record has found no room, and when it
    was set before and the call was idle. -/
theorem next_marks {ρ : Type} (parser : RecordParser ρ) :
    ∀ (patience : Nat) (e : Enumeration) (arena : Arena) {world : World σ}, Smooth world.history →
      Ends world (next parser patience e arena : Engine σ _) fun out later =>
        (out.2.retrying = true ↔ Cramped out.1.error? later.history ∨
          Idle out.1.error? later.history ∧ e.retrying = true) := by
  -- The induction is on the turns that are left. Only the last of them can have touched the mark.
  intro patience
  induction patience with
  | zero =>
    intro e arena world _ out later ran
    cases ran
  | succ patience ih =>
    intro e arena world smooth
    rw [next]
    cases atHand : e.entry with
    | none =>
      refine (e.fetch_leaves smooth).bind fun out later leaves => ?_
      obtain ⟨result, e'⟩ := out
      cases result with
      | error error =>
        refine .pure ?_
        change e'.retrying = true ↔ Cramped (some error) later.history ∨ _
        rw [leaves.2, or_iff_right leaves.1]
        rfl
      | ok _ =>
        rw [← leaves.1]
        exact ih e' arena leaves.2
    | some entry =>
      dsimp only
      have marks := e.offer_marks entry parser arena
      generalize e.offer entry parser arena = out at marks
      obtain ⟨offered, e', arena'⟩ := out
      cases offered with
      | taken record =>
        refine .bind_run (run_touch world) (.pure ?_)
        change e'.retrying = true ↔ Cramped none world.history ∨ Idle none world.history ∧ _
        have roomy : ¬ Cramped none world.history := by
          rintro ⟨⟨_, _, same⟩, -⟩
          cases same
        simp only [roomy, not_idle_of_ok smooth, false_and, or_self, iff_false,
          Bool.not_eq_true]
        exact marks
      | refused error =>
        obtain ⟨marked, requested, remaining, rfl⟩ := marks
        refine .pure ?_
        simp only [marked, true_iff]
        exact .inl ⟨⟨requested, remaining, rfl⟩, smooth⟩
      | passed =>
        have same : e'.retrying = e.retrying := marks
        rw [← same]
        exact ih e' arena' smooth

/-! ### Rows of calls -/

/-- The call ended for want of room. -/
def TooSmall (error? : Option Error) : Prop :=
  ∃ requested remaining, error? = some (.bufferTooSmall requested remaining)

/-- What is left of a call on a context. -/
inductive Outcome where
  /-- The enumeration was started, or ended. -/
  | cleared
  /-- The next record was asked for. -/
  | answered (error? : Option Error) (history : List Event)

/-- Calls on one context, the latest first. Each may find the world as it will, and the session in
    it, and each may come with a parser and an arena of its own. -/
inductive Course (σ : Type) [Service σ] : List Outcome → Enumeration → Prop
  | new : Course σ [] {}
  | start {past : List Outcome} {e e' : Enumeration} {lookup : Lookup} {world later : World σ}
    {result : Except Error Unit} (course : Course σ past e)
    (started : e.start lookup world = some ((result, e'), later)) : Course σ (.cleared :: past) e'
  | next {past : List Outcome} {e e' : Enumeration} {ρ : Type} {parser : RecordParser ρ}
    {patience : Nat} {arena : Arena} {world later : World σ} {reading : Reading ρ}
    (course : Course σ past e)
    (asked : e.next parser patience arena { world with history := [] } =
      some ((reading, e'), later)) :
    Course σ (.answered reading.error? later.history :: past) e'
  | stop {past : List Outcome} {e e' : Enumeration} {world later : World σ}
    (course : Course σ past e) (stopped : e.stop world = some (e', later)) :
    Course σ (.cleared :: past) e'

/-- A record has found no room, and since then every call was idle. -/
def Wanting : List Outcome → Prop
  | .answered error? history :: past => Cramped error? history ∨ Idle error? history ∧ Wanting past
  | _ => False

theorem start_unmarked (e : Enumeration) (lookup : Lookup) (world : World σ) :
    Ends world (e.start lookup : Engine σ _) fun out _ => out.2.retrying = false := by
  refine Ends.any.bind fun e world _ => ?_
  refine Ends.any.bind fun result later _ => ?_
  cases result with
  | error error => exact .pure rfl
  | ok id =>
    refine .bind_run (run_session later) ?_
    dsimp only
    split <;> exact .pure rfl

theorem stop_unmarked (e : Enumeration) (world : World σ) :
    Ends world (e.stop : Engine σ Enumeration) fun e' _ => e'.retrying = false := by
  refine Ends.any.bind fun e world _ => ?_
  refine .bind_run (run_session world) ?_
  dsimp only
  split
  · split
    · exact Ends.any.bind fun _ _ _ => .pure rfl
    · exact .pure rfl
  · exact .pure rfl

/-- The mark is set exactly while a record is wanting. -/
theorem Course.wanting {calls : List Outcome} {e : Enumeration} (course : Course σ calls e) :
    e.retrying = true ↔ Wanting calls := by
  induction course with
  | new => simp [Wanting]
  | @start _ e e' lookup world _ _ _ started =>
    have unmarked : e'.retrying = false := e.start_unmarked lookup world _ _ started
    simp [Wanting, unmarked]
  | @next past e e' _ parser patience arena world later reading _ asked ih =>
    have marks : e'.retrying = true ↔ Cramped reading.error? later.history ∨
        Idle reading.error? later.history ∧ e.retrying = true :=
      next_marks parser patience e arena smooth_nil _ _ asked
    rw [marks, ih]
    rfl
  | @stop _ e e' world _ _ stopped =>
    have unmarked : e'.retrying = false := e.stop_unmarked world _ _ stopped
    simp [Wanting, unmarked]

/-- The mark is set exactly while a record is wanting. That says whether the last call has ended for
    want of room, unless the call was idle while a record was wanting, or the want of room was an
    error it had met and no parser's. -/
theorem Course.retrying_iff {calls : List Outcome} {e : Enumeration} (course : Course σ calls e) :
    (e.retrying = true ↔ Wanting calls) ∧
    match calls with
    | .answered error? history :: past =>
      ((e.retrying = true ↔ TooSmall error?) ↔
        (TooSmall error? → Smooth history ∨ Idle error? history ∧ Wanting past) ∧
          (Idle error? history ∧ Wanting past → TooSmall error?))
    | _ => e.retrying = false := by
  have marks := course.wanting
  refine ⟨marks, ?_⟩
  match calls with
  | .answered error? history :: past =>
    change e.retrying = true ↔ TooSmall error? ∧ Smooth history ∨
      Idle error? history ∧ Wanting past at marks
    dsimp only
    rw [marks]
    tauto
  | [] => exact Bool.eq_false_iff.mpr marks.mp
  | .cleared :: past => exact Bool.eq_false_iff.mpr marks.mp

/-- A value that finds no room, and finds it in the second call. -/
theorem retrying_iff_room :
    ∃ first second e e',
      Course Small.Outside [.answered (some (.bufferTooSmall 4 3)) first, .cleared] e ∧
      e.retrying = true ∧
      Course Small.Outside
        [.answered none second, .answered (some (.bufferTooSmall 4 3)) first, .cleared] e' ∧
      e'.retrying = false := by
  have ended : ((start {} Small.users { outside := ({} : Small.Outside) }).bind fun begun =>
      (next (.ofValues "uid") 8 begun.1.2 (.fresh 0 3) { begun.2 with history := [] }).bind
        fun out =>
          (next (.ofValues "uid") 8 out.1.2 (.fresh 0 4) { out.2 with history := [] }).map
            fun last =>
              (out.1.1.error?, decide (Smooth out.2.history), last.1.1.error?,
                decide (Smooth last.2.history))) =
      some (some (.bufferTooSmall 4 3), true, none, true) := by
    decide +kernel
  obtain ⟨⟨⟨result, e₀⟩, begun⟩, started, ended⟩ := Option.bind_eq_some_iff.mp ended
  obtain ⟨⟨⟨reading, e⟩, later⟩, asked, ended⟩ := Option.bind_eq_some_iff.mp ended
  obtain ⟨⟨⟨reading', e'⟩, last⟩, again, ended⟩ := Option.map_eq_some_iff.mp ended
  simp only [Prod.mk.injEq, decide_eq_true_eq] at ended
  obtain ⟨cramped, smooth, taken, smooth'⟩ := ended
  -- Both calls are part of one course, and the mark follows the last of them.
  have course := (Course.new.start started).next asked
  have course' := course.next again
  rw [taken] at course'
  rw [cramped] at course course'
  refine ⟨_, _, e, e', course, ?_, course', ?_⟩
  · exact course.retrying_iff.1.mpr (.inl ⟨⟨4, 3, rfl⟩, smooth⟩)
  · apply Bool.eq_false_iff.mpr
    intro marked
    rcases course'.retrying_iff.1.mp marked with ⟨⟨_, _, same⟩, -⟩ | ⟨idle, -⟩
    · cases same
    · exact not_idle_of_ok smooth' idle

/-- Servers that run out of memory when they are to send the next entry. -/
def outOfMemory (_ : Nat) : Call → Option Error
  | .next _ _ => some (.bufferTooSmall 8 0)
  | _ => none

/-- A second parser passes over the entry that had found no room, and nothing is left; and a call
    fails for want of room that no parser has seen. -/
theorem retrying_untrue :
    (∃ past history e, Course Small.Outside (.answered (some exhausted) history :: past) e ∧
      e.retrying = true) ∧
    ∃ past history e, Course (Frail Small.Outside outOfMemory)
      (.answered (some (.bufferTooSmall 8 0)) history :: past) e ∧ e.retrying = false := by
  constructor
  · -- No entry has an address, so all that are left are passed over, and the mark of the first call
    -- is not taken back.
    have ended : ((start {} Small.users { outside := ({} : Small.Outside) }).bind fun begun =>
        (next (.ofValues "uid") 8 begun.1.2 (.fresh 0 3) { begun.2 with history := [] }).bind
          fun out =>
            (next (.ofValues "mail") 16 out.1.2 (.fresh 0 3) { out.2 with history := [] }).map
              fun last => (last.1.1.error?, last.1.2.retrying)) = some (some exhausted, true) := by
      decide +kernel
    obtain ⟨⟨⟨result, e₀⟩, begun⟩, started, ended⟩ := Option.bind_eq_some_iff.mp ended
    obtain ⟨⟨⟨reading, e⟩, later⟩, asked, ended⟩ := Option.bind_eq_some_iff.mp ended
    obtain ⟨⟨⟨reading', e'⟩, last⟩, again, ended⟩ := Option.map_eq_some_iff.mp ended
    obtain ⟨spent, marked⟩ := Prod.mk.inj ended
    exact ⟨_, _, e', spent ▸ ((Course.new.start started).next asked).next again, marked⟩
  · have ended : ((start {} Small.users
          { outside := ({ host := {} } : Frail Small.Outside outOfMemory) }).bind fun begun =>
        (next (.ofValues "uid") 8 begun.1.2 (.fresh 0 3) { begun.2 with history := [] }).map
          fun last => (last.1.1.error?, last.1.2.retrying)) =
        some (some (.bufferTooSmall 8 0), false) := by
      decide +kernel
    obtain ⟨⟨⟨result, e⟩, begun⟩, started, ended⟩ := Option.bind_eq_some_iff.mp ended
    obtain ⟨⟨⟨reading, e'⟩, later⟩, asked, ended⟩ := Option.map_eq_some_iff.mp ended
    obtain ⟨failed, unmarked⟩ := Prod.mk.inj ended
    exact ⟨_, _, e', failed ▸ (Course.new.start started).next asked, unmarked⟩

end Enumeration

end NameService
