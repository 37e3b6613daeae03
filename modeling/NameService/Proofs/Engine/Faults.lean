import NameService.Proofs.Session.Lasting

/-!
Where errors come from. An action can fail by an error of its own or by one that some call of it was
answered with, and it has to answer for the latter: an error after which no other server may do
better ends the action at once, and is its result.

`Accounts` says so of a result and of the calls that were made for it. It is shown for each action
that others are made of; `Failover.run_accounts` is what comes of it for an operation that is tried
at several servers.
-/

namespace NameService

/-- The error that a call was answered with, if its caller has to do something about it. A search
    that matched nothing has been answered, whether or not that is told as an error. -/
def Call.fault? : (call : Call) → call.Answer → Option Error
  | .load, .error error | .connect _, .error error | .bind _ _ _, .error error
  | .start _ _, .error error | .next _ _, .error error => some error
  | .search _ _, .error error => if error.status = .notFound then none else some error
  | _, _ => none

def Event.fault? (event : Event) : Option Error := event.call.fault? event.answer

/-- The call ends a connection. -/
def Call.isFarewell : Call → Bool
  | .unbind _ | .disconnect _ | .forget _ => true
  | _ => false

theorem Call.fault_of_farewell {call : Call} (farewell : call.isFarewell) (answer : call.Answer) :
    call.fault? answer = none := by
  cases call <;> first | rfl | cases farewell

/-- A search fails with no error that says that nothing matches. -/
theorem Event.status_of_fault {event : Event} {connection : Connection} {search : Search}
    (asked : event.call = .search connection search) {error : Error}
    (failed : event.fault? = some error) : error.status ≠ .notFound := by
  obtain ⟨call, answer, stand, look⟩ := event
  subst asked
  cases answer with
  | ok entries => simp [fault?, Call.fault?] at failed
  | error other =>
    simp only [fault?, Call.fault?] at failed
    split at failed
    · cases failed
    · next found => exact Option.some.inj failed ▸ found

namespace World

variable {σ : Type}

/-- A call has failed with this error. -/
def Faulted (world : World σ) (error : Error) : Prop :=
  ∃ event ∈ world.history, event.fault? = some error

/-- No call has failed but with errors after which another server may do better. -/
def Unhurt (world : World σ) : Prop := ∀ error, world.Faulted error → error.isUnavailable

theorem Unhurt.of_history {world later : World σ} (unhurt : world.Unhurt)
    (same : later.history = world.history) : later.Unhurt := by
  simpa only [Unhurt, Faulted, same] using unhurt

theorem unhurt_of_nil {world : World σ} (fresh : world.history = []) : world.Unhurt := by
  rintro error ⟨event, member, -⟩
  simp [fresh] at member

variable [Service σ]

theorem faulted_after {world : World σ} {call : Call} {error : Error} :
    (world.after call).Faulted error ↔
      call.fault? (world.answer call) = some error ∨ world.Faulted error := by
  simp [Faulted, after, Event.fault?]

theorem faulted_after_of_spared {world : World σ} {call : Call} {error : Error}
    (spared : call.fault? (world.answer call) = none) :
    (world.after call).Faulted error ↔ world.Faulted error := by
  simp [faulted_after, spared]

theorem Unhurt.after {world : World σ} (unhurt : world.Unhurt) {call : Call}
    (spared : call.fault? (world.answer call) = none) : (world.after call).Unhurt :=
  fun error faulted => unhurt error ((faulted_after_of_spared spared).mp faulted)

theorem faulted_drop {world : World σ} {part : Connection → Call}
    (spared : ∀ connection answer, (part connection).fault? answer = none) {error : Error} :
    (world.drop part).Faulted error ↔ world.Faulted error := by
  cases held : world.session.held with
  | none => simp [World.drop, held, Faulted]
  | some link =>
    have told : (world.drop part).Faulted error ↔
        (world.after (part link.connection)).Faulted error := by
      simp [World.drop, held, Faulted]
    exact told.trans (faulted_after_of_spared (spared _ _))

theorem Unhurt.drop {world : World σ} (unhurt : world.Unhurt) {part : Connection → Call}
    (spared : ∀ connection answer, (part connection).fault? answer = none) :
    (world.drop part).Unhurt :=
  fun error faulted => unhurt error ((faulted_drop spared).mp faulted)

end World

/-- A result, and what happened for it. Every error is one of the action's own or was the answer to
    a call; no answer is passed over that ends the matter; and what is given has been got. -/
structure Accounts {σ α : Type} (own : Error → Prop) (given : α → List Event → Prop)
    (result : Except Error α) (later : World σ) : Prop where
  told : ∀ error, result = .error error → own error ∨ later.Faulted error
  heeded : ∀ error, later.Faulted error → error.isUnavailable ∨ result = .error error
  given : ∀ a, result = .ok a → given a later.history

namespace Accounts

open Engine

variable {σ α β : Type} {own : Error → Prop} {given : α → List Event → Prop}
  {received : β → List Event → Prop} {world later : World σ}

theorem ok {a : α} (unhurt : later.Unhurt) (got : given a later.history) :
    Accounts own given (.ok a) later where
  told _ failed := nomatch failed
  heeded error faulted := .inl (unhurt error faulted)
  given := by
    rintro _ ⟨⟩
    exact got

theorem error_of_own {error : Error} (unhurt : later.Unhurt) (mine : own error) :
    Accounts own given (.error error) later where
  told := by
    rintro _ ⟨⟩
    exact .inl mine
  heeded error faulted := .inl (unhurt error faulted)
  given _ done := nomatch done

/-- A call has failed, and that is the end. -/
theorem error_of_faulted {error : Error} (faulted : later.Faulted error)
    (others : ∀ other, later.Faulted other → other.isUnavailable ∨ error = other) :
    Accounts own given (.error error) later where
  told := by
    rintro _ ⟨⟩
    exact .inr faulted
  heeded other there := (others other there).imp_right (congrArg Except.error)
  given _ done := nomatch done

theorem unhurt {a : α} (accounts : Accounts own given (.ok a) later) : later.Unhurt :=
  fun error faulted => (accounts.heeded error faulted).resolve_right nofun

/-- An error stays accounted for while nothing more goes wrong. -/
theorem error_mono {error : Error} (accounts : Accounts own given (.error error) world)
    (same : ∀ error, later.Faulted error ↔ world.Faulted error) :
    Accounts own received (.error error) later where
  told other failed := by
    obtain rfl := Except.error.inj failed
    exact (accounts.told _ rfl).imp_right (same _).mpr
  heeded other faulted := by
    have heeded := accounts.heeded other ((same other).mp faulted)
    simpa using heeded
  given _ done := nomatch done

theorem mono {wider : Error → Prop} {result : Except Error α}
    (accounts : Accounts own given result later) (wide : ∀ error, own error → wider error) :
    Accounts wider given result later :=
  ⟨fun error failed => (accounts.told error failed).imp_left (wide error), accounts.heeded,
    accounts.given⟩

theorem bind {m : Action σ α} {f : α → Action σ β}
    (first : Ends world m.run (Accounts own given))
    (second : ∀ a later, later.Unhurt → given a later.history →
      Ends later (f a).run (Accounts own received)) :
    Ends world (m >>= f).run (Accounts own received) :=
  first.action_bind (fun a later accounts => second a later accounts.unhurt (accounts.given a rfl))
    fun _ _ accounts => accounts.error_mono fun _ => Iff.rfl

section Reading

variable (wide : ∀ error : Error, error.isUnavailable → own error)
include wide

theorem config_bind {rest : Config → Action σ α} (unhurt : world.Unhurt)
    (second : ∀ config, Ends world (rest config).run (Accounts own given)) :
    Ends world (config >>= rest).run (Accounts own given) := by
  cases configured : world.session.loaded with
  | some loaded => exact .action_bind_run (by rw [run_config, configured]) (second loaded.config)
  | none =>
    have ran : (config >>= rest).run world =
        some (.error (.configuration "directory session not initialized"), world) := by
      simp [configured]
    exact .of_run ran (.error_of_own unhurt (wide _ rfl))

theorem connection_bind {rest : Connection → Action σ α} (unhurt : world.Unhurt)
    (second : ∀ connection, Ends world (rest connection).run (Accounts own given)) :
    Ends world (connection >>= rest).run (Accounts own given) := by
  cases held : world.session.link with
  | some link => exact .action_bind_run (by rw [run_connection, held]) (second link.connection)
  | none =>
    have ran : (connection >>= rest).run world =
        some (.error (.unavailable "no directory connection"), world) := by
      simp [held]
    exact .of_run ran (.error_of_own unhurt (wide _ rfl))

end Reading

variable [Service σ]

/-- A call that fails where nothing has is the end of an action. -/
theorem of_call {call : Call} {error : Error} (unhurt : world.Unhurt)
    (failed : call.fault? (world.answer call) = some error) :
    Accounts own given (.error error) (world.after call) := by
  refine .error_of_faulted (World.faulted_after.mpr (.inl failed)) fun other faulted => ?_
  rcases World.faulted_after.mp faulted with here | before
  · rw [failed] at here
    exact .inr (Option.some.inj here)
  · exact .inl (unhurt other before)

end Accounts

open Engine

variable {σ : Type} [Service σ]

namespace Session

variable {world : World σ} {own : Error → Prop}
  (wide : ∀ error : Error, error.isUnavailable → own error)
include wide

theorem load_accounts (unhurt : world.Unhurt) :
    Ends world (load : Action σ Unit).run (Accounts own fun _ _ => True) := by
  have ran : (load : Action σ Unit).run world = _ := run_load
  cases answered : world.answer .load with
  | error error =>
    rw [answered] at ran
    exact .of_run ran (.of_call unhurt (by rw [answered]; rfl))
  | ok config =>
    have read : (world.after .load).Unhurt := unhurt.after (by rw [answered]; rfl)
    simp only [answered] at ran
    split at ran
    · exact .of_run ran (.error_of_own read (wide _ rfl))
    · exact .of_run ran (.ok (read.of_history rfl) trivial)

theorem loadFirst_accounts (unhurt : world.Unhurt) :
    Ends world (loadFirst : Action σ Unit).run (Accounts own fun _ _ => True) := by
  cases configured : world.session.loaded with
  | none =>
    rw [Ends, run_loadFirst_missing configured]
    exact load_accounts wide unhurt
  | some loaded =>
    exact .of_run (run_loadFirst (by simp [configured])) (.ok unhurt trivial)

omit wide in
/-- All that is ever called here is the end of a connection, and its answer is passed over. -/
theorem inspect_keeps {holds : World σ → Prop}
    (same : ∀ world later : World σ, later.history = world.history → holds world → holds later)
    (drop : ∀ (world : World σ) (part : Connection → Call),
      (∀ connection, (part connection).isFarewell) → holds world → holds (world.drop part))
    (start : holds world) : Ends world (inspect : Engine σ Unit) fun _ => holds := by
  have looked : holds { world with look := some world.stand } := same world _ rfl start
  refine .bind_run (run_noteLook world) ?_
  -- There are two places at which a connection is given up: it is unfit, or it was idle too long.
  have drops : Ends { world with look := some world.stand } (dropUnfit : Engine σ Unit)
      fun _ => holds := by
    cases held : world.session.held with
    | none => exact .of_run (run_dropUnfit_bare held) looked
    | some link =>
      refine .of_run (run_dropUnfit held) ?_
      split
      · exact drop _ _ (fun _ => rfl) looked
      · split
        · exact drop _ _ (fun _ => rfl) looked
        · exact looked
  refine drops.bind fun _ dropped kept => ?_
  refine .bind_run (run_update dropped Session.clearFork) ?_
  have cleared : holds { dropped with session := dropped.session.clearFork } :=
    same dropped _ rfl kept
  cases held : dropped.session.clearFork.link with
  | none => exact .of_run (run_closeIdle_free held) cleared
  | some link =>
    refine .of_run (run_closeIdle held) ?_
    split
    · exact drop _ _ (fun _ => rfl) cleared
    · exact cleared

omit wide in
theorem inspect_unhurt (unhurt : world.Unhurt) :
    Ends world (inspect : Engine σ Unit) fun _ later => later.Unhurt :=
  inspect_keeps (fun _ _ same unhurt => unhurt.of_history same)
    (fun _ _ farewell unhurt => unhurt.drop fun _ => Call.fault_of_farewell (farewell _)) unhurt

theorem refresh_accounts (unhurt : world.Unhurt) :
    Ends world (refresh : Action σ Unit).run (Accounts own fun _ _ => True) := by
  by_cases current : world.session.loaded.bind Loaded.modified = Service.modified world.outside
  · have ran : (refresh : Action σ Unit).run world = some (.ok (), world) := by
      simp [refresh, current]
    exact .of_run ran (.ok unhurt trivial)
  · have ran : (refresh : Action σ Unit).run world =
        (load : Action σ Unit).run (world.drop .unbind) := by
      simp [refresh, current]
    rw [Ends, ran]
    exact load_accounts wide (unhurt.drop fun _ _ => rfl)

theorem ensureReady_accounts (unhurt : world.Unhurt) :
    Ends world (ensureReady : Action σ Unit).run (Accounts own fun _ _ => True) :=
  Accounts.bind (loadFirst_accounts wide unhurt) fun _ _ unhurt _ =>
    Ends.lift_bind (inspect_unhurt unhurt) fun _ _ unhurt => refresh_accounts wide unhurt

/-- A server that cannot be connected to, or refuses the caller, ends the attempt. -/
theorem establish_accounts (unhurt : world.Unhurt) :
    Ends world (establish : Action σ Unit).run (Accounts own fun _ _ => True) := by
  cases held : world.session.link with
  | some link => exact .of_run (run_establish_held (by simp [held])) (.ok unhurt trivial)
  | none =>
    cases configured : world.session.loaded with
    | none =>
      have ran : (establish : Action σ Unit).run world =
          some (.error (.configuration "directory session not initialized"), world) := by
        simp [establish, isConnected_eq, held, configured]
      exact .of_run ran (.error_of_own unhurt (wide _ rfl))
    | some loaded =>
      have ran := run_establish held configured
      split at ran
      · exact .of_run ran (.error_of_own unhurt (wide _ rfl))
      next uri _ =>
      let options := ConnectOptions.ofConfig loaded.config uri
      cases opened : world.answer (.connect options) with
      | error error =>
        simp only [options] at opened
        simp only [opened] at ran
        exact .of_run ran (.of_call unhurt (by rw [opened]; rfl))
      | ok _ =>
        have connected : (world.connected options).Unhurt :=
          have told : (world.after (.connect options)).Unhurt := unhurt.after (by rw [opened]; rfl)
          told.of_history rfl
        let greeting := (world.connected options).greeting loaded.config
        cases bound : (world.connected options).answer greeting with
        | error error =>
          -- The connection is given back, and the answer to that does not matter.
          have refused : Accounts own (fun _ _ => True) (.error error : Except Error Unit)
              ((world.connected options).after greeting) :=
            .of_call connected (by rw [bound]; rfl)
          simp only [options, greeting] at opened bound
          simp only [opened, bound] at ran
          refine .of_run ran (refused.error_mono fun error => ?_)
          exact World.faulted_after_of_spared rfl
        | ok _ =>
          have welcomed : ((world.connected options).after greeting).Unhurt :=
            connected.after (by rw [bound]; rfl)
          simp only [options, greeting] at opened bound
          simp only [opened, bound] at ran
          exact .of_run ran (.ok (welcomed.of_history rfl) trivial)

end Session

namespace Failover

variable {α : Type} {own : Error → Prop} {given : α → List Event → Prop} {operation : Action σ α}
  (wide : ∀ error : Error, error.isUnavailable → own error)
  (accounts : ∀ world : World σ, world.Unhurt →
    Ends world operation.run (Accounts own given))
include wide accounts

theorem trial_accounts {world : World σ} (unhurt : world.Unhurt) :
    Ends world (trial operation).run (Accounts own given) :=
  Accounts.bind (Session.establish_accounts wide unhurt) fun _ later unhurt _ =>
    accounts later unhurt

omit wide accounts in
/-- What can be said at the end of a round. -/
def Round.Accounted (own : Error → Prop) (given : α → List Event → Prop) :
    Round α → World σ → Prop
  | .settled result, later => Accounts own given result later
  | .exhausted _, later => later.Unhurt

/-- A round that settles nothing has met with nothing but servers that were of no use. -/
theorem round_accounts : ∀ (last : Option Error) (servers : Nat) {world : World σ}, world.Unhurt →
    Ends world (round operation last servers) (Round.Accounted own given)
  | last, 0, world, unhurt => .pure unhurt
  | last, servers + 1, world, unhurt => by
    refine (trial_accounts wide accounts unhurt).bind fun result later accounted => ?_
    cases result with
    | ok value =>
      refine .bind_run (run_touch later) (.pure ?_)
      exact .ok (accounted.unhurt.of_history rfl) (accounted.given value rfl)
    | error error =>
      by_cases lost : error.isUnavailable
      · -- The next server gets its turn, so no call may have failed in another way.
        have unhurt : later.Unhurt := by
          intro other faulted
          rcases accounted.heeded other faulted with harmless | same
          · exact harmless
          · rwa [← Except.error.inj same]
        have left : (later.drop .unbind).Unhurt := unhurt.drop fun _ _ => rfl
        simp only [lost, if_true]
        refine .bind_run (run_close later) (.bind_run (run_update _ _) ?_)
        exact round_accounts (some error) servers (left.of_history rfl)
      · simp only [lost]
        exact .pure accounted

theorem rounds_accounts (policy : Policy) (servers : Nat) :
    ∀ (last : Option Error) (attempt attempts : Nat) {world : World σ}, world.Unhurt →
      Ends world (rounds policy servers operation last attempt attempts).run (Accounts own given)
  | last, _, 0, world, unhurt => .of_run (run_throw world _) (.error_of_own unhurt (wide _ rfl))
  | last, attempt, attempts + 1, world, unhurt => by
    rw [rounds]
    have waits : Ends world (wait policy attempt : Engine σ Unit) fun _ later => later.Unhurt := by
      unfold wait
      split
      · split
        · exact .of_run (run_perform world _) (unhurt.after rfl)
        · exact .pure unhurt
      · exact .pure unhurt
    refine Ends.lift_bind waits fun _ world unhurt => ?_
    refine Ends.lift_bind (round_accounts wide accounts last servers unhurt) ?_
    intro outcome later accounted
    cases outcome with
    | settled result =>
      cases result with
      | ok value => exact .of_run rfl accounted
      | error error => exact .of_run (run_throw later error) accounted
    | exhausted last => exact rounds_accounts policy servers last (attempt + 1) attempts accounted

/-- What accounts for itself at one server does so while servers are tried. -/
theorem run_accounts {world : World σ} (unhurt : world.Unhurt) :
    Ends world (run operation).run (Accounts own given) := by
  refine Accounts.bind (Session.ensureReady_accounts wide unhurt) fun _ later unhurt _ => ?_
  refine Accounts.config_bind wide unhurt fun config => ?_
  have looks : Ends later (observe Service.isSoft) fun _ last => last.Unhurt :=
    .of_run (run_observe later _) unhurt
  exact looks.lift_bind fun soft last unhurt => rounds_accounts wide accounts _ _ _ _ _ unhurt

end Failover

end NameService
