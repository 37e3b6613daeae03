import NameService.Proofs.Engine.Notes
import NameService.Proofs.Session.Lasting
import Mathlib.Logic.Relation

/-!
All that a session ever does, as a relation between worlds that relies on no host. A deed is one
step of a session with what the session goes by when it takes it; a call that is answered, a
connection that is given up and a user name that is learned are deeds. What no deed can end is true
of every world that the session comes to, whatever the world does meanwhile.

## Main result

`Failover.run_upholds`: what no deed can end is true when an operation has been tried at the
servers, if the operation itself does not end it.
-/

namespace NameService

/-- A search for the entry of a name was answered with this entry. -/
inductive Event.Shows (connection : Connection) (name : String) (attributes : List String)
    (entry : Entry) : Event → Prop
  | intro (limit : Option Nat) (rest : List Entry) (stand : Stand) (look : Option Stand) :
    Shows connection name attributes entry
      ⟨.search connection (.read name attributes limit), .ok (entry :: rest), stand, look⟩

/-- The entry of a name was read on a connection, and it has this user name. -/
def Event.Teaches (connection : Connection) (name uid : String) (event : Event) : Prop :=
  ∃ attributes entry, event.Shows connection name attributes entry ∧
    ∃ type ∈ attributes, entry.first? type = some uid

variable {σ : Type}

section Upholding

open Engine

/-- What is true before an action is true after it. -/
def Upholds {α : Type} (holds : World σ → Prop) (m : Engine σ α) : Prop :=
  ∀ world, holds world → Ends world m fun _ => holds

/-- It is so, and a value that the action gives is as it should be. -/
def Yields {α : Type} (holds : World σ → Prop) (m : Action σ α) (after : α → World σ → Prop) :
    Prop :=
  ∀ world, holds world → Ends world m.run fun result later =>
    holds later ∧ ∀ a, result = .ok a → after a later

/-- What is true before an action is true after it unless it gives a value, of which there is
    something else to say then. -/
def Leads {α : Type} (holds : World σ → Prop) (m : Action σ α) (after : α → World σ → Prop) :
    Prop :=
  ∀ world, holds world → Ends world m.run fun result later => match result with
    | .ok a => after a later
    | .error _ => holds later

namespace Upholds

variable {ε α β : Type} {holds : World σ → Prop} {m : Engine σ α} {f : α → Engine σ β}

theorem pure (a : α) : Upholds holds (pure a : Engine σ α) := fun _ start => .pure start

theorem bind (first : Upholds holds m) (second : ∀ a, Upholds holds (f a)) :
    Upholds holds (m >>= f) :=
  fun world start => (first world start).bind fun a later kept => second a later kept

theorem throw (error : ε) : Upholds holds (throw error : Fallible ε σ α).run :=
  fun world start => .of_run (run_throw world error) start

theorem except (result : Except Error α) : Upholds holds (liftM result : Action σ α).run :=
  fun world start => .of_run (run_except world result) start

theorem lift (upholds : Upholds holds m) : Upholds holds (lift m : Fallible ε σ α).run :=
  fun world start => .lift (upholds world start)

theorem attempt {m : Action σ α} (upholds : Upholds holds m.run) :
    Upholds holds (attempt m).run :=
  fun world start => .map _ (upholds world start)

theorem config : Upholds holds (config : Action σ Config).run := by
  -- There is a configuration or an error, and neither changes the world.
  intro world start
  cases configured : world.session.loaded with
  | none => exact .of_run (by rw [run_config, configured]) start
  | some loaded => exact .of_run (by rw [run_config, configured]) start

theorem action_bind {m : Fallible ε σ α} {f : α → Fallible ε σ β} (first : Upholds holds m.run)
    (second : ∀ a, Upholds holds (f a).run) : Upholds holds (m >>= f).run := by
  intro world start
  refine (first world start).action_bind ?_ ?_
  · intro a later kept
    exact second a later kept
  · intro error later kept
    exact kept

theorem yields {m : Action σ α} (upholds : Upholds holds m.run) : Yields holds m fun _ _ => True :=
  fun world start => (upholds world start).mono fun _ _ kept => ⟨kept, fun _ _ => trivial⟩

/-- What depends on the session at hand may be looked at in it. -/
theorem with_session {f : Session → Engine σ β}
    (rest : ∀ world, holds world → Ends world (f world.session) fun _ => holds) :
    Upholds holds (session >>= f) :=
  fun world start => .bind_run (run_session world) (rest world start)

end Upholds

theorem Yields.upholds {α : Type} {holds : World σ → Prop} {m : Action σ α}
    {after : α → World σ → Prop} (yields : Yields holds m after) : Upholds holds m.run :=
  fun world start => (yields world start).mono fun _ _ reached => reached.1

theorem Yields.leads {α : Type} {holds : World σ → Prop} {m : Action σ α}
    {after : α → World σ → Prop} (yields : Yields holds m after) :
    Leads holds m fun a world => holds world ∧ after a world := by
  refine fun world start => (yields world start).mono fun result later reached => ?_
  cases result with
  | ok a => exact ⟨reached.1, reached.2 a rfl⟩
  | error error => exact reached.1

theorem Leads.yields {α : Type} {holds : World σ → Prop} {m : Action σ α}
    {after : α → World σ → Prop}
    (leads : Leads holds m fun a world => holds world ∧ after a world) :
    Yields holds m after := by
  refine fun world start => (leads world start).mono fun result later reached => ?_
  cases result with
  | ok a => exact ⟨reached.1, fun _ same => by cases same; exact reached.2⟩
  | error error => exact ⟨reached, nofun⟩

/-- What is true at the end of an operation. If it has lost its server, something may be owed. -/
def Owed {α : Type} (holds owing : World σ → Prop) (after : α → World σ → Prop) :
    Except Error α → World σ → Prop
  | .ok a, later => after a later
  | .error error, later => holds later ∨ error.isUnavailable ∧ owing later

/-- What is true before an operation is true after it unless it gives a value, of which there is
    something else to say then, or loses its server, to which something may be owed then. -/
def Owes {α : Type} (holds owing : World σ → Prop) (m : Action σ α) (after : α → World σ → Prop) :
    Prop :=
  ∀ world, holds world → Ends world m.run (Owed holds owing after)

theorem Leads.owes {α : Type} {holds owing : World σ → Prop} {m : Action σ α}
    {after : α → World σ → Prop} (leads : Leads holds m after) : Owes holds owing m after := by
  refine fun world start => (leads world start).mono fun result later reached => ?_
  cases result with
  | ok a => exact reached
  | error error => exact .inl reached

/-- What is done with the connection at hand is done with the one that is held. -/
theorem connection_yields {α : Type} {holds : World σ → Prop} {after : α → World σ → Prop}
    {rest : Connection → Action σ α}
    (yields : ∀ (world : World σ) (link : Link), holds world → world.session.link = some link →
      Ends world (rest link.connection).run fun result later =>
        holds later ∧ ∀ a, result = .ok a → after a later) :
    Yields holds (connection >>= rest) after := by
  intro world start
  cases held : world.session.link with
  | none =>
    have ran : (connection >>= rest).run world =
        some (.error (.unavailable "no directory connection"), world) := by
      simp [held]
    exact .of_run ran ⟨start, by simp⟩
  | some link =>
    have ran : (connection : Action σ Connection).run world =
        some (.ok link.connection, world) := by
      simp [held]
    exact .action_bind_run ran (yields world link start held)

theorem connection_upholds {α : Type} {holds : World σ → Prop} {rest : Connection → Action σ α}
    (upholds : ∀ (world : World σ) (link : Link), holds world → world.session.link = some link →
      Ends world (rest link.connection).run fun _ => holds) :
    Upholds holds (connection >>= rest).run := by
  have yields : Yields holds (connection >>= rest) fun _ _ => True := by
    refine connection_yields fun world link start held => ?_
    exact (upholds world link start held).mono fun _ _ kept => ⟨kept, fun _ _ => trivial⟩
  exact yields.upholds

theorem config_owes {α : Type} {holds owing : World σ → Prop} {after : α → World σ → Prop}
    {rest : Config → Action σ α} (owes : ∀ config, Owes holds owing (rest config) after) :
    Owes holds owing (config >>= rest) after := by
  intro world start
  cases configured : world.session.loaded with
  | some loaded =>
    exact .action_bind_run (by rw [run_config, configured]) (owes loaded.config world start)
  | none =>
    have ran : (config >>= rest).run world =
        some (.error (.configuration "directory session not initialized"), world) := by
      simp [configured]
    exact .of_run ran (.inl start)

theorem connection_owes {α : Type} {holds owing : World σ → Prop} {after : α → World σ → Prop}
    {rest : Connection → Action σ α}
    (owes : ∀ (world : World σ) (link : Link), holds world → world.session.link = some link →
      Ends world (rest link.connection).run (Owed holds owing after)) :
    Owes holds owing (connection >>= rest) after := by
  intro world start
  cases held : world.session.link with
  | some link =>
    exact .action_bind_run (by rw [run_connection, held]) (owes world link start held)
  | none =>
    have ran : (connection >>= rest).run world =
        some (.error (.unavailable "no directory connection"), world) := by
      simp [held]
    exact .of_run ran (.inl start)

end Upholding

variable [Service σ]

open World

/-- One step of a session. -/
inductive Deed : World σ → World σ → Prop
  | read (world : World σ) : Deed world (world.after .load)
  | adopt {world : World σ} (bare : world.session.held = none) {config : Config}
    (answered : world.answer .load = .ok config) (some : config.uris ≠ []) (modified : Option Nat) :
    Deed world { world.after .load with session := world.session.adopt ⟨config, modified⟩ }
  | look (world : World σ) : Deed world { world with look := some world.stand }
  | unbind (world : World σ) : Deed world (world.drop .unbind)
  | disconnect (world : World σ) : Deed world (world.drop .disconnect)
  | forget (world : World σ) : Deed world (world.drop .forget)
  | clear (world : World σ) : Deed world { world with session := world.session.clearFork }
  | query {world : World σ} {link : Link} (held : world.session.link = some link) {call : Call}
    (query : call.isQuery) (target : call.connection? = some link.connection) :
    Deed world (world.after call)
  | abandon {world : World σ} {link : Link} (held : world.session.link = some link)
    (id : MessageId) : Deed world (world.after (.abandon link.connection id))
  | refused {world : World σ} {options : ConnectOptions} {error : Error}
    (answered : world.answer (.connect options) = .error error) :
    Deed world (world.after (.connect options))
  | rejected {world : World σ} (free : world.session.link = none) {options : ConnectOptions}
    (answered : world.answer (.connect options) = .ok ()) {config : Config} {error : Error}
    (refused : (world.connected options).answer ((world.connected options).greeting config) =
      .error error) :
    Deed world ((world.connected options).rejected config)
  | welcomed {world : World σ} (free : world.session.link = none)
    (configured : world.session.loaded.isSome) {options : ConnectOptions}
    (answered : world.answer (.connect options) = .ok ()) {config : Config}
    (accepted : (world.connected options).answer ((world.connected options).greeting config) =
      .ok ()) :
    Deed world ((world.connected options).welcomed config)
  | sleep (world : World σ) (seconds : Nat) : Deed world (world.after (.sleep seconds))
  | touch (world : World σ) (now : Nat) :
    Deed world { world with session := world.session.touch now }
  | advance (world : World σ) : Deed world { world with session := world.session.advance }
  | visit (world : World σ) (visit : Visit) :
    Deed world { world with visits := visit :: world.visits }
  | learn {world : World σ} {link : Link} (held : world.session.link = some link)
    {name uid : String} (taught : ∃ event ∈ world.history, event.Teaches link.connection name uid) :
    Deed world { world with session := world.session.learn name uid }

/-- A row of deeds. -/
abbrev Deeds : World σ → World σ → Prop := Relation.ReflTransGen Deed

/-- What no deed can end. -/
structure World.Upheld (holds : World σ → Prop) : Prop where
  deed : ∀ {world later : World σ}, Deed world later → holds world → holds later
  coherent : ∀ {world : World σ}, holds world → world.Coherent

/-- What no deed can end that leaves no note. -/
structure World.Upkept (holds : World σ → Prop) : Prop where
  deed : ∀ {world later : World σ}, Deed world later → later.notes = world.notes →
    holds world → holds later
  coherent : ∀ {world : World σ}, holds world → world.Coherent

namespace World.Upkept

variable {holds : World σ → Prop} (upkept : World.Upkept holds) {world : World σ}
  (start : holds world)
include upkept start

theorem unbind : holds (world.drop .unbind) :=
  upkept.deed (.unbind world) (notes_drop world fun _ => rfl) start

theorem disconnect : holds (world.drop .disconnect) :=
  upkept.deed (.disconnect world) (notes_drop world fun _ => rfl) start

theorem forget : holds (world.drop .forget) :=
  upkept.deed (.forget world) (notes_drop world fun _ => rfl) start

end World.Upkept

theorem World.Upheld.upkept {holds : World σ → Prop} (upheld : World.Upheld holds) :
    World.Upkept holds :=
  ⟨fun step _ => upheld.deed step, upheld.coherent⟩

/-- A connection is held only under a configuration, and no configuration is ever lost. -/
theorem Deed.coherent {world later : World σ} (deed : Deed world later)
    (coherent : world.Coherent) : later.Coherent := by
  cases deed with
  | adopt => exact fun _ => rfl
  -- Without a connection there is nothing to show.
  | unbind | disconnect | forget => exact (drop_regular _).coherent
  | welcomed free configured => exact fun _ => configured
  | touch now =>
    intro held
    exact coherent (by simpa using held)
  | _ => exact coherent

/-- What every deed keeps is kept by a row of them. -/
theorem Deeds.keeps {holds : World σ → Prop}
    (step : ∀ {world later : World σ}, Deed world later → holds world → holds later)
    {world later : World σ} (deeds : Deeds world later) (start : holds world) : holds later := by
  induction deeds with
  | refl => exact start
  | tail _ deed kept => exact step deed kept

/-- Nothing leads away from what can be reached. -/
theorem Deeds.upheld (world : World σ) :
    World.Upheld fun later => Deeds world later ∧ later.Coherent where
  deed step reached := ⟨reached.1.tail step, step.coherent reached.2⟩
  coherent reached := reached.2

open Engine

namespace Failover

variable {α : Type} {operation : Action σ α} {holds owing : World σ → Prop}
  {after : α → World σ → Prop}

/-- What is true as long as servers are tried. What is owed when a server is lost is made good by
    taking leave of it. -/
structure Bears (holds owing : World σ → Prop) : Prop where
  ready : Upholds holds (Session.ensureReady : Action σ Unit).run
  established : Upholds holds (Session.establish : Action σ Unit).run
  waited : ∀ (policy : Policy) (attempt : Nat), Upholds holds (wait policy attempt : Engine σ Unit)
  left : ∀ world : World σ, holds world ∨ owing world →
    holds { world.drop .unbind with session := (world.drop .unbind).session.advance }

section Bearing

variable (bears : Bears holds owing) (owes : Owes holds owing operation after)
  (touched : ∀ (a : α) (world : World σ) (now : Nat), after a world →
    after a { world with session := world.session.touch now })
include bears owes touched

/-- Only a trial that succeeds settles a round with a value. -/
theorem round_bears (last : Option Error) (servers : Nat) (world : World σ) (start : holds world) :
    Ends world (round operation last servers) fun outcome later => match outcome with
      | .settled (.ok a) => after a later
      | _ => holds later := by
  induction servers generalizing last world with
  | zero => exact .pure start
  | succ servers ih =>
    have tries : Ends world (trial operation).run (Owed holds owing after) :=
      (bears.established world start).action_bind (fun _ later kept => owes later kept)
        fun _ _ kept => .inl kept
    refine tries.bind fun result later reached => ?_
    cases result with
    | ok value => exact .bind_run (run_touch later) (.pure (touched value later _ reached))
    | error error =>
      dsimp only
      split
      · -- The server is given up, whether or not something is owed, and the next one has its turn.
        refine .bind_run (run_close later) (.bind_run (run_update _ _) ?_)
        exact ih (some error) _ (bears.left later (Or.imp_right And.right reached))
      · next settled => exact .pure (Or.resolve_right reached fun owed => settled owed.1)

theorem rounds_bears (policy : Policy) (servers : Nat) (last : Option Error)
    (attempt attempts : Nat) :
    Leads holds (rounds policy servers operation last attempt attempts) after := by
  induction attempts generalizing last attempt with
  | zero => exact fun world start => .of_run (run_throw world (unreachable last)) start
  | succ attempts ih =>
    intro world start
    rw [rounds]
    refine (bears.waited policy attempt world start).lift_bind fun _ waited kept => ?_
    refine (round_bears bears owes touched last servers waited kept).lift_bind ?_
    intro outcome later given
    cases outcome with
    | settled result =>
      cases result with
      | ok value => exact .pure given
      | error error => exact .of_run (run_throw later error) given
    | exhausted last => exact ih last (attempt + 1) later given

theorem run_bears : Leads holds (run operation) after := by
  intro world start
  refine (bears.ready world start).action_bind ?_ fun _ _ kept => kept
  intro _ ready kept
  refine (Upholds.config ready kept).action_bind ?_ fun _ _ kept => kept
  intro config later kept
  refine .action_bind_run (run_lift later (observe _)) ?_
  exact rounds_bears bears owes touched _ _ _ _ _ later kept

end Bearing

end Failover

section Doing

variable {holds : World σ → Prop} (upkept : World.Upkept holds)
include upkept

namespace Engine

theorem close_upholds : Upholds holds (close : Engine σ Unit) :=
  fun world start => .of_run (run_close world) (upkept.unbind start)

theorem touch_upholds : Upholds holds (touch : Engine σ Unit) :=
  fun world start => .of_run (run_touch world) (upkept.deed (.touch world _) rfl start)

end Engine

namespace Session

/-- A configuration is read when there is no connection. -/
theorem load_upholds {world : World σ} (start : holds world) (bare : world.session.held = none) :
    Ends world (load : Action σ Unit).run fun _ => holds := by
  cases answered : world.answer .load with
  | error error =>
    have ran : (load : Action σ Unit).run world = some (.error error, world.after .load) := by
      rw [run_load, answered]
    exact .of_run ran (upkept.deed (.read world) rfl start)
  | ok config =>
    by_cases empty : config.uris = []
    · have ran : (load : Action σ Unit).run world =
          some (.error (.configuration "no directory URIs configured"), world.after .load) := by
        simp [run_load, answered, empty]
      exact .of_run ran (upkept.deed (.read world) rfl start)
    · have ran : (load : Action σ Unit).run world = some (.ok (), { world.after .load with
          session := world.session.adopt ⟨config, Service.modified world.outside⟩ }) := by
        simp [run_load, answered, empty]
      exact .of_run ran (upkept.deed (.adopt bare answered empty _) rfl start)

theorem loadFirst_upholds : Upholds holds (loadFirst : Action σ Unit).run := by
  intro world start
  cases configured : world.session.loaded with
  | some loaded =>
    exact .of_run (run_loadFirst (by simp [configured])) start
  | none =>
    -- Before there is a configuration there is no connection.
    have bare : world.session.held = none := by
      simpa [Coherent, configured] using upkept.coherent start
    have loads := load_upholds upkept start bare
    intro result later ran
    exact loads result later (run_loadFirst_missing configured ▸ ran)

theorem dropUnfit_upholds : Upholds holds (dropUnfit : Engine σ Unit) := by
  intro world start
  cases held : world.session.held with
  | none => exact .of_run (run_dropUnfit_bare held) start
  | some link =>
    refine .of_run (run_dropUnfit held) ?_
    split
    · exact upkept.forget start
    · -- It is not lost, so by whom it was made decides.
      split
      · exact upkept.disconnect start
      · exact start

theorem closeIdle_upholds : Upholds holds (closeIdle : Engine σ Unit) := by
  intro world start
  cases held : world.session.link with
  | none => exact .of_run (run_closeIdle_free held) start
  | some link =>
    refine .of_run (run_closeIdle held) ?_
    split
    · exact upkept.unbind start
    · exact start

theorem inspect_upholds : Upholds holds (inspect : Engine σ Unit) := by
  have looks : Upholds holds (noteLook : Engine σ Unit) := fun world start =>
    .of_run (run_noteLook world) (upkept.deed (.look world) rfl start)
  have clears : Upholds holds (update clearFork : Engine σ Unit) := fun world start =>
    .of_run (run_update world clearFork) (upkept.deed (.clear world) rfl start)
  exact looks.bind fun _ => (dropUnfit_upholds upkept).bind fun _ =>
    clears.bind fun _ => closeIdle_upholds upkept

theorem refresh_upholds : Upholds holds (refresh : Action σ Unit).run := by
  intro world start
  refine .action_bind_run (run_lift world (observe _)) ?_
  refine .action_bind_run (run_lift world session) ?_
  dsimp only
  split
  · have closes : Ends world close fun _ later => holds later ∧ later.session.held = none :=
      .of_run (run_close world) ⟨upkept.unbind start, by simp⟩
    -- The connection of the old configuration is gone when the new one is read.
    refine closes.lift_bind ?_
    rintro _ later ⟨kept, bare⟩
    exact load_upholds upkept kept bare
  · exact .pure start

theorem ensureReady_upholds : Upholds holds (ensureReady : Action σ Unit).run :=
  (loadFirst_upholds upkept).action_bind fun _ =>
    (inspect_upholds upkept).lift.action_bind fun _ => refresh_upholds upkept

theorem releaseInherited_upholds : Upholds holds (releaseInherited : Engine σ Bool) := by
  intro world start
  cases held : world.session.held with
  | none => exact .of_run (run_releaseInherited_bare held) start
  | some link =>
    have ran := run_releaseInherited held
    split at ran
    · -- The mark of a fork goes with the connection it is about.
      exact .of_run ran (upkept.deed (.clear _) rfl (upkept.disconnect start))
    · exact .of_run ran start

theorem establish_upholds : Upholds holds (establish : Action σ Unit).run := by
  intro world start
  by_cases held : world.session.link.isSome
  · exact .of_run (run_establish_held held) start
  have free : world.session.link = none := by simpa using held
  cases configured : world.session.loaded with
  | none =>
    -- Without a configuration no server is known.
    have ran : (establish : Action σ Unit).run world =
        some (.error (.configuration "directory session not initialized"), world) := by
      simp [establish, isConnected_eq, free, configured]
    exact .of_run ran start
  | some loaded =>
    have ran := run_establish free configured
    split at ran
    · exact .of_run ran start
    · dsimp only at ran
      split at ran
      · next error answered => exact .of_run ran (upkept.deed (.refused answered) rfl start)
      · next answered =>
        split at ran
        · next error refused =>
          exact .of_run ran (upkept.deed (.rejected free answered refused) rfl start)
        · next accepted =>
          have present : world.session.loaded.isSome := by simp [configured]
          exact .of_run ran (upkept.deed (.welcomed free present answered accepted) rfl start)

end Session

namespace Failover

variable {α : Type} {operation : Action σ α} {after : α → World σ → Prop}

theorem wait_upholds (policy : Policy) (attempt : Nat) :
    Upholds holds (wait policy attempt : Engine σ Unit) := by
  unfold wait
  split
  · split
    · intro world start
      exact .of_run (run_perform world _) (upkept.deed (.sleep world _) rfl start)
    · exact .pure _
  · exact .pure _

theorem upkept_bears : Bears holds fun _ => False where
  ready := Session.ensureReady_upholds upkept
  established := Session.establish_upholds upkept
  waited := wait_upholds upkept
  left _ kept := upkept.deed (.advance _) rfl (upkept.unbind (kept.resolve_right id))

theorem run_leads (leads : Leads holds operation after)
    (touched : ∀ (a : α) (world : World σ) (now : Nat), after a world →
      after a { world with session := world.session.touch now }) :
    Leads holds (run operation) after :=
  run_bears (upkept_bears upkept) leads.owes touched

theorem run_yields (yields : Yields holds operation after)
    (touched : ∀ (a : α) (world : World σ) (now : Nat), after a world →
      after a { world with session := world.session.touch now }) :
    Yields holds (run operation) after :=
  (run_leads upkept yields.leads fun a world now kept =>
    ⟨upkept.deed (.touch world now) rfl kept.1, touched a world now kept.2⟩).yields

/-- What no deed can end outlives the trials of an operation that does not end it. -/
theorem run_upholds (upholds : Upholds holds operation.run) : Upholds holds (run operation).run :=
  (run_yields upkept upholds.yields fun _ _ _ _ => trivial).upholds

end Failover

end Doing

end NameService
