import NameService.Proofs.Directory.Trace
import NameService.Proofs.Engine.Host
import NameService.Proofs.Enumeration.Values

/-!
Connections across a fork. The two processes share the socket of a connection that was held then, so
only the one that made it may send anything on it.

## Main result

`run_spares_inherited`: in every run without a request to close, a connection that another process
made, or that was held when the process was told of a fork, is given up without a word to the
server.
-/

namespace NameService.Directory

open World

/-- Something is sent on a connection. -/
def talks : Call → Bool
  | .bind _ _ _ | .search _ _ | .start _ _ | .next _ _ | .abandon _ _ | .unbind _ => true
  | _ => false

/-- The connection that an entry of a trace makes, and the process that makes it. -/
def opening? : Happening → Option (Connection × Nat)
  | .called ⟨.connect _, .ok (), stand, _⟩ =>
    some (⟨stand.connections + 1⟩, stand.view.processId)
  | _ => none

/-- The connection that an entry gives up. -/
def released? : Happening → Option Connection
  | .called ⟨.unbind connection, _, _, _⟩ | .called ⟨.disconnect connection, _, _, _⟩
  | .called ⟨.forget connection, _, _, _⟩ => some connection
  | _ => none

/-- The connection that was held when the process was told that it has forked. -/
def marked? : Happening → Option Connection
  | .forked session => session.held.map Link.connection
  | .called _ => none

/-- The connection that an entry does something to. -/
def concerned? : Happening → Option Connection
  | .called event => (opening? (.called event)).elim event.call.connection? (some ·.1)
  | .forked _ => none

def Released (trace : List Happening) (connection : Connection) : Prop :=
  ∃ entry ∈ trace, released? entry = some connection

def OpenedBy (trace : List Happening) (connection : Connection) (process : Nat) : Prop :=
  ∃ entry ∈ trace, opening? entry = some (connection, process)

def Marked (trace : List Happening) (connection : Connection) : Prop :=
  ∃ entry ∈ trace, marked? entry = some connection

/-- A connection that is not given up yet, and has been made by one process only. -/
structure Own (trace : List Happening) (connection : Connection) (process : Nat) : Prop where
  unreleased : ¬ Released trace connection
  opened : OpenedBy trace connection process
  alone : ∀ other, OpenedBy trace connection other → other = process

/-- Nothing is done to a connection that was given up, and nothing is sent on it but by the process
    that has made it, if that was not told of a fork since. -/
def InheritedSpared (entry : Happening) (past : List Happening) : Prop :=
  ∀ connection, concerned? entry = some connection → ¬ Released past connection ∧
    ∀ event, entry = .called event → talks event.call →
      Own past connection event.stand.view.processId ∧ ¬ Marked past connection

/-- What a trace knows of the connections in it, and of the one that is held. -/
structure Guarded (trace : List Happening) (session : Session) (connections : Nat) : Prop where
  spared : Always InheritedSpared trace
  numbered : ∀ entry ∈ trace, ∀ connection,
    concerned? entry = some connection ∨ marked? entry = some connection →
      connection.number ≤ connections
  held : ∀ link, session.held = some link → ∃ owner, link.owner = some owner ∧
    Own trace link.connection owner ∧ (Marked trace link.connection → session.forked = true)

theorem concerned_of_opening {entry : Happening} {connection : Connection} {process : Nat}
    (opening : opening? entry = some (connection, process)) :
    concerned? entry = some connection := by
  cases entry with
  | called event => simp [concerned?, opening]
  | forked session => cases opening

theorem concerned_of_released {entry : Happening} {connection : Connection}
    (released : released? entry = some connection) : concerned? entry = some connection := by
  unfold released? at released
  split at released <;> simp_all [concerned?, opening?, Call.connection?]

section Additions

variable {entry : Happening} {trace : List Happening} {connection : Connection} {process : Nat}

@[simp] theorem released_cons : Released (entry :: trace) connection ↔
    released? entry = some connection ∨ Released trace connection := by
  simp [Released]

@[simp] theorem openedBy_cons : OpenedBy (entry :: trace) connection process ↔
    opening? entry = some (connection, process) ∨ OpenedBy trace connection process := by
  simp [OpenedBy]

@[simp] theorem marked_cons : Marked (entry :: trace) connection ↔
    marked? entry = some connection ∨ Marked trace connection := by
  simp [Marked]

theorem Own.cons (own : Own trace connection process)
    (silent : ∀ other, opening? entry ≠ some (connection, other))
    (kept : released? entry ≠ some connection) : Own (entry :: trace) connection process where
  unreleased := by simp [kept, own.unreleased]
  opened := openedBy_cons.mpr (Or.inr own.opened)
  alone other opened := by
    rcases openedBy_cons.mp opened with opening | opened
    · exact absurd opening (silent other)
    · exact own.alone other opened

end Additions

variable {σ : Type} [Service σ]

section Entries

variable (world : World σ) {call : Call} {connection : Connection}

@[simp] theorem marked_happening : marked? (happening world call) = none := rfl

theorem opening_of_target (target : call.connection? = some connection) :
    opening? (happening world call) = none := by
  cases call <;> first | rfl | cases target

theorem released_of_query (query : call.isQuery) : released? (happening world call) = none := by
  cases call <;> first | rfl | cases query

theorem concerned_of_target (target : call.connection? = some connection) :
    concerned? (happening world call) = some connection := by
  have silent := opening_of_target world target
  simp only [happening] at silent
  simp [concerned?, happening, silent, target]

end Entries

namespace Guarded

variable {trace : List Happening} {session : Session} {connections : Nat}

theorem cons (guarded : Guarded trace session connections) {entry : Happening} {other : Session}
    {limit : Nat} (spared : InheritedSpared entry trace) (grown : connections ≤ limit)
    (numbered : ∀ connection, concerned? entry = some connection ∨ marked? entry = some connection →
      connection.number ≤ limit)
    (held : ∀ link, other.held = some link → ∃ owner, link.owner = some owner ∧
      Own (entry :: trace) link.connection owner ∧
        (Marked (entry :: trace) link.connection → other.forked = true)) :
    Guarded (entry :: trace) other limit where
  spared := ⟨spared, guarded.spared⟩
  numbered := by
    intro entry' member connection mentions
    rcases List.mem_cons.mp member with rfl | member
    · exact numbered connection mentions
    · exact Nat.le_trans (guarded.numbered entry' member connection mentions) grown
  held := held

/-- The connection that is held has a number like every other. -/
theorem number_le (guarded : Guarded trace session connections) {link : Link}
    (held : session.held = some link) : link.connection.number ≤ connections := by
  obtain ⟨owner, -, own, -⟩ := guarded.held link held
  obtain ⟨entry, member, opening⟩ := own.opened
  exact guarded.numbered entry member _ (Or.inl (concerned_of_opening opening))

/-- Nothing is known of a connection before it is made. -/
theorem fresh (guarded : Guarded trace session connections) {connection : Connection}
    (new : connections < connection.number) :
    ¬ Released trace connection ∧ (∀ process, ¬ OpenedBy trace connection process) ∧
      ¬ Marked trace connection := by
  refine ⟨?_, ?_, ?_⟩
  · rintro ⟨entry, member, released⟩
    have := guarded.numbered entry member _ (Or.inl (concerned_of_released released))
    omega
  · rintro process ⟨entry, member, opening⟩
    have := guarded.numbered entry member _ (Or.inl (concerned_of_opening opening))
    omega
  · rintro ⟨entry, member, marked⟩
    have := guarded.numbered entry member _ (Or.inr marked)
    omega

variable {world : World σ} {past : List Happening}

/-- A call that is about no connection leaves everything as it is. -/
theorem around (guarded : Guarded (traced world past) world.session world.connections) {call : Call}
    (idle : concerned? (happening world call) = none) :
    Guarded (traced (world.after call) past) (world.after call).session
      (world.after call).connections := by
  rw [traced_after]
  refine guarded.cons ?_ (Nat.le_refl _) (by simp [idle]) ?_
  · intro connection concerned
    rw [idle] at concerned
    cases concerned
  · intro link held
    obtain ⟨owner, owned, own, marked⟩ := guarded.held link held
    refine ⟨owner, owned, own.cons ?_ ?_, by simpa using marked⟩
    · intro process opening
      have concerned := concerned_of_opening opening
      rw [idle] at concerned
      cases concerned
    · intro released
      have concerned := concerned_of_released released
      rw [idle] at concerned
      cases concerned

theorem spared_of_own {call : Call} {connection : Connection}
    (target : call.connection? = some connection)
    (own : Own (traced world past) connection (Service.processId world.outside))
    (unmarked : ¬ Marked (traced world past) connection) :
    InheritedSpared (happening world call) (traced world past) := by
  intro other concerned
  rw [concerned_of_target world target] at concerned
  obtain rfl := Option.some.inj concerned
  refine ⟨own.unreleased, ?_⟩
  rintro event ⟨⟩ _
  exact ⟨own, unmarked⟩

/-- The process may send on the connection that it holds, if that is its own. -/
theorem spared_of_owning (guarded : Guarded (traced world past) world.session world.connections)
    {link : Link} (held : world.session.held = some link) {call : Call}
    (target : call.connection? = some link.connection) (owning : talks call → world.Owning) :
    InheritedSpared (happening world call) (traced world past) := by
  obtain ⟨owner, owned, own, marked⟩ := guarded.held link held
  by_cases speaks : talks call
  · -- A mark on this connection would still be set, and the connection would not be its own.
    have mine := (owning speaks).own link held
    simp only [Session.isInherited, Bool.or_eq_false_iff, bne_eq_false_iff_eq] at mine
    obtain rfl := Option.some.inj (owned.symm.trans mine.2)
    refine spared_of_own target own fun mark => ?_
    rw [marked mark] at mine
    cases mine.1
  · intro other concerned
    rw [concerned_of_target world target] at concerned
    obtain rfl := Option.some.inj concerned
    refine ⟨own.unreleased, ?_⟩
    rintro event ⟨⟩ speaks'
    exact absurd speaks' speaks

/-- What is done to a connection leaves the one that is held alone, unless it gives it up. -/
theorem after (guarded : Guarded (traced world past) world.session world.connections) (call : Call)
    {connection : Connection} (target : call.connection? = some connection)
    (known : connection.number ≤ world.connections)
    (spared : InheritedSpared (happening world call) (traced world past))
    (kept : ∀ link, world.session.held = some link →
      released? (happening world call) ≠ some link.connection) :
    Guarded (traced (world.after call) past) (world.after call).session
      (world.after call).connections := by
  rw [traced_after]
  refine guarded.cons spared (Nat.le_refl _) ?_ ?_
  · rw [concerned_of_target world target]
    simpa using known
  · intro link held
    obtain ⟨owner, owned, own, marked⟩ := guarded.held link held
    refine ⟨owner, owned, own.cons ?_ (kept link held), by simpa using marked⟩
    simp [opening_of_target world target]

theorem said (guarded : Guarded (traced world past) world.session world.connections) {link : Link}
    (held : world.session.held = some link) {call : Call}
    (target : call.connection? = some link.connection) (owning : world.Owning)
    (kept : released? (happening world call) = none) :
    Guarded (traced (world.after call) past) (world.after call).session
      (world.after call).connections :=
  guarded.after call target (guarded.number_le held)
    (guarded.spared_of_owning held target fun _ => owning) (by simp [kept])

/-- The connection that is held is given up. -/
theorem drop (guarded : Guarded (traced world past) world.session world.connections)
    {part : Connection → Call}
    (target : ∀ connection, (part connection).connection? = some connection)
    (owning : ∀ {connection}, talks (part connection) → world.Owning) :
    Guarded (traced (world.drop part) past) (world.drop part).session
      (world.drop part).connections := by
  rw [drop_session, drop_connections]
  cases held : world.session.held with
  | none =>
    rw [traced_drop_bare world past held]
    exact ⟨guarded.spared, guarded.numbered, by simp⟩
  | some link =>
    rw [traced_drop world past held]
    have spared := guarded.spared_of_owning held (target link.connection) owning
    refine guarded.cons spared (Nat.le_refl _) ?_ (by simp)
    rw [concerned_of_target world (target link.connection)]
    simpa using guarded.number_le held

theorem newest_ne (guarded : Guarded (traced world past) world.session world.connections)
    {link : Link} (held : world.session.held = some link) (options : ConnectOptions) :
    (world.connected options).newest ≠ link.connection := by
  intro same
  -- The connection at hand has a number that was given out before.
  have number := guarded.number_le held
  rw [← same] at number
  exact Nat.not_succ_le_self _ number

section Opening

variable {options : ConnectOptions} (answered : world.answer (.connect options) = .ok ())
include answered

theorem opening_connect : opening? (happening world (.connect options)) =
    some ((world.connected options).newest, Service.processId world.outside) := by
  rw [happening, answered]
  rfl

theorem concerned_connect :
    concerned? (happening world (.connect options)) = some (world.connected options).newest :=
  concerned_of_opening (opening_connect answered)

theorem connected (guarded : Guarded (traced world past) world.session world.connections) :
    Guarded (traced (world.connected options) past) (world.connected options).session
      (world.connected options).connections := by
  rw [traced_connected]
  have opening := opening_connect answered
  have concerned := concerned_connect answered
  refine guarded.cons ?_ (Nat.le_succ _) (by simp [concerned, World.newest]) ?_
  · intro connection concerned'
    obtain rfl := Option.some.inj (concerned.symm.trans concerned')
    refine ⟨(guarded.fresh (Nat.lt_succ_self _)).1, ?_⟩
    rintro event ⟨⟩ speaks
    cases speaks
  · intro link held
    have newer := guarded.newest_ne held options
    obtain ⟨owner, owned, own, marked⟩ := guarded.held link held
    refine ⟨owner, owned, own.cons ?_ (by simp [happening, released?]), by simpa using marked⟩
    simp [opening, newer]

/-- A connection that was just made is known to its process only. -/
theorem newest_own (keeps : Service.KeepsProcess σ)
    (guarded : Guarded (traced world past) world.session world.connections) :
    let made := world.connected options
    Own (traced made past) made.newest (Service.processId made.outside) ∧
      ¬ Marked (traced made past) made.newest := by
  intro made
  have opening := opening_connect answered
  have new : world.connections < made.newest.number := Nat.lt_succ_self _
  -- Nothing that happened before is about a connection with this number.
  obtain ⟨unreleased, unopened, unmarked⟩ := guarded.fresh new
  have process : Service.processId made.outside = Service.processId world.outside := keeps _ _
  rw [traced_connected, process]
  refine ⟨⟨?_, ?_, ?_⟩, ?_⟩
  · simp [happening, released?, unreleased]
  · simp [opening, made]
  · intro other opened
    rcases openedBy_cons.mp opened with first | earlier
    · rw [opening] at first
      simpa using (congrArg Prod.snd (Option.some.inj first)).symm
    · exact absurd earlier (unopened other)
  · simpa using unmarked

/-- It is so still when the server was told who is calling. -/
theorem greeted (keeps : Service.KeepsProcess σ)
    (guarded : Guarded (traced world past) world.session world.connections) (config : Config) :
    let made := world.connected options
    let told := made.after (made.greeting config)
    Guarded (traced told past) told.session told.connections ∧
      Own (traced told past) made.newest (Service.processId told.outside) ∧
      ¬ Marked (traced told past) made.newest := by
  intro made told
  obtain ⟨own, unmarked⟩ := newest_own answered keeps guarded
  have process : Service.processId told.outside = Service.processId made.outside := keeps _ _
  refine ⟨?_, ?_, ?_⟩
  · -- The process may speak on the connection, for it has just made it.
    refine (guarded.connected answered).after _ rfl (Nat.le_refl _)
      (spared_of_own rfl own unmarked) ?_
    simp [happening, released?, World.greeting]
  · rw [process]
    exact own.cons (by simp [opening?, World.greeting]) (by simp [released?, World.greeting])
  · rw [traced_after, marked_cons, marked_happening]
    rintro (nowhere | mark)
    · cases nowhere
    · exact unmarked mark

theorem rejected (keeps : Service.KeepsProcess σ)
    (guarded : Guarded (traced world past) world.session world.connections) (config : Config) :
    Guarded (traced ((world.connected options).rejected config) past)
      ((world.connected options).rejected config).session
      ((world.connected options).rejected config).connections := by
  obtain ⟨greeted, own, unmarked⟩ := guarded.greeted answered keeps config
  -- The connection is given back by the process that has made it, and it is not the one held.
  refine greeted.after _ rfl (Nat.le_refl _) (spared_of_own rfl own unmarked) ?_
  intro link held released
  exact guarded.newest_ne held options (Option.some.inj released)

theorem welcomed (keeps : Service.KeepsProcess σ)
    (guarded : Guarded (traced world past) world.session world.connections) (config : Config) :
    Guarded (traced ((world.connected options).welcomed config) past)
      ((world.connected options).welcomed config).session
      ((world.connected options).welcomed config).connections := by
  obtain ⟨greeted, own, unmarked⟩ := guarded.greeted answered keeps config
  refine ⟨greeted.spared, greeted.numbered, ?_⟩
  rintro link ⟨⟩
  exact ⟨_, rfl, own, fun mark => absurd mark unmarked⟩

end Opening

theorem tend {trace : List Happening} {session other : Session} {connections : Nat}
    (guarded : Guarded trace session connections) (alike : session.Alike other) :
    Guarded trace other connections := by
  refine ⟨guarded.spared, guarded.numbered, ?_⟩
  intro link' held'
  obtain ⟨link, held, connection, -, owner, -⟩ := alike.held link' held'
  rw [← connection, ← owner, alike.forked]
  exact guarded.held link held

theorem clear {trace : List Happening} {session : Session} {connections : Nat}
    (guarded : Guarded trace session connections)
    (spared : session.held.isSome → session.forked = false) :
    Guarded trace session.clearFork connections := by
  refine ⟨guarded.spared, guarded.numbered, ?_⟩
  intro link held
  obtain ⟨owner, owned, own, marked⟩ := guarded.held link held
  -- If a mark were on the connection at hand, the flag would be set.
  have unforked : session.forked = false := spared (Option.isSome_of_mem held)
  refine ⟨owner, owned, own, fun mark => ?_⟩
  rw [marked mark] at unforked
  cases unforked

theorem move (keeps : Service.KeepsProcess σ) {later : World σ} (move : Move world later)
    (guarded : Guarded (traced world past) world.session world.connections) :
    Guarded (traced later past) later.session later.connections := by
  cases move with
  | read => exact guarded.around rfl
  | adopt free => exact ⟨guarded.spared, guarded.numbered, guarded.held⟩
  | look | visit => exact guarded
  | forget => exact guarded.drop (fun _ => rfl) nofun
  | disconnect => exact guarded.drop (fun _ => rfl) nofun
  | clear spared => exact guarded.clear spared
  -- Every move that sends something on a connection comes with its owner.
  | unbind owning => exact guarded.drop (fun _ => rfl) fun _ => owning
  | abandon owning held id => exact guarded.said (Session.held_of_link held) rfl owning rfl
  | query ready held query target =>
    exact guarded.said (Session.held_of_link held) target ready.owning
      (released_of_query world query)
  | refused answered =>
    refine guarded.around ?_
    rw [happening, answered]
    rfl
  | rejected _ _ answered => exact guarded.rejected answered keeps _
  | welcomed _ _ answered accepted => exact guarded.welcomed answered keeps _
  | sleep => exact guarded.around rfl
  | tend alike => exact guarded.tend alike

theorem begin : Guarded [] {} 0 where
  spared := trivial
  numbered := by simp
  held := by simp

theorem fork {trace : List Happening} {session : Session} {connections : Nat}
    (guarded : Guarded trace session connections) :
    Guarded (.forked session :: trace) session.markForked connections := by
  refine guarded.cons (fun _ nowhere => nomatch nowhere) (Nat.le_refl _) ?_ ?_
  · rintro connection (nowhere | marked)
    · cases nowhere
    · obtain ⟨link, held, rfl⟩ := Option.map_eq_some_iff.mp marked
      exact guarded.number_le held
  · -- The connection at hand is marked, and the flag is set with the mark.
    intro link held
    obtain ⟨owner, owned, own, -⟩ := guarded.held link held
    exact ⟨owner, owned, own.cons nofun nofun, fun _ => rfl⟩

end Guarded

/-- A forked child never writes on the connection of its parent. -/
theorem run_spares_inherited (keeps : Service.KeepsProcess σ) {trace : List Happening}
    {world : World σ} {contexts : Contexts}
    (run : Run (fun request => request ≠ .close) trace world contexts) :
    Always InheritedSpared trace := by
  refine (run.invariant keeps Guarded .begin ?_ ?_ ?_).2.spared
  · exact fun past step guarded => guarded.move keeps step
  · exact fun other => absurd rfl other
  · exact fun trace session connections guarded => guarded.fork

/-- The call that gives up a connection. -/
def parting? : Happening → Option Call
  | .called event => if (released? (.called event)).isSome then some event.call else none
  | .forked _ => none

/-- A fork that the process is not told of, and one that it is told of. -/
def forks : List (Step Small.Outside) :=
  [.ask (.start 0 Small.users), .ask (.next 0 (.ofValues "uid") (.fresh 0 16) 8),
    .change fun host => { host with process := 2 }, .ask (.stop 0), .ask (.start 1 Small.users),
    .fork, .ask (.stop 1), .ask (.lookup Small.users (.ofValues "uid") (.fresh 0 16))]

theorem run_spares_inherited_small :
    ∃ (trace : List Happening) (world : World Small.Outside) (contexts : Contexts),
      Service.KeepsProcess Small.Outside ∧
      Run (fun request => request ≠ .close) trace world contexts ∧
      trace.filterMap parting? = [.disconnect ⟨2⟩, .disconnect ⟨1⟩] ∧
      Always InheritedSpared trace := by
  have ran : (replay forks [] { outside := {} } fun _ => {}).map (·.1.filterMap parting?) =
      some [.disconnect ⟨2⟩, .disconnect ⟨1⟩] := by decide +kernel
  obtain ⟨⟨trace, world, contexts⟩, replayed, partings⟩ := Option.map_eq_some_iff.mp ran
  have asked : ∀ request, .ask request ∈ forks → request ≠ .close := by
    rintro request member rfl
    simp [forks] at member
  have begun : Run (fun request => request ≠ .close) [] ({ outside := {} } : World Small.Outside)
      fun _ => {} :=
    .begin _
  have run := begun.of_replay asked replayed
  exact ⟨trace, world, contexts, Host.still.keepsProcess, run, partings,
    run_spares_inherited Host.still.keepsProcess run⟩

end NameService.Directory
