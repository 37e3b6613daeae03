import NameService.Proofs.Enumeration.Deeds
import NameService.Proofs.Enumeration.Stage

/-!
What an enumeration says to servers. A search is known under a name that means something only on the
connection where it was started, while the session may come to another connection between any two
calls. An enumeration goes by the generation of the connection: it belongs to one connection, as
long as that is held, and to none afterwards.

## Main results

- `Tied.upheld`: no deed of a session unties an enumeration from its connection.
- `Enumeration.fetch_tied`, `Enumeration.start_tied`, `Enumeration.stop_tied`: whatever an
  enumeration says itself is in order, and leaves it tied.
-/

namespace NameService

def Session.isOneShot (session : Session) : Bool :=
  session.loaded.any fun loaded => loaded.config.flags.oneShot

/-- The search that an enumeration has in progress on the connection of a session. -/
def Enumeration.outstanding (e : Enumeration) (session : Session) : Option MessageId :=
  if e.generation = session.generation then e.pending else none

namespace Note

/-- The search whose messages are still to come, and the connection on which it was started. -/
def awaited : List Note → Option (Connection × MessageId)
  | [] => none
  | .begun :: past => awaited past
  | .started connection (.ok id) :: _ => some (connection, id)
  | .started _ (.error _) :: _ => none
  | .received _ _ (.ok (.entry _)) :: past | .received _ _ (.ok .reference) :: past => awaited past
  | .received _ _ (.ok (.done _)) :: _ | .received _ _ (.error _) :: _ => none
  | .abandoned _ _ :: _ => none

/-- The connection on which the first search was started, since an answer was wanted last. -/
def origin : List Note → Option Connection
  | [] | .begun :: _ => none
  | .started connection (.ok _) :: past => some ((origin past).getD connection)
  | .started _ (.error _) :: past | .received _ _ _ :: past | .abandoned _ _ :: past => origin past

/-- What is said is said on the connection where it means something. -/
def Apt : Note → List Note → Prop
  | .begun, _ => True
  | .started connection _, past => ∀ first, origin past = some first → connection = first
  | .received connection id _, past =>
    awaited past = some (connection, id) ∧ origin past = some connection
  | .abandoned connection id, past => awaited past = some (connection, id)

/-- Each note was apt after all that was said before it. -/
def AllApt : List Note → Prop
  | [] => True
  | note :: past => note.Apt past ∧ AllApt past

end Note

open Engine World Note

variable {σ : Type}

/-- The connection is the one of this generation, if it is held at all. -/
structure World.Carries (world : World σ) (generation : Nat) (connection : Connection) : Prop where
  numbered : connection.number ≤ world.connections
  past : generation ≤ world.session.generation
  held : ∀ link, world.session.link = some link →
    (link.connection = connection ↔ generation = world.session.generation)

/-- What has been said for an enumeration fits what it remembers: the search that it has in
    progress, and the generation of the connection. -/
structure Tied (notes : List Note) (pending : Option MessageId) (generation : Nat)
    (world : World σ) : Prop where
  coherent : world.Coherent
  numbered : ∀ link, world.session.link = some link →
    link.connection.number ≤ world.connections
  apt : AllApt notes
  first : ∀ connection, origin notes = some connection → world.Carries generation connection
  waits : ∀ id, pending = some id → ∃ connection, awaited notes = some (connection, id) ∧
    world.Carries generation connection
  known : ∀ connection id, awaited notes = some (connection, id) →
    connection.number ≤ world.connections ∧
      (pending = some id ∨ ∀ link, world.session.link = some link → link.connection ≠ connection)

/-- Only the connection that is held, and how many there were, matter here. -/
theorem Tied.of_same {notes : List Note} {pending : Option MessageId} {generation : Nat}
    {world later : World σ} (tied : Tied notes pending generation world)
    (held : later.session.held = world.session.held)
    (link : later.session.link = world.session.link)
    (generations : later.session.generation = world.session.generation)
    (loaded : later.session.loaded = world.session.loaded)
    (connections : later.connections = world.connections) :
    Tied notes pending generation later := by
  have carries {connection : Connection} (carries : world.Carries generation connection) :
      later.Carries generation connection :=
    ⟨connections ▸ carries.numbered, generations ▸ carries.past, by
      rw [link, generations]
      exact carries.held⟩
  refine ⟨?_, ?_, tied.apt, fun connection first => carries (tied.first connection first), ?_, ?_⟩
  · rw [World.Coherent, held, loaded]
    exact tied.coherent
  · rw [link, connections]
    exact tied.numbered
  · intro id waits
    obtain ⟨connection, waits, carried⟩ := tied.waits id waits
    exact ⟨connection, waits, carries carried⟩
  · rw [link, connections]
    exact tied.known

variable [Service σ]

/-- What a deed does to the connection that is held: it leaves it, gives it up, or comes to a new
    one when there is none. -/
theorem Deed.link {world later : World σ} (deed : Deed world later) :
    world.connections ≤ later.connections ∧
      (later.session.generation = world.session.generation ∧
          (∀ link, later.session.link = some link → ∃ before, world.session.link = some before ∧
            link.connection = before.connection) ∨
        world.connections < later.connections ∧
          later.session.generation = world.session.generation + 1 ∧
          ∀ link, later.session.link = some link → link.connection = ⟨later.connections⟩) := by
  cases deed with
  | unbind | disconnect | forget =>
    exact ⟨by simp, .inl ⟨by simp [Session.dropLink], by simp⟩⟩
  | adopt bare answered located modified =>
    refine ⟨Nat.le_refl _, .inl ⟨rfl, fun link held => ⟨link, ?_, rfl⟩⟩⟩
    simpa using held
  | touch now =>
    refine ⟨Nat.le_refl _, .inl ⟨rfl, fun link held => ?_⟩⟩
    rw [Session.touch_link] at held
    obtain ⟨before, before_held, rfl⟩ := Option.map_eq_some_iff.mp held
    exact ⟨before, before_held, rfl⟩
  | rejected =>
    exact ⟨Nat.le_succ _, .inl ⟨rfl, fun link held => ⟨link, held, rfl⟩⟩⟩
  | welcomed free =>
    refine ⟨Nat.le_succ _, .inr ⟨Nat.lt_succ_self _, rfl, ?_⟩⟩
    rintro link ⟨⟩
    rfl
  | _ => exact ⟨Nat.le_refl _, .inl ⟨rfl, fun link held => ⟨link, held, rfl⟩⟩⟩

theorem World.Carries.deed {world later : World σ} {generation : Nat} {connection : Connection}
    (step : Deed world later) (carries : world.Carries generation connection) :
    later.Carries generation connection := by
  obtain ⟨grown, ⟨same, kept⟩ | ⟨new, next, newest⟩⟩ := step.link
  · refine ⟨Nat.le_trans carries.numbered grown, same ▸ carries.past, fun link held => ?_⟩
    obtain ⟨before, held, same'⟩ := kept link held
    rw [same', same]
    exact carries.held before held
  · -- A new connection is neither the old one nor of its generation.
    have numbered := carries.numbered
    have past := carries.past
    refine ⟨by omega, by omega, fun link held => iff_of_false ?_ (by omega)⟩
    rintro rfl
    rw [newest link held] at numbered
    exact absurd numbered (Nat.not_le.mpr new)

namespace Tied

variable {notes : List Note} {pending : Option MessageId} {generation : Nat} {world : World σ}

/-- No deed unties an enumeration from its connection. -/
theorem upheld : World.Upheld (Tied (σ := σ) notes pending generation) where
  coherent tied := tied.coherent
  deed {world later} step tied := by
    obtain ⟨grown, moved⟩ := step.link
    refine ⟨step.coherent tied.coherent, fun link held => ?_, tied.apt, fun connection first => ?_,
      fun id waits => ?_, fun connection id waits => ?_⟩
    · rcases moved with ⟨-, kept⟩ | ⟨-, -, newest⟩
      · obtain ⟨before, held, same⟩ := kept link held
        rw [same]
        exact Nat.le_trans (tied.numbered before held) grown
      · exact Nat.le_of_eq (congrArg Connection.number (newest link held))
    · exact (tied.first connection first).deed step
    · obtain ⟨connection, waits, carries⟩ := tied.waits id waits
      exact ⟨connection, waits, carries.deed step⟩
    · obtain ⟨numbered, remembered⟩ := tied.known connection id waits
      refine ⟨Nat.le_trans numbered grown, remembered.imp_right fun other link held => ?_⟩
      rcases moved with ⟨-, kept⟩ | ⟨new, -, newest⟩
      · obtain ⟨before, held, same⟩ := kept link held
        rw [same]
        exact other before held
      · rintro rfl
        rw [newest link held] at numbered
        exact absurd numbered (Nat.not_le.mpr new)

/-- What is said for an enumeration is added to what was said before; as long as nothing is said,
    it stays tied. -/
theorem upkept (past : List Note) :
    World.Upkept fun world : World σ => Tied (world.notes ++ past) pending generation world where
  coherent tied := tied.coherent
  deed step silent tied := by
    rw [silent]
    exact upheld.deed step tied

section Saying

variable (tied : Tied notes pending generation world)
include tied

omit [Service σ] in
/-- A search is let go when its connection is not held any more. -/
theorem let_go (gone : generation = world.session.generation → world.session.link = none) :
    Tied notes none generation world := by
  refine ⟨tied.coherent, tied.numbered, tied.apt, tied.first, nofun, fun connection id waits => ?_⟩
  obtain ⟨numbered, pends | other⟩ := tied.known connection id waits
  · refine ⟨numbered, .inr fun link held same => ?_⟩
    obtain ⟨connection', waits', carries⟩ := tied.waits id pends
    obtain rfl : connection = connection' := by simpa using waits.symm.trans waits'
    rw [gone ((carries.held link held).mp same)] at held
    cases held
  · exact ⟨numbered, .inr other⟩

end Saying

section Held

variable {link : Link} (held : world.session.link = some link)
include held

omit [Service σ] in
theorem carries_held (numbered : link.connection.number ≤ world.connections) :
    world.Carries world.session.generation link.connection := by
  refine ⟨numbered, Nat.le_refl _, fun other same => ?_⟩
  obtain rfl := Option.some.inj (held.symm.trans same)
  exact iff_of_true rfl rfl

variable {id : MessageId}

omit [Service σ] in
/-- The search that is in progress is the one that is awaited on the connection at hand. -/
theorem awaited_held (tied : Tied notes (some id) generation world)
    (current : generation = world.session.generation) :
    awaited notes = some (link.connection, id) := by
  obtain ⟨connection, waits, carries⟩ := tied.waits id rfl
  rw [waits, (carries.held link held).mpr current]

omit [Service σ] in
theorem origin_held (tied : Tied notes pending generation world)
    (current : generation = world.session.generation) {connection : Connection}
    (first : origin notes = some connection) : link.connection = connection :=
  ((tied.first connection first).held link held).mpr current

omit [Service σ] in
theorem abandoned (tied : Tied notes (some id) generation world)
    (current : generation = world.session.generation) :
    Tied (.abandoned link.connection id :: notes) none generation world :=
  ⟨tied.coherent, tied.numbered, ⟨tied.awaited_held held current, tied.apt⟩, tied.first, nofun,
    nofun⟩

omit [Service σ] held in
theorem refused {connection : Connection} (tied : Tied notes pending generation world)
    (apt : ∀ first, origin notes = some first → connection = first) (error : Error) :
    Tied (.started connection (.error error) :: notes) none generation world :=
  ⟨tied.coherent, tied.numbered, ⟨apt, tied.apt⟩, tied.first, nofun, nofun⟩

omit [Service σ] in
/-- A search that is started ties an enumeration to the connection at hand. -/
theorem started (tied : Tied notes pending generation world)
    (apt : ∀ first, origin notes = some first → link.connection = first) (id : MessageId) :
    Tied (.started link.connection (.ok id) :: notes) (some id) world.session.generation world := by
  have numbered := tied.numbered link held
  have carries := carries_held held numbered
  refine ⟨tied.coherent, tied.numbered, ⟨apt, tied.apt⟩, fun connection first => ?_, ?_, ?_⟩
  · obtain rfl : (origin notes).getD link.connection = connection := by
      simpa [Note.origin] using first
    cases before : origin notes with
    | none => exact carries
    | some connection => exact apt connection before ▸ carries
  · rintro _ ⟨⟩
    exact ⟨link.connection, rfl, carries⟩
  · rintro connection _ ⟨⟩
    exact ⟨numbered, .inl rfl⟩

section Receiving

variable (tied : Tied notes (some id) generation world)
  (current : generation = world.session.generation) (begun : (origin notes).isSome)
include tied current begun

omit [Service σ] in
theorem apt_received (answer : Except Error Message) :
    AllApt (.received link.connection id answer :: notes) := by
  obtain ⟨connection, first⟩ := Option.isSome_iff_exists.mp begun
  refine ⟨⟨tied.awaited_held held current, ?_⟩, tied.apt⟩
  rw [first, tied.origin_held held current first]

omit [Service σ] in
/-- The search goes on after a message that is not the last. -/
theorem received (message : Message) (more : ∀ done, message ≠ .done done) :
    Tied (.received link.connection id (.ok message) :: notes) (some id) generation world := by
  have apt := tied.apt_received held current begun (.ok message)
  cases message with
  | entry entry => exact ⟨tied.coherent, tied.numbered, apt, tied.first, tied.waits, tied.known⟩
  | reference => exact ⟨tied.coherent, tied.numbered, apt, tied.first, tied.waits, tied.known⟩
  | done done => exact absurd rfl (more done)

omit [Service σ] in
/-- A search is over when its last message has come, or when it has failed. -/
theorem ended (answer : Except Error Message)
    (last : ∀ message, answer = .ok message → ∃ done, message = .done done) :
    Tied (.received link.connection id answer :: notes) none generation world := by
  have apt := tied.apt_received held current begun answer
  match answer with
  | .error error => exact ⟨tied.coherent, tied.numbered, apt, tied.first, nofun, nofun⟩
  | .ok message =>
    obtain ⟨done, rfl⟩ := last message rfl
    exact ⟨tied.coherent, tied.numbered, apt, tied.first, nofun, nofun⟩

end Receiving

end Held

end Tied

namespace Enumeration

section Leaving

variable {world : World σ} (e : Enumeration)

/-- Without a connection that may be used there is nothing to be said. -/
theorem run_abandon_free (free : world.session.link = none) :
    ∃ later, e.abandon world = some ({ e with pending := none }, later) ∧
      (later = world ∨ later = world.released) := by
  cases held : world.session.held with
  | none =>
    refine ⟨world, ?_, .inl rfl⟩
    cases pending : e.pending <;>
      simp [abandon, Session.run_releaseInherited_bare held, pending, free]
  | some link =>
    cases inherited : world.session.isInherited link world.outside with
    | true =>
      exact ⟨world.released, by simp [abandon, Session.run_releaseInherited held, inherited],
        .inr rfl⟩
    | false =>
      refine ⟨world, ?_, .inl rfl⟩
      cases pending : e.pending <;>
        simp [abandon, Session.run_releaseInherited held, inherited, pending, free]

section Held

variable {link : Link} (held : world.session.link = some link)
include held

theorem run_abandon_inherited (inherited : world.session.isInherited link world.outside = true) :
    e.abandon world = some ({ e with pending := none }, world.released) := by
  simp [abandon, Session.run_releaseInherited (Session.held_of_link held), inherited]

/-- A search in progress is told to the server, and no other hazard is looked for. -/
theorem run_abandon_own (own : world.session.isInherited link world.outside = false) :
    e.abandon world = some ({ e with pending := none }, match e.outstanding world.session with
      | some id => world.after (.abandon link.connection id)
      | none => world) := by
  have spared : Session.releaseInherited world = some (false, world) := by
    simp [Session.run_releaseInherited (Session.held_of_link held), own]
  by_cases same : e.generation = world.session.generation
  · cases pending : e.pending with
    | none => simp [abandon, outstanding, spared, pending]
    | some id => simp [abandon, outstanding, spared, pending, same, held]
  · cases pending : e.pending with
    | none => simp [abandon, outstanding, spared, pending]
    | some id => simp [abandon, outstanding, spared, pending, same]

end Held

/-- The search in progress is given up, and then the directory closes if it does after each use. -/
theorem run_stop {abandoned : Enumeration} {later : World σ}
    (ran : e.abandon world = some (abandoned, later))
    (kept : later.session.loaded = world.session.loaded) :
    e.stop world = some ({ abandoned.reset with lookup := none },
      if world.session.isOneShot then later.drop .unbind else later) := by
  cases configured : world.session.loaded with
  | none => simp [stop, ran, kept, Session.isOneShot, configured]
  | some loaded =>
    by_cases oneShot : loaded.config.flags.oneShot <;>
      simp [stop, ran, kept, Session.isOneShot, configured, oneShot]

end Leaving

variable {past : List Note} {world : World σ} {e : Enumeration}

/-- The search in progress is abandoned only where it was started. -/
theorem abandon_tied (tied : Tied (world.notes ++ past) e.pending e.generation world) :
    Ends world e.abandon fun e' later => e' = { e with pending := none } ∧
      Tied (later.notes ++ past) none e.generation later ∧
      origin (later.notes ++ past) = origin (world.notes ++ past) := by
  -- The connection of another process is given up, and with it the search.
  have upkept : World.Upkept fun world : World σ =>
      Tied (world.notes ++ past) e.pending e.generation world := Tied.upkept past
  have released : Tied (world.released.notes ++ past) none e.generation world.released :=
    (upkept.deed (.clear _) rfl (upkept.disconnect tied)).let_go fun _ => by simp
  have silent : world.released.notes = world.notes := notes_drop world fun _ => rfl
  cases held : world.session.link with
  | none =>
    obtain ⟨later, ran, rfl | rfl⟩ := e.run_abandon_free held
    · exact .of_run ran ⟨rfl, tied.let_go fun _ => held, rfl⟩
    · exact .of_run ran ⟨rfl, released, by rw [silent]⟩
  | some link =>
    cases inherited : world.session.isInherited link world.outside with
    | true =>
      exact .of_run (e.run_abandon_inherited held inherited) ⟨rfl, released, by rw [silent]⟩
    | false =>
      refine .of_run (e.run_abandon_own held inherited) ⟨rfl, ?_⟩
      split
      · next id waits =>
        obtain ⟨current, pending⟩ :
            e.generation = world.session.generation ∧ e.pending = some id := by
          simpa [outstanding] using waits
        rw [pending] at tied
        have told := Tied.upheld.deed (.abandon held id) tied
        have held : (world.after (.abandon link.connection id)).session.link = some link := held
        exact ⟨Tied.abandoned held told current, rfl⟩
      · next idle =>
        refine ⟨?_, rfl⟩
        cases pending : e.pending with
        | none => exact pending ▸ tied
        | some id =>
          refine tied.let_go fun current => ?_
          simp [outstanding, current, pending] at idle

/-- An enumeration fits what has been said for it, and a search that it has in progress was started
    since it began. -/
structure Bound (past : List Note) (pending : Option MessageId) (generation : Nat)
    (world : World σ) : Prop where
  tied : Tied (world.notes ++ past) pending generation world
  begun : pending.isSome → (origin (world.notes ++ past)).isSome

omit [Service σ] in
theorem Bound.of_tied {generation : Nat}
    (tied : Tied (world.notes ++ past) none generation world) : Bound past none generation world :=
  ⟨tied, nofun⟩

theorem Bound.upkept (pending : Option MessageId) (generation : Nat) :
    World.Upkept (Bound (σ := σ) past pending generation) where
  coherent bound := bound.tied.coherent
  deed step silent bound := by
    refine ⟨(Tied.upkept past).deed step silent bound.tied, ?_⟩
    rw [silent]
    exact bound.begun

section Asking

variable {generation : Nat} (tied : Tied (world.notes ++ past) none generation world)
include tied

/-- A page is asked for on the connection at hand. If that is where all was started, the enumeration
    is bound to it. -/
theorem startPage_bound (lookup : Lookup) (index : Nat) (cookie : List UInt8)
    (apt : ∀ link, world.session.link = some link → ∀ first,
      origin (world.notes ++ past) = some first → link.connection = first) :
    Ends world (lookup.startPage index cookie : Action σ (Option MessageId)).run
      fun result later => later.session = world.session ∧ match result with
        | .ok (some id) => Bound past (some id) world.session.generation later
        | .ok none | .error _ => Tied (later.notes ++ past) none generation later ∧
          origin (later.notes ++ past) = origin (world.notes ++ past) := by
  -- There are four reasons to say nothing, and each leaves the world as it was.
  cases configured : world.session.loaded with
  | none =>
    have ran : (lookup.startPage index cookie : Action σ (Option MessageId)).run world =
        some (.error (.configuration "directory session not initialized"), world) := by
      simp [Lookup.startPage, configured]
    exact .of_run ran ⟨rfl, tied, rfl⟩
  | some loaded =>
    cases searched : lookup.search? loaded.config index with
    | error error =>
      have ran : (lookup.startPage index cookie : Action σ (Option MessageId)).run world =
          some (.error error, world) := by
        simp [Lookup.startPage, configured, searched]
      exact .of_run ran ⟨rfl, tied, rfl⟩
    | ok search? =>
      cases search? with
      | none => exact .of_run (run_startPage_none configured searched cookie) ⟨rfl, tied, rfl⟩
      | some search =>
        cases held : world.session.link with
        | none =>
          have ran : (lookup.startPage index cookie : Action σ (Option MessageId)).run world =
              some (.error (.unavailable "no directory connection"), world) := by
            simp [Lookup.startPage, configured, searched, held]
          exact .of_run ran ⟨rfl, tied, rfl⟩
        | some link =>
          -- Something is said, and the last note tells what and what came of it.
          have ran := run_startPage configured held searched cookie
          let call := Call.start link.connection { search with page := loaded.config.page? cookie }
          have asked : Tied (world.notes ++ past) none generation (world.after call) :=
            Tied.upheld.deed (.query held rfl rfl) tied
          have held' : (world.after call).session.link = some link := held
          have noted : (world.after call).notes ++ past =
              .started link.connection (world.answer call) :: (world.notes ++ past) := rfl
          dsimp only at ran
          split at ran
          · next id started =>
            have begun := Tied.started held' asked (apt link held) id
            rw [started] at noted
            refine .of_run ran ⟨rfl, ?_, fun _ => ?_⟩
            · rw [noted]
              exact begun
            · rw [noted]
              rfl
          · next error started =>
            rw [started] at noted
            refine .of_run ran ⟨rfl, ?_, ?_⟩
            · rw [noted]
              exact asked.refused (apt link held) error
            · rw [noted]
              rfl

end Asking

omit [Service σ] in
/-- Before a search was started there is no connection to be bound to. -/
theorem Bound.of_unstarted {generation : Nat}
    (tied : Tied (world.notes ++ past) none generation world)
    (unstarted : origin (world.notes ++ past) = none) (other : Nat) :
    Bound past none other world where
  tied := ⟨tied.coherent, tied.numbered, tied.apt, by simp [unstarted], nofun, tied.known⟩
  begun := nofun

/-- An enumeration is bound to the connection on which its first search is started. -/
theorem start_bound (tied : Tied (world.notes ++ past) e.pending e.generation world)
    (unstarted : origin (world.notes ++ past) = none) (lookup : Lookup) :
    Ends world (e.start lookup) fun out later =>
      Bound past out.2.pending out.2.generation later := by
  let holds (world : World σ) : Prop := Tied (world.notes ++ past) none e.generation world ∧
    origin (world.notes ++ past) = none
  have upkept : World.Upkept holds := ⟨fun step silent kept =>
    ⟨(Tied.upkept past).deed step silent kept.1, silent ▸ kept.2⟩, fun kept => kept.1.coherent⟩
  -- Every trial begins with nothing said in this enumeration, since a trial that failed has left no
  -- question.
  have leads : Leads holds (lookup.start 0) fun id world =>
      Bound past id world.session.generation world := by
    refine Failover.run_leads upkept (fun world kept => ?_) fun id world now bound =>
      (Bound.upkept _ _).deed (.touch world now) rfl bound
    have apt : ∀ link, world.session.link = some link → ∀ first,
        origin (world.notes ++ past) = some first → link.connection = first := by
      simp [kept.2]
    refine (startPage_bound kept.1 lookup 0 [] apt).mono fun result later reached => ?_
    obtain ⟨same, reached⟩ := reached
    match result with
    | .ok (some id) => exact same ▸ reached
    | .ok none => exact .of_unstarted reached.1 (reached.2.trans kept.2) _
    | .error error => exact ⟨reached.1, reached.2.trans kept.2⟩
  refine (abandon_tied tied).bind ?_
  rintro _ began ⟨rfl, left, same⟩
  refine (leads began ⟨left, same.trans unstarted⟩).bind fun result later reached => ?_
  match result with
  | .error error => exact .pure (.of_tied reached.1)
  | .ok id =>
    refine .bind_run (run_session later) ?_
    dsimp only
    split <;> exact .pure reached

section Going

/-- The next page is asked for where the one before was. -/
theorem startNext_bound (tied : Tied (world.notes ++ past) none e.generation world)
    (current : e.generation = world.session.generation) :
    Ends world e.startNext fun out later => Bound past out.2.pending out.2.generation later := by
  unfold startNext
  split
  · exact .pure (.of_tied tied)
  · next lookup _ =>
    refine (startPage_bound tied lookup e.index e.cookie fun link held first started =>
      Tied.origin_held held tied current started).bind fun result later reached => ?_
    obtain ⟨-, reached⟩ := reached
    match result with
    | .ok (some id) => exact .pure (current ▸ reached)
    | .ok none => exact .pure (.of_tied reached.1)
    | .error error => exact .pure (.of_tied reached.1)

theorem finish_bound (tied : Tied (world.notes ++ past) none e.generation world)
    (current : e.generation = world.session.generation) (done : Done) :
    Ends world (e.finish done) fun out later =>
      Bound past out.2.pending out.2.generation later := by
  have goesOn (cookie : List UInt8) (index : Nat) :
      Ends world { e with pending := none, cookie := cookie, index := index }.startNext
        fun out later => Bound past out.2.pending out.2.generation later :=
    startNext_bound (by exact tied) current
  unfold finish
  dsimp only
  split
  · exact .pure (.of_tied tied)
  split
  · exact goesOn _ e.index
  · refine (goesOn [] (e.index + 1)).bind fun out later bound => ?_
    split <;> exact .pure bound

/-- A message is received on the connection where the search was started. -/
theorem fetch_bound (bound : Bound past e.pending e.generation world) :
    Ends world e.fetch fun out later => Bound past out.2.pending out.2.generation later := by
  unfold fetch
  split
  · next id pending =>
    refine (Session.ensureReady_upholds (Bound.upkept _ _) world bound).bind ?_
    intro result ready bound
    match result with
    | .error error => exact .pure bound
    | .ok () =>
      refine .bind_run (run_session ready) ?_
      split
      · next link held =>
        split
        · -- A new connection knows nothing of the old question, so the context gives it up
          -- silently.
          next other => exact .pure (.of_tied (bound.tied.let_go fun same => absurd same other))
        next same =>
        have current : e.generation = ready.session.generation := by simpa using same
        rw [pending] at bound
        have told : Tied (ready.notes ++ past) (some id) e.generation
            (ready.after (.next link.connection id)) :=
          Tied.upheld.deed (.query held rfl rfl) bound.tied
        have held' : (ready.after (.next link.connection id)).session.link = some link := held
        have begun := bound.begun rfl
        refine .bind_run (run_perform ready _) ?_
        -- An answer ends the question unless it is an entry or a reference.
        generalize answered : ready.answer (.next link.connection id) = answer
        have noted : (ready.after (.next link.connection id)).notes ++ past =
            .received link.connection id answer :: (ready.notes ++ past) := by
          rw [notes_next, answered, List.cons_append]
        match answer with
        | .error error =>
          have ended := Tied.ended held' told current begun (.error error) nofun
          rw [← noted] at ended
          dsimp only
          split
          · refine (close_upholds (Tied.upkept past) _ ended).bind fun _ _ kept => ?_
            exact .pure (.of_tied kept)
          · exact .pure (.of_tied ended)
        | .ok (.done done) =>
          have ended := Tied.ended held' told current begun (.ok (.done done)) (by simp)
          rw [← noted] at ended
          exact finish_bound ended current done
        | .ok (.entry entry) =>
          have more := Tied.received held' told current begun (.entry entry) nofun
          exact .pure ⟨by rw [noted, pending]; exact more, fun _ => by rw [noted]; exact begun⟩
        | .ok .reference =>
          have more := Tied.received held' told current begun .reference nofun
          exact .pure ⟨by rw [noted, pending]; exact more, fun _ => by rw [noted]; exact begun⟩
      · next free => exact .pure (.of_tied (bound.tied.let_go fun _ =>
          Option.eq_none_iff_forall_ne_some.mpr free))
  · exact .pure bound

end Going

/-- What becomes of the entry at hand is no matter of connections. -/
theorem offer_kept {ρ : Type} (e : Enumeration) (entry : Entry) (parser : RecordParser ρ)
    (arena : Arena) : (e.offer entry parser arena).2.1.pending = e.pending ∧
      (e.offer entry parser arena).2.1.generation = e.generation := by
  unfold offer
  dsimp only
  split
  · split <;> exact ⟨rfl, rfl⟩
  all_goals exact ⟨rfl, rfl⟩

theorem next_bound {ρ : Type} (parser : RecordParser ρ) (patience : Nat) {world : World σ}
    {e : Enumeration} (arena : Arena) (bound : Bound past e.pending e.generation world) :
    Ends world (next parser patience e arena) fun out later =>
      Bound past out.2.pending out.2.generation later := by
  induction patience generalizing world e arena with
  | zero =>
    intro result later ran
    cases ran
  | succ patience ih =>
    rw [next]
    split
    · refine (fetch_bound bound).bind fun out later bound => ?_
      split
      · exact .pure bound
      · exact ih arena bound
    · next entry _ =>
      -- What becomes of the entry at hand is no business of the server.
      have kept := e.offer_kept entry parser arena
      rw [← kept.1, ← kept.2] at bound
      split
      · next offered =>
        rw [offered] at bound
        refine (touch_upholds (Bound.upkept _ _) world bound).bind fun _ later bound => ?_
        exact .pure bound
      · next offered =>
        rw [offered] at bound
        exact .pure bound
      · next offered =>
        rw [offered] at bound
        exact ih _ bound

theorem nextEntry_bound (patience : Nat) {world : World σ} {e : Enumeration}
    (bound : Bound past e.pending e.generation world) :
    Ends world (e.nextEntry patience) fun out later =>
      Bound past out.2.pending out.2.generation later := by
  induction patience generalizing world e with
  | zero =>
    intro result later ran
    cases ran
  | succ patience ih =>
    rw [nextEntry]
    split
    · exact .pure bound
    · refine (fetch_bound bound).bind fun out later bound => ?_
      split
      · exact ih bound
      · exact .pure bound
      · exact .pure bound

theorem stop_bound (tied : Tied (world.notes ++ past) e.pending e.generation world) :
    Ends world e.stop fun e' later => Bound past e'.pending e'.generation later := by
  refine (abandon_tied tied).bind ?_
  rintro _ later ⟨rfl, left, -⟩
  refine .bind_run (run_session later) ?_
  have bound := Bound.of_tied left
  dsimp only
  split
  · split
    · exact (close_upholds (Bound.upkept _ _) later bound).bind fun _ _ bound => .pure bound
    · exact .pure bound
  · exact .pure bound

end Enumeration

end NameService
