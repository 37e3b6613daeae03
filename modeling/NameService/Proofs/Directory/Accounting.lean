import NameService.Proofs.Directory.Ledger
import NameService.Proofs.Failover.Schedule

/-!
What a session keeps account of. Its fields are changed by a dozen actions, some of which fail
half-way; what they say together is true of every session at every step, whatever the world has done
by then.

## Main result

`run_accounted`: after every run, and at every moment of the request that follows it, the state, the
server at hand, the connection, the user names and the generation of a session agree with each other
and with all that has happened, and of all connections that were ever made only the one in hand has
not been given up.
-/

namespace NameService

open Engine World

namespace Session

/-- As long as the server at hand is one of those that are configured, to establish a connection is
    to try to connect to it. -/
theorem establish_tries {σ : Type} [Service σ] {world : World σ} (placed : world.session.Placed)
    (free : world.session.link = none) {loaded : Loaded}
    (configured : world.session.loaded = some loaded) :
    ∃ uri, loaded.config.uris[world.session.endpoint]? = some uri ∧
      Ends world (establish : Action σ Unit).run fun _ later =>
        (world.after (.connect (.ofConfig loaded.config uri))).history <:+ later.history := by
  have found := List.getElem?_eq_getElem (placed loaded configured)
  refine ⟨_, found, ?_⟩
  have ran := run_establish free configured
  rw [found] at ran
  dsimp only at ran
  split at ran
  · exact .of_run ran (List.suffix_refl _)
  · -- The server is told who is calling, and is told goodbye if it does not like that.
    split at ran
    · exact .of_run ran ⟨[_, _], rfl⟩
    · exact .of_run ran ⟨[_], rfl⟩

end Session

namespace Directory

/-- What a session has noted of a connection is what the world showed of it when the server accepted
    the caller there. -/
inductive Faithful (σ : Type) [Service σ] (trace : List Happening) (link : Link) : Prop
  | intro {before outside : σ} {name password : String} {stand : Stand} {look : Option Stand}
    (accepted : Service.answer (.bind link.connection name password) before = (.ok (), outside))
    (noted : .called ⟨.bind link.connection name password, .ok (), stand, look⟩ ∈ trace)
    (seen : stand.view = Service.view before)
    (socket : link.socket = Service.socket link.connection outside)
    (owner : link.owner = some (Service.processId outside))
    (user : link.user = some stand.view.effectiveUser)

/-- A user name that is remembered comes from an entry that was read on the connection. -/
def LearnedOn (trace : List Happening) (connection : Connection) (known : String × String) : Prop :=
  ∃ name event, known.1 = Text.fold name ∧ .called event ∈ trace ∧
    event.Teaches connection name known.2

/-- A server has accepted the caller. -/
def accepts : Happening → Bool
  | .called ⟨.bind _ _ _, .ok (), _, _⟩ => true
  | _ => false

/-- What a session remembers is what has happened. -/
structure Recorded (σ : Type) [Service σ] (trace : List Happening) (session : Session) : Prop where
  connected : session.state = .connected ↔ session.connection.isSome
  uninitialized : session.state = .uninitialized ↔ session.loaded = none
  placed : session.Placed
  blank : session.connection = none → session.uids = []
  bounded : session.uids.length ≤ Session.uidLimit
  learned : ∀ connection, session.connection = some connection → ∀ known ∈ session.uids,
    LearnedOn trace connection known
  faithful : ∀ link, session.held = some link → Faithful σ trace link
  timed : session.connection.isSome → session.lastActivity.isSome
  counted : session.generation = trace.countP accepts

section Additions

variable {σ : Type} [Service σ] {trace : List Happening} {entry : Happening}

theorem Faithful.cons {link : Link} (faithful : Faithful σ trace link) (entry : Happening) :
    Faithful σ (entry :: trace) link := by
  obtain ⟨accepted, noted, seen, socket, owner, user⟩ := faithful
  exact ⟨accepted, .tail _ noted, seen, socket, owner, user⟩

theorem LearnedOn.cons {connection : Connection} {known : String × String}
    (learned : LearnedOn trace connection known) (entry : Happening) :
    LearnedOn (entry :: trace) connection known := by
  obtain ⟨name, event, folded, member, teaches⟩ := learned
  exact ⟨name, event, folded, .tail _ member, teaches⟩

namespace Recorded

variable {session : Session}

theorem begin : Recorded σ [] {} where
  connected := by simp
  uninitialized := by simp
  placed := by simp [Session.Placed]
  blank _ := rfl
  bounded := Nat.zero_le _
  learned := by simp
  faithful := by simp
  timed := by simp
  counted := rfl

/-- All that is held may be used. -/
theorem bare_of_free (recorded : Recorded σ trace session) (free : session.link = none) :
    session.connection = none := by
  cases kept : session.connection with
  | none => rfl
  | some connection =>
    have connected := recorded.connected.mpr (by simp [kept])
    simp [Session.link, Session.held, connected, kept] at free

theorem configured (recorded : Recorded σ trace session) (held : session.held.isSome) :
    session.loaded.isSome := by
  rw [Session.isSome_held] at held
  rw [Option.isSome_iff_ne_none, ne_eq, ← recorded.uninitialized, recorded.connected.mpr held]
  exact nofun

/-- Whatever else happens is no news for the session. -/
theorem cons (recorded : Recorded σ trace session) (other : accepts entry = false) :
    Recorded σ (entry :: trace) session where
  connected := recorded.connected
  uninitialized := recorded.uninitialized
  placed := recorded.placed
  blank := recorded.blank
  bounded := recorded.bounded
  learned connection held known member :=
    (recorded.learned connection held known member).cons entry
  faithful link held := (recorded.faithful link held).cons entry
  timed := recorded.timed
  counted := by simp [other, recorded.counted]

/-- A session that was connected goes back to the state that it had before, and all others stay in
    theirs. -/
theorem dropLink (recorded : Recorded σ trace session) : Recorded σ trace session.dropLink where
  connected := by
    cases stood : session.state <;> simp [Session.dropLink, stood]
  uninitialized := by
    have before := recorded.uninitialized
    cases stood : session.state <;> simp [Session.dropLink, stood] at before ⊢ <;> exact before
  placed := recorded.placed
  blank _ := rfl
  bounded := Nat.zero_le _
  learned := by simp [Session.dropLink]
  faithful := by simp
  timed := by simp [Session.dropLink]
  counted := recorded.counted

/-- Without a connection there is nothing to be noted but the configuration. -/
theorem adopt (recorded : Recorded σ trace session) (bare : session.held = none) {loaded : Loaded}
    (some : loaded.config.uris ≠ []) : Recorded σ trace (session.adopt loaded) where
  connected := by
    have before := recorded.connected
    rw [Session.connection_eq_none_iff.mpr bare] at before
    cases stood : session.state <;>
      simp [Session.adopt, stood, Session.connection_eq_none_iff.mpr bare] at before ⊢
  uninitialized := by
    cases stood : session.state <;> simp [Session.adopt, stood]
  placed := by
    rintro _ ⟨⟩
    exact List.length_pos_iff.mpr some
  blank _ := rfl
  bounded := Nat.zero_le _
  learned := by simp [Session.adopt]
  faithful := by simp [bare]
  timed kept := by
    rw [← Session.isSome_held, Session.adopt_held, bare] at kept
    cases kept
  counted := recorded.counted

/-- A connection is held when a server has accepted the caller, and nothing is known on it yet. -/
theorem hold (recorded : Recorded σ trace session) (bare : session.connection = none)
    (configured : session.loaded.isSome) {link : Link} (accepted : accepts entry = true)
    (faithful : Faithful σ (entry :: trace) link) (timed : link.lastActivity.isSome) :
    Recorded σ (entry :: trace) (session.hold link) where
  connected := by simp [Session.hold]
  uninitialized := by
    have present : session.loaded ≠ none := Option.isSome_iff_ne_none.mp configured
    simp [Session.hold, present]
  placed := recorded.placed
  blank := by simp [Session.hold]
  bounded := recorded.bounded
  learned := by
    -- What was known without a connection is nothing.
    have blank : (session.hold link).uids = [] := recorded.blank bare
    simp [blank]
  faithful := by
    rintro _ ⟨⟩
    exact faithful
  timed _ := timed
  counted := by simp [Session.hold, accepted, recorded.counted]

theorem touch (recorded : Recorded σ trace session) (now : Nat) :
    Recorded σ trace (session.touch now) where
  connected := recorded.connected
  uninitialized := recorded.uninitialized
  placed := recorded.placed
  blank := recorded.blank
  bounded := recorded.bounded
  learned := recorded.learned
  faithful link held := by
    -- All that is noted of the connection but its last service stays as it is.
    rw [Session.touch_held] at held
    obtain ⟨noted, noting, rfl⟩ := Option.map_eq_some_iff.mp held
    obtain ⟨accepted, happened, seen, socket, owner, user⟩ := recorded.faithful noted noting
    exact ⟨accepted, happened, seen, socket, owner, user⟩
  timed _ := rfl
  counted := recorded.counted

theorem learn (recorded : Recorded σ trace session) {link : Link}
    (held : session.held = some link) {name uid : String} {event : Event}
    (happened : .called event ∈ trace) (teaches : event.Teaches link.connection name uid) :
    Recorded σ trace (session.learn name uid) where
  connected := recorded.connected
  uninitialized := recorded.uninitialized
  placed := recorded.placed
  blank bare := by
    have kept : session.connection = none := bare
    rw [Session.connection_of_held held] at kept
    cases kept
  bounded := by
    -- When there is no room for one more, all others are gone.
    have added := Pairs.length_insert_le (Text.fold name) uid
      (if Session.uidLimit ≤ session.uids.length then [] else session.uids)
    refine Nat.le_trans added ?_
    split
    · simp [Session.uidLimit]
    · omega
  learned other held' known member := by
    -- The pair is the new one, or was there before all were dropped to make room.
    obtain rfl : link.connection = other :=
      Option.some.inj ((Session.connection_of_held held).symm.trans held')
    rcases Pairs.mem_of_mem_insert member with rfl | earlier
    · exact ⟨name, event, rfl, happened, teaches⟩
    · split at earlier
      · cases earlier
      · exact recorded.learned _ (Session.connection_of_held held) known earlier
  faithful := recorded.faithful
  timed := recorded.timed
  counted := recorded.counted

theorem advance (recorded : Recorded σ trace session) : Recorded σ trace session.advance where
  connected := recorded.connected
  uninitialized := recorded.uninitialized
  placed := (Session.placed_lasting (σ := σ)).advance session recorded.placed
  blank := recorded.blank
  bounded := recorded.bounded
  learned := recorded.learned
  faithful := recorded.faithful
  timed := recorded.timed
  counted := recorded.counted

/-- Marks of a fork are kept apart from everything else. -/
theorem mark (recorded : Recorded σ trace session) (forked : Bool) :
    Recorded σ trace { session with forked } where
  connected := recorded.connected
  uninitialized := recorded.uninitialized
  placed := recorded.placed
  blank := recorded.blank
  bounded := recorded.bounded
  learned := recorded.learned
  faithful := recorded.faithful
  timed := recorded.timed
  counted := recorded.counted

variable {world later : World σ} {past : List Happening}

private theorem drop (recorded : Recorded σ (traced world past) world.session)
    {part : Connection → Call}
    (other : ∀ connection, accepts (happening world (part connection)) = false) :
    Recorded σ (traced (world.drop part) past) (world.drop part).session := by
  rw [drop_session]
  cases held : world.session.held with
  | none =>
    rw [traced_drop_bare world past held]
    exact recorded.dropLink
  | some link =>
    rw [traced_drop world past held]
    exact (recorded.cons (other _)).dropLink

private theorem made (recorded : Recorded σ (traced world past) world.session)
    (options : ConnectOptions) :
    Recorded σ (traced (world.connected options) past) (world.connected options).session :=
  recorded.cons rfl

/-- Every deed leaves what is remembered true. -/
theorem deed (step : Deed world later)
    (recorded : Recorded σ (traced world past) world.session) :
    Recorded σ (traced later past) later.session := by
  cases step with
  | read => exact recorded.cons rfl
  | adopt bare answered some modified =>
    have read : Recorded σ (traced (world.after .load) past) world.session := recorded.cons rfl
    exact read.adopt bare some
  | look => exact recorded
  | unbind => exact recorded.drop fun _ => rfl
  | disconnect => exact recorded.drop fun _ => rfl
  | forget => exact recorded.drop fun _ => rfl
  | clear => exact recorded.mark false
  | @query link held call query target =>
    -- A query is no bind, so no server accepts the caller by it.
    refine recorded.cons ?_
    cases call <;> first | rfl | cases query
  | abandon => exact recorded.cons rfl
  | refused => exact recorded.cons rfl
  | @rejected free options answered config error refused =>
    let made := world.connected options
    -- A server that has refused the caller is not counted.
    have refusing : accepts (happening made (made.greeting config)) = false := by
      simp only [happening, made, refused]
      rfl
    exact ((recorded.made options).cons refusing).cons rfl
  | @welcomed free configured options answered config accepted =>
    let made := world.connected options
    have happened : happening made (made.greeting config) =
        .called ⟨made.greeting config, .ok (), made.stand, made.look⟩ := by
      simp only [happening, made, accepted]
    have accepting : accepts (happening made (made.greeting config)) = true := by
      rw [happened]
      rfl
    have noted : .called ⟨made.greeting config, .ok (), made.stand, made.look⟩ ∈
        happening made (made.greeting config) :: traced made past := by
      rw [happened]
      exact .head _
    refine (recorded.made options).hold (recorded.bare_of_free free) configured accepting ?_ rfl
    exact .intro (Prod.ext accepted rfl) noted rfl rfl rfl rfl
  | sleep => exact recorded.cons rfl
  | touch now => exact recorded.touch now
  | advance => exact recorded.advance
  | visit => exact recorded
  | learn held taught =>
    obtain ⟨event, member, teaches⟩ := taught
    have happened : .called event ∈ traced world past :=
      List.mem_append_left _ (List.mem_map_of_mem member)
    exact recorded.learn (Session.held_of_link held) happened teaches

end Recorded

end Additions

variable {σ : Type} [Service σ]

/-- A session agrees with its past, and its connections are accounted for. -/
structure Accounted (trace : List Happening) (world : World σ) : Prop where
  connected : world.session.state = .connected ↔ world.session.connection.isSome
  uninitialized : world.session.state = .uninitialized ↔ world.session.loaded = none
  placed : ∀ loaded, world.session.loaded = some loaded →
    world.session.endpoint < loaded.config.uris.length
  /-- There is always a server, and to establish a connection is to try to connect to it. -/
  tries : ∀ loaded, world.session.loaded = some loaded → world.session.connection = none →
    ∃ uri, loaded.config.uris[world.session.endpoint]? = some uri ∧
      Ends world (Session.establish : Action σ Unit).run fun _ later =>
        (world.after (.connect (.ofConfig loaded.config uri))).history <:+ later.history
  /-- The socket, the owner and the user are those of the connection that is held. -/
  faithful : ∀ link, world.session.held = some link → Faithful σ trace link
  timed : world.session.state = .connected → world.session.lastActivity.isSome
  blank : world.session.state ≠ .connected → world.session.uids = []
  bounded : world.session.uids.length ≤ Session.uidLimit
  learned : ∀ connection, world.session.connection = some connection →
    ∀ known ∈ world.session.uids, LearnedOn trace connection known
  counted : world.session.generation = trace.countP accepts
  inHand : ∀ connection, world.session.connection = some connection →
    Opened trace connection ∧ releases trace connection = 0
  settled : ∀ connection, Opened trace connection →
    world.session.connection = some connection ∨ releases trace connection = 1
  alone : Always LeavesAlone trace
  single : ∀ one other, Opened trace one → Opened trace other →
    releases trace one = 0 → releases trace other = 0 → one = other

theorem Ledger.unreleased {trace : List Happening} {hand : Option Connection} {connections : Nat}
    (ledger : Ledger trace hand connections) {connection : Connection}
    (opened : Opened trace connection) (kept : releases trace connection = 0) :
    hand = some connection :=
  (ledger.settled connection opened).resolve_left (releases_eq_zero_iff.mp kept)

/-- What a session remembers and what has become of connections, kept together. -/
structure Books (σ : Type) [Service σ] (trace : List Happening) (session : Session)
    (connections : Nat) : Prop where
  recorded : Recorded σ trace session
  ledger : Ledger trace session.connection connections

theorem Books.deed {world later : World σ} (past : List Happening) (step : Deed world later)
    (books : Books σ (traced world past) world.session world.connections) :
    Books σ (traced later past) later.session later.connections :=
  ⟨books.recorded.deed step, books.ledger.deed step books.recorded.bare_of_free⟩

theorem Run.books {allowed : Request → Prop} {trace : List Happening} {world : World σ}
    {contexts : Contexts} (run : Run allowed trace world contexts) :
    Books σ trace world.session world.connections := by
  apply run.upheld
  case begin => exact ⟨.begin, .begin⟩
  case deed => exact Books.deed
  case coherent => exact fun books => books.recorded.configured
  case fork =>
    intro trace session connections books
    exact ⟨(books.recorded.cons rfl).mark true, books.ledger.around rfl⟩

theorem Books.accounted {trace : List Happening} {world : World σ}
    (books : Books σ trace world.session world.connections) : Accounted trace world := by
  obtain ⟨recorded, ledger⟩ := books
  refine
    { connected := recorded.connected
      uninitialized := recorded.uninitialized
      placed := recorded.placed
      tries := ?_
      faithful := recorded.faithful
      timed := fun connected => recorded.timed (recorded.connected.mp connected)
      blank := ?_
      bounded := recorded.bounded
      learned := recorded.learned
      counted := recorded.counted
      inHand := ?_
      settled := ?_
      alone := ledger.alone
      single := ?_ }
  · intro loaded configured bare
    have free := Session.link_of_bare (Session.connection_eq_none_iff.mp bare)
    exact Session.establish_tries recorded.placed free configured
  · intro apart
    have bare : world.session.connection = none := by simpa [recorded.connected] using apart
    exact recorded.blank bare
  · intro connection held
    obtain ⟨opened, kept⟩ := ledger.inHand connection held
    exact ⟨opened, releases_eq_zero_iff.mpr kept⟩
  · intro connection opened
    rcases ledger.settled connection opened with released | held
    · exact Or.inr (releases_eq_one ledger.alone released)
    · exact Or.inl held
  · intro one other opened opened' kept kept'
    -- Whatever was not given up is in hand, and there is one hand only.
    have first := ledger.unreleased opened kept
    have second := ledger.unreleased opened' kept'
    exact Option.some.inj (first.symm.trans second)

/-- A session never loses count of what it holds: not from one request to the next, and not in the
    middle of one. -/
theorem run_accounted {allowed : Request → Prop} {trace : List Happening} {world : World σ}
    {contexts : Contexts} (run : Run allowed trace world contexts) :
    Accounted trace world ∧
      ∀ later, Deeds world.fresh later → Accounted (traced later trace) later := by
  have books := run.books
  refine ⟨books.accounted, fun later deeds => ?_⟩
  -- What a request finds is what the run has left.
  have start : Books σ (traced world.fresh trace) world.fresh.session world.fresh.connections :=
    books
  have kept := deeds.keeps (fun step => Books.deed trace step) start
  exact kept.accounted

/-- The first server does not accept the caller. -/
def refusing : Nat → Call → Option Error
  | 2, .bind _ _ _ => some (.unavailable "busy")
  | _, _ => none

/-- A lookup that needs a second connection, a fork, and another lookup. -/
def lookups : List (Step (Frail Small.Outside refusing)) :=
  [.ask (.lookup Small.users (.ofValues "uid") (.fresh 0 16)), .fork,
    .ask (.lookup Small.users (.ofValues "uid") (.fresh 0 16))]

/-- One connection went back to the server at once, one was left to the other process. -/
theorem run_accounted_refused :
    ∃ (trace : List Happening) (world : World (Frail Small.Outside refusing)) (contexts : Contexts),
      Run (fun _ => True) trace world contexts ∧
      world.session.connection = some ⟨3⟩ ∧ world.session.generation = 2 ∧
      world.session.endpoint = 1 ∧
      trace.filterMap parting? = [.disconnect ⟨2⟩, .unbind ⟨1⟩] ∧
      Accounted trace world ∧
        ∀ later, Deeds world.fresh later → Accounted (traced later trace) later := by
  have ran : (replay lookups [] { outside := ⟨{}, 0⟩ } fun _ => {}).map (fun out =>
      (out.2.1.session.connection, out.2.1.session.generation, out.2.1.session.endpoint,
        out.1.filterMap parting?)) =
      some (some ⟨3⟩, 2, 1, [.disconnect ⟨2⟩, .unbind ⟨1⟩]) := by decide +kernel
  obtain ⟨⟨trace, world, contexts⟩, replayed, shown⟩ := Option.map_eq_some_iff.mp ran
  obtain ⟨hand, generation, endpoint, partings⟩ : _ ∧ _ ∧ _ ∧ _ := by simpa using shown
  have begun : Run (fun _ => True) []
      ({ outside := ⟨{}, 0⟩ } : World (Frail Small.Outside refusing)) fun _ => {} :=
    .begin _
  have run := begun.of_replay (fun _ _ => trivial) replayed
  exact ⟨trace, world, contexts, run, hand, generation, endpoint, partings, run_accounted run⟩

end Directory

end NameService
