import NameService.Proofs.Directory.Trace
import NameService.Proofs.Engine.Host
import NameService.Proofs.Enumeration.Faults

/-!
What the statuses of a directory say. A status is made of an error without regard to the call that
has failed with it. So a result code by which servers say that a search was cut short is told as a
success, and one by which they say that nothing matches is told as such, whatever it was that could
not be done.

## Main results

- `status_success_iff`: a success is a record, or the code of an answer where there was none.
- `lookup_notFound_iff`: what was not found was searched for on a bound connection, or there was no
  server that would have done so.
-/

namespace NameService

theorem Error.status_eq_success_iff {error : Error} :
    error.status = .success ↔
      ∃ code ∈ ResultCode.answered, ∃ reason, error = .directory code reason := by
  cases error with
  | directory code reason =>
    simp only [status, ResultCode.status, directory.injEq]
    constructor
    · intro told
      split at told
      · next answered => exact ⟨code, answered, reason, rfl, rfl⟩
      · split at told <;> cases told
    · rintro ⟨_, answered, _, rfl, rfl⟩
      simp [answered]
  | _ => simp [status]

namespace Directory

open Engine World

section Success

variable {σ α : Type}

/-- A call has failed with the result code of a search that was answered. -/
def Misread (world : World σ) : Prop :=
  ∃ code ∈ ResultCode.answered, ∃ reason, world.Faulted (.directory code reason)

theorem ofResult_eq_success_iff {given : α → List Event → Prop} {result : Except Error α}
    {later : World σ} (accounts : Accounts Error.IsTold given result later) :
    Status.ofResult result = .success ↔
      (∃ a, result = .ok a ∧ given a later.history) ∨ Misread later := by
  constructor
  · intro success
    cases result with
    | ok a => exact .inl ⟨a, rfl, accounts.given a rfl⟩
    | error error =>
      have status : error.status = .success := success
      obtain ⟨code, answered, reason, rfl⟩ := Error.status_eq_success_iff.mp status
      -- An error of the directory's own is never told as a success.
      rcases accounts.told _ rfl with own | faulted
      · exact absurd status own
      · exact .inr ⟨code, answered, reason, faulted⟩
  · rintro (⟨a, rfl, -⟩ | ⟨code, answered, reason, faulted⟩)
    · rfl
    · have status : (Error.directory code reason).status = .success :=
        Error.status_eq_success_iff.mpr ⟨code, answered, reason, rfl⟩
      rcases accounts.heeded _ faulted with harmless | rfl
      · simp [Error.isUnavailable, status] at harmless
      · exact status

variable [Service σ]

theorem lookup_accounts {ρ : Type} (question : Lookup) (parser : RecordParser ρ) (arena : Arena)
    {world : World σ} (fresh : world.history = []) :
    ∃ size result later, lookup question parser arena world =
        some ((.ofResult (question.read parser arena result).result, size,
          question.read parser arena result), later) ∧
      Accounts question.Own Given result later ∧ OnlySearches later.history := by
  obtain ⟨reading, result, later, ran, read, accounts⟩ := question.one_accounts parser arena fresh
  refine ⟨reading.size, result, later, ?told, accounts⟩
  case told =>
    rw [lookup, run_bind, ran, ← read, Reading.ofResult_record]
    rfl

/-- A success is a record that the parser has read in the call, or the error of a call with the code
    of an answer. -/
theorem status_success_iff (world : World σ) :
    (∀ {ρ : Type} (question : Lookup) (parser : RecordParser ρ) (arena : Arena),
      ∃ status size reading later,
        lookup question parser arena { world with history := [] } =
          some ((status, size, reading), later) ∧
        (status = .success ↔
          (∃ record, reading.result = .ok record ∧ Delivered parser
            (fun entry history => ∃ entries, Given entries history ∧ entry ∈ entries)
            record later.history) ∨ Misread later)) ∧
    ∀ {ρ : Type} (patience : Nat) (parser : RecordParser ρ) (e : Enumeration) (arena : Arena)
      (status : Status) (reading : Reading ρ) (e' : Enumeration) (later : World σ),
      enumerateNext patience parser e arena { world with history := [] } =
        some ((status, reading, e'), later) →
      (status = .success ↔
        (∃ record, reading.result = .ok record ∧ Delivered parser
          (fun entry history => e.entry = some entry ∨ Received entry history)
          record later.history) ∨ Misread later) := by
  -- Both parts begin with an empty record, so that whatever is on it afterwards is of this call.
  have fresh : ({ world with history := [] } : World σ).history = [] := rfl
  constructor
  · intro ρ question parser arena
    obtain ⟨size, result, later, ran, accounts, -⟩ := lookup_accounts question parser arena fresh
    have reads := Lookup.read_accounts parser arena accounts
    exact ⟨_, size, _, later, ran, ofResult_eq_success_iff reads⟩
  · intro ρ patience parser e arena status reading e' later ran
    have ends := Enumeration.next_accounts parser
      (fun entry history => e.entry = some entry ∨ Received entry history) (fun _ _ => .inr)
      patience e arena (unhurt_of_nil fresh) fun _ => .inl
    rw [enumerateNext, run_bind] at ran
    obtain ⟨⟨⟨reading, e⟩, last⟩, read, told⟩ := Option.bind_eq_some_iff.mp ran
    cases told
    exact ofResult_eq_success_iff (ends _ _ read)

end Success

/-- A parser that gives the user name of an entry, and one that has nothing to give. -/
def named : RecordParser String := fun entry position arena =>
  ⟨.ok (entry.first? "uid"), position, arena⟩

def deaf : RecordParser Empty := fun _ position arena => ⟨.ok none, position, arena⟩

theorem not_faulted {σ : Type} {world : World σ}
    (spared : world.history.filterMap Event.fault? = []) (error : Error) :
    ¬ world.Faulted error := by
  rintro ⟨event, member, failed⟩
  have among : error ∈ world.history.filterMap Event.fault? :=
    List.mem_filterMap.mpr ⟨event, member, failed⟩
  rw [spared] at among
  cases among

theorem not_misread {σ : Type} {world : World σ}
    (spared : world.history.filterMap Event.fault? = []) : ¬ Misread world := by
  rintro ⟨code, -, reason, faulted⟩
  exact not_faulted spared _ faulted

/-- A directory of one user. -/
def onlyAnn (_ : Search) : Reply := ⟨[some Small.ann], 0, "", none⟩

/-- Where nothing fails the user is found, by a question and by an enumeration. -/
theorem status_success_ann :
    let world : World (Host Small.config onlyAnn) := { outside := {} }
    (∃ size reading later,
      lookup Small.users named (.fresh 0 16) world = some ((.success, size, reading), later) ∧
        ∃ record, reading.result = .ok record ∧ Delivered named
          (fun entry history => ∃ entries, Given entries history ∧ entry ∈ entries)
          record later.history) ∧
    ∃ status e begun reading e' later,
      enumerateStart Small.users {} world = some ((status, e), begun) ∧
      enumerateNext 8 named e (.fresh 0 16) { begun with history := [] } =
          some ((.success, reading, e'), later) ∧
        ∃ record, reading.result = .ok record ∧ Delivered named
          (fun entry history => e.entry = some entry ∨ Received entry history)
          record later.history := by
  intro world
  constructor
  · obtain ⟨status, size, reading, later, ran, told⟩ :=
      (status_success_iff world).1 Small.users named (.fresh 0 16)
    -- No fault is on record, which leaves the entry as the only reason for the success.
    have ended : (lookup Small.users named (.fresh 0 16) world).map (fun out =>
        (out.1.1, out.2.history.filterMap Event.fault?)) = some (.success, []) := by
      decide +kernel
    have ran : lookup Small.users named (.fresh 0 16) world =
        some ((status, size, reading), later) := ran
    simp only [ran, Option.map_some, Option.some.injEq, Prod.mk.injEq] at ended
    obtain ⟨rfl, spared⟩ := ended
    exact ⟨size, reading, later, ran, (told.mp rfl).resolve_right (not_misread spared)⟩
  · have ended : ((enumerateStart Small.users {} world).bind fun out =>
        (enumerateNext 8 named out.1.2 (.fresh 0 16) { out.2 with history := [] }).map fun last =>
          (last.1.1, last.2.history.filterMap Event.fault?)) = some (.success, []) := by
      decide +kernel
    obtain ⟨⟨⟨status, e⟩, begun⟩, started, went⟩ := Option.bind_eq_some_iff.mp ended
    obtain ⟨⟨⟨told, reading, e'⟩, later⟩, ran, last⟩ := Option.map_eq_some_iff.mp went
    simp only [Prod.mk.injEq] at last
    obtain ⟨rfl, spared⟩ := last
    have iff := (status_success_iff begun).2 8 named e (.fresh 0 16) .success reading e' later ran
    exact ⟨status, e, begun, reading, e', later, started, ran,
      (iff.mp rfl).resolve_right (not_misread spared)⟩

/-- Servers that run out of time when they are told who is calling, and of room when they are to
    send the next entry. -/
def outOfTime (_ : Nat) : Call → Option Error
  | .bind _ _ _ => some (.directory 3 "time limit exceeded")
  | _ => none

def outOfRoom (_ : Nat) : Call → Option Error
  | .next _ _ => some (.directory 4 "size limit exceeded")
  | _ => none

/-- There is no record that could have been given. -/
theorem status_success_without_record :
    (∃ reading later, lookup Small.users deaf (.fresh 0 16)
        ({ outside := ⟨{}, 0⟩ } : World (Frail Small.Outside outOfTime)) =
      some ((.success, 0, reading), later)) ∧
    ∃ status e begun reading e' later,
      enumerateStart Small.users {}
          ({ outside := ⟨{}, 0⟩ } : World (Frail Small.Outside outOfRoom)) =
        some ((status, e), begun) ∧
      enumerateNext 8 deaf e (.fresh 0 16) { begun with history := [] } =
        some ((.success, reading, e'), later) := by
  constructor
  · have ended : (lookup Small.users deaf (.fresh 0 16)
        ({ outside := ⟨{}, 0⟩ } : World (Frail Small.Outside outOfTime))).map
          (fun out => (out.1.1, out.1.2.1)) = some (.success, 0) := by
      decide +kernel
    obtain ⟨⟨⟨status, size, reading⟩, later⟩, ran, told⟩ := Option.map_eq_some_iff.mp ended
    cases told
    exact ⟨reading, later, ran⟩
  · have ended : ((enumerateStart Small.users {}
        ({ outside := ⟨{}, 0⟩ } : World (Frail Small.Outside outOfRoom))).bind fun out =>
        (enumerateNext 8 deaf out.1.2 (.fresh 0 16) { out.2 with history := [] }).map
          (·.1.1)) = some .success := by
      decide +kernel
    obtain ⟨⟨⟨status, e⟩, begun⟩, started, went⟩ := Option.bind_eq_some_iff.mp ended
    obtain ⟨⟨⟨told, reading, e'⟩, later⟩, ran, last⟩ := Option.map_eq_some_iff.mp went
    cases last
    exact ⟨status, e, begun, reading, e', later, started, ran⟩

/-! ### Connections that have been bound -/

/-- A server has accepted a caller on this connection. -/
def Accepted (trace : List Happening) (connection : Connection) : Prop :=
  ∃ name password stand look,
    .called ⟨.bind connection name password, .ok (), stand, look⟩ ∈ trace

def QueriesBound : Happening → List Happening → Prop
  | .called event, past => event.call.isQuery →
    ∃ connection, event.call.connection? = some connection ∧ Accepted past connection
  | .forked _, _ => True

theorem Accepted.cons {trace : List Happening} {connection : Connection} (entry : Happening)
    (accepted : Accepted trace connection) : Accepted (entry :: trace) connection := by
  obtain ⟨name, password, stand, look, member⟩ := accepted
  exact ⟨name, password, stand, look, .tail _ member⟩

/-- What a session holds has been bound, and nothing has been asked on any other connection. -/
structure Greeted (trace : List Happening) (session : Session) : Prop where
  bound : Always QueriesBound trace
  accepted : ∀ link, session.held = some link → Accepted trace link.connection

variable {σ : Type} [Service σ] {world : World σ} {past : List Happening}

namespace Greeted

theorem of_bare {trace : List Happening} {session : Session} (bound : Always QueriesBound trace)
    (bare : session.held = none) : Greeted trace session :=
  ⟨bound, by simp [bare]⟩

theorem cons {trace : List Happening} {session : Session} (greeted : Greeted trace session)
    {entry : Happening} (bound : QueriesBound entry trace) : Greeted (entry :: trace) session :=
  ⟨⟨bound, greeted.bound⟩, fun link held => (greeted.accepted link held).cons entry⟩

theorem after (greeted : Greeted (traced world past) world.session) (call : Call)
    (quiet : call.isQuery = false) :
    Greeted (traced (world.after call) past) (world.after call).session :=
  greeted.cons (by simp [QueriesBound, quiet])

theorem connected (greeted : Greeted (traced world past) world.session)
    (options : ConnectOptions) :
    Greeted (traced (world.connected options) past) (world.connected options).session :=
  greeted.after (.connect options) rfl

theorem welcomed (greeted : Greeted (traced world past) world.session) {config : Config}
    (accepted : world.answer (world.greeting config) = .ok ()) :
    Greeted (traced (world.welcomed config) past) (world.welcomed config).session := by
  have told : happening world (world.greeting config) =
      .called ⟨world.greeting config, .ok (), world.stand, world.look⟩ := by
    rw [happening, accepted]
  refine ⟨(greeted.after (world.greeting config) rfl).bound, ?_⟩
  rintro link ⟨⟩
  rw [traced_welcomed, told]
  exact ⟨_, _, _, _, .head _⟩

theorem drop (greeted : Greeted (traced world past) world.session) {part : Connection → Call}
    (quiet : ∀ connection, (part connection).isQuery = false) :
    Greeted (traced (world.drop part) past) (world.drop part).session := by
  refine of_bare ?_ (by simp)
  cases held : world.session.held with
  | none =>
    rw [traced_drop_bare world past held]
    exact greeted.bound
  | some link =>
    rw [traced_drop world past held]
    exact (greeted.after _ (quiet link.connection)).bound

theorem move {later : World σ} (move : Move world later)
    (greeted : Greeted (traced world past) world.session) :
    Greeted (traced later past) later.session := by
  cases move with
  | read => exact greeted.after _ rfl
  | adopt bare => exact of_bare greeted.bound bare
  | look | visit => exact greeted
  | forget => exact greeted.drop fun _ => rfl
  | disconnect => exact greeted.drop fun _ => rfl
  | clear => exact ⟨greeted.bound, greeted.accepted⟩
  | unbind => exact greeted.drop fun _ => rfl
  | abandon => exact greeted.after _ rfl
  | query ready held query target =>
    exact greeted.cons fun _ => ⟨_, target, greeted.accepted _ (Session.held_of_link held)⟩
  | refused => exact greeted.after _ rfl
  | rejected => exact ((greeted.connected _).after _ rfl).after _ rfl
  -- The one move after which another connection is held.
  | welcomed _ configured answered accepted => exact (greeted.connected _).welcomed accepted
  | sleep => exact greeted.after _ rfl
  | tend alike =>
    refine ⟨greeted.bound, fun link' held' => ?_⟩
    obtain ⟨link, held, connection, -⟩ := alike.held link' held'
    exact connection ▸ greeted.accepted link held

end Greeted

/-- Nothing is ever asked on a connection that has not been bound. -/
theorem run_greeted (keeps : Service.KeepsProcess σ) {allowed : Request → Prop}
    {trace : List Happening} {contexts : Contexts} (run : Run allowed trace world contexts) :
    Greeted trace world.session := by
  refine (run.invariant keeps (fun trace session _ => Greeted trace session)
    (Greeted.of_bare trivial rfl) ?_ ?_ ?_).2
  · exact fun past step greeted => greeted.move step
  · exact fun _ world past greeted => greeted.drop fun _ => rfl
  · intro trace session connections greeted
    have told : Greeted (.forked session :: trace) session := greeted.cons trivial
    exact ⟨told.bound, told.accepted⟩

/-! ### What was not found -/

omit [Service σ] in
/-- A result that accounts for whole searches is told as not found if a call other than a search has
    failed with such an error, or if all that a search has given is passed over. -/
theorem ofResult_eq_notFound_iff {question : Lookup} {filter : String}
    (rendered : Filter.render question.template question.args = .ok filter) {ρ : Type}
    (parser : RecordParser ρ) (arena : Arena) {result : Except Error (List Entry)}
    {later : World σ} (accounts : Accounts question.Own Given result later)
    (searches : OnlySearches later.history) :
    Status.ofResult (question.read parser arena result).result = .notFound ↔
      (∃ event ∈ later.history, event.call.isQuery = false ∧
        ∃ error, event.fault? = some error ∧ error.status = .notFound) ∨
      ∃ entries, Given entries later.history ∧
        question.read parser arena result = question.read parser arena (.ok entries) ∧
        (question.read parser arena result).result = .error question.unanswered := by
  constructor
  · intro missing
    cases result with
    | error error =>
      have status : error.status = .notFound := missing
      rcases accounts.told _ rfl with (lost | failed) | ⟨event, member, failed⟩
      · simp [Error.isUnavailable, status] at lost
      · rw [rendered] at failed
        cases failed
      · refine .inl ⟨event, member, ?_, error, failed, status⟩
        -- A search that is told that nothing matches has not failed.
        by_contra query
        obtain ⟨connection, search, asked⟩ := searches event member (by simpa using query)
        exact Event.status_of_fault asked failed status
    | ok entries =>
      refine .inr ⟨entries, accounts.given entries rfl, rfl, ?_⟩
      cases read : (question.read parser arena (.ok entries)).result with
      | ok record =>
        rw [read] at missing
        cases missing
      | error error =>
        rw [read] at missing
        have status : error.status = .notFound := missing
        rcases RecordParser.error_of_first read with rfl | full
        · rfl
        · rw [full] at status
          cases status
  · rintro (⟨event, member, -, error, failed, status⟩ | ⟨entries, -, -, unanswered⟩)
    · rcases accounts.heeded error ⟨event, member, failed⟩ with lost | rfl
      · simp [Error.isUnavailable, status] at lost
      · exact status
    · rw [unanswered]
      rfl

/-- In a call on a session with any past, what is told as not found was searched for, and all
    entries that a search gave were passed over; or a call other than a search has failed with an
    error that says so. All that the call asked was asked on a connection that had been bound. -/
theorem lookup_notFound_iff {contexts : Contexts} (run : Run (fun _ => True) past world contexts)
    {ρ : Type} (question : Lookup) {filter : String}
    (rendered : Filter.render question.template question.args = .ok filter)
    (parser : RecordParser ρ) (arena : Arena) :
    ∃ status size reading later,
      lookup question parser arena { world with history := [], look := none } =
        some ((status, size, reading), later) ∧
      (status = .notFound ↔
        (∃ event ∈ later.history, event.call.isQuery = false ∧
          ∃ error, event.fault? = some error ∧ error.status = .notFound) ∨
        ∃ entries, Given entries later.history ∧
          reading = question.read parser arena (.ok entries) ∧
          reading.result = .error question.unanswered) ∧
      (Service.KeepsProcess σ → Always QueriesBound (traced later past)) := by
  have fresh : ({ world with history := [], look := none } : World σ).history = [] := rfl
  obtain ⟨size, result, later, ran, accounts, searches⟩ :=
    lookup_accounts question parser arena fresh
  refine ⟨_, size, _, later, ran, ?_, fun keeps => ?_⟩
  · exact ofResult_eq_notFound_iff rendered parser arena accounts searches
  · have served : (Request.lookup question parser arena).serve contexts
        { world with history := [], look := none } = some (contexts, later) := by
      simp [Request.serve, ran]
    exact (run_greeted keeps (run.ask trivial served)).bound

/-- The first part of the tree has an entry that is no user's, and all was asked on one connection
    that had been bound. -/
theorem lookup_notFound_door :
    let world : World Small.Outside := { outside := {} }
    Service.KeepsProcess Small.Outside ∧
      Filter.render Small.users.template Small.users.args = .ok "(uid=*)" ∧
      ∃ size reading later,
        lookup Small.users named (.fresh 0 16) world =
          some ((.notFound, size, reading), later) ∧
        (∃ entries, Given entries later.history ∧
          reading = Small.users.read named (.fresh 0 16) (.ok entries)) ∧
        Always QueriesBound (traced later []) := by
  intro world
  have rendered : Filter.render Small.users.template Small.users.args = .ok "(uid=*)" := by
    decide +kernel
  have begun : Run (fun _ => True) [] world fun _ => {} := .begin _
  obtain ⟨status, size, reading, later, ran, told, bound⟩ :=
    lookup_notFound_iff begun Small.users rendered named (.fresh 0 16)
  have ended : (lookup Small.users named (.fresh 0 16) world).map (fun out =>
      (out.1.1, out.2.history.filterMap Event.fault?)) = some (.notFound, []) := by
    decide +kernel
  have ran : lookup Small.users named (.fresh 0 16) world =
      some ((status, size, reading), later) := ran
  simp only [ran, Option.map_some, Option.some.injEq, Prod.mk.injEq] at ended
  obtain ⟨rfl, spared⟩ := ended
  have keeps : Service.KeepsProcess Small.Outside := Host.still.keepsProcess
  refine ⟨keeps, rendered, size, reading, later, ran, ?_, bound keeps⟩
  -- No call has failed, so it is the entries that are to blame.
  rcases told.mp rfl with ⟨event, member, -, error, failed, -⟩ | ⟨entries, given, read, -⟩
  · exact absurd ⟨event, member, failed⟩ (not_faulted spared error)
  · exact ⟨entries, given, read⟩

/-- A name that servers do not take for one. -/
def misnamed (_ : Nat) : Call → Option Error
  | .bind _ _ _ => some (.directory 34 "invalid DN syntax")
  | _ => none

/-- Nothing has been asked of any server. -/
theorem lookup_notFound_unasked :
    ∃ size reading later, lookup Small.users named (.fresh 0 16)
        ({ outside := ⟨{}, 0⟩ } : World (Frail Small.Outside misnamed)) =
      some ((.notFound, size, reading), later) ∧
      ∀ event ∈ later.history, event.call.isQuery = false := by
  have ended : (lookup Small.users named (.fresh 0 16)
      ({ outside := ⟨{}, 0⟩ } : World (Frail Small.Outside misnamed))).map (fun out =>
        (out.1.1, out.2.history.all fun event => !event.call.isQuery)) =
      some (.notFound, true) := by
    decide +kernel
  obtain ⟨⟨⟨status, size, reading⟩, later⟩, ran, told⟩ := Option.map_eq_some_iff.mp ended
  simp only [Prod.mk.injEq] at told
  obtain ⟨rfl, unasked⟩ := told
  exact ⟨size, reading, later, ran, by simpa using unasked⟩

end Directory

end NameService
