import NameService.Proofs.Enumeration.Source
import NameService.Proofs.Session.Calm
import NameService.Proofs.Session.Fitness
import Mathlib.Logic.Function.Basic

/-!
A host on which nothing goes wrong while a call is answered. Its servers take every connection and
have a reply to every search; what it shows of itself changes only between requests.
-/

namespace NameService

/-- A call changes nothing that can be seen of the world. -/
def Service.Still (σ : Type) [Service σ] : Prop :=
  ∀ (call : Call) (outside : σ), view (answer call outside).2 = view outside

namespace Service.Still

variable {σ : Type} [Service σ]

theorem keepsProcess (still : Still σ) : KeepsProcess σ := fun call outside =>
  congrArg View.processId (still call outside)

theorem steady (still : Still σ) : Steady σ where
  process := still.keepsProcess
  user call outside := congrArg View.effectiveUser (still call outside)
  modified call outside := congrArg View.modified (still call outside)

/-- On a calm host it stays quiet. -/
theorem quiet (still : Still σ) : ∀ {queries : Nat} {world : World σ}, world.Calm →
    World.Quiet queries world
  | 0, _, calm => calm
  | _ + 1, world, calm =>
    ⟨calm, fun call _ _ => still.quiet (calm.of_view rfl (still call world.outside))⟩

end Service.Still

structure Host (config : Config) (reply : Search → Reply) where
  process : Nat := 1
  user : Nat := 0
  clock : Nat := 0
  modified : Option Nat := none
  /-- How many searches have been started. -/
  started : Nat := 0
  /-- What is still to be received of their answers. -/
  queue : MessageId → List Message := fun _ => []

namespace Host

variable {config : Config} {reply : Search → Reply}

/-- The host accepts a search, under the next number. -/
def accept (host : Host config reply) (search : Search) : Host config reply :=
  { host with
    started := host.started + 1
    queue := Function.update host.queue ⟨host.started⟩ (reply search).stream }

/-- The next message of an answer, if there is one. -/
def send (host : Host config reply) (id : MessageId) :
    Except Error Message × Host config reply :=
  match host.queue id with
  | message :: rest => (.ok message, { host with queue := Function.update host.queue id rest })
  | [] => (.error (.unavailable "no such search"), host)

instance : Service (Host config reply) where
  answer
    | .load, host => (.ok config, host)
    | .connect _, host | .bind _ _ _, host | .abandon _ _, host | .unbind _, host => (.ok (), host)
    | .search _ search, host => (.ok (reply search).messages.reduceOption, host)
    | .start _ search, host => (.ok ⟨host.started⟩, host.accept search)
    | .next _ id, host => host.send id
    | .disconnect _, host | .forget _, host | .sleep _, host => ((), host)
  processId := process
  effectiveUser := user
  clock := clock
  isSoft _ := false
  socket _ _ := none
  isClosed _ _ := false
  modified := modified

theorem still : Service.Still (Host config reply) := by
  intro call host
  cases call with
  | next connection id =>
    change Service.view (host.send id).2 = Service.view host
    unfold send
    split <;> rfl
  | _ => rfl

/-- The host answers searches as it should, on every connection. -/
def script : Script (Host config reply) reply where
  queue _ id host := host.queue id
  serves _ _ := True
  started := by
    rintro connection search host _ ⟨⟩
    exact ⟨Function.update_self _ _ _, trivial⟩
  starts := fun {_ host} _ _ => ⟨⟨host.started⟩, rfl⟩
  sends := by
    intro connection id message rest host _ queued
    have sent : host.send id =
        (.ok message, { host with queue := Function.update host.queue id rest }) := by
      simp only [send, queued]
    change (host.send id).1 = .ok message ∧ (host.send id).2.queue id = rest ∧ True
    rw [sent]
    exact ⟨rfl, Function.update_self _ _ _, trivial⟩

end Host

/-! ## Failing calls -/

/-- The answer by which a call fails. Some calls cannot fail. -/
def Call.failure? (error : Error) : (call : Call) → Option call.Answer
  | .connect _ | .bind _ _ _ | .search _ _ | .start _ _ | .next _ _ => some (.error error)
  | _ => none

/-- A host on which some calls fail. What fails has no effect. -/
structure Frail (σ : Type) (failing : Nat → Call → Option Error) where
  host : σ
  /-- How many calls there have been. -/
  calls : Nat := 0

/-- The connection is reset by one call; the first of all calls has the number zero. -/
def resetAt (number calls : Nat) (_ : Call) : Option Error :=
  if calls = number then some (.unavailable "connection reset") else none

namespace Frail

variable {σ : Type} [Service σ] {failing : Nat → Call → Option Error}

instance : Service (Frail σ failing) where
  answer call frail :=
    match (failing frail.calls call).bind fun error => call.failure? error with
    | some answer => (answer, { frail with calls := frail.calls + 1 })
    | none =>
      let (answer, host) := Service.answer call frail.host
      (answer, ⟨host, frail.calls + 1⟩)
  processId frail := Service.processId frail.host
  effectiveUser frail := Service.effectiveUser frail.host
  clock frail := Service.clock frail.host
  isSoft frail := Service.isSoft frail.host
  socket connection frail := Service.socket connection frail.host
  isClosed connection frail := Service.isClosed connection frail.host
  modified frail := Service.modified frail.host

theorem still (still : Service.Still σ) : Service.Still (Frail σ failing) := by
  intro call frail
  change Service.view (match (failing frail.calls call).bind fun error => call.failure? error with
    | some answer => (answer, { frail with calls := frail.calls + 1 })
    | none => _).2 = Service.view frail
  split
  · rfl
  · exact still call frail.host

theorem answer_of_spared {frail : Frail σ failing} {call : Call}
    (spared : failing frail.calls call = none) :
    Service.answer call frail = ((Service.answer call frail.host).1,
      ⟨(Service.answer call frail.host).2, frail.calls + 1⟩) := by
  change (match (failing frail.calls call).bind fun error => call.failure? error with
    | some answer => (answer, { frail with calls := frail.calls + 1 })
    | none => _) = _
  rw [spared]
  rfl

/-- A call that fails does not reach the host. -/
theorem answer_of_failed {frail : Frail σ failing} {call : Call} {error : Error}
    {answer : call.Answer} (fails : failing frail.calls call = some error)
    (told : call.failure? error = some answer) :
    Service.answer call frail = (answer, { frail with calls := frail.calls + 1 }) := by
  change (match (failing frail.calls call).bind fun error => call.failure? error with
    | some answer => (answer, { frail with calls := frail.calls + 1 })
    | none => _) = _
  rw [fails, Option.bind_some, told]

/-- Answers that come message by message come as before, if what they need does not fail. -/
def script {reply : Search → Reply} (script : Script σ reply)
    (starts : ∀ calls connection search, failing calls (.start connection search) = none)
    (sends : ∀ calls connection id, failing calls (.next connection id) = none) :
    Script (Frail σ failing) reply where
  queue connection id frail := script.queue connection id frail.host
  serves connection frail := script.serves connection frail.host
  started := by
    intro connection search frail id accepted
    rw [answer_of_spared (starts _ _ _)] at accepted ⊢
    exact script.started accepted
  starts := by
    intro connection frail serves search
    rw [answer_of_spared (starts _ _ _)]
    exact script.starts serves search
  sends := by
    intro connection id message rest frail serves queued
    rw [answer_of_spared (sends _ _ _)]
    exact script.sends serves queued

end Frail

/-! ## Sockets -/

/-- A host that shows one socket under all connections, and lets the application close it or put it
    to other use. -/
structure Exposed (σ : Type) where
  host : σ
  socket : Option Socket := none
  isClosed : Bool := false

instance {σ : Type} [Service σ] : Service (Exposed σ) where
  answer call exposed :=
    let (answer, host) := Service.answer call exposed.host
    (answer, { exposed with host })
  processId exposed := Service.processId exposed.host
  effectiveUser exposed := Service.effectiveUser exposed.host
  clock exposed := Service.clock exposed.host
  isSoft exposed := Service.isSoft exposed.host
  socket _ exposed := exposed.socket
  isClosed _ exposed := exposed.isClosed
  modified exposed := Service.modified exposed.host

/-! ## A small directory -/

namespace Small

/-- The users are in two parts of the tree. -/
def config : Config where
  uris := ["ldap://one", "ldap://two"]
  base := "dc=small"
  flags := { pagedResults := true }
  searchDescriptors :=
    [(.passwd, [{ base := "ou=staff," }, { base := "ou=guests,", scope := some .oneLevel }])]

def ann : Entry := ⟨"cn=ann,ou=staff,dc=small", [("uid", ["ann", "anna"])]⟩

def door : Entry := ⟨"cn=door,ou=staff,dc=small", []⟩

def bob : Entry := ⟨"cn=bob,ou=guests,dc=small", [("uid", ["bob"])]⟩

/-- The first part comes on three pages, of which the second is empty. -/
def reply (search : Search) : Reply :=
  match search.scope, search.page.map Page.cookie with
  | .subtree, some [] => ⟨[none, some ann], 0, "", some [1]⟩
  | .subtree, some [1] => ⟨[], 0, "", some [2]⟩
  | .subtree, _ => ⟨[some door], 0, "", some []⟩
  | _, _ => ⟨[some bob], 0, "", none⟩

def parts : List (List (List (Option Entry))) :=
  [[[none, some ann], [], [some door]], [[some bob]]]

def users : Lookup := { database := .passwd, template := "(uid=*)", attributes := ["uid"] }

abbrev Outside := Host config reply

theorem answers : users.Answers config reply parts := by
  have targets : users.targets config =
      [⟨"ou=staff,dc=small", .subtree, none⟩, ⟨"ou=guests,dc=small", .oneLevel, none⟩] := by
    decide +kernel
  have settled (reason : String) (cookie : Option (List UInt8)) :
      Done.IsSettled ⟨0, reason, cookie⟩ := Or.inl rfl
  unfold Lookup.Answers
  rw [targets]
  refine .cons ?_ (.cons ?_ .nil)
  · rintro search ⟨⟩
    exact .more (settled _ _) rfl (.more (settled _ _) rfl (.last (settled _ _) rfl))
  · rintro search ⟨⟩
    exact .last (settled _ _) rfl

end Small

end NameService
