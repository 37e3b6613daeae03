import NameService.Proofs.Directory.Ledger
import NameService.Proofs.Engine.Host
import NameService.Proofs.Enumeration.Dialogue
import NameService.Proofs.Lookup.Asking

/-!
Runs of a directory request by request. A chronicle keeps apart what was said for each receiver of
messages: for each context of an enumeration, and for each expansion, which has an enumeration of
its own. They share one session, and any of them, or a question, may bring it to another connection
while a search of another is in progress.

## Main result

`Chronicle.messages_apt`: every search goes on where it was started, in every run; and a search is
abandoned exactly when it is left while its connection is in hand.
-/

namespace NameService

open Engine World Note

variable {σ : Type} [Service σ]

section Beginning

variable {notes past : List Note} {pending : Option MessageId} {generation : Nat} {world : World σ}

omit [Service σ] in
theorem Tied.begin (tied : Tied notes pending generation world) :
    Tied (.begun :: notes) pending generation world :=
  ⟨tied.coherent, tied.numbered, ⟨trivial, tied.apt⟩, nofun, tied.waits, tied.known⟩

omit [Service σ] in
/-- Nothing was said yet for an enumeration that is new. -/
theorem Tied.new (coherent : world.Coherent) (numbered : ∀ link, world.session.link = some link →
    link.connection.number ≤ world.connections) : Tied [] none generation world :=
  ⟨coherent, numbered, trivial, nofun, nofun, nofun⟩

omit [Service σ] in
/-- A request begins with an empty history, so that all that was said before is its past. -/
theorem Enumeration.Bound.fresh (bound : Bound past pending generation world) :
    Bound (world.notes ++ past) pending generation world.fresh where
  tied := bound.tied.of_same rfl rfl rfl rfl rfl
  begun := bound.begun

end Beginning

namespace Enumeration

variable {past : List Note} {world : World σ} {e : Enumeration}

/-- The search is awaited on the connection at hand, which this process has made. -/
def AwaitedHere (notes : List Note) (world : World σ) (connection : Connection) (id : MessageId) :
    Prop :=
  awaited notes = some (connection, id) ∧ ∃ link, world.session.link = some link ∧
    link.connection = connection ∧ world.session.isInherited link world.outside = false

/-- A search is abandoned exactly when it is awaited on the connection at hand, which is this
    process's own. -/
theorem abandon_tells (tied : Tied (world.notes ++ past) e.pending e.generation world) :
    Ends world e.abandon fun _ later => ∀ connection id,
      .abandoned connection id ∈ later.notes ↔
        .abandoned connection id ∈ world.notes ∨
          AwaitedHere (world.notes ++ past) world connection id := by
  have silent : world.released.notes = world.notes := notes_drop world fun _ => rfl
  cases held : world.session.link with
  | none =>
    obtain ⟨later, ran, rfl | rfl⟩ := e.run_abandon_free held
    · exact .of_run ran (by simp [AwaitedHere, held])
    · exact .of_run ran (by simp [silent, AwaitedHere, held])
  | some link =>
    cases inherited : world.session.isInherited link world.outside with
    | true =>
      exact .of_run (e.run_abandon_inherited held inherited) (by
        simp [silent, AwaitedHere, held, inherited])
    | false =>
      refine .of_run (e.run_abandon_own held inherited) fun connection id => ?_
      have here : AwaitedHere (world.notes ++ past) world connection id ↔
          awaited (world.notes ++ past) = some (connection, id) ∧ link.connection = connection := by
        simp [AwaitedHere, held, inherited]
      rw [here]
      split
      · next id' waits =>
        obtain ⟨current, pending⟩ :
            e.generation = world.session.generation ∧ e.pending = some id' := by
          simpa [outstanding] using waits
        rw [pending] at tied
        rw [notes_abandon, Tied.awaited_held held tied current]
        simp only [List.mem_cons, Note.abandoned.injEq, Option.some.injEq, Prod.mk.injEq]
        grind
      · next idle =>
        -- What is awaited on the connection at hand is in progress there.
        refine ⟨.inl, fun said => said.elim (fun before => before) fun awaits => ?_⟩
        obtain ⟨waits, here⟩ := awaits
        obtain ⟨-, pending | other⟩ := tied.known connection id waits
        · obtain ⟨connection', waits', carries⟩ := tied.waits id pending
          obtain rfl : connection = connection' := by simpa using waits.symm.trans waits'
          have current := (carries.held link held).mp here
          simp [outstanding, current, pending] at idle
        · exact absurd here (other link held)

theorem stop_tells (tied : Tied (world.notes ++ past) e.pending e.generation world) :
    Ends world e.stop fun _ later => ∀ connection id,
      .abandoned connection id ∈ later.notes ↔
        .abandoned connection id ∈ world.notes ∨
          AwaitedHere (world.notes ++ past) world connection id := by
  refine (abandon_tells tied).bind fun _ later said => .bind_run (run_session later) ?_
  dsimp only
  split
  · split
    · have silent : (later.drop .unbind).notes = later.notes := notes_drop later fun _ => rfl
      exact .bind_run (run_close later) (.pure (by rwa [silent]))
    · exact .pure said
  · exact .pure said

/-- Nothing more is abandoned when a search is started. -/
theorem start_tells (tied : Tied (world.notes ++ past) e.pending e.generation world)
    (lookup : Lookup) :
    Ends world (e.start lookup) fun _ later => ∀ connection id,
      .abandoned connection id ∈ later.notes ↔
        .abandoned connection id ∈ world.notes ∨
          AwaitedHere (world.notes ++ past) world connection id := by
  let holds (later : World σ) : Prop := later.Coherent ∧ ∀ connection id,
    .abandoned connection id ∈ later.notes ↔ .abandoned connection id ∈ world.notes ∨
      AwaitedHere (world.notes ++ past) world connection id
  have upkept : World.Upkept holds := ⟨fun step silent kept =>
    ⟨step.coherent kept.1, silent ▸ kept.2⟩, fun kept => kept.1⟩
  have starts : Upholds holds (lookup.start 0 : Action σ (Option MessageId)).run := by
    refine Failover.run_upholds upkept fun world kept =>
      (lookup.startPage_lasts (fun world connection search kept => ?_) 0 []).ends kept
    exact ⟨kept.1, by simpa using kept.2⟩
  -- The one message about the old question is sent before anything else, and there is no other.
  have leaves : Ends world e.abandon fun _ later => holds later := fun e' later ran =>
    ⟨(abandon_tied tied e' later ran).2.1.coherent, abandon_tells tied e' later ran⟩
  refine leaves.bind fun _ began kept => (starts began kept).bind fun result later kept => ?_
  match result with
  | .error error => exact .pure kept.2
  | .ok id =>
    refine .bind_run (run_session later) ?_
    dsimp only
    split <;> exact .pure kept.2

end Enumeration

namespace Membership

variable {past : List Note}

theorem collectAll_bound (plan : Plan) (primary : Option Nat) (patience rounds : Nat)
    {world : World σ} {e : Enumeration} (walk : Walk)
    (bound : Enumeration.Bound past e.pending e.generation world) :
    Ends world (collectAll plan primary patience rounds e walk) fun out later =>
      Enumeration.Bound past out.2.pending out.2.generation later := by
  induction rounds generalizing world e walk with
  | zero =>
    intro result later ran
    cases ran
  | succ rounds ih =>
    rw [collectAll]
    refine (e.nextEntry_bound patience bound).bind fun out later bound => ?_
    split
    · exact .pure bound
    · exact .pure bound
    · next entry e =>
      -- The questions between two entries leave the enumeration where it is.
      have upkept : World.Upkept (σ := σ) (Enumeration.Bound past e.pending e.generation) :=
        Enumeration.Bound.upkept _ _
      have counts := collect_lasts upkept.answering.asks upkept.answering.visits plan primary
        plan.policy.maxDepth 0 entry walk
      refine (counts.ends bound).bind fun walk later bound => ?_
      split
      · exact .pure bound
      · exact ih walk bound

section Expanding

variable {generation : Nat}

/-- Nothing was started for an enumeration yet. -/
structure Unstarted (past : List Note) (generation : Nat) (world : World σ) : Prop where
  tied : Tied (world.notes ++ past) none generation world
  unstarted : origin (world.notes ++ past) = none

theorem Unstarted.upkept : World.Upkept (Unstarted (σ := σ) past generation) where
  coherent kept := kept.tied.coherent
  deed step silent kept := ⟨(Tied.upkept past).deed step silent kept.tied, silent ▸ kept.unstarted⟩

theorem collectAnswer_bound (plan : Plan) (primary : Option Nat) (patience : Nat) {world : World σ}
    (lookup : Lookup) (kept : Unstarted past 0 world) :
    Ends world (collectAnswer plan primary patience lookup) fun out later =>
      Enumeration.Bound past out.2.pending out.2.generation later := by
  refine (Enumeration.start_bound (e := {}) kept.tied kept.unstarted lookup).bind ?_
  intro out later bound
  split
  · exact .pure bound
  · exact .pure bound
  · exact collectAll_bound plan primary patience patience _ bound

theorem expandUser_apt (plan : Plan) (patience : Nat) (user : String) (primary : Option Nat)
    {world : World σ} (kept : Unstarted past 0 world) :
    Ends world (expandUser plan patience user primary : Action σ Walk).run fun _ later =>
      AllApt (later.notes ++ past) := by
  rw [expandUser_eq]
  split
  · exact .of_run (run_throw world _) kept.tied.apt
  refine ((question_lasts Unstarted.upkept.answering.asks plan user).ends kept).action_bind ?_
    fun _ _ kept => kept.tied.apt
  intro lookup later kept
  refine (collectAnswer_bound plan primary patience lookup kept).bind fun out later bound => ?_
  exact (out.2.stop_bound bound.tied).bind fun _ _ bound => .pure bound.tied.apt

end Expanding

/-- An expansion has an enumeration of its own, or none. -/
theorem expand_apt (patience : Nat) (seed : Seed) (policy : Policy) {world : World σ}
    (kept : Unstarted past 0 world) :
    Ends world (expand patience seed policy : Venture σ Walk).run fun _ later =>
      AllApt (later.notes ++ past) := by
  have ready : Upholds (Unstarted past 0) (Session.ensureReady : Action σ Unit).run :=
    Session.ensureReady_upholds Unstarted.upkept
  refine (ready.attempt world kept).action_bind ?_ fun _ _ kept => kept.tied.apt
  intro _ ready kept
  refine (Upholds.config.attempt ready kept).action_bind ?_ fun _ _ kept => kept.tied.apt
  intro config later kept
  cases seed with
  | group name =>
    exact ((expandGroup_lasts Unstarted.upkept.answering _ name).ends kept).mono
      fun _ _ kept => kept.tied.apt
  | user name primary => exact .map _ (expandUser_apt _ patience name primary kept)
  | netgroup name =>
    exact ((expandNetgroup_lasts Unstarted.upkept.answering _ name).attempt.ends kept).mono
      fun _ _ kept => kept.tied.apt

end Membership

namespace Directory

/-- For whom the messages of an answer are: for a context, or for the expansion with a number. -/
inductive Receiver where
  | context (number : Nat)
  | expansion (number : Nat)
deriving DecidableEq

/-- For whom a request asks for messages. So many requests came before it. -/
def Request.receiver? (earlier : Nat) : Request → Option Receiver
  | start context _ | next context _ _ _ | stop context => some (.context context)
  | expand _ _ _ => some (.expansion earlier)
  | lookup _ _ _ | config | close => none

/-- A request that wants another answer says so first. -/
def Request.beginning : Request → List Note
  | start _ _ | expand _ _ _ => [.begun]
  | _ => []

/-- A request that was served, and what happened meanwhile. -/
structure Episode : Type 1 where
  request : Request
  history : List Event

/-- What was said for a receiver in some episodes, the latest first. -/
def notesFor (receiver : Receiver) : List Episode → List Note
  | [] => []
  | episode :: past =>
    if episode.request.receiver? past.length = some receiver then
      notesOf episode.history ++ (episode.request.beginning ++ notesFor receiver past)
    else notesFor receiver past

/-- A run of requests, with all that happened in each of them. -/
inductive Chronicle : List Episode → World σ → Contexts → Prop
  | begin (outside : σ) : Chronicle [] { outside } fun _ => {}
  | change {episodes : List Episode} {world : World σ} {contexts : Contexts} (outside : σ)
    (chronicle : Chronicle episodes world contexts) :
    Chronicle episodes { world with outside } contexts
  | ask {past : List Episode} {world later : World σ} {contexts contexts' : Contexts}
    {request : Request} (chronicle : Chronicle past world contexts)
    (served : request.serve contexts world.fresh = some (contexts', later)) :
    Chronicle (⟨request, later.history⟩ :: past) later contexts'
  | fork {episodes : List Episode} {world later : World σ} {contexts : Contexts}
    (chronicle : Chronicle episodes world contexts)
    (told : resetAfterFork world = some ((), later)) : Chronicle episodes later contexts

theorem Request.receiver?_expansion {request : Request} {earlier number : Nat}
    (own : request.receiver? earlier = some (.expansion number)) : earlier = number := by
  cases request with
  | expand => simpa [receiver?] using own
  | start | next | stop => simp [receiver?] at own
  | lookup | config | close => cases own

/-- An expansion is not spoken for before it is asked for. -/
theorem notesFor_later {number : Nat} :
    ∀ {episodes : List Episode}, episodes.length ≤ number →
      notesFor (.expansion number) episodes = []
  | [], _ => rfl
  | episode :: past, later => by
    have other : episode.request.receiver? past.length ≠ some (.expansion number) := fun own =>
      Nat.ne_of_lt later (Request.receiver?_expansion own)
    rw [notesFor, if_neg other]
    exact notesFor_later (Nat.le_of_succ_le later)

/-- How things stand with all receivers. -/
structure Orderly (episodes : List Episode) (world : World σ) (contexts : Contexts) : Prop where
  coherent : world.Coherent
  numbered : ∀ link, world.session.link = some link →
    link.connection.number ≤ world.connections
  contexts : ∀ context, Enumeration.Bound (notesFor (.context context) episodes)
    (contexts context).pending (contexts context).generation world.fresh
  expansions : ∀ number, AllApt (notesFor (.expansion number) episodes)

namespace Orderly

variable {episodes past : List Episode} {world later : World σ} {contexts contexts' : Contexts}
  {request : Request}

omit [Service σ] in
theorem begin (outside : σ) : Orderly [] ({ outside } : World σ) fun _ => {} where
  coherent := nofun
  numbered := nofun
  contexts _ := .of_tied (.new nofun nofun)
  expansions _ := trivial

omit [Service σ] in
/-- What was said is not unsaid by what comes to the world outside or to the process. -/
theorem of_same (orderly : Orderly episodes world contexts)
    (held : later.session.held = world.session.held)
    (link : later.session.link = world.session.link)
    (generations : later.session.generation = world.session.generation)
    (loaded : later.session.loaded = world.session.loaded)
    (connections : later.connections = world.connections) :
    Orderly episodes later contexts where
  coherent := by
    rw [World.Coherent, held, loaded]
    exact orderly.coherent
  numbered := by
    rw [link, connections]
    exact orderly.numbered
  contexts context :=
    ⟨(orderly.contexts context).tied.of_same held link generations loaded connections,
      (orderly.contexts context).begun⟩
  expansions := orderly.expansions

end Orderly

/-- A request changes no context but its own. -/
theorem Request.serve_apart (request : Request) (contexts : Contexts) (world : World σ)
    {context : Nat} {earlier : Nat} (other : request.receiver? earlier ≠ some (.context context)) :
    Ends world (request.serve contexts) fun contexts' _ =>
      contexts' context = contexts context := by
  have apart {own : Nat} (e : Enumeration) (different : own ≠ context) :
      Function.update contexts own e context = contexts context :=
    Function.update_of_ne different.symm e contexts
  cases request with
  | start own question =>
    have different : own ≠ context := by simpa [receiver?] using other
    exact Ends.any.bind fun _ _ _ => .pure (apart _ different)
  | next own parser arena patience =>
    have different : own ≠ context := by simpa [receiver?] using other
    exact Ends.any.bind fun _ _ _ => .pure (apart _ different)
  | stop own =>
    have different : own ≠ context := by simpa [receiver?] using other
    exact Ends.any.bind fun _ _ _ => .pure (apart _ different)
  | lookup | expand | config | close => exact Ends.any.bind fun _ _ _ => .pure rfl

/-- What a request says for a context is apt there. -/
theorem Request.serve_bound {past : List Note} {world : World σ} {contexts : Contexts}
    {context : Nat} (bound : Enumeration.Bound past (contexts context).pending
      (contexts context).generation world.fresh) {earlier : Nat} {request : Request}
    (own : request.receiver? earlier = some (.context context)) :
    Ends world.fresh (request.serve contexts) fun contexts' later =>
      Enumeration.Bound (request.beginning ++ past) (contexts' context).pending
        (contexts' context).generation later := by
  -- Only three requests are about a context, and what they leave is put in its place.
  cases request with
  | start other question =>
    obtain rfl : other = context := by simpa [receiver?] using own
    have tied : Tied (world.fresh.notes ++ .begun :: past) (contexts other).pending
        (contexts other).generation world.fresh := bound.tied.begin
    have begins : Ends world.fresh (enumerateStart question (contexts other)) fun out later =>
        Enumeration.Bound (.begun :: past) out.2.pending out.2.generation later :=
      (Enumeration.start_bound tied rfl question).bind fun _ _ bound => .pure bound
    refine begins.bind fun out later bound => .pure ?_
    rw [Function.update_self]
    exact bound
  | next other parser arena patience =>
    obtain rfl : other = context := by simpa [receiver?] using own
    have goesOn : Ends world.fresh (enumerateNext patience parser (contexts other) arena)
        fun out later => Enumeration.Bound past out.2.2.pending out.2.2.generation later :=
      (Enumeration.next_bound parser patience arena bound).bind fun _ _ bound => .pure bound
    refine goesOn.bind fun out later bound => .pure ?_
    rw [Function.update_self]
    exact bound
  | stop other =>
    obtain rfl : other = context := by simpa [receiver?] using own
    refine (Enumeration.stop_bound bound.tied).bind fun e later bound => .pure ?_
    rw [Function.update_self]
    exact bound
  | expand => simp [receiver?] at own
  | lookup | config | close => cases own

/-- What an expansion says is apt, and it has no past. -/
theorem Request.serve_expansion {world : World σ} {contexts : Contexts} (coherent : world.Coherent)
    (numbered : ∀ link, world.session.link = some link →
      link.connection.number ≤ world.connections) {earlier number : Nat} {request : Request}
    (own : request.receiver? earlier = some (.expansion number)) :
    Ends world.fresh (request.serve contexts) fun _ later =>
      AllApt (later.notes ++ request.beginning) := by
  cases request with
  | expand seed policy patience =>
    have new : Tied [] none 0 world.fresh := .new coherent numbered
    have unstarted : Membership.Unstarted [.begun] 0 world.fresh := ⟨new.begin, rfl⟩
    have expands : Ends world.fresh (Directory.expand patience seed policy).run fun _ later =>
        AllApt (later.notes ++ [.begun]) := by
      have expands := Membership.expand_apt patience seed policy unstarted
      refine expands.lift_bind fun result _ apt => ?_
      rcases result with (error | panic) | walk <;> exact .pure apt
    exact expands.bind fun _ _ apt => .pure apt
  | start | next | stop => simp [receiver?] at own
  | lookup | config | close => cases own

/-- A request without a receiver says nothing. -/
theorem Request.serve_silent {world : World σ} (coherent : world.Coherent) (contexts : Contexts)
    {earlier : Nat} {request : Request} (none : request.receiver? earlier = none) :
    Ends world.fresh (request.serve contexts) fun _ later => later.notes = [] := by
  let holds (later : World σ) : Prop := later.Coherent ∧ later.notes = []
  have upkept : World.Upkept holds := ⟨fun step silent kept =>
    ⟨step.coherent kept.1, silent.trans kept.2⟩, fun kept => kept.1⟩
  have upholds : Upholds holds (request.serve contexts : Engine σ Contexts) := by
    cases request with
    | lookup question parser arena =>
      have looks := (Lookup.one_lasts (upkept.answering.asks question) parser arena).upholds
      exact (looks.bind fun _ => .pure _).bind fun _ => .pure _
    | config =>
      have ready := Session.ensureReady_upholds upkept
      exact (ready.action_bind fun _ => .config).bind fun _ => .pure _
    | close => exact (close_upholds upkept).bind fun _ => .pure _
    | start | next | stop | expand => cases none
  exact (upholds world.fresh ⟨coherent, rfl⟩).mono fun _ _ kept => kept.2

section Runs

variable {episodes : List Episode} {world later : World σ} {contexts contexts' : Contexts}

theorem Orderly.ask {request : Request} (orderly : Orderly episodes world contexts)
    (served : request.serve contexts world.fresh = some (contexts', later)) :
    Orderly (⟨request, later.history⟩ :: episodes) later contexts' := by
  have upheld : World.Upheld (Tied (σ := σ) [] none 0) := Tied.upheld
  have stays := Request.serve_upholds upheld request contexts world.fresh
    (Tied.new orderly.coherent orderly.numbered) _ _ served
  refine ⟨stays.coherent, stays.numbered, fun context => ?_, fun number => ?_⟩
  · rw [notesFor]
    split
    · next own =>
      have bound := Request.serve_bound (orderly.contexts context) own _ _ served
      exact bound.fresh
    · next other =>
      -- Another receiver's connection may be gone by now, but the search is not mistaken.
      rw [Request.serve_apart request contexts world.fresh other _ _ served]
      have tied := (orderly.contexts context).tied
      have kept := Request.serve_upholds Tied.upheld request contexts world.fresh tied _ _ served
      exact ⟨kept.of_same rfl rfl rfl rfl rfl, (orderly.contexts context).begun⟩
  · rw [notesFor]
    split
    · next own =>
      have first : notesFor (.expansion number) episodes = [] :=
        notesFor_later (Nat.le_of_eq (Request.receiver?_expansion own))
      rw [first, List.append_nil]
      exact Request.serve_expansion orderly.coherent orderly.numbered own _ _ served
    · exact orderly.expansions number

theorem Chronicle.orderly (chronicle : Chronicle episodes world contexts) :
    Orderly episodes world contexts := by
  induction chronicle with
  | begin outside => exact .begin outside
  | change outside chronicle orderly => exact orderly.of_same rfl rfl rfl rfl rfl
  | ask chronicle served orderly => exact orderly.ask served
  | @fork episodes world later contexts chronicle told orderly =>
    obtain rfl : { world with session := world.session.markForked } = later := by
      simpa [resetAfterFork] using told
    exact orderly.of_same rfl rfl rfl rfl rfl

theorem Chronicle.silent (chronicle : Chronicle episodes world contexts) :
    ∀ episode ∈ episodes, ∀ earlier, episode.request.receiver? earlier = none →
      notesOf episode.history = [] := by
  induction chronicle with
  | begin => exact fun _ member => absurd member List.not_mem_nil
  | change _ _ silent => exact silent
  | fork _ _ silent => exact silent
  | @ask past world later contexts contexts' request chronicle served silent =>
    intro episode member earlier none
    rcases List.mem_cons.mp member with rfl | member
    · exact Request.serve_silent chronicle.orderly.coherent contexts none _ _ served
    · exact silent episode member earlier none

/-- A search that was started on a connection goes on there and nowhere else, whatever else is asked
    meanwhile, and all that follows it in the same enumeration is asked there as well. A search is
    abandoned, when its enumeration begins anew or ends, exactly if its connection is in hand. -/
theorem Chronicle.messages_apt (chronicle : Chronicle episodes world contexts) :
    (∀ receiver, AllApt (notesFor receiver episodes)) ∧
    (∀ episode ∈ episodes, ∀ earlier, episode.request.receiver? earlier = none →
      notesOf episode.history = []) ∧
    ∀ (context : Nat) (request : Request), (request = .stop context ∨
        ∃ question, request = .start context question) →
      ∀ contexts' later, request.serve contexts world.fresh = some (contexts', later) →
        ∀ connection id, .abandoned connection id ∈ notesOf later.history ↔
          awaited (notesFor (.context context) episodes) = some (connection, id) ∧
            ∃ link, world.session.link = some link ∧ link.connection = connection ∧
              world.session.isInherited link world.outside = false := by
  have orderly := chronicle.orderly
  refine ⟨fun receiver => ?_, chronicle.silent, ?_⟩
  · cases receiver with
    | context context => exact (orderly.contexts context).tied.apt
    | expansion number => exact orderly.expansions number
  · intro context request leaving contexts' later served connection id
    have bound := orderly.contexts context
    -- To start and to stop both begin by letting go of the question that is waiting.
    have tells : Ends world.fresh (request.serve contexts) fun _ later =>
        .abandoned connection id ∈ later.notes ↔
          .abandoned connection id ∈ world.fresh.notes ∨ Enumeration.AwaitedHere
            (notesFor (.context context) episodes) world.fresh connection id := by
      rcases leaving with rfl | ⟨question, rfl⟩
      · exact (Enumeration.stop_tells bound.tied).bind fun _ _ said => .pure (said connection id)
      · have begins : Ends world.fresh (enumerateStart question (contexts context)) fun _ later =>
            .abandoned connection id ∈ later.notes ↔
              .abandoned connection id ∈ world.fresh.notes ∨ Enumeration.AwaitedHere
                (notesFor (.context context) episodes) world.fresh connection id :=
          (Enumeration.start_tells bound.tied question).bind fun _ _ said =>
            .pure (said connection id)
        exact begins.bind fun _ _ said => .pure said
    refine (tells _ _ served).trans (or_iff_right ?_)
    exact nofun

/-- Requests that are served one after the other. -/
def serveAll : List Request → List Episode → World σ → Contexts →
    Option (List Episode × World σ × Contexts)
  | [], past, world, contexts => some (past, world, contexts)
  | request :: requests, past, world, contexts =>
    match request.serve contexts world.fresh with
    | some (contexts', later) =>
      serveAll requests (⟨request, later.history⟩ :: past) later contexts'
    | none => none

theorem Chronicle.of_serveAll : ∀ {requests : List Request} {past episodes : List Episode}
    {world later : World σ} {contexts contexts' : Contexts}, Chronicle past world contexts →
    serveAll requests past world contexts = some (episodes, later, contexts') →
    Chronicle episodes later contexts'
  | [], _, _, _, _, _, _, chronicle, served => by
    cases served
    exact chronicle
  | request :: requests, past, _, world, _, contexts, _, chronicle, served => by
    rw [serveAll] at served
    split at served
    · next first => exact (chronicle.ask first).of_serveAll served
    · cases served

end Runs

/-- The search of the first context has gone with its connection; that of the second is abandoned
    on the connection that has come since. -/
theorem messages_apt_small :
    ∃ (episodes : List Episode) (world : World Small.Outside) (contexts : Contexts),
      Chronicle episodes world contexts ∧
      awaited (notesFor (.context 0) episodes) = some (⟨1⟩, ⟨0⟩) ∧
      (∀ contexts' later, (Request.stop 0).serve contexts world.fresh = some (contexts', later) →
        ∀ connection id, .abandoned connection id ∉ notesOf later.history) ∧
      ∀ contexts' later, (Request.stop 1).serve contexts world.fresh = some (contexts', later) →
        .abandoned ⟨2⟩ ⟨1⟩ ∈ notesOf later.history := by
  have ran : (serveAll [.start 0 Small.users, .close, .start 1 Small.users] []
      ({ outside := {} } : World Small.Outside) fun _ => {}).map (fun (episodes, world, _) =>
        (awaited (notesFor (.context 0) episodes), awaited (notesFor (.context 1) episodes),
          world.session.link.map fun link =>
            (link.connection, world.session.isInherited link world.outside))) =
      some (some (⟨1⟩, ⟨0⟩), some (⟨2⟩, ⟨1⟩), some (⟨2⟩, false)) := by decide +kernel
  obtain ⟨⟨episodes, world, contexts⟩, served, shown⟩ := Option.map_eq_some_iff.mp ran
  obtain ⟨first, second, hand⟩ : _ ∧ _ ∧ _ := by simpa using shown
  obtain ⟨link, held, same, own⟩ := hand
  have chronicle := (Chronicle.begin ({} : Small.Outside)).of_serveAll served
  -- The first context waits on a connection that is closed, the second on the one in hand.
  obtain ⟨-, -, leaving⟩ := chronicle.messages_apt
  refine ⟨episodes, world, contexts, chronicle, first, ?_, ?_⟩
  · intro contexts' later stopped connection id said
    obtain ⟨waits, other, held', here, -⟩ :=
      (leaving 0 _ (.inl rfl) contexts' later stopped connection id).mp said
    obtain ⟨rfl, rfl⟩ : ⟨1⟩ = connection ∧ ⟨0⟩ = id := by simpa [first] using waits
    obtain rfl : link = other := by simpa [held] using held'
    rw [same] at here
    cases here
  · intro contexts' later stopped
    exact (leaving 1 _ (.inl rfl) contexts' later stopped _ _).mpr ⟨second, link, held, same, own⟩

end Directory

end NameService
