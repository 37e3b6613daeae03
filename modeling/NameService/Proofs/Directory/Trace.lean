import NameService.Directory
import NameService.Proofs.Membership.Conduct
import Mathlib.Logic.Function.Basic

/-!
Runs of a directory: requests, one after the other, and between any two of them whatever may come to
the world outside. All that happens in a run is kept in a trace, the latest first.

## Main result

`Run.invariant`: what holds at first, and is kept by every move and by every mark of a fork, holds
after every run.
-/

namespace NameService.Directory

open Engine World

/-- What may be asked of a directory. An enumeration stays in its context from one request to the
    next. -/
inductive Request : Type 1
  | lookup {ρ : Type} (question : Lookup) (parser : RecordParser ρ) (arena : Arena)
  | start (context : Nat) (question : Lookup)
  | next (context : Nat) {ρ : Type} (parser : RecordParser ρ) (arena : Arena) (patience : Nat)
  | stop (context : Nat)
  | expand (seed : Membership.Seed) (policy : Membership.Policy) (patience : Nat)
  | config
  | close

/-- An entry of a trace. -/
inductive Happening where
  | called (event : Event)
  /-- The process was told that it has forked, with the session it had then. -/
  | forked (session : Session)

/-- Each entry of a trace is as it should be after all that was before it. -/
def Always (holds : Happening → List Happening → Prop) : List Happening → Prop
  | [] => True
  | entry :: past => holds entry past ∧ Always holds past

variable {σ : Type} [Service σ]

abbrev Contexts := Nat → Enumeration

/-- A panic ends the request that has met it. The session goes on from where it was then. -/
def Request.serve : Request → Contexts → Engine σ Contexts
  | lookup question parser arena, contexts => do
    let _ ← Directory.lookup question parser arena
    return contexts
  | start context question, contexts => do
    let (_, e) ← enumerateStart question (contexts context)
    return Function.update contexts context e
  | next context parser arena patience, contexts => do
    let (_, _, e) ← enumerateNext patience parser (contexts context) arena
    return Function.update contexts context e
  | stop context, contexts => do
    let e ← enumerateEnd (contexts context)
    return Function.update contexts context e
  | expand seed policy patience, contexts => do
    let _ ← (Directory.expand patience seed policy).run
    return contexts
  | config, contexts => do
    let _ ← Directory.config.run
    return contexts
  | close, contexts => do
    Directory.close
    return contexts

/-- The trace that begins with another trace and goes on with the history of a world. -/
def traced (world : World σ) (past : List Happening) : List Happening :=
  world.history.map .called ++ past

/-- What happens in a world when it answers a call. -/
def happening (world : World σ) (call : Call) : Happening :=
  .called ⟨call, world.answer call, world.stand, world.look⟩

section Traces

variable (world : World σ) (past : List Happening)

@[simp] theorem traced_after (call : Call) :
    traced (world.after call) past = happening world call :: traced world past := rfl

@[simp] theorem traced_connected (options : ConnectOptions) :
    traced (world.connected options) past =
      happening world (.connect options) :: traced world past := rfl

@[simp] theorem traced_welcomed (config : Config) :
    traced (world.welcomed config) past =
      happening world (world.greeting config) :: traced world past := rfl

theorem traced_drop {link : Link} (held : world.session.held = some link)
    (part : Connection → Call) : traced (world.drop part) past =
      happening world (part link.connection) :: traced world past := by
  simp [World.drop, held, traced, World.after, happening]

theorem traced_drop_bare (bare : world.session.held = none) (part : Connection → Call) :
    traced (world.drop part) past = traced world past := by
  simp [World.drop, bare, traced]

end Traces

/-- A run of requests of some kind, with its trace and with what it leaves. -/
inductive Run (allowed : Request → Prop) : List Happening → World σ → Contexts → Prop
  | begin (outside : σ) : Run allowed [] { outside } fun _ => {}
  | change {trace : List Happening} {world : World σ} {contexts : Contexts} (outside : σ)
    (run : Run allowed trace world contexts) :
    Run allowed trace { world with outside } contexts
  | ask {past : List Happening} {world later : World σ} {contexts contexts' : Contexts}
    {request : Request} (run : Run allowed past world contexts) (asked : allowed request)
    (served : request.serve contexts { world with history := [], look := none } =
      some (contexts', later)) :
    Run allowed (traced later past) later contexts'
  | fork {past : List Happening} {world later : World σ} {contexts : Contexts}
    (run : Run allowed past world contexts) (told : resetAfterFork world = some ((), later)) :
    Run allowed (.forked world.session :: past) later contexts

/-- A step of a run. -/
inductive Step (σ : Type) : Type 1
  | change (alter : σ → σ)
  | ask (request : Request)
  | fork

/-- A run step by step. There is none when a request needs more patience than it has. -/
def replay : List (Step σ) → List Happening → World σ → Contexts →
    Option (List Happening × World σ × Contexts)
  | [], past, world, contexts => some (past, world, contexts)
  | .change alter :: steps, past, world, contexts =>
    replay steps past { world with outside := alter world.outside } contexts
  | .ask request :: steps, past, world, contexts =>
    match request.serve contexts { world with history := [], look := none } with
    | some (contexts', later) => replay steps (traced later past) later contexts'
    | none => none
  | .fork :: steps, past, world, contexts =>
    replay steps (.forked world.session :: past)
      { world with session := world.session.markForked } contexts

theorem Run.of_replay {allowed : Request → Prop} :
    ∀ {steps : List (Step σ)} {past trace : List Happening} {world later : World σ}
      {contexts contexts' : Contexts}, Run allowed past world contexts →
      (∀ request, .ask request ∈ steps → allowed request) →
      replay steps past world contexts = some (trace, later, contexts') →
      Run allowed trace later contexts'
  | [], _, _, _, _, _, _, run, _, replayed => by
    cases replayed
    exact run
  | .change alter :: steps, _, _, _, _, _, _, run, asked, replayed =>
    (run.change (alter _)).of_replay (fun request member => asked request (.tail _ member)) replayed
  | .ask request :: steps, past, _, world, _, contexts, _, run, asked, replayed => by
    rw [replay] at replayed
    cases served : request.serve contexts { world with history := [], look := none } with
    | none => simp [served] at replayed
    | some out =>
      rw [served] at replayed
      exact (run.ask (asked request (.head _)) served).of_replay
        (fun request member => asked request (.tail _ member)) replayed
  | .fork :: steps, _, _, _, _, _, _, run, asked, replayed =>
    (run.fork rfl).of_replay (fun request member => asked request (.tail _ member)) replayed

section Calls

variable (keeps : Service.KeepsProcess σ)
include keeps

/-- All requests but one go along paths. To close a connection is to say so to the server, whoever
    has made it. -/
theorem Request.serve_keeps {request : Request} (other : request ≠ .close) (contexts : Contexts) :
    Keeps Regular (request.serve contexts : Engine σ Contexts) := by
  cases request with
  | lookup question parser arena =>
    have looks := question.one_keeps keeps parser arena
    exact (looks.bind fun _ => .pure _).bind fun _ => .pure _
  | start context question =>
    have starts := (contexts context).start_keeps keeps question
    exact (starts.bind fun _ => .pure _).bind fun _ => .pure _
  | next context parser arena patience =>
    have goesOn := Enumeration.next_keeps keeps parser patience (contexts context) arena
    exact (goesOn.bind fun _ => .pure _).bind fun _ => .pure _
  | stop context => exact ((contexts context).stop_keeps keeps).bind fun _ => .pure _
  | expand seed policy patience =>
    have expands : Keeps Regular (Directory.expand patience seed policy : Brittle σ _).run := by
      refine (Membership.expand_keeps keeps patience seed policy).lift.action_bind fun result => ?_
      rcases result with (error | panic) | walk <;> exact .pure _
    exact expands.bind fun _ => .pure _
  | config =>
    have ready : Keeps Regular (Session.ensureReady : Action σ Unit).run := fun world regular =>
      (Session.ensureReady_goes regular).mono fun _ _ reached => reached.1
    exact (ready.action_bind fun _ => config_keeps Regular).bind fun _ => .pure _
  | close => exact absurd rfl other

variable (holds : List Happening → Session → Nat → Prop)

/-- What holds at first, and is kept by every move and by every mark of a fork, holds after every
    run. -/
theorem Run.invariant {allowed : Request → Prop} (begin : holds [] {} 0)
    (move : ∀ {world later : World σ} (past : List Happening), Move world later →
      holds (traced world past) world.session world.connections →
      holds (traced later past) later.session later.connections)
    (close : allowed .close → ∀ (world : World σ) (past : List Happening),
      holds (traced world past) world.session world.connections →
      holds (traced (world.drop .unbind) past) (world.drop .unbind).session
        (world.drop .unbind).connections)
    (fork : ∀ (trace : List Happening) (session : Session) (connections : Nat),
      holds trace session connections →
      holds (.forked session :: trace) session.markForked connections)
    {trace : List Happening} {world : World σ} {contexts : Contexts}
    (run : Run allowed trace world contexts) :
    world.Regular ∧ holds trace world.session world.connections := by
  induction run with
  | begin outside => exact ⟨.of_bare rfl, begin⟩
  | change outside run kept => exact ⟨kept.1.of_session rfl, kept.2⟩
  | @ask past world later contexts contexts' request run asked served kept =>
    obtain ⟨regular, start⟩ := kept
    -- A request begins with an empty history, so that the trace until now is its past.
    let fresh := { world with history := [], look := none }
    have began : holds (traced fresh past) fresh.session fresh.connections := start
    by_cases closes : request = .close
    · subst closes
      -- A request to close is the one that speaks on a connection without a look at it.
      have ended : later = fresh.drop .unbind := by
        simp [Request.serve, Directory.close] at served
        exact served.2.symm
      rw [ended]
      exact ⟨drop_regular _, close asked fresh past began⟩
    · -- Every other request goes along a path, and each move on it keeps what holds.
      obtain ⟨path, regular⟩ :=
        Request.serve_keeps keeps closes contexts fresh (regular.of_session rfl) _ _ served
      exact ⟨regular, path.keeps (fun world => holds (traced world past) world.session
        world.connections) (fun step => move past step) began⟩
  | @fork past world later contexts run told kept =>
    obtain rfl : { world with session := world.session.markForked } = later := by
      simpa [resetAfterFork] using told
    exact ⟨⟨kept.1.coherent, kept.1.bound, kept.1.timed⟩,
      fork past world.session world.connections kept.2⟩

end Calls

end NameService.Directory
