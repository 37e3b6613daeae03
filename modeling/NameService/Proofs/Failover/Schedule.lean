import NameService.Proofs.Engine.Host
import NameService.Proofs.Lookup.Asking

/-!
The order in which servers are tried. It is known before the first trial: each attempt goes once
through all servers, beginning with the one at hand, and all attempts but the first may have a wait
in front of them. An operation goes along this schedule up to the first trial that settles it.

## Main result

`run_follows`: an operation has the outcomes that the schedule allows, and no others.
-/

namespace NameService

/-- The server at hand is one of those that are configured. -/
def Session.Placed (session : Session) : Prop :=
  ∀ loaded, session.loaded = some loaded → session.endpoint < loaded.config.uris.length

/-- Sessions begin placed, and nothing moves them out of place. -/
theorem Session.placed_lasting {σ : Type} [Service σ] : Session.Lasting σ Session.Placed where
  adopt session loaded _ _ some _ := by
    rintro _ ⟨⟩
    exact List.length_pos_iff.mpr some
  hold _ _ placed := placed
  dropLink _ placed := placed
  clearFork _ placed := placed
  touch _ _ placed := placed
  advance session placed loaded configured := by
    have configured : session.loaded = some loaded := configured
    have inside := placed loaded configured
    simp only [advance, configured]
    rw [Nat.max_eq_right (by omega)]
    exact Nat.mod_lt _ (by omega)

namespace World

variable {σ : Type} [Service σ]

/-- The world after the session has left a server for the next. -/
def moved (world : World σ) : World σ :=
  { world.drop .unbind with session := (world.drop .unbind).session.advance }

/-- The world after a service, of which the session has noted the time. -/
def touched (world : World σ) : World σ :=
  { world with session := world.session.touch (Service.clock world.outside) }

@[simp] theorem moved_link (world : World σ) : world.moved.session.link = none := by
  simp [moved]

@[simp] theorem moved_loaded (world : World σ) :
    world.moved.session.loaded = world.session.loaded := by
  simp [moved, Session.advance]

theorem moved_endpoint {world : World σ} {loaded : Loaded}
    (configured : world.session.loaded = some loaded) (some : loaded.config.uris ≠ []) :
    world.moved.session.endpoint =
      (world.session.endpoint + 1) % loaded.config.uris.length := by
  have positive := List.length_pos_iff.mpr some
  simp only [moved, drop_session, Session.advance, Session.dropLink, configured]
  rw [Nat.max_eq_right (by omega)]

end World

namespace Failover

open Engine World

inductive Step where
  | rest (seconds : Nat)
  | visit (server : Nat)
deriving DecidableEq, Repr

/-- What has to be known to make the schedule. -/
structure Plan where
  policy : Policy
  /-- How many servers there are. -/
  servers : Nat
  /-- The server that is tried first. -/
  first : Nat
  /-- How often each of them may be tried. -/
  attempts : Nat
deriving DecidableEq, Repr

namespace Plan

/-- The wait before an attempt. There is none before the first. -/
def rests (plan : Plan) (attempt : Nat) : List Step :=
  if attempt = 0 then [] else (plan.policy.delay attempt).toList.map .rest

/-- One attempt: every server in turn, and after the last of them the first. -/
def visits (plan : Plan) : List Step :=
  (List.range plan.servers).map fun place => .visit ((plan.first + place) % plan.servers)

def steps (plan : Plan) : List Step :=
  (List.range plan.attempts).flatMap fun attempt => plan.rests attempt ++ plan.visits

end Plan

variable {σ α : Type} [Service σ]

/-- An operation that goes along a schedule, and how it ends. The last error is of the last trial
    that was lost, and `lost` counts those that are still to be lost. -/
inductive Course (operation : Action σ α) (first : Nat) :
    List Step → Option Error → World σ → Nat → Except Error α → World σ → Prop
  | rest {seconds : Nat} {steps : List Step} {last : Option Error} {world later : World σ}
    {lost : Nat} {result : Except Error α}
    (rest : Course operation first steps last (world.after (.sleep seconds)) lost result later) :
    Course operation first (.rest seconds :: steps) last world lost result later
  | served {server : Nat} {steps : List Step} {last : Option Error} {world ended : World σ}
    {value : α} (begins : world.session.endpoint = server)
    (ran : (trial operation).run world = some (.ok value, ended))
    (ends : ended.session.endpoint = server) :
    Course operation first (.visit server :: steps) last world 0 (.ok value) ended.touched
  | refused {server : Nat} {steps : List Step} {last : Option Error} {world ended : World σ}
    {error : Error} (begins : world.session.endpoint = server)
    (ran : (trial operation).run world = some (.error error, ended))
    (settled : error.isUnavailable = false) (ends : ended.session.endpoint = server) :
    Course operation first (.visit server :: steps) last world 0 (.error error) ended
  | lost {server : Nat} {steps : List Step} {last : Option Error} {world ended later : World σ}
    {error : Error} {lost : Nat} {result : Except Error α}
    (begins : world.session.endpoint = server)
    (ran : (trial operation).run world = some (.error error, ended))
    (unsettled : error.isUnavailable = true)
    (rest : Course operation first steps (some error) ended.moved lost result later) :
    Course operation first (.visit server :: steps) last world (lost + 1) result later
  | exhausted {error : Error} {world : World σ} (free : world.session.link = none)
    (home : world.session.endpoint = first) :
    Course operation first [] (some error) world 0 (.error (.unavailable error.message)) world

/-- The outcome is the one that the schedule allows, if it allows one. -/
def Follows (operation : Action σ α) (first : Nat) (steps : List Step) (last : Option Error)
    (world : World σ) (outcome : Option (Except Error α × World σ)) : Prop :=
  ∀ result later, outcome = some (result, later) ↔
    ∃ lost, Course operation first steps last world lost result later

variable {operation : Action σ α} {first : Nat} {steps : List Step} {last : Option Error}
  {world : World σ} {outcome : Option (Except Error α × World σ)}

/-- The operation stays at the server at hand, and with the configuration. -/
def Stays (operation : Action σ α) : Prop :=
  ∀ world, Ends world operation.run fun _ later =>
    later.session.endpoint = world.session.endpoint ∧ later.session.loaded = world.session.loaded

/-- A trial stays where its operation does: a connection that it makes is to the server at hand. -/
theorem Stays.trial (stays : Stays operation) : Stays (trial operation) := fun world => by
  have steady : World.Steady fun later : World σ =>
      later.session.endpoint = world.session.endpoint ∧
        later.session.loaded = world.session.loaded :=
    ⟨fun _ _ _ same => same, fun _ _ same => same, fun _ _ same => same⟩
  refine ((Session.establish_lasts steady).ends ⟨rfl, rfl⟩).action_bind ?_ fun _ _ same => same
  intro _ between same
  exact (stays between).mono fun _ _ same' => ⟨same'.1.trans same.1, same'.2.trans same.2⟩

/-- What becomes of a trial: it settles the operation, or the next server has its turn. -/
def settle (next : Error → World σ → Option (Except Error α × World σ)) :
    Except Error α × World σ → Option (Except Error α × World σ)
  | (.ok value, ended) => some (.ok value, ended.touched)
  | (.error error, ended) =>
    if error.isUnavailable then next error ended.moved else some (.error error, ended)

namespace Follows

theorem rest {seconds : Nat}
    (follows : Follows operation first steps last (world.after (.sleep seconds)) outcome) :
    Follows operation first (.rest seconds :: steps) last world outcome := by
  intro result later
  rw [follows result later]
  constructor
  · rintro ⟨lost, course⟩
    exact ⟨lost, .rest course⟩
  · rintro ⟨lost, course⟩
    cases course with
    | rest course => exact ⟨lost, course⟩

theorem exhausted {error : Error} (free : world.session.link = none)
    (home : world.session.endpoint = first) :
    Follows operation first [] (some error) world
      (some (.error (unreachable (some error)), world)) := by
  intro result later
  constructor
  · rintro ⟨⟩
    exact ⟨0, .exhausted free home⟩
  · rintro ⟨lost, course⟩
    cases course with
    | exhausted => rfl

end Follows

theorem Follows.visit (stays : Stays operation) {server : Nat}
    (begins : world.session.endpoint = server)
    {next : Error → World σ → Option (Except Error α × World σ)}
    (rest : ∀ (error : Error) (ended : World σ), ended.session.endpoint = server →
      ended.session.loaded = world.session.loaded →
      Follows operation first steps (some error) ended.moved (next error ended.moved)) :
    Follows operation first (.visit server :: steps) last world
      (((trial operation).run world).bind (settle next)) := by
  intro result later
  constructor
  · -- A trial is served, refused, or lost; only then does the schedule go on, from the world after
    -- the move.
    intro ran
    obtain ⟨⟨outcome, ended⟩, tried, settled⟩ := Option.bind_eq_some_iff.mp ran
    obtain ⟨endpoint, loaded⟩ := stays.trial _ outcome ended tried
    have ends : ended.session.endpoint = server := endpoint.trans begins
    cases outcome with
    | ok value =>
      cases settled
      exact ⟨0, .served begins tried ends⟩
    | error error =>
      simp only [settle] at settled
      split at settled
      · next unavailable =>
        obtain ⟨lost, course⟩ := (rest error ended ends loaded result later).mp settled
        exact ⟨lost + 1, .lost begins tried unavailable course⟩
      · next available =>
        cases settled
        exact ⟨0, .refused begins tried (by simpa using available) ends⟩
  · rintro ⟨lost, course⟩
    cases course with
    | served _ ran _ => rw [ran]; rfl
    | refused _ ran settled _ => simp [ran, settle, settled]
    | @lost _ _ _ _ ended _ error _ _ _ ran unsettled course =>
      obtain ⟨endpoint, loaded⟩ := stays.trial _ _ ended ran
      have follows := rest error ended (endpoint.trans begins) loaded result later
      simpa [ran, settle, unsettled] using follows.mpr ⟨_, course⟩

/-- What follows a round that has not settled the operation. -/
def conclude (next : Option Error → World σ → Option (Except Error α × World σ)) :
    Round α × World σ → Option (Except Error α × World σ)
  | (.settled result, ended) => some (result, ended)
  | (.exhausted last, ended) => next last ended

theorem run_round (operation : Action σ α) (last : Option Error) (servers : Nat) (world : World σ)
    (next : Option Error → World σ → Option (Except Error α × World σ)) :
    (round operation last (servers + 1) world).bind (conclude next) =
      ((trial operation).run world).bind (settle fun error ended =>
        (round operation (some error) servers ended).bind (conclude next)) := by
  cases tried : (trial operation).run world with
  | none => simp [round, tried]
  | some out =>
    obtain ⟨outcome, ended⟩ := out
    cases outcome with
    | ok value => simp [round, tried, conclude, settle, World.touched]
    | error error =>
      by_cases unavailable : error.isUnavailable
      · simp [round, tried, settle, unavailable, World.moved]
      · simp [round, tried, conclude, settle, unavailable]

/-- The servers from a place on, up to the last. -/
def Plan.visitsFrom (plan : Plan) (place count : Nat) : List Step :=
  (List.range' place count).map fun place => .visit ((plan.first + place) % plan.servers)

theorem Plan.visits_eq (plan : Plan) : plan.visits = plan.visitsFrom 0 plan.servers := by
  rw [visits, List.range_eq_range', visitsFrom]

/-- The first attempt begins at once. -/
theorem Plan.steps_eq {plan : Plan} (positive : 0 < plan.attempts) :
    ∃ steps, plan.steps = plan.visitsFrom 0 plan.servers ++ steps := by
  obtain ⟨attempts, same⟩ := Nat.exists_eq_succ_of_ne_zero (Nat.ne_of_gt positive)
  refine ⟨(List.range' 1 attempts).flatMap fun attempt => plan.rests attempt ++ plan.visits, ?_⟩
  rw [steps, same, List.range_eq_range', List.range'_succ, List.flatMap_cons, ← visits_eq]
  rfl

/-- The world stands at a place of a round: the server there is at hand. After the last place
    nothing is held, and a trial was lost. -/
structure At (loaded : Loaded) (plan : Plan) (place : Nat) (last : Option Error)
    (world : World σ) : Prop where
  configured : world.session.loaded = some loaded
  endpoint : world.session.endpoint = (plan.first + place) % plan.servers
  ended : place = plan.servers → world.session.link = none ∧ last.isSome

theorem round_follows (stays : Stays operation) {loaded : Loaded} {plan : Plan}
    (servers : plan.servers = loaded.config.uris.length) (inside : plan.first < plan.servers)
    {next : Option Error → World σ → Option (Except Error α × World σ)}
    (rest : ∀ (last : Option Error) (ended : World σ), At loaded plan plan.servers last ended →
      Follows operation plan.first steps last ended (next last ended)) :
    ∀ (count place : Nat) (last : Option Error) (world : World σ), place + count = plan.servers →
      At loaded plan place last world →
      Follows operation plan.first (plan.visitsFrom place count ++ steps) last world
        ((round operation last count world).bind (conclude next))
  | 0, place, last, world, all, here => by
    obtain rfl : place = plan.servers := by omega
    simpa [Plan.visitsFrom, round, conclude] using rest last world here
  | count + 1, place, last, world, all, here => by
    rw [run_round, Plan.visitsFrom, List.range'_succ]
    refine .visit stays here.endpoint fun error ended endpoint configured => ?_
    have configured := configured.trans here.configured
    refine round_follows stays servers inside rest count (place + 1) (some error) ended.moved
      (by omega) ⟨(moved_loaded ended).trans configured, ?_, fun _ => ⟨moved_link ended, rfl⟩⟩
    have any : loaded.config.uris ≠ [] := List.length_pos_iff.mp (by omega)
    rw [moved_endpoint configured any, endpoint, ← servers, Nat.mod_add_mod, Nat.add_assoc]

/-- A round that ends when the server with which it began has its turn again. -/
def circle (operation : Action σ α) (start : Nat) : Nat → Engine σ (Round α)
  | 0 => outOfPatience
  | patience + 1 => do
    match ← (trial operation).run with
    | .ok value =>
      touch
      return .settled (.ok value)
    | .error error =>
      if error.isUnavailable then
        close
        update Session.advance
        if (← session).endpoint = start then return .exhausted (some error)
        else circle operation start patience
      else return .settled (.error error)

/-- The two rounds differ at most in what follows a trial that was lost. -/
theorem circle_succ_eq_round_succ {start patience servers : Nat}
    (rest : ∀ (error : Error) (ended : World σ),
      (trial operation).run world = some (.error error, ended) →
      (if ended.moved.session.endpoint = start then some (.exhausted (some error), ended.moved)
        else circle operation start patience ended.moved) =
        round operation (some error) servers ended.moved) :
    circle operation start (patience + 1) world = round operation last (servers + 1) world := by
  cases tried : (trial operation).run world with
  | none => simp [circle, round, tried]
  | some out =>
    obtain ⟨outcome, ended⟩ := out
    match outcome with
    | .ok value => simp [circle, round, tried]
    | .error error =>
      have rest := rest error ended tried
      by_cases unavailable : error.isUnavailable
      · -- After a loss both give up the connection and move on; they differ in how they notice that
        -- the round is over.
        have turn : circle operation start (patience + 1) world =
            (if ended.moved.session.endpoint = start then pure (.exhausted (some error))
              else circle operation start patience : Engine σ (Round α)) ended.moved := by
          simp only [circle, run_bind, tried, Option.bind_some, unavailable, if_true, run_close,
            run_update, run_session]
          rfl
        have step : round operation last (servers + 1) world =
            round operation (some error) servers ended.moved := by
          simp [round, tried, unavailable, World.moved]
        rw [turn, step, ← rest]
        by_cases home : ended.moved.session.endpoint = start
        · rw [if_pos home, if_pos home]
          rfl
        · rw [if_neg home, if_neg home]
      · simp [circle, round, tried, unavailable]

theorem turn_ne {start turn servers : Nat} (inside : start < servers) (begun : 0 < turn)
    (within : turn < servers) : (start + turn) % servers ≠ start := by
  by_cases below : start + turn < servers
  · rw [Nat.mod_eq_of_lt below]
    omega
  · rw [Nat.mod_eq_sub_mod (by omega), Nat.mod_eq_of_lt (by omega)]
    omega

/-- To count the servers of a round comes to the same as to watch for its first. -/
theorem circle_eq_round (stays : Stays operation) {loaded : Loaded} {start : Nat}
    (inside : start < loaded.config.uris.length) (count : Nat) :
    ∀ (place patience : Nat) (last : Option Error) (world : World σ),
      place + (count + 1) = loaded.config.uris.length → count ≤ patience →
      world.session.loaded = some loaded →
      world.session.endpoint = (start + place) % loaded.config.uris.length →
      circle operation start (patience + 1) world = round operation last (count + 1) world := by
  have any : loaded.config.uris ≠ [] := List.length_pos_iff.mp (by omega)
  have moves {place : Nat} {world ended : World σ} {outcome : Except Error α}
      (tried : (trial operation).run world = some (outcome, ended))
      (configured : world.session.loaded = some loaded)
      (endpoint : world.session.endpoint = (start + place) % loaded.config.uris.length) :
      ended.moved.session.loaded = some loaded ∧
        ended.moved.session.endpoint = (start + (place + 1)) % loaded.config.uris.length := by
    obtain ⟨same, kept⟩ := stays.trial _ outcome ended tried
    rw [moved_endpoint (kept.trans configured) any, same, endpoint, Nat.mod_add_mod, Nat.add_assoc]
    exact ⟨(moved_loaded ended).trans (kept.trans configured), rfl⟩
  induction count with
  | zero =>
    intro place patience last world all _ configured endpoint
    refine circle_succ_eq_round_succ fun error ended tried => ?_
    -- The last server of a round is followed by the first.
    have home : ended.moved.session.endpoint = start := by
      rw [(moves tried configured endpoint).2, all, Nat.add_mod_right, Nat.mod_eq_of_lt inside]
    rw [if_pos home]
    rfl
  | succ count ih =>
    intro place patience last world all enough configured endpoint
    refine circle_succ_eq_round_succ fun error ended tried => ?_
    obtain ⟨configured, endpoint⟩ := moves tried configured endpoint
    rw [if_neg (endpoint ▸ turn_ne inside (Nat.succ_pos place) (by omega))]
    obtain ⟨patience, rfl⟩ : ∃ rest, patience = rest + 1 := ⟨patience - 1, by omega⟩
    exact ih (place + 1) patience (some error) ended.moved (by omega) (by omega) configured endpoint

/-- The world after the wait before an attempt. -/
def rested (policy : Policy) (attempt : Nat) (world : World σ) : World σ :=
  match if 0 < attempt then policy.delay attempt else none with
  | some seconds => world.after (.sleep seconds)
  | none => world

theorem run_wait (policy : Policy) (attempt : Nat) (world : World σ) :
    wait policy attempt world = some ((), rested policy attempt world) := by
  unfold wait rested
  split
  · cases policy.delay attempt <;> rfl
  · rfl

theorem run_rounds (policy : Policy) (servers : Nat) (operation : Action σ α)
    (last : Option Error) (attempt attempts : Nat) (world : World σ) :
    (rounds policy servers operation last attempt (attempts + 1)).run world =
      (round operation last servers (rested policy attempt world)).bind
        (conclude fun last ended =>
          (rounds policy servers operation last (attempt + 1) attempts).run ended) := by
  rw [rounds]
  simp only [run_action_bind, run_lift, run_wait, Option.map_some, Option.bind_some]
  cases round operation last servers (rested policy attempt world) with
  | none => rfl
  | some out =>
    obtain ⟨outcome, ended⟩ := out
    cases outcome with
    | settled result => cases result <;> rfl
    | exhausted last => rfl

/-- What becomes of an operation is first of all what becomes of its first trial. -/
theorem run_eq_trial (operation : Action σ α) {world begun : World σ} {loaded : Loaded}
    (ready : (Session.ensureReady : Action σ Unit).run world = some (.ok (), begun))
    (configured : begun.session.loaded = some loaded) :
    ∃ servers attempts, (run operation).run world =
      ((trial operation).run begun).bind (settle fun error ended =>
        (round operation (some error) servers ended).bind (conclude fun last ended =>
          (rounds loaded.config.failover (servers + 1) operation last 1 attempts).run ended)) := by
  obtain ⟨attempts, attempts_eq⟩ : ∃ attempts,
      budget loaded.config.failover (Service.isSoft begun.outside) = attempts + 1 := by
    refine Nat.exists_eq_succ_of_ne_zero ?_
    unfold budget
    split <;> omega
  obtain ⟨servers, servers_eq⟩ : ∃ servers, max 1 loaded.config.uris.length = servers + 1 :=
    Nat.exists_eq_succ_of_ne_zero (by omega)
  have began : rested loaded.config.failover 0 begun = begun := rfl
  have ran : (run operation).run world = (rounds loaded.config.failover (servers + 1) operation none
      0 (attempts + 1)).run begun := by
    simp [run, ready, configured, servers_eq, attempts_eq]
  exact ⟨servers, attempts, by rw [ran, run_rounds, began, run_round]⟩

/-- An operation that succeeds at the first server has succeeded. -/
theorem run_of_trial {world begun ended : World σ} {loaded : Loaded} {value : α}
    (ready : (Session.ensureReady : Action σ Unit).run world = some (.ok (), begun))
    (configured : begun.session.loaded = some loaded)
    (served : (trial operation).run begun = some (.ok value, ended)) :
    (run operation).run world = some (.ok value, ended.touched) := by
  obtain ⟨servers, attempts, ran⟩ := run_eq_trial operation ready configured
  rw [ran, served]
  rfl

@[simp] theorem rested_session (policy : Policy) (attempt : Nat) (world : World σ) :
    (rested policy attempt world).session = world.session := by
  unfold rested
  split <;> rfl

theorem Follows.rests {plan : Plan} {attempt : Nat}
    (follows : Follows operation first steps last (rested plan.policy attempt world) outcome) :
    Follows operation first (plan.rests attempt ++ steps) last world outcome := by
  unfold Plan.rests
  unfold rested at follows
  by_cases begins : attempt = 0
  · simpa [begins] using follows
  · simp only [Nat.pos_of_ne_zero begins, if_true] at follows
    simp only [begins, if_false]
    cases waits : plan.policy.delay attempt with
    | none => simpa [waits] using follows
    | some seconds =>
      rw [waits] at follows
      exact follows.rest

theorem rounds_follows (stays : Stays operation) {loaded : Loaded} {plan : Plan}
    (servers : plan.servers = loaded.config.uris.length) (inside : plan.first < plan.servers) :
    ∀ (attempts attempt : Nat) (last : Option Error) (world : World σ),
      world.session.loaded = some loaded → world.session.endpoint = plan.first →
      (attempts = 0 → world.session.link = none ∧ last.isSome) →
      Follows operation plan.first
        ((List.range' attempt attempts).flatMap fun attempt => plan.rests attempt ++ plan.visits)
        last world
        ((rounds plan.policy plan.servers operation last attempt attempts).run world)
  | 0, attempt, last, world, configured, home, ended => by
    obtain ⟨free, lost⟩ := ended rfl
    obtain ⟨error, rfl⟩ := Option.isSome_iff_exists.mp lost
    exact .exhausted free home
  | attempts + 1, attempt, last, world, configured, home, _ => by
    rw [run_rounds, List.range'_succ, List.flatMap_cons, List.append_assoc]
    refine .rests ?_
    rw [plan.visits_eq]
    refine round_follows stays servers inside (fun last ended there => ?_) plan.servers 0 last _
      (Nat.zero_add _) ⟨by simpa using configured, ?_, fun none => by omega⟩
    · -- A whole round leads back to where it began.
      have home : ended.session.endpoint = plan.first := by
        rw [there.endpoint, Nat.add_mod_right, Nat.mod_eq_of_lt inside]
      rw [← plan.visits_eq]
      exact rounds_follows stays servers inside attempts (attempt + 1) last ended there.configured
        home fun _ => there.ended rfl
    · rw [rested_session, home, Nat.add_zero, Nat.mod_eq_of_lt inside]

/-- The schedule for the session in a world, under a configuration. -/
def Plan.ofWorld (world : World σ) (config : Config) : Plan where
  policy := config.failover
  servers := config.uris.length
  first := world.session.endpoint
  attempts :=
    if config.failover.mode = .soft ∨ Service.isSoft world.outside then 1
    else
      max 1 (min (config.failover.tries.toNat + config.failover.eagerTries.toNat) (UInt32.size - 1))

theorem budget_eq (policy : Policy) (soft : Bool) : budget policy soft =
    if policy.mode = .soft ∨ soft then 1
    else max 1 (min (policy.tries.toNat + policy.eagerTries.toNat) (UInt32.size - 1)) := by
  cases soft <;> cases mode : policy.mode <;>
    simp [budget, Policy.isHard, Policy.attempts, mode, UInt32.size]

theorem Plan.attempts_pos (world : World σ) (config : Config) :
    0 < (Plan.ofWorld world config).attempts := by
  simp only [ofWorld]
  split <;> omega

/-- A server at which no trial is lost. -/
def Reachable (operation : Action σ α) (loaded : Loaded) (server : Nat) : Prop :=
  ∀ world : World σ, world.session.loaded = some loaded → world.session.endpoint = server →
    Ends world (trial operation).run fun result _ =>
      ∀ error, result = .error error → error.isUnavailable = false

/-- No trial is lost at or after a server that is reachable, once it has its turn. -/
theorem Course.lost_le (stays : Stays operation) {loaded : Loaded} {plan : Plan} {place : Nat}
    (reachable : Reachable operation loaded ((plan.first + place) % plan.servers)) :
    ∀ {count start lost : Nat} {last : Option Error} {world later : World σ}
      {result : Except Error α}, world.session.loaded = some loaded →
      start ≤ place → place < start + count →
      Course operation first (plan.visitsFrom start count ++ steps) last world lost result later →
      lost ≤ place - start ∧ ∀ error, result = .error error → error.isUnavailable = false
  | 0, _, _, _, _, _, _, _, _, _, _ => by omega
  | count + 1, start, _, last, world, later, result, configured, from_, before, course => by
    rw [Plan.visitsFrom, List.range'_succ] at course
    cases course with
    | served => exact ⟨Nat.zero_le _, nofun⟩
    | refused _ _ settled => exact ⟨Nat.zero_le _, by rintro _ ⟨⟩; exact settled⟩
    | @lost _ _ _ _ ended _ error lost _ begins ran unsettled course =>
      have ne : start ≠ place := by
        rintro rfl
        have settled := reachable world configured begins (.error error) ended ran error rfl
        simp [settled] at unsettled
      obtain ⟨-, kept⟩ := stays.trial _ _ ended ran
      have moved : ended.moved.session.loaded = some loaded := by
        simpa using kept.trans configured
      have course : Course operation first (plan.visitsFrom (start + 1) count ++ steps) (some error)
          ended.moved lost result later := course
      have rest := course.lost_le stays reachable moved (by omega) (by omega)
      exact ⟨by omega, rest.2⟩

/-- An operation goes along its schedule, and has the outcome to which that leads. A server that is
    reachable is found in the first attempt, and an operation that ends at every server ends. -/
theorem run_follows (operation : Action σ α) (stays : Stays operation) {world begun : World σ}
    (placed : world.session.Placed)
    (ready : (Session.ensureReady : Action σ Unit).run world = some (.ok (), begun)) :
    ∃ loaded, begun.session.loaded = some loaded ∧
      let plan := Plan.ofWorld begun loaded.config
      plan.first < plan.servers ∧
      (∀ result later, (run operation).run world = some (result, later) ↔
        ∃ lost, Course operation plan.first plan.steps none begun lost result later) ∧
      (∀ place < plan.servers,
        Reachable operation loaded ((plan.first + place) % plan.servers) →
        ∀ lost result later,
          Course operation plan.first plan.steps none begun lost result later →
          lost ≤ place ∧ ∀ error, result = .error error → error.isUnavailable = false) ∧
      (Halts operation.run → ∃ result later, (run operation).run world = some (result, later)) := by
  have configured := Session.ensureReady_configured world _ begun ready rfl
  obtain ⟨loaded, configured⟩ := Option.isSome_iff_exists.mp configured
  -- A loaded configuration has servers, and the session stands at one of them.
  have inside : begun.session.endpoint < loaded.config.uris.length :=
    (Session.ensureReady_lasts Session.placed_lasting.world).ends placed _ begun ready loaded
      configured
  have servers : max 1 loaded.config.uris.length = loaded.config.uris.length :=
    Nat.max_eq_right (by omega)
  refine ⟨loaded, configured, inside, ?_, ?_, fun halts => run_halts halts world⟩
  · intro result later
    have ran : (run operation).run world =
        (rounds loaded.config.failover loaded.config.uris.length operation none 0
          (budget loaded.config.failover (Service.isSoft begun.outside))).run begun := by
      simp [run, ready, configured, servers]
    rw [ran, budget_eq]
    have within : (Plan.ofWorld begun loaded.config).first <
        (Plan.ofWorld begun loaded.config).servers := inside
    have follows := rounds_follows stays rfl within
      (Plan.ofWorld begun loaded.config).attempts 0 none begun configured rfl
      fun none => absurd (Plan.attempts_pos begun loaded.config) (by omega)
    rw [← List.range_eq_range'] at follows
    exact follows result later
  · intro place inRound reachable lost result later course
    -- The first round visits all servers, and so it comes to the reachable one.
    obtain ⟨steps, split⟩ := Plan.steps_eq (Plan.attempts_pos begun loaded.config)
    rw [split] at course
    exact course.lost_le stays reachable configured (Nat.zero_le _) (by omega)

/-- Neither server can be reached at first. The second can when both have been tried twice, and the
    first once more after a wait. -/
theorem run_follows_outage :
    let failing (calls : Nat) (_ : Call) : Option Error :=
      if calls < 6 then some (.unavailable "down") else none
    let operation : Action (Frail Small.Outside failing) (List Entry) := Small.users.searchOnce
    let world : World (Frail Small.Outside failing) :=
      { outside := ⟨{}, 0⟩
        session := { loaded := some ⟨Small.config, none⟩, state := .initialized } }
    world.session.Placed ∧ Stays operation ∧
      (Session.ensureReady : Action _ Unit).run world = some (.ok (), world.looked) ∧
      (Plan.ofWorld world.looked Small.config).steps.take 7 =
        [.visit 0, .visit 1, .visit 0, .visit 1, .rest 4, .visit 0, .visit 1] ∧
      ∃ later, (run operation).run world = some (.ok [Small.door], later) ∧
        ∃ lost, Course operation 0 (Plan.ofWorld world.looked Small.config).steps none world.looked
          lost (.ok [Small.door]) later := by
  intro failing operation world
  have placed : world.session.Placed := by
    rintro _ ⟨⟩
    decide
  have stays : Stays operation := fun world =>
    have same : Lasts (fun later => later.session.endpoint = world.session.endpoint ∧
        later.session.loaded = world.session.loaded) operation.run :=
      Small.users.searchOnce_lasts fun _ _ _ same => same
    same.ends ⟨rfl, rfl⟩
  have calm : world.Calm := by decide +kernel
  have ready := Session.run_ensureReady_calm calm rfl
  -- After six calls the servers are back, and the next trial is served.
  have served : ((run operation).run world).map Prod.fst = some (.ok [Small.door]) := by
    decide +kernel
  obtain ⟨⟨result, later⟩, ran, same⟩ := Option.map_eq_some_iff.mp served
  obtain rfl : result = .ok [Small.door] := same
  obtain ⟨loaded, configured, -, follows, -⟩ := run_follows operation stays placed ready
  obtain rfl : loaded = ⟨Small.config, none⟩ := (Option.some.inj configured).symm
  exact ⟨placed, stays, ready, by decide +kernel, later, ran, (follows _ later).mp ran⟩

end Failover
end NameService
