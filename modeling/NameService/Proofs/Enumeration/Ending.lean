import NameService.Proofs.Enumeration.Dialogue
import NameService.Proofs.Enumeration.Entries

/-!
Enumerations that come to their end. Nothing bounds the length of an answer in advance, and between
two of its messages other questions may be asked, on which the rest may depend. But where no answer
goes on forever, an enumeration gives one entry after the other until there are no more: either the
connection is lost on the way, or all parts of the tree have their turn.

## Main results

- `Streaming.dries`: a search in progress gives entries until there are no more.
- `Enumeration.start_dries`: so does an enumeration from its start on.
-/

namespace NameService

/-- The same search for another page. -/
def Search.turn (search : Search) (cookie : List UInt8) : Search :=
  { search with page := search.page.map fun page => { page with cookie } }

/-- Answers do not come message by message by this call. -/
def Call.isAside : Call → Bool
  | .start _ _ | .next _ _ | .abandon _ _ => false
  | _ => true

namespace Lookup

/-- The search for a page of the answer in one part of the tree. -/
def IsPage (lookup : Lookup) (config : Config) (index : Nat) (cookie : List UInt8)
    (search : Search) : Prop :=
  ∃ target query, (lookup.targets config)[index]? = some target ∧
    lookup.search config target = .ok query ∧ search = { query with page := config.page? cookie }

namespace IsPage

variable {lookup : Lookup} {config : Config} {index : Nat} {cookie : List UInt8}
  {search other : Search}

theorem index_lt (page : lookup.IsPage config index cookie search) :
    index < (lookup.targets config).length := by
  obtain ⟨target, query, found, -⟩ := page
  exact (List.getElem?_eq_some_iff.mp found).1

theorem unique (page : lookup.IsPage config index cookie search)
    (page' : lookup.IsPage config index cookie other) : search = other := by
  obtain ⟨target, query, found, searches, rfl⟩ := page
  obtain ⟨target', query', found', searches', rfl⟩ := page'
  obtain rfl := Option.some.inj (found.symm.trans found')
  obtain rfl := Except.ok.inj (searches.symm.trans searches')
  rfl

theorem turn (page : lookup.IsPage config index cookie search) (next : List UInt8) :
    lookup.IsPage config index next (search.turn next) := by
  obtain ⟨target, query, found, searches, rfl⟩ := page
  refine ⟨target, query, found, searches, ?_⟩
  simp only [Search.turn, Config.page?]
  split <;> rfl

end IsPage

end Lookup

namespace Service

variable {σ : Type} [Service σ]

/-- How a world may go on while no message is asked for. -/
abbrev Drifts : σ → σ → Prop :=
  Relation.ReflTransGen fun outside later =>
    ∃ call : Call, call.isAside ∧ later = (answer call outside).2

/-- The answer to a search comes to its end, whatever is asked in between: neither the messages of a
    page nor the pages go on forever. -/
inductive Finite (connection : Connection) : Search → MessageId → σ → Prop
  | intro {search : Search} {id : MessageId} {outside : σ}
    (more : ∀ {between later : σ} {message : Message}, Drifts outside between →
      answer (.next connection id) between = (.ok message, later) →
      (∀ done, message ≠ .done done) → Finite connection search id later)
    (pages : ∀ {between later last : σ} {done : Done} {cookie : List UInt8} {next : MessageId},
      Drifts outside between → answer (.next connection id) between = (.ok (.done done), later) →
      done.nextPage? = some cookie →
      answer (.start connection (search.turn cookie)) later = (.ok next, last) →
      Finite connection (search.turn cookie) next last) :
    Finite connection search id outside

variable (σ) in
/-- Every answer that is begun comes to its end. -/
def Finitary : Prop :=
  ∀ (connection : Connection) (search : Search) (id : MessageId) (outside later : σ),
    answer (.start connection search) outside = (.ok id, later) →
    Finite connection search id later

theorem drifts_of_aside {call : Call} (aside : call.isAside) (outside : σ) :
    Drifts outside (answer call outside).2 :=
  .single ⟨call, aside, rfl⟩

end Service

namespace Host

variable {config : Config} {reply : Search → Reply} {connection : Connection} {search : Search}

/-- The host does not change while no message is asked for. -/
theorem eq_of_drifts {host later : Host config reply} (drifts : Service.Drifts host later) :
    later = host := by
  induction drifts with
  | refl => rfl
  | tail _ step same =>
    obtain ⟨call, aside, rfl⟩ := step
    cases call with
    | start | next | abandon => cases aside
    | _ => exact same

/-- The messages that are left are received one by one, and no page follows. -/
theorem finite {id : MessageId} {host : Host config reply}
    (last : ∀ done, .done done ∈ host.queue id → done.nextPage? = none) :
    Service.Finite connection search id host := by
  -- By induction on what is left in the queue: every message that is received makes it shorter, and
  -- nothing is put into it.
  induction left : host.queue id generalizing host with
  | nil =>
    have sent : host.send id = (.error (.unavailable "no such search"), host) := by
      simp only [send, left]
    refine .intro (fun drifts received _ => ?_) fun drifts received _ _ => ?_
    all_goals
      obtain rfl := eq_of_drifts drifts
      cases sent.symm.trans received
  | cons message rest ih =>
    have sent : host.send id =
        (.ok message, { host with queue := Function.update host.queue id rest }) := by
      simp only [send, left]
    refine .intro (fun drifts received _ => ?_) fun drifts received follows _ => ?_
    all_goals
      obtain rfl := eq_of_drifts drifts
      cases sent.symm.trans received
    · refine ih (fun done there => last done ?_) (Function.update_self _ _ _)
      rw [left]
      exact List.mem_cons_of_mem _ (by simpa using there)
    · have none := last _ (left ▸ List.mem_cons_self)
      cases none.symm.trans follows

/-- Answers without pages come to their end. -/
theorem finitary (whole : ∀ search, (reply search).done.nextPage? = none) :
    Service.Finitary (Host config reply) := by
  rintro connection search id host _ ⟨⟩
  refine finite fun done there => ?_
  have queued : (host.accept search).queue ⟨host.started⟩ = (reply search).stream :=
    Function.update_self _ _ _
  have among : .done done ∈ (reply search).stream := queued ▸ there
  simp only [Reply.stream, List.mem_append, List.mem_map, List.mem_singleton] at among
  obtain ⟨shown, -, same⟩ | same := among
  · cases shown <;> cases same
  · cases same
    exact whole search

end Host

open Engine World Service

variable {σ : Type} [Service σ]

theorem World.drop_drifts (world : World σ) {part : Connection → Call}
    (aside : ∀ connection, (part connection).isAside) :
    Drifts world.outside (world.drop part).outside := by
  unfold drop
  split
  · exact drifts_of_aside (aside _) _
  · exact .refl

/-- A deed that leaves no note is no more than some calls aside. -/
theorem Deed.drifts {world later : World σ} (deed : Deed world later)
    (silent : later.notes = world.notes) : Drifts world.outside later.outside := by
  cases deed with
  | read | adopt | refused | sleep => exact drifts_of_aside rfl _
  | unbind | disconnect | forget => exact world.drop_drifts fun _ => rfl
  | query held query target =>
    rename_i call
    cases call with
    -- These two would have left a note.
    | start connection search => exact absurd silent (by simp)
    | next connection id => exact absurd silent (by simp)
    | abandon => cases query
    | _ => exact drifts_of_aside rfl _
  | abandon => exact absurd silent (by simp)
  | rejected =>
    exact ((drifts_of_aside rfl _).trans (drifts_of_aside rfl _)).trans (drifts_of_aside rfl _)
  | welcomed => exact (drifts_of_aside rfl _).trans (drifts_of_aside rfl _)
  | _ => exact .refl

/-- The configuration changes only while no connection is held. -/
theorem Deed.loaded {world later : World σ} (deed : Deed world later)
    (held : world.session.link.isSome) : later.session.loaded = world.session.loaded := by
  cases deed with
  | adopt bare => simp [Session.link_of_bare bare] at held
  | unbind | disconnect | forget => simp [Session.dropLink]
  | _ => rfl

/-- A row of deeds without a note. -/
abbrev Asides : World σ → World σ → Prop :=
  Relation.ReflTransGen fun world later => Deed world later ∧ later.notes = world.notes

theorem Asides.upkept (world : World σ) :
    World.Upkept fun later => Asides world later ∧ later.Coherent where
  deed step silent reached := ⟨reached.1.tail ⟨step, silent⟩, step.coherent reached.2⟩
  coherent reached := reached.2

theorem World.Upkept.asides {holds : World σ → Prop} (upkept : World.Upkept holds)
    {world later : World σ} (asides : Asides world later) (start : holds world) : holds later := by
  induction asides with
  | refl => exact start
  | tail _ step kept => exact upkept.deed step.1 step.2 kept

/-- The connection of a generation is held, under a configuration. -/
structure World.Holding (loaded : Loaded) (link : Link) (generation : Nat) (world : World σ) :
    Prop where
  held : world.session.link = some link
  configured : world.session.loaded = some loaded
  current : generation = world.session.generation

theorem World.Holding.after {loaded : Loaded} {link : Link} {generation : Nat} {world : World σ}
    (holding : world.Holding loaded link generation) (call : Call) :
    (world.after call).Holding loaded link generation :=
  ⟨holding.held, holding.configured, holding.current⟩

/-- Since a message was received last, there were only calls aside. If the connection of this
    generation is still held, then under the same configuration. -/
structure Anchored (loaded : Loaded) (connection : Connection) (generation : Nat) (outside : σ)
    (world : World σ) : Prop where
  coherent : world.Coherent
  drifts : Drifts outside world.outside
  past : generation ≤ world.session.generation
  held : ∀ link, world.session.link = some link → generation = world.session.generation →
    link.connection = connection ∧ world.session.loaded = some loaded

namespace Anchored

variable {loaded : Loaded} {connection : Connection} {generation : Nat} {outside : σ}

theorem upkept : World.Upkept (Anchored loaded connection generation outside) where
  coherent anchored := anchored.coherent
  deed {world later} step silent anchored := by
    have past := anchored.past
    refine ⟨step.coherent anchored.coherent, anchored.drifts.trans (step.drifts silent), ?_, ?_⟩
    · rcases step.link.2 with ⟨same, -⟩ | ⟨-, next, -⟩ <;> omega
    · intro link held current
      rcases step.link.2 with ⟨same, kept⟩ | ⟨-, next, -⟩
      · obtain ⟨before, held, same'⟩ := kept link held
        rw [same', step.loaded (by simp [held])]
        exact anchored.held before held (current.trans same)
      · -- What is held is of a later generation.
        omega

theorem holding {world : World σ} (anchored : Anchored loaded connection generation outside world)
    {link : Link} (held : world.session.link = some link)
    (current : generation = world.session.generation) :
    link.connection = connection ∧ world.Holding loaded link generation :=
  have ⟨same, configured⟩ := anchored.held link held current
  ⟨same, held, configured, current⟩

/-- A message has just been received. -/
theorem of_holding {world : World σ} {link : Link}
    (holding : world.Holding loaded link generation) :
    Anchored loaded link.connection generation world.outside world where
  coherent _ := by simp [holding.configured]
  drifts := .refl
  past := Nat.le_of_eq holding.current
  held other same _ := by
    obtain rfl := Option.some.inj (holding.held.symm.trans same)
    exact ⟨rfl, holding.configured⟩

end Anchored

namespace Enumeration

/-- One entry can be taken after the other until there are no more, if there is enough patience for
    each of them. Between two of them there may be calls aside. -/
inductive Dries : Enumeration → World σ → Prop
  | intro {e e' : Enumeration} {world later : World σ} {result : Except Error (Option Entry)}
    (enough : Nat)
    (ran : ∀ patience, enough ≤ patience → e.nextEntry patience world = some ((result, e'), later))
    (rest : ∀ entry, result = .ok (some entry) → ∀ last, Asides later last → Dries e' last) :
    Dries e world

/-- How an enumeration tells its end. -/
def ended : Error → Except Error (Option Entry)
  | .notFound _ => .ok none
  | error => .error error

theorem run_nextEntry_free {e e' : Enumeration} {world later : World σ} {result : Except Error Unit}
    (free : e.entry = none) (fetched : e.fetch world = some ((result, e'), later))
    (patience : Nat) : e.nextEntry (patience + 1) world = match result with
      | .ok () => e'.nextEntry patience later
      | .error error => some ((ended error, e'), later) := by
  rw [nextEntry, free]
  simp only [run_bind, fetched, Option.bind_some]
  cases result with
  | ok => rfl
  | error error => cases error <;> rfl

namespace Dries

variable {e : Enumeration} {world : World σ}

/-- What can be fetched comes first. -/
theorem of_fetch (free : e.entry = none)
    (fetches : Ends world e.fetch fun out later => out.1 = .ok () → Dries out.2 later) :
    Dries e world := by
  obtain ⟨⟨result, e'⟩, later, fetched⟩ := e.fetch_halts world
  have goesOn := run_nextEntry_free free fetched
  cases result with
  | error error =>
    have ran (patience : Nat) (patient : 1 ≤ patience) :
        e.nextEntry patience world = some ((ended error, e'), later) := by
      obtain ⟨patience, rfl⟩ := Nat.exists_eq_add_of_le' patient
      exact goesOn patience
    exact .intro 1 ran (by cases error <;> simp [ended])
  | ok =>
    obtain ⟨enough, ran, rest⟩ := fetches _ later fetched rfl
    refine .intro (enough + 1) (fun patience patient => ?_) rest
    obtain ⟨patience, rfl⟩ := Nat.exists_eq_add_of_le' (Nat.le_of_add_left_le patient)
    exact (goesOn patience).trans (ran patience (Nat.le_of_succ_le_succ patient))

theorem of_entry {entry : Entry} (here : e.entry = some entry)
    (rest : ∀ last, Asides world last → Dries e.dropEntry last) : Dries e world := by
  have ran (patience : Nat) (patient : 1 ≤ patience) :
      e.nextEntry patience world = some ((.ok (some entry), e.dropEntry), world) := by
    obtain ⟨patience, rfl⟩ := Nat.exists_eq_add_of_le' patient
    rw [nextEntry, here]
    rfl
  exact .intro 1 ran fun _ _ => rest

theorem idle (free : e.entry = none) (idle : e.pending = none) : Dries e world := by
  have fetched : e.fetch world = some ((.error exhausted, e), world) := by simp [fetch, idle]
  exact of_fetch free (.of_run fetched (by simp))

end Dries

section Going

variable {lookup : Lookup} {loaded : Loaded} {e : Enumeration} {world : World σ} {link : Link}
  {generation : Nat}

/-- If the server accepts the search that comes next, there are entries until there are no more. -/
def GoesOn (lookup : Lookup) (loaded : Loaded) (link : Link) (world : World σ) (e : Enumeration) :
    Prop :=
  ∀ search id, lookup.IsPage loaded.config e.index e.cookie search →
    world.answer (.start link.connection search) = .ok id →
    Dries { e with pending := some id } (world.after (.start link.connection search))

variable (holding : world.Holding loaded link generation) (asks : e.lookup = some lookup)
  (free : e.entry = none)
include holding asks free

theorem startNext_dries (goesOn : GoesOn lookup loaded link world e) :
    Ends world e.startNext fun out later => out.1 = .ok () → Dries out.2 later := by
  have started : Ends world (lookup.startPage e.index e.cookie : Action σ _).run
      fun result later => ∀ id, result = .ok id → Dries { e with pending := id } later := by
    rintro _ later ran id rfl
    cases id with
    -- Without a part of the tree that is left, nothing is asked and nothing will come.
    | none => exact .idle free rfl
    | some id =>
      obtain ⟨loaded', link', target, query, configured, held, found, searches, answered, rfl⟩ :=
        startPage_inv ran
      obtain rfl := Option.some.inj (holding.configured.symm.trans configured)
      obtain rfl := Option.some.inj (holding.held.symm.trans held)
      exact goesOn _ id ⟨target, query, found, searches, rfl⟩ answered
  unfold startNext
  simp only [asks]
  refine started.bind fun result later dries => ?_
  cases result with
  | ok id => exact .pure fun _ => by simpa only [asks] using dries id rfl
  | error error => exact .pure (by simp)

theorem finish_dries {done : Done}
    (pages : ∀ cookie, done.nextPage? = some cookie →
      GoesOn lookup loaded link world { e with pending := none, cookie := cookie })
    (parts : GoesOn lookup loaded link world
      { e with pending := none, cookie := [], index := e.index + 1 }) :
    Ends world (e.finish done) fun out later => out.1 = .ok () → Dries out.2 later := by
  unfold finish
  dsimp only
  split
  · exact .pure (by simp)
  split
  · next cookie follows =>
    exact startNext_dries holding (by exact asks) (by exact free) (pages cookie follows)
  · refine (startNext_dries holding (by exact asks) (by exact free) parts).bind ?_
    intro out later dries
    split
    · exact .pure (by simp)
    · exact .pure dries

end Going

/-- A message comes on the connection on which the search was started, or not at all. -/
theorem fetch_dries {e : Enumeration} {world : World σ} {loaded : Loaded} {connection : Connection}
    {outside : σ} (anchored : Anchored loaded connection e.generation outside world)
    (takes : ∀ {id : MessageId} {link : Link} {ready : World σ} {message : Message},
      e.pending = some id → link.connection = connection → Drifts outside ready.outside →
      ready.Holding loaded link e.generation →
      ready.answer (.next link.connection id) = .ok message →
      Ends (ready.after (.next link.connection id)) (e.take message) fun out later =>
        out.1 = .ok () → Dries out.2 later) :
    Ends world e.fetch fun out later => out.1 = .ok () → Dries out.2 later := by
  unfold fetch
  split
  swap
  · exact .pure (by simp)
  next id waits =>
  refine (Session.ensureReady_upholds Anchored.upkept world anchored).bind ?_
  intro result ready anchored
  cases result with
  | error error => exact .pure (by simp)
  | ok =>
    refine .bind_run (run_session ready) ?_
    dsimp only
    split
    swap
    · exact .pure (by simp)
    next link held =>
    split
    · exact .pure (by simp)
    -- What is held is of the generation of the search, so it is the connection of the search.
    next same =>
    obtain ⟨there, holding⟩ := anchored.holding held (by simpa using same)
    refine .bind_run (run_perform ready _) ?_
    cases answered : ready.answer (.next link.connection id) with
    | ok message => exact takes waits there anchored.drifts holding answered
    | error error =>
      dsimp only
      split
      · exact Ends.any.bind fun _ _ _ => .pure (by simp)
      · exact .pure (by simp)

end Enumeration

open Enumeration

/-- An enumeration waits for the messages of a search. -/
structure Streaming (lookup : Lookup) (loaded : Loaded) (search : Search) (id : MessageId)
    (e : Enumeration) : Prop where
  free : e.entry = none
  asks : e.lookup = some lookup
  waits : e.pending = some id
  page : lookup.IsPage loaded.config e.index e.cookie search

namespace Streaming

variable {lookup : Lookup} {loaded : Loaded} {search : Search} {id : MessageId} {e : Enumeration}

/-- A search in progress gives entries until there are no more. The induction is on the parts of the
    tree that are left, and within each of them on what is still to come of its answer. -/
theorem dries (finitary : Finitary σ) (parts : Nat) {connection : Connection} {outside : σ}
    (finite : Service.Finite connection search id outside) {world : World σ}
    (left : (lookup.targets loaded.config).length ≤ e.index + parts)
    (streaming : Streaming lookup loaded search id e)
    (anchored : Anchored loaded connection e.generation outside world) : Dries e world := by
  induction parts generalizing connection outside search id e world with
  | zero =>
    have inside := streaming.page.index_lt
    omega
  | succ parts nextPart =>
    induction finite generalizing e world with
    | @intro search id outside _ _ nextMessage nextPage =>
      refine .of_fetch streaming.free (fetch_dries anchored ?_)
      intro id' link ready message waits there drifts holding received
      obtain rfl := Option.some.inj (streaming.waits.symm.trans waits)
      subst there
      let later := ready.after (.next link.connection id)
      have answered : answer (.next link.connection id) ready.outside =
          (.ok message, later.outside) := Prod.ext received rfl
      have holding : later.Holding loaded link e.generation := holding.after _
      cases message with
      | entry entry =>
        -- The entry comes first. What is asked aside before the next one makes no difference.
        refine .pure fun _ => .of_entry rfl fun last asides => ?_
        exact nextMessage drifts answered (by simp) left
          ⟨rfl, streaming.asks, streaming.waits, streaming.page⟩
          (Anchored.upkept.asides asides (.of_holding holding))
      | reference =>
        exact .pure fun _ =>
          nextMessage drifts answered (by simp) left streaming (.of_holding holding)
      | done done =>
        refine finish_dries holding streaming.asks streaming.free ?_ ?_
        · -- The next page is a part of the same answer, so the inner induction goes on.
          intro cookie follows search' next page accepted
          obtain rfl := (streaming.page.turn cookie).unique page
          have started : answer (.start link.connection (search.turn cookie)) later.outside =
              (.ok next, _) := Prod.ext accepted rfl
          exact nextPage drifts answered follows started left
            ⟨streaming.free, streaming.asks, rfl, page⟩ (.of_holding (holding.after _))
        · -- With the next part of the tree another answer begins.
          intro search' next page accepted
          have started : answer (.start link.connection search') later.outside = (.ok next, _) :=
            Prod.ext accepted rfl
          have fewer : (lookup.targets loaded.config).length ≤ e.index + 1 + parts := by omega
          exact nextPart (finitary _ _ _ _ _ started) fewer
            ⟨streaming.free, streaming.asks, rfl, page⟩ (.of_holding (holding.after _))

end Streaming

theorem World.coherent_upheld : World.Upheld fun world : World σ => world.Coherent :=
  ⟨Deed.coherent, id⟩

/-- If a search was started for the first page of an answer, what comes for it has an end. -/
def Lookup.Begun (lookup : Lookup) (id : Option MessageId) (world : World σ) : Prop :=
  ∀ next, id = some next → ∃ loaded connection search outside,
    lookup.IsPage loaded.config 0 [] search ∧ Service.Finite connection search next outside ∧
      Anchored loaded connection world.session.generation outside world

theorem Lookup.start_begun (finitary : Finitary σ) (lookup : Lookup) :
    Yields World.Coherent (lookup.start 0 : Action σ (Option MessageId)) lookup.Begun := by
  have asked : Yields World.Coherent (lookup.startPage 0 [] : Action σ _) lookup.Begun := by
    intro world coherent result later ran
    refine ⟨lookup.startPage_upholds coherent_upheld 0 [] world coherent result later ran, ?_⟩
    rintro _ rfl next rfl
    obtain ⟨loaded, link, target, query, configured, held, found, searches, answered, rfl⟩ :=
      startPage_inv ran
    have holding : world.Holding loaded link world.session.generation := ⟨held, configured, rfl⟩
    exact ⟨loaded, _, _, _, ⟨target, query, found, searches, rfl⟩,
      finitary _ _ _ _ _ (Prod.ext answered rfl), .of_holding (holding.after _)⟩
  refine Failover.run_yields coherent_upheld.upkept asked ?_
  intro id world now begun next same
  obtain ⟨loaded, connection, search, outside, page, finite, anchored⟩ := begun next same
  exact ⟨loaded, connection, search, outside, page, finite,
    Anchored.upkept.deed (.touch world now) rfl anchored⟩

/-- What is started gives entries until there are no more. -/
theorem Enumeration.start_dries (finitary : Finitary σ) (e : Enumeration) (lookup : Lookup)
    {world : World σ} (coherent : world.Coherent) :
    Ends world (e.start lookup) fun out later => out.1 = .ok () → Dries out.2 later := by
  refine (abandon_upholds coherent_upheld e world coherent).bind fun e began coherent => ?_
  refine (lookup.start_begun finitary began coherent).bind fun result later reached => ?_
  cases result with
  | error error => exact .pure (by simp)
  | ok id =>
    refine .bind_run (run_session later) ?_
    dsimp only
    split
    · exact .pure (by simp)
    · next accepted =>
      obtain ⟨next, rfl⟩ := Option.ne_none_iff_exists'.mp (by simpa using accepted)
      obtain ⟨loaded, connection, search, outside, page, finite, anchored⟩ :=
        reached.2 _ rfl next rfl
      exact .pure fun _ => Streaming.dries finitary _ finite (Nat.le_add_left _ _)
        ⟨rfl, rfl, rfl, page⟩ anchored

end NameService
