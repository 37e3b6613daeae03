import NameService.Proofs.Engine.Runs
import NameService.Proofs.Enumeration.Source
import NameService.Proofs.Session.Calm
import Mathlib.Algebra.GroupWithZero.Nat

/-!
How far an enumeration has come. It stands on three places at once: in the tree, in the answer of
one part, and in one entry. What is still to come is settled by where it stands, and every message
that it receives brings the end nearer.

## Main result

`fetch_advances`: from any stage one message leads to another, with the same records still to come.
-/

namespace NameService.Enumeration

open Engine World

variable {ρ σ : Type} [Service σ] {reply : Search → Reply}

section Standing

variable (script : Script σ reply) (lookup : Lookup) (loaded : Loaded) (records : Entry → List ρ)

/-- What follows the page at hand in the same part of the tree. -/
def Follows (reply : Search → Reply) (page : List UInt8 → Search) (done : Done)
    (pages : List (List (Option Entry))) : Prop :=
  done.nextPage? = none ∧ pages = [] ∨
    ∃ cookie, done.nextPage? = some cookie ∧ Pages reply page cookie pages

/-- An enumeration that goes on with the connection on which it was started. -/
structure Attached (world : World σ) (e : Enumeration) (link : Link) : Prop where
  asks : e.lookup = some lookup
  generation : e.generation = world.session.generation
  configured : world.session.loaded = some loaded
  held : world.session.link = some link
  serves : script.serves link.connection world.outside

/-- An enumeration that is receiving the answer in one part of the tree, with what is still to come
    on the page at hand, on the pages after it, and in the other parts. -/
structure Receiving (world : World σ) (e : Enumeration) (link : Link) (id : MessageId)
    (search : Search) (done : Done) (messages : List (Option Entry))
    (pages : List (List (Option Entry))) (parts : List (List (List (Option Entry)))) : Prop
    extends Attached script lookup loaded world e link where
  pending : e.pending = some id
  queued : script.queue link.connection id world.outside =
    messages.map Reply.message ++ [.done done]
  settled : done.IsSettled
  searches : ∃ target, (lookup.targets loaded.config)[e.index]? = some target ∧
    lookup.search loaded.config target = .ok search
  follows :
    Follows reply (fun cookie => { search with page := loaded.config.page? cookie }) done pages
  answered : List.Forall₂ (lookup.AnsweredBy loaded.config reply)
    ((lookup.targets loaded.config).drop (e.index + 1)) parts

/-- All pages that are still to come, the one at hand before the others. -/
def ahead (messages : List (Option Entry)) (pages : List (List (Option Entry)))
    (parts : List (List (List (Option Entry)))) : List (List (Option Entry)) :=
  messages :: (pages ++ parts.flatten)

/-- How many messages there are on some pages. Each page has one at its end. -/
def weight (pages : List (List (Option Entry))) : Nat := (pages.map (·.length + 1)).sum

/-- How far an enumeration has come: the records that are still to come, and how many steps the next
    call may need. -/
inductive Stage (world : World σ) (e : Enumeration) : List (Item ρ) → Nat → Prop
  | receiving {link id search done messages pages parts} (free : e.entry = none)
    (receiving : Receiving script lookup loaded world e link id search done messages pages parts) :
    Stage world e (itemsOn records (ahead messages pages parts))
      (2 * weight (ahead messages pages parts) + 1)
  | offering {entry index link id search done messages pages parts} (held : e.entry = some entry)
    (stands : e.position.At index)
    (receiving : Receiving script lookup loaded world e link id search done messages pages parts) :
    Stage world e
      ((itemsOf records entry).drop index ++ itemsOn records (ahead messages pages parts))
      (2 * weight (ahead messages pages parts) + 2)
  | exhausted (free : e.entry = none) (ended : e.pending = none) : Stage world e [] 1

end Standing

variable {script : Script σ reply} {lookup : Lookup} {loaded : Loaded} {records : Entry → List ρ}
  {world : World σ} {e : Enumeration}

section Items

@[simp] theorem itemsOn_reference (messages : List (Option Entry))
    (pages : List (List (Option Entry))) :
    itemsOn records ((none :: messages) :: pages) = itemsOn records (messages :: pages) := by
  simp [itemsOn]

@[simp] theorem itemsOn_entry (entry : Entry) (messages : List (Option Entry))
    (pages : List (List (Option Entry))) :
    itemsOn records ((some entry :: messages) :: pages) =
      itemsOf records entry ++ itemsOn records (messages :: pages) := by
  simp [itemsOn]

@[simp] theorem itemsOn_end (pages : List (List (Option Entry))) :
    itemsOn records ([] :: pages) = itemsOn records pages := by
  simp [itemsOn]

@[simp] theorem weight_cons (messages : List (Option Entry)) (pages : List (List (Option Entry))) :
    weight (messages :: pages) = messages.length + 1 + weight pages := by
  simp [weight]

theorem drop_itemsOf {entry : Entry} {index : Nat} {record : ρ}
    (found : (records entry)[index]? = some record) :
    (itemsOf records entry).drop index =
      ⟨entry, index, record⟩ :: (itemsOf records entry).drop (index + 1) := by
  obtain ⟨below, rfl⟩ := List.getElem?_eq_some_iff.mp found
  have below' : index < (itemsOf records entry).length := by simpa [itemsOf] using below
  rw [List.drop_eq_getElem_cons below']
  simp [itemsOf]

theorem drop_itemsOf_none {entry : Entry} {index : Nat} (missing : (records entry)[index]? = none) :
    (itemsOf records entry).drop index = [] := by
  have above : (records entry).length ≤ index := List.getElem?_eq_none_iff.mp missing
  simpa [itemsOf] using above

end Items

section Asking

variable {link : Link} {index : Nat}

theorem run_startPage {search : Search} (configured : world.session.loaded = some loaded)
    (held : world.session.link = some link)
    (searched : lookup.search? loaded.config index = .ok (some search)) (cookie : List UInt8) :
    (lookup.startPage index cookie : Action σ (Option MessageId)).run world =
      let call := .start link.connection { search with page := loaded.config.page? cookie }
      match world.answer call with
      | .ok id => some (.ok (some id), world.after call)
      | .error error => some (.error error, world.after call) := by
  cases answered : world.answer
      (.start link.connection { search with page := loaded.config.page? cookie }) <;>
    simp [Lookup.startPage, configured, held, searched, answered]

theorem run_startPage_none (configured : world.session.loaded = some loaded)
    (searched : lookup.search? loaded.config index = .ok none) (cookie : List UInt8) :
    (lookup.startPage index cookie : Action σ (Option MessageId)).run world =
      some (.ok none, world) := by
  simp [Lookup.startPage, configured, searched]

theorem search?_some {target : Lookup.Target} {search : Search}
    (found : (lookup.targets loaded.config)[index]? = some target)
    (searches : lookup.search loaded.config target = .ok search) :
    lookup.search? loaded.config index = .ok (some search) := by
  simp [Lookup.search?, found, searches, Except.map]

theorem search?_none (missing : (lookup.targets loaded.config)[index]? = none) :
    lookup.search? loaded.config index = .ok none := by
  simp [Lookup.search?, missing]

/-- A search that was started was started on the connection at hand. -/
theorem startPage_inv {cookie : List UInt8} {id : MessageId} {later : World σ}
    (ran : (lookup.startPage index cookie : Action σ (Option MessageId)).run world =
      some (.ok (some id), later)) :
    ∃ loaded link target search, world.session.loaded = some loaded ∧
      world.session.link = some link ∧
      (lookup.targets loaded.config)[index]? = some target ∧
      lookup.search loaded.config target = .ok search ∧
      world.answer (.start link.connection { search with page := loaded.config.page? cookie }) =
        .ok id ∧
      later = world.after
        (.start link.connection { search with page := loaded.config.page? cookie }) := by
  cases configured : world.session.loaded with
  | none => simp [Lookup.startPage, configured] at ran
  | some loaded =>
    cases found : (lookup.targets loaded.config)[index]? with
    | none =>
      rw [run_startPage_none configured (search?_none found)] at ran
      simp at ran
    | some target =>
      cases searches : lookup.search loaded.config target with
      | error error =>
        simp [Lookup.startPage, configured, Lookup.search?, found, searches, Except.map] at ran
      | ok search =>
        have searched := search?_some found searches
        cases held : world.session.link with
        | none => simp [Lookup.startPage, configured, searched, held] at ran
        | some link =>
          rw [run_startPage configured held searched] at ran
          dsimp only at ran
          split at ran
          · next id' answered =>
            -- The search was accepted, which is the only way to a name for it.
            simp only [Option.some.injEq, Prod.mk.injEq, Except.ok.injEq] at ran
            obtain ⟨rfl, rfl⟩ := ran
            exact ⟨loaded, link, target, search, rfl, rfl, found, searches, answered, rfl⟩
          · simp at ran

theorem pages_receive {page : List UInt8 → Search} {cookie : List UInt8}
    {all : List (List (Option Entry))} (pages : Pages reply page cookie all) :
    ∃ rest, all = (reply (page cookie)).messages :: rest ∧ (reply (page cookie)).done.IsSettled ∧
      Follows reply page (reply (page cookie)).done rest := by
  cases pages with
  | last settled ends => exact ⟨_, rfl, settled, Or.inl ⟨ends, rfl⟩⟩
  | more settled goesOn rest => exact ⟨_, rfl, settled, Or.inr ⟨_, goesOn, rest⟩⟩

section Started

variable {id : MessageId} {target : Lookup.Target} {search : Search}
  {all : List (List (Option Entry))} {parts : List (List (List (Option Entry)))}
  (found : (lookup.targets loaded.config)[e.index]? = some target)
  (searches : lookup.search loaded.config target = .ok search)
  (pages : Pages reply (fun cookie => { search with page := loaded.config.page? cookie }) e.cookie
    all)
  (answered : List.Forall₂ (lookup.AnsweredBy loaded.config reply)
    ((lookup.targets loaded.config).drop (e.index + 1)) parts)
include found searches pages answered

/-- The answer to a search that was started is being received. -/
theorem receives_of_started (script : Script σ reply)
    (accepted : world.answer
      (.start link.connection { search with page := loaded.config.page? e.cookie }) = .ok id)
    (asks : e.lookup = some lookup) (generation : e.generation = world.session.generation)
    (configured : world.session.loaded = some loaded) (held : world.session.link = some link) :
    let page : Search := { search with page := loaded.config.page? e.cookie }
    ∃ rest, all = (reply page).messages :: rest ∧
      Receiving script lookup loaded (world.after (.start link.connection page))
        { e with pending := some id } link id search (reply page).done (reply page).messages rest
        parts := by
  intro page
  obtain ⟨queued, serves⟩ := script.started accepted
  obtain ⟨rest, same, settled, follows⟩ := pages_receive pages
  exact ⟨rest, same, {
    asks := asks
    generation := generation
    configured := configured
    held := held
    serves := serves
    pending := rfl
    queued := queued
    settled := settled
    searches := ⟨target, found, searches⟩
    follows := follows
    answered := answered }⟩

/-- A page that was asked for is being received. -/
theorem startNext_receives (attached : Attached script lookup loaded world e link) :
    ∃ id done messages pages call, call.isQuery ∧ call.loses? (world.answer call) = none ∧
      all = messages :: pages ∧
      e.startNext world = some ((.ok (), { e with pending := some id }), world.after call) ∧
      Receiving script lookup loaded (world.after call) { e with pending := some id } link id search
        done messages pages parts := by
  let page : Search := { search with page := loaded.config.page? e.cookie }
  obtain ⟨id, accepted⟩ := script.starts attached.serves page
  have ran := run_startPage attached.configured attached.held (search?_some found searches) e.cookie
  have told : world.answer (.start link.connection page) = .ok id := accepted
  simp only [page] at told
  simp only [told] at ran
  obtain ⟨rest, same, receiving⟩ := receives_of_started found searches pages answered script told
    attached.asks attached.generation attached.configured attached.held
  refine ⟨id, _, _, rest, .start link.connection page, rfl, ?_, same, ?_, receiving⟩
  · rw [show world.answer (.start link.connection page) = .ok id from accepted]
    rfl
  · simp [startNext, attached.asks, ran, page]

end Started

end Asking

section Changes

variable {link : Link} {id : MessageId} {search : Search} {done : Done}
  {messages : List (Option Entry)} {pages : List (List (Option Entry))}
  {parts : List (List (List (Option Entry)))}

/-- The connection has nothing to do with the place where an enumeration stands. -/
theorem Attached.with_place (attached : Attached script lookup loaded world e link)
    (pending : Option MessageId) (cookie : List UInt8) (index : Nat) :
    Attached script lookup loaded world
      { e with pending := pending, cookie := cookie, index := index } link where
  asks := attached.asks
  generation := attached.generation
  configured := attached.configured
  held := attached.held
  serves := attached.serves

/-- What an enumeration receives does not depend on the entry that it has at hand. -/
theorem Receiving.with_entry
    (receiving : Receiving script lookup loaded world e link id search done messages pages parts)
    (entry : Option Entry) (position : Position) (retrying : Bool) :
    Receiving script lookup loaded world
      { e with entry := entry, position := position, retrying := retrying } link id search done
      messages pages parts where
  asks := receiving.asks
  generation := receiving.generation
  configured := receiving.configured
  held := receiving.held
  serves := receiving.serves
  pending := receiving.pending
  queued := receiving.queued
  settled := receiving.settled
  searches := receiving.searches
  follows := receiving.follows
  answered := receiving.answered

theorem Receiving.touch
    (receiving : Receiving script lookup loaded world e link id search done messages pages parts)
    (now : Nat) :
    Receiving script lookup loaded { world with session := world.session.touch now } e
      { link with lastActivity := now } id search done messages pages parts where
  asks := receiving.asks
  generation := receiving.generation
  configured := receiving.configured
  held := by simp [receiving.held]
  serves := receiving.serves
  pending := receiving.pending
  queued := receiving.queued
  settled := receiving.settled
  searches := receiving.searches
  follows := receiving.follows
  answered := receiving.answered

end Changes

section Fetching

variable {link : Link} {id : MessageId} {search : Search} {done : Done}
  {messages : List (Option Entry)} {pages : List (List (Option Entry))}
  {parts : List (List (List (Option Entry)))}

/-- The next message comes off the queue, and nothing else changes. -/
theorem Attached.receive (attached : Attached script lookup loaded world e link) {message : Message}
    {rest : List Message}
    (queued : script.queue link.connection id world.outside = message :: rest) :
    let told := world.looked.after (.next link.connection id)
    world.looked.answer (.next link.connection id) = .ok message ∧
      script.queue link.connection id told.outside = rest ∧
      Attached script lookup loaded told e link := by
  obtain ⟨sent, queued, serves⟩ := script.sends attached.serves queued
  exact ⟨sent, queued,
    attached.asks, attached.generation, attached.configured, attached.held, serves⟩

theorem run_fetch (calm : world.Calm) (attached : Attached script lookup loaded world e link)
    (pending : e.pending = some id) {message : Message}
    (received : world.looked.answer (.next link.connection id) = .ok message) :
    e.fetch world = e.take message (world.looked.after (.next link.connection id)) := by
  have configured : world.session.loaded.isSome := by simp [attached.configured]
  have ready := Session.run_ensureReady_calm calm configured
  have held : world.looked.session.link = some link := attached.held
  have generation : e.generation = world.looked.session.generation := attached.generation
  simp [fetch, pending, ready, held, generation, received]

theorem not_failed_of_isSettled (settled : done.IsSettled) :
    ¬ (ResultCode.status done.code ≠ .success ∧ ResultCode.status done.code ≠ .notFound) := by
  rintro ⟨failed, found⟩
  rcases settled with success | notFound
  · exact failed success
  · exact found notFound

theorem drop_eq_cons {α : Type} {list rest : List α} {a : α} {index : Nat}
    (same : list.drop index = a :: rest) :
    list[index]? = some a ∧ list.drop (index + 1) = rest := by
  constructor
  · rw [← Nat.add_zero index, ← List.getElem?_drop, same]
    rfl
  · rw [← List.drop_drop, same]
    rfl

/-- When the last page has come to its end, there may be nothing left to ask for. -/
theorem run_finish_last {result : Except Error Unit} {e' : Enumeration} {later : World σ}
    (settled : done.IsSettled) (last : done.nextPage? = none)
    (ran : { e with pending := none, cookie := [], index := e.index + 1 }.startNext world =
      some ((result, e'), later)) :
    e.finish done world =
      some (((if e'.pending = none then result.bind fun _ => .error exhausted else result), e'),
        later) := by
  simp only [finish, if_neg (not_failed_of_isSettled settled), last, run_bind]
  rw [ran, Option.bind_some]
  cases result with
  | error error => cases e'.pending <;> rfl
  | ok => cases e'.pending <;> rfl

/-- The next page of the same part is being received. -/
theorem finish_page {queries : Nat} (quiet : Quiet (queries + 1) world)
    (attached : Attached script lookup loaded world e link) (settled : done.IsSettled)
    {target : Lookup.Target} (found : (lookup.targets loaded.config)[e.index]? = some target)
    (searches : lookup.search loaded.config target = .ok search) {cookie : List UInt8}
    (more : done.nextPage? = some cookie)
    (pages' : Pages reply (fun cookie => { search with page := loaded.config.page? cookie }) cookie
      pages)
    (answered : List.Forall₂ (lookup.AnsweredBy loaded.config reply)
      ((lookup.targets loaded.config).drop (e.index + 1)) parts) :
    ∃ id done' messages rest later, pages = messages :: rest ∧ Quiet queries later ∧
      e.finish done world =
        some ((.ok (), { e with pending := some id, cookie := cookie }), later) ∧
      Receiving script lookup loaded later { e with pending := some id, cookie := cookie } link id
        search done' messages rest parts := by
  let next : Enumeration := { e with pending := none, cookie := cookie }
  have attached' : Attached script lookup loaded world next link :=
    attached.with_place none cookie e.index
  obtain ⟨id, done', messages, rest, call, query, spared, same, ran, receiving⟩ :=
    startNext_receives (e := next) found searches pages' answered attached'
  refine ⟨id, done', messages, rest, world.after call, same, quiet.after query spared, ?_,
    receiving⟩
  simp only [finish, if_neg (not_failed_of_isSettled settled), more]
  exact ran

/-- The first page of the next part is being received, or that was the last part. -/
theorem finish_part {queries : Nat} (quiet : Quiet (queries + 1) world)
    (attached : Attached script lookup loaded world e link) (settled : done.IsSettled)
    (last : done.nextPage? = none) {target : Lookup.Target}
    (searches : lookup.search loaded.config target = .ok search)
    (answered : List.Forall₂ (lookup.AnsweredBy loaded.config reply)
      ((lookup.targets loaded.config).drop (e.index + 1)) parts) :
    ∃ result pending later, Quiet queries later ∧
      let e' := { e with pending := pending, cookie := [], index := e.index + 1 }
      e.finish done world = some ((result, e'), later) ∧
      (result = .ok () ∧ (∃ id search' done' messages pages' parts',
          Receiving script lookup loaded later e' link id search' done' messages pages' parts' ∧
          parts.flatten = messages :: (pages' ++ parts'.flatten)) ∨
        result = .error exhausted ∧ parts = [] ∧ pending = none) := by
  let next : Enumeration := { e with pending := none, cookie := [], index := e.index + 1 }
  have attached' : Attached script lookup loaded world next link :=
    attached.with_place none [] (e.index + 1)
  generalize remaining : (lookup.targets loaded.config).drop (e.index + 1) = targets at answered
  cases answered with
  | nil =>
    have missing : (lookup.targets loaded.config)[e.index + 1]? = none :=
      List.getElem?_eq_none_iff.mpr (List.drop_eq_nil_iff.mp remaining)
    have ran := run_startPage_none attached.configured (search?_none missing) []
    have ended : next.startNext world = some ((.ok (), next), world) := by
      have asks : e.lookup = some lookup := attached.asks
      simp [startNext, asks, ran, next]
    refine ⟨.error exhausted, none, world, quiet.of_succ, ?_, Or.inr ⟨rfl, rfl, rfl⟩⟩
    exact run_finish_last settled last ended
  | @cons target' first targets' parts' part others =>
    obtain ⟨found', remaining'⟩ := drop_eq_cons remaining
    -- The question could be put to one part, and so it can be put to the next.
    obtain ⟨search', searches'⟩ := Lookup.search_ok searches target'
    obtain ⟨id, done', messages, rest, call, query, spared, same, ran, receiving⟩ :=
      startNext_receives (e := next) found' searches' (part search' searches')
        (remaining' ▸ others) attached'
    refine ⟨.ok (), some id, world.after call, quiet.after query spared, ?_,
      Or.inl ⟨rfl, id, search', done', messages, rest, parts', receiving, ?_⟩⟩
    · exact run_finish_last settled last ran
    · simp [same]

/-- After the end of a search the next page is received, if there is one. -/
theorem finish_advances {queries : Nat} (quiet : Quiet (queries + 1) world) (free : e.entry = none)
    (attached : Attached script lookup loaded world e link) (settled : done.IsSettled)
    (searches : ∃ target, (lookup.targets loaded.config)[e.index]? = some target ∧
      lookup.search loaded.config target = .ok search)
    (follows : Follows reply (fun cookie => { search with page := loaded.config.page? cookie }) done
      pages)
    (answered : List.Forall₂ (lookup.AnsweredBy loaded.config reply)
      ((lookup.targets loaded.config).drop (e.index + 1)) parts) :
    ∃ result e' later, e.finish done world = some ((result, e'), later) ∧ Quiet queries later ∧
      e'.entry = none ∧
      (result = .ok () ∧ (∃ id search done messages pages' parts',
          Receiving script lookup loaded later e' link id search done messages pages' parts' ∧
          ahead [] pages parts = [] :: ahead messages pages' parts') ∨
        result = .error exhausted ∧ pages = [] ∧ parts = [] ∧ e'.pending = none) := by
  obtain ⟨target, found, searches⟩ := searches
  -- After the last page comes the next part of the tree, else the next page of the same part.
  rcases follows with ⟨last, rfl⟩ | ⟨cookie, more, pages'⟩
  · obtain ⟨result, pending, later, quiet', ran, outcome⟩ :=
      finish_part quiet attached settled last searches answered
    refine ⟨result, _, later, ran, quiet', free, ?_⟩
    rcases outcome with ⟨done, id, search', done', messages, pages', parts', receiving, same⟩ |
      ⟨ended, empty, nothing⟩
    · exact Or.inl ⟨done, id, search', done', messages, pages', parts', receiving,
        by simp [ahead, same]⟩
    · exact Or.inr ⟨ended, rfl, empty, nothing⟩
  · obtain ⟨id, done', messages, rest, later, rfl, quiet', ran, receiving⟩ :=
      finish_page quiet attached settled found searches more pages' answered
    exact ⟨.ok (), _, later, ran, quiet', free,
      Or.inl ⟨rfl, id, search, done', messages, rest, parts, receiving, rfl⟩⟩

/-- One message is received. It brings what is to come nearer, or there is nothing to come. -/
theorem fetch_advances {items : List (Item ρ)} {queries steps : Nat}
    (quiet : Quiet (queries + 2) world) (free : e.entry = none)
    (stage : Stage script lookup loaded records world e items steps) :
    ∃ result e' later, e.fetch world = some ((result, e'), later) ∧ Quiet queries later ∧
      (result = .ok () ∧ (∃ fewer < steps,
          Stage script lookup loaded records later e' items fewer) ∨
        result = .error exhausted ∧ items = [] ∧
          Stage script lookup loaded records later e' [] 1) := by
  cases stage with
  | offering held stands receiving =>
    rw [free] at held
    cases held
  | exhausted _ ended =>
    -- Nothing is sent any more.
    refine ⟨.error exhausted, e, world, ?_, quiet.of_succ.of_succ,
      Or.inr ⟨rfl, rfl, .exhausted free ended⟩⟩
    simp [fetch, ended]
  | @receiving link id search done messages pages parts _ receiving =>
    have looked : Quiet (queries + 2) world.looked := quiet.of_same rfl rfl
    -- A message that has come has lost no server.
    have told {message : Message}
        (received : world.looked.answer (.next link.connection id) = .ok message) :
        Quiet (queries + 1) (world.looked.after (.next link.connection id)) :=
      looked.after rfl (by rw [received]; rfl)
    cases messages with
    | nil =>
      -- Only the end of the page is left.
      obtain ⟨received, queued, attached⟩ := receiving.receive receiving.queued
      have fetched := run_fetch quiet.calm receiving.toAttached receiving.pending received
      obtain ⟨result, e', later, ran, quiet', free', outcome⟩ :=
        finish_advances (told received) free attached receiving.settled receiving.searches
          receiving.follows receiving.answered
      refine ⟨result, e', later, fetched.trans ran, quiet', ?_⟩
      rcases outcome with ⟨rfl, id', search', done', messages', pages', parts', receiving', same⟩ |
        ⟨rfl, rfl, rfl, ended⟩
      · refine Or.inl ⟨rfl, 2 * weight (ahead messages' pages' parts') + 1, ?_, ?_⟩
        · simp only [same, weight_cons, List.length_nil]
          omega
        · rw [same, itemsOn_end]
          exact .receiving free' receiving'
      · exact Or.inr ⟨rfl, by simp [ahead, itemsOn], .exhausted free' ended⟩
    | cons message messages =>
      obtain ⟨received, queued, attached⟩ := receiving.receive receiving.queued
      have fetched := run_fetch quiet.calm receiving.toAttached receiving.pending received
      -- The message is one less to come, and an entry takes a step of its own.
      have fewer : weight (ahead messages pages parts) + 1 =
          weight (ahead (message :: messages) pages parts) := by
        simp only [ahead, weight_cons, List.length_cons]
        omega
      cases message with
      | none =>
        refine ⟨.ok (), e, _, fetched, (told received).of_succ,
          Or.inl ⟨rfl, 2 * weight (ahead messages pages parts) + 1, by omega, ?_⟩⟩
        rw [ahead, itemsOn_reference]
        exact .receiving free { receiving with toAttached := attached, queued := queued }
      | some entry =>
        have receiving' : Receiving script lookup loaded
            (world.looked.after (.next link.connection id)) e link id search done messages pages
            parts :=
          { receiving with toAttached := attached, queued := queued }
        refine ⟨.ok (), _, _, fetched, (told received).of_succ,
          Or.inl ⟨rfl, 2 * weight (ahead messages pages parts) + 2, by omega, ?_⟩⟩
        rw [ahead, itemsOn_entry]
        have first : Position.start.At 0 := Or.inr ⟨rfl, rfl⟩
        exact .offering rfl first (receiving'.with_entry (some entry) .start e.retrying)

end Fetching

end NameService.Enumeration
