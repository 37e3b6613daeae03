import NameService.Proofs.Engine.Host
import NameService.Proofs.Enumeration.Stage
import NameService.Proofs.Enumeration.Values
import NameService.Proofs.Session.Success
import Mathlib.Data.Option.Basic

/-!
What the calls for the next record give. Between calls it is settled what is still to come, and each
call takes the first of it, or leaves it there when it does not fit.

## Main result

`enumeration_delivers`: the records of the successful calls, followed by those still to come, are
the records of all entries in order, and every call comes to an end.
-/

namespace NameService.Enumeration

open Engine World

variable {ρ : Type}

/-- One call for the next record: what was to come, what it gives, and what is to come then. -/
inductive Turn (fits : Item ρ → Arena.Room → Prop) (room : Arena.Room) :
    List (Item ρ) → Except Error ρ → List (Item ρ) → Prop
  | taken {item : Item ρ} {items : List (Item ρ)} (fit : fits item room) :
    Turn fits room (item :: items) (.ok item.record) items
  | refused {item : Item ρ} {items : List (Item ρ)} (unfit : ¬ fits item room)
    (requested remaining : Nat) :
    Turn fits room (item :: items) (.error (.bufferTooSmall requested remaining)) (item :: items)
  | exhausted : Turn fits room [] (.error exhausted) []

/-- A row of calls, each with the room that there was in its arena. -/
inductive Delivers (fits : Item ρ → Arena.Room → Prop) :
    List (Item ρ) → List (Arena.Room × Except Error ρ) → List (Item ρ) → Prop
  | none (items : List (Item ρ)) : Delivers fits items [] items
  | next {items rest left : List (Item ρ)} {room : Arena.Room} {result : Except Error ρ}
    {outcomes : List (Arena.Room × Except Error ρ)} (turn : Turn fits room items result rest)
    (delivers : Delivers fits rest outcomes left) :
    Delivers fits items ((room, result) :: outcomes) left

/-- The records of the successful calls. -/
def delivered (outcomes : List (Arena.Room × Except Error ρ)) : List ρ :=
  outcomes.filterMap fun outcome => outcome.2.toOption

/-- Nothing is lost and nothing comes twice. -/
theorem Delivers.delivered_append {fits : Item ρ → Arena.Room → Prop} {items left : List (Item ρ)}
    {outcomes : List (Arena.Room × Except Error ρ)} (delivers : Delivers fits items outcomes left) :
    delivered outcomes ++ left.map Item.record = items.map Item.record := by
  induction delivers with
  | none items => rfl
  | next turn delivers same =>
    cases turn with
    | taken fit => simpa [delivered, Except.toOption] using same
    | refused unfit requested remaining => simpa [delivered, Except.toOption] using same
    | exhausted => simpa [delivered, Except.toOption] using same

variable {σ : Type} [Service σ] {reply : Search → Reply} {script : Script σ reply} {lookup : Lookup}
  {loaded : Loaded} {records : Entry → List ρ} {world : World σ} {e : Enumeration}

section Calling

variable {parser : RecordParser ρ} {fits : Item ρ → Arena.Room → Prop}

section Offers

variable {entry : Entry} {arena : Arena}

theorem offer_taken {record : ρ}
    (outcome : (parser entry e.position arena).outcome = .ok (some record)) :
    e.offer entry parser arena = (.taken record,
      if (parser entry e.position arena).position.needsEntry then
        { e with retrying := false }.dropEntry
      else { e with retrying := false, position := (parser entry e.position arena).position },
      (parser entry e.position arena).arena) := by
  simp [offer, outcome]

theorem offer_refused {requested remaining : Nat}
    (outcome : (parser entry e.position arena).outcome =
      .error (.bufferTooSmall requested remaining)) :
    e.offer entry parser arena = (.refused (.bufferTooSmall requested remaining),
      { e with retrying := true }, (parser entry e.position arena).arena.rollback arena.mark) := by
  simp [offer, outcome]

theorem offer_passed (outcome : (parser entry e.position arena).outcome = .ok none ∨
      ∃ error, (parser entry e.position arena).outcome = .error error ∧
        ∀ requested remaining, error ≠ .bufferTooSmall requested remaining) :
    e.offer entry parser arena =
      (.passed, e.dropEntry, (parser entry e.position arena).arena.rollback arena.mark) := by
  rcases outcome with outcome | ⟨error, outcome, size⟩
  · simp [offer, outcome]
  · cases error <;> simp [offer, outcome]
    exact absurd rfl (size _ _)

end Offers

/-- What becomes of an entry at hand: its record is taken, or left for the next call, or there is
    none in it. -/
theorem offer_advances (reads : parser.Reads records fits) {entry : Entry}
    (held : e.entry = some entry) {items : List (Item ρ)} {steps : Nat}
    (stage : Stage script lookup loaded records world e items steps) (arena : Arena) :
    match e.offer entry parser arena with
    | (.taken record, e', _) => ∃ rest fewer, Turn fits arena.room items (.ok record) rest ∧
        Stage script lookup loaded records
          { world with session := world.session.touch (Service.clock world.outside) } e' rest fewer
    | (.refused error, e', _) => Turn fits arena.room items (.error error) items ∧
        Stage script lookup loaded records world e' items steps
    | (.passed, e', arena') => arena'.room = arena.room ∧ ∃ fewer < steps,
        Stage script lookup loaded records world e' items fewer := by
  cases stage with
  | receiving free receiving =>
    rw [free] at held
    cases held
  | exhausted free ended =>
    rw [free] at held
    cases held
  | @offering entry' index _ _ _ _ messages pages parts held' stands receiving =>
    obtain rfl : entry = entry' := Option.some.inj (held.symm.trans held')
    cases found : (records entry)[index]? with
    | some record =>
      rw [drop_itemsOf found, List.cons_append]
      by_cases fit : fits ⟨entry, index, record⟩ arena.room
      · obtain ⟨outcome, position⟩ := reads.taken stands found fit
        rw [offer_taken outcome]
        have touched := receiving.touch (Service.clock world.outside)
        -- The entry stays at hand exactly while it has more records.
        by_cases more : index + 1 < (records entry).length
        · rw [if_pos more] at position
          simp only [position, Position.needsEntry]
          exact ⟨_, _, .taken fit, .offering held (Or.inl rfl)
            (touched.with_entry e.entry (.byIndex (some (index + 1))) false)⟩
        · rw [if_neg more] at position
          simp only [position, if_true]
          have missing : (records entry)[index + 1]? = none :=
            List.getElem?_eq_none_iff.mpr (by omega)
          rw [drop_itemsOf_none missing, List.nil_append]
          exact ⟨_, _, .taken fit, .receiving rfl (touched.with_entry none .start false)⟩
      · -- The same record is offered to the next call.
        obtain ⟨requested, remaining, outcome⟩ := reads.refused stands found fit
        rw [offer_refused outcome]
        refine ⟨.refused fit requested remaining, ?_⟩
        rw [← List.cons_append, ← drop_itemsOf found]
        exact .offering held stands (receiving.with_entry e.entry e.position true)
    | none =>
      -- The entry has no record here, and what was stored for it is taken back.
      rw [drop_itemsOf_none found, List.nil_append, offer_passed (reads.passed stands found)]
      exact ⟨reads.room_rollback entry e.position arena, _, Nat.lt_succ_self _,
        .receiving rfl (receiving.with_entry none .start e.retrying)⟩

/-- What may come of a call: it takes its turn, or its patience is spent on fewer steps than it
    needs. -/
def Advances (script : Script σ reply) (lookup : Lookup) (loaded : Loaded)
    (records : Entry → List ρ) (fits : Item ρ → Arena.Room → Prop) (room : Arena.Room)
    (items : List (Item ρ))
    (patience steps : Nat) : Option ((Reading ρ × Enumeration) × World σ) → Prop
  | none => patience < steps
  | some ((reading, e), later) => ∃ rest fewer, Turn fits room items reading.result rest ∧
    Stage script lookup loaded records later e rest fewer

theorem Advances.succ {room : Arena.Room} {items : List (Item ρ)} {patience fewer steps : Nat}
    {out : Option ((Reading ρ × Enumeration) × World σ)}
    (advances : Advances script lookup loaded records fits room items patience fewer out)
    (less : fewer < steps) :
    Advances script lookup loaded records fits room items (patience + 1) steps out := by
  cases out with
  | none => exact Nat.lt_of_le_of_lt advances less
  | some out => exact advances

/-- Every call that has the patience comes to an end, and takes its turn. -/
theorem next_advances (reads : parser.Reads records fits) :
    ∀ (patience : Nat) {world : World σ} {e : Enumeration} {items : List (Item ρ)} {steps : Nat}
      (arena : Arena), Quiet (2 * patience) world →
      Stage script lookup loaded records world e items steps →
      Advances script lookup loaded records fits arena.room items patience steps
        (next parser patience e arena world)
  | 0, world, e, items, steps, arena, quiet, stage => by
    -- Every stage needs a step at least.
    cases stage <;> exact Nat.succ_pos _
  | patience + 1, world, e, items, steps, arena, quiet, stage => by
    cases held : e.entry with
    | none =>
      obtain ⟨result, e', later, ran, quiet', outcome⟩ := fetch_advances quiet held stage
      -- Either there is a message, and the call goes on from a nearer stage, or all has come.
      rcases outcome with ⟨rfl, fewer, less, stage'⟩ | ⟨rfl, rfl, stage'⟩
      · have rest := next_advances reads patience arena quiet' stage'
        simpa only [next, held, run_bind, ran, Option.bind_some] using rest.succ less
      · simp only [next, held, run_bind, ran, Option.bind_some, run_pure]
        exact ⟨[], 1, .exhausted, stage'⟩
    | some entry =>
      have offered := offer_advances reads held stage arena
      simp only [next, held]
      rcases made : e.offer entry parser arena with ⟨offer, e', arena'⟩
      rw [made] at offered
      -- Only an entry that was passed over lets the call go on.
      cases offer with
      | taken record =>
        simp only [run_bind, run_touch, Option.bind_some, run_pure]
        exact offered
      | refused error => exact ⟨items, steps, offered⟩
      | passed =>
        obtain ⟨room, fewer, less, stage'⟩ := offered
        have rest := next_advances reads patience arena' quiet.of_succ.of_succ stage'
        rw [room] at rest
        exact rest.succ less

end Calling

section Starting

variable {later : World σ} {e' : Enumeration}

/-- An enumeration is started by a search that was started. -/
theorem start_succeeds (started : e.start lookup world = some ((.ok (), e'), later)) :
    ∃ id, Failover.Succeeded (lookup.startPage 0 []) (some id) later ∧ e' =
      { lookup := some lookup, pending := some id, generation := later.session.generation } := by
  have ends : Engine.Ends world (e.start lookup) fun out later => out.1 = .ok () →
      ∃ id, Failover.Succeeded (lookup.startPage 0 []) (some id) later ∧
        out.2 =
          { lookup := some lookup, pending := some id
            generation := later.session.generation } := by
    refine Ends.any.bind fun e world _ => ?_
    refine (Failover.run_succeeds world).bind fun result later succeeded => ?_
    cases result with
    | error error => exact .pure nofun
    | ok id =>
      refine .bind_run (run_session later) ?_
      cases id with
      | none => exact .pure nofun
      | some id => exact .pure fun _ => ⟨id, succeeded _ rfl, rfl⟩
  exact ends _ _ started rfl

/-- All records are still to come after the start. -/
theorem start_stage (script : Script σ reply) (records : Entry → List ρ)
    (started : e.start lookup world = some ((.ok (), e'), later))
    (configured : later.session.loaded = some loaded)
    {parts : List (List (List (Option Entry)))}
    (answers : lookup.Answers loaded.config reply parts) :
    ∃ steps, Stage script lookup loaded records later e' (itemsOn records parts.flatten) steps := by
  obtain ⟨id, ⟨begun, ended, ran, noted⟩, made⟩ := start_succeeds started
  obtain ⟨loaded', link, target, search, configured', held, found, searches, answered, sent⟩ :=
    startPage_inv ran
  have kept : later.session.loaded = begun.session.loaded := by
    rw [noted, sent]
    rfl
  obtain rfl : loaded' = loaded :=
    Option.some.inj (configured'.symm.trans (kept.symm.trans configured))
  let first : Enumeration := { lookup := some lookup, generation := begun.session.generation }
  have same : e' = { first with pending := some id } := by
    rw [made, noted, sent]
    rfl
  -- A search was started in the first part, so that there is one, and it has an answer.
  unfold Lookup.Answers at answers
  generalize all : lookup.targets loaded'.config = targets at answers
  cases answers with
  | nil => simp [all] at found
  | @cons target' pages others rest part answers =>
    obtain rfl : target' = target := by simpa [all] using found
    have others' : (lookup.targets loaded'.config).drop (0 + 1) = others := by simp [all]
    obtain ⟨pages', rfl, receiving⟩ := receives_of_started (e := first) found searches
      (part search searches) (others' ▸ answers) script answered rfl rfl configured' held
    rw [← sent, ← same] at receiving
    have touched := receiving.touch (Service.clock ended.outside)
    rw [← noted] at touched
    exact ⟨_, .receiving (by rw [same]) touched⟩

end Starting

/-- What comes between two calls, and during the second: anything but a hazard, a change to the
    configuration, or the loss of what the server still has to send. A call makes at most two
    queries for each message that it has the patience for. -/
structure Interlude (script : Script σ reply) (world : World σ) (e : Enumeration) (outside : σ)
    (patience : Nat) : Prop where
  quiet : Quiet (2 * patience) { world with outside }
  serves : ∀ link, world.session.link = some link →
    script.serves link.connection world.outside → script.serves link.connection outside
  queued : ∀ link id, world.session.link = some link → e.pending = some id →
    script.queue link.connection id outside = script.queue link.connection id world.outside

theorem Stage.after_interlude {items : List (Item ρ)} {steps patience : Nat} {outside : σ}
    (stage : Stage script lookup loaded records world e items steps)
    (interlude : Interlude script world e outside patience) :
    Stage script lookup loaded records { world with outside } e items steps := by
  cases stage with
  | receiving free receiving =>
    exact .receiving free { receiving with
      serves := interlude.serves _ receiving.held receiving.serves
      queued := (interlude.queued _ _ receiving.held receiving.pending).trans receiving.queued }
  | offering held stands receiving =>
    exact .offering held stands { receiving with
      serves := interlude.serves _ receiving.held receiving.serves
      queued := (interlude.queued _ _ receiving.held receiving.pending).trans receiving.queued }
  | exhausted free ended => exact .exhausted free ended

/-- A row of calls for the next record of one enumeration. -/
inductive Calls (script : Script σ reply) (parser : RecordParser ρ) :
    World σ → Enumeration → List (Arena.Room × Except Error ρ) → World σ → Enumeration → Prop
  | none (world : World σ) (e : Enumeration) : Calls script parser world e [] world e
  | next {world later last : World σ} {e e' e'' : Enumeration} {outside : σ} {patience : Nat}
    {arena : Arena} {reading : Reading ρ} {outcomes : List (Arena.Room × Except Error ρ)}
    (interlude : Interlude script world e outside patience)
    (called : Enumeration.next parser patience e arena { world with outside } =
      some ((reading, e'), later))
    (calls : Calls script parser later e' outcomes last e'') :
    Calls script parser world e ((arena.room, reading.result) :: outcomes) last e''

/-- A row of calls, made one after the other as long as no hazard comes. -/
def callAll (parser : RecordParser ρ) (patience : Nat) :
    List Arena → World σ → Enumeration →
      Option (List (Arena.Room × Except Error ρ) × World σ × Enumeration)
  | [], world, e => some ([], world, e)
  | arena :: arenas, world, e => do
    guard world.Calm
    let ((reading, e'), later) ← Enumeration.next parser patience e arena world
    let (outcomes, last) ← callAll parser patience arenas later e'
    return ((arena.room, reading.result) :: outcomes, last)

theorem Calls.of_callAll (still : Service.Still σ) (script : Script σ reply)
    {parser : RecordParser ρ} {patience : Nat} :
    ∀ {arenas : List Arena} {world later : World σ} {e e' : Enumeration}
      {outcomes : List (Arena.Room × Except Error ρ)},
      callAll parser patience arenas world e = some (outcomes, later, e') →
      Calls script parser world e outcomes later e'
  | [], world, _, e, _, _, called => by
    cases called
    exact .none world e
  | arena :: arenas, world, _, e, _, _, called => by
    simp only [callAll, Option.bind_eq_bind, Option.bind_eq_some_iff, Option.guard_eq_some']
      at called
    obtain ⟨-, calm, ⟨⟨reading, e'⟩, later⟩, ended, ⟨outcomes, last⟩, called, ⟨⟩⟩ := called
    have interlude : Interlude script world e world.outside patience :=
      ⟨still.quiet calm, fun _ _ serves => serves, fun _ _ _ _ => rfl⟩
    exact .next interlude ended (of_callAll still script called)

section Rows

variable {parser : RecordParser ρ} {fits : Item ρ → Arena.Room → Prop}
  (reads : parser.Reads records fits)
include reads

theorem calls_deliver {later : World σ} {e' : Enumeration}
    {outcomes : List (Arena.Room × Except Error ρ)}
    (calls : Calls script parser world e outcomes later e') {items : List (Item ρ)} {steps : Nat}
    (stage : Stage script lookup loaded records world e items steps) :
    ∃ left fewer, Delivers fits items outcomes left ∧
      Stage script lookup loaded records later e' left fewer := by
  induction calls generalizing items steps with
  | none world e => exact ⟨items, steps, .none items, stage⟩
  | @next _ _ _ _ _ _ _ patience arena _ _ interlude called calls rest =>
    have advances := next_advances reads patience arena interlude.quiet
      (stage.after_interlude interlude)
    rw [called] at advances
    -- The next call begins at the stage where this one has ended.
    obtain ⟨items', steps', turn, stage'⟩ := advances
    obtain ⟨left, fewer, delivers, stage''⟩ := rest stage'
    exact ⟨left, fewer, .next turn delivers, stage''⟩

/-- Every record comes exactly once and in order, whatever room the calls have for it. -/
theorem enumeration_delivers {begun later : World σ} {e₀ e' : Enumeration}
    {parts : List (List (List (Option Entry)))}
    {outcomes : List (Arena.Room × Except Error ρ)}
    (started : e₀.start lookup world = some ((.ok (), e), begun))
    (configured : begun.session.loaded = some loaded)
    (answers : lookup.Answers loaded.config reply parts)
    (calls : Calls script parser begun e outcomes later e') :
    ∃ left, Delivers fits (itemsOn records parts.flatten) outcomes left ∧
      delivered outcomes ++ left.map Item.record =
        parts.flatten.flatten.reduceOption.flatMap records ∧
      ∃ enough, ∀ outside arena patience, enough ≤ patience →
        Interlude script later e' outside patience →
        (Enumeration.next parser patience e' arena { later with outside }).isSome := by
  obtain ⟨steps, stage⟩ := start_stage script records started configured answers
  obtain ⟨left, fewer, delivers, stage'⟩ := calls_deliver reads calls stage
  refine ⟨left, delivers, ?_, fewer, ?_⟩
  · rw [delivers.delivered_append, map_record_itemsOn]
  · intro outside arena patience enough interlude
    have advances := next_advances reads patience arena interlude.quiet
      (stage'.after_interlude interlude)
    -- The stage bounds the steps of the next call, whatever room it has.
    cases ended : Enumeration.next parser patience e' arena { later with outside } with
    | none =>
      rw [ended] at advances
      exact absurd advances (Nat.not_lt.mpr enough)
    | some out => rfl

end Rows

/-- Two calls have too little room, and the last comes after the end. -/
theorem enumeration_delivers_small :
    ∃ (begun later : World Small.Outside) (e e' : Enumeration)
      (outcomes : List (Arena.Room × Except Error String)),
      start {} Small.users { outside := {} } = some ((.ok (), e), begun) ∧
      Calls Host.script (.ofValues "uid") begun e outcomes later e' ∧
      outcomes.map (·.2.toOption) = [none, some "ann", none, some "anna", some "bob", none] ∧
      ∃ left, Delivers RecordParser.FitsValue
          (itemsOn (Entry.values · "uid") Small.parts.flatten) outcomes left ∧
        delivered outcomes ++ left.map Item.record =
          Small.parts.flatten.flatten.reduceOption.flatMap (Entry.values · "uid") := by
  have ran : (start {} Small.users { outside := ({} : Small.Outside) }).bind
      (fun ((result, e), begun) =>
        (callAll (.ofValues "uid") 8 ([3, 4, 4, 5, 5, 5].map (Arena.fresh 0)) begun e).map
          fun (outcomes, _) =>
            (result.isOk, begun.session.loaded, outcomes.map (·.2.toOption))) =
      some (true, some ⟨Small.config, none⟩,
        [none, some "ann", none, some "anna", some "bob", none]) := by decide +kernel
  obtain ⟨⟨⟨result, e⟩, begun⟩, started, ran⟩ := Option.bind_eq_some_iff.mp ran
  obtain ⟨⟨outcomes, later, e'⟩, called, same⟩ := Option.map_eq_some_iff.mp ran
  simp only [Prod.mk.injEq] at same
  obtain ⟨succeeded, configured, given⟩ := same
  cases result with
  | error error => cases succeeded
  | ok =>
    -- Room for three octets is too little for the first value, and four are too few for the second.
    have calls := Calls.of_callAll Host.still Host.script called
    obtain ⟨left, delivers, all, -⟩ := enumeration_delivers
      (RecordParser.ofValues_reads "uid") started configured Small.answers calls
    exact ⟨begun, later, e, e', outcomes, started, calls, given, left, delivers, all⟩

end NameService.Enumeration
