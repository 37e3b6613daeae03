import NameService.Proofs.Enumeration.Stage
import NameService.Proofs.Failover.Losses

/-!
The entries of an enumeration, one by one, with other questions between them. The questions are
asked on the connection that carries the enumeration. As long as none of them loses its server every
entry comes; after a loss none does.

## Main results

- `nextEntry_advances`: the next entry comes, or there is none.
- `nextEntry_stranded`: after a loss the enumeration is interrupted.
-/

namespace NameService

/-- A search that is answered at once leaves alone the answers that come message by message, unless
    the server is lost. -/
def Script.Apart {σ : Type} [Service σ] {reply : Search → Reply} (script : Script σ reply) : Prop :=
  ∀ (connection : Connection) (search : Search) (outside : σ), script.serves connection outside →
    (Call.search connection search).lostBy
        (Service.answer (.search connection search) outside).1 = false →
      let later := (Service.answer (.search connection search) outside).2
      script.serves connection later ∧
        ∀ id, script.queue connection id later = script.queue connection id outside

/-- On a host that answers every search, searches have nothing to do with each other. -/
theorem Host.script_apart {config : Config} {reply : Search → Reply} :
    (Host.script : Script (Host config reply) reply).Apart :=
  fun _ _ _ serves _ => ⟨serves, fun _ => rfl⟩

theorem Frail.script_apart {σ : Type} [Service σ] {failing : Nat → Call → Option Error}
    {reply : Search → Reply} {script : Script σ reply}
    (starts : ∀ calls connection search, failing calls (.start connection search) = none)
    (sends : ∀ calls connection id, failing calls (.next connection id) = none)
    (apart : script.Apart) : (Frail.script script starts sends).Apart := by
  intro connection search frail serves spared
  cases fails : failing frail.calls (.search connection search) with
  | none =>
    rw [Frail.answer_of_spared fails] at spared ⊢
    exact apart connection search frail.host serves spared
  | some error =>
    rw [Frail.answer_of_failed fails rfl]
    exact ⟨serves, fun _ => rfl⟩

namespace Enumeration

open Engine World

variable {σ : Type} [Service σ]

section Lasting

variable {holds : World σ → Prop} (lasting : World.Lasting holds)
  (started : ∀ (world : World σ) (connection : Connection) (search : Search), holds world →
    holds (world.after (.start connection search)))
  (received : ∀ (world : World σ) (connection : Connection) (id : MessageId), holds world →
    holds (world.after (.next connection id)))

section Starting

include started

theorem startNext_lasts (e : Enumeration) :
    Lasts holds (e.startNext : Engine σ (Except Error Unit × Enumeration)) := by
  unfold startNext
  split
  · exact .pure _
  · next lookup _ =>
    refine Lasts.bind (lookup.startPage_lasts started e.index e.cookie) fun result => ?_
    cases result <;> exact .pure _

theorem finish_lasts (e : Enumeration) (done : Done) :
    Lasts holds (e.finish done : Engine σ (Except Error Unit × Enumeration)) := by
  unfold finish
  dsimp only
  split
  · exact .pure _
  split
  · exact startNext_lasts started _
  · refine (startNext_lasts started _).bind fun out => ?_
    split <;> exact .pure _

theorem take_lasts (e : Enumeration) (message : Message) :
    Lasts holds (e.take message : Engine σ (Except Error Unit × Enumeration)) := by
  cases message with
  | entry entry => exact .pure _
  | reference => exact .pure _
  | done done => exact finish_lasts started e done

end Starting

section Fetching

include lasting started received

theorem fetch_lasts (e : Enumeration) :
    Lasts holds (e.fetch : Engine σ (Except Error Unit × Enumeration)) := by
  unfold fetch
  split
  · next pending _ =>
    refine Lasts.bind (Session.ensureReady_lasts lasting) fun result => ?_
    match result with
    | .error error => exact .pure _
    | .ok () =>
      refine Lasts.session.bind fun session => ?_
      split
      · next link _ =>
        split
        · exact .pure _
        refine Lasts.bind (.perform fun world => received world _ _) fun answer => ?_
        split
        · split
          · exact (close_lasts lasting.toTended).bind fun _ => .pure _
          · exact .pure _
        · exact take_lasts started e _
      · exact .pure _
  · exact .pure _

end Fetching

end Lasting

section Stopping

variable {holds : World σ → Prop} (tended : World.Tended holds)
include tended

theorem abandon_lasts (e : Enumeration) : Lasts holds (e.abandon : Engine σ Enumeration) := by
  refine (Session.releaseInherited_lasts tended).bind fun released => ?_
  dsimp only
  split
  · exact .pure _
  split
  · next pending _ =>
    refine Lasts.session.bind fun session => ?_
    split
    · split
      · exact (Lasts.perform fun world => tended.after world _ rfl).bind fun _ => .pure _
      · exact .pure _
    · exact .pure _
  · exact .pure _

theorem stop_lasts (e : Enumeration) : Lasts holds (e.stop : Engine σ Enumeration) := by
  refine (abandon_lasts tended e).bind fun e => ?_
  refine Lasts.session.bind fun session => ?_
  dsimp only
  split
  · split
    · exact (close_lasts tended).bind fun _ => .pure _
    · exact .pure _
  · exact .pure _

end Stopping

theorem start_lasts (e : Enumeration) (lookup : Lookup) {holds : World σ → Prop}
    (lasting : World.Lasting holds)
    (started : ∀ (world : World σ) (connection : Connection) (search : Search), holds world →
      holds (world.after (.start connection search))) :
    Lasts holds (e.start lookup : Engine σ (Except Error Unit × Enumeration)) := by
  refine (abandon_lasts lasting.toTended e).bind fun e => ?_
  have starts : Lasts holds (lookup.start 0 : Action σ (Option MessageId)).run :=
    Failover.run_lasts lasting (Lookup.startPage_lasts started lookup 0 [])
  refine Lasts.bind starts fun result => ?_
  split
  · exact .pure _
  · refine Lasts.session.bind fun session => ?_
    dsimp only
    split <;> exact .pure _

section Halting

variable (e : Enumeration)

/-- Only one message is waited for, and a backend answers every call. -/
theorem fetch_halts : Halts (e.fetch : Engine σ (Except Error Unit × Enumeration)) :=
  (fetch_lasts World.lasting_true (fun _ _ _ _ => trivial) (fun _ _ _ _ => trivial) e).halts

theorem start_halts (lookup : Lookup) :
    Halts (e.start lookup : Engine σ (Except Error Unit × Enumeration)) :=
  (start_lasts e lookup World.lasting_true fun _ _ _ _ => trivial).halts

theorem stop_halts : Halts (e.stop : Engine σ Enumeration) :=
  (stop_lasts World.lasting_true.toTended e).halts

end Halting

section Receipt

variable {world : World σ} {e : Enumeration} (free : e.entry = none)
include free

theorem startNext_free : Ends world e.startNext fun out _ => out.2.entry = none := by
  unfold startNext
  split
  · exact .pure free
  · refine Ends.any.bind fun result _ _ => ?_
    cases result with
    | ok id => exact .pure free
    | error error => exact .pure rfl

theorem finish_free (done : Done) : Ends world (e.finish done) fun out _ => out.2.entry = none := by
  unfold finish
  dsimp only
  split
  · exact .pure rfl
  split
  · exact startNext_free (by exact free)
  · refine (startNext_free (by exact free)).bind fun out _ free => ?_
    split <;> exact .pure free

/-- An entry that has just been received is at hand from its first record on. -/
theorem fetch_first : Ends world e.fetch fun out _ =>
    out.2.entry.isSome → out.2.position = .start := by
  -- Where nothing has come there is nothing to be said of its position.
  have none {later : World σ} {e : Enumeration} (free : e.entry = none)
      (result : Except Error Unit) : Ends later (Pure.pure (result, e)) fun out _ =>
        out.2.entry.isSome → out.2.position = .start :=
    .pure (by simp [free])
  unfold fetch
  split
  · refine Ends.any.bind fun result world _ => ?_
    match result with
    | .error error => exact none free _
    | .ok () =>
      refine .bind_run (run_session world) ?_
      split
      · split
        · exact none rfl _
        refine Ends.any.bind fun answer world _ => ?_
        split
        · split
          · exact Ends.any.bind fun _ _ _ => none rfl _
          · exact none rfl _
        · next message =>
          cases message with
          | entry entry => exact .pure fun _ => rfl
          | reference => exact none free _
          | done done => exact (finish_free free done).mono fun out _ free => by simp [free]
      · exact none rfl _
  · exact none free _

end Receipt

variable {reply : Search → Reply}

/-- An entry taken as it is, as the one record that there is of it. -/
abbrev whole (entry : Entry) : List Entry := [entry]

section Riding

variable (script : Script σ reply) (lookup : Lookup) (loaded : Loaded) (count : Nat)
  (e : Enumeration)

/-- An enumeration that waits for its next entry in a calm world. So far `count` searches have lost
    their servers. -/
structure Riding (entries : List Entry) (steps : Nat) (world : World σ) : Prop where
  calm : world.Calm
  unlost : world.losses = count
  free : e.entry = none
  receiving : ∃ link id search done messages pages parts,
    Receiving script lookup loaded world e link id search done messages pages parts ∧
      (ahead messages pages parts).flatten.reduceOption = entries ∧
      2 * weight (ahead messages pages parts) + 1 = steps

/-- A search has lost its server since the enumeration was started. -/
structure Losing (world : World σ) : Prop where
  generation : e.generation ≤ world.session.generation
  lost : count < world.losses
  current : world.Current

/-- The connection on which the enumeration was started is gone with its server. -/
structure Stranded (world : World σ) : Prop extends Losing count e world where
  parted : world.session.generation = e.generation → world.session.link = none

end Riding

variable {script : Script σ reply} {lookup : Lookup} {loaded : Loaded} {count : Nat}
  {world : World σ} {e : Enumeration}

theorem Receiving.carry {link : Link} {id : MessageId} {search : Search} {done : Done}
    {messages : List (Option Entry)} {pages : List (List (Option Entry))}
    {parts : List (List (List (Option Entry)))} {later : World σ}
    (receiving : Receiving script lookup loaded world e link id search done messages pages parts)
    (session : later.session = world.session) (serves : script.serves link.connection later.outside)
    (queued : script.queue link.connection id later.outside =
      script.queue link.connection id world.outside) :
    Receiving script lookup loaded later e link id search done messages pages parts where
  asks := receiving.asks
  generation := session ▸ receiving.generation
  configured := session ▸ receiving.configured
  held := session ▸ receiving.held
  serves := serves
  pending := receiving.pending
  queued := queued.trans receiving.queued
  settled := receiving.settled
  searches := receiving.searches
  follows := receiving.follows
  answered := receiving.answered

theorem map_record_entries (pages : List (List (Option Entry))) :
    (itemsOn whole pages).map Item.record = pages.flatten.reduceOption := by
  rw [map_record_itemsOn]
  exact List.flatMap_singleton' _

theorem Riding.pending {entries : List Entry} {steps : Nat}
    (riding : Riding script lookup loaded count e entries steps world) :
    ∃ id, e.pending = some id := by
  obtain ⟨_, id, _, _, _, _, _, receiving, _⟩ := riding.receiving
  exact ⟨id, receiving.pending⟩

theorem Riding.stage {entries : List Entry} {steps : Nat}
    (riding : Riding script lookup loaded count e entries steps world) :
    ∃ items, items.map Item.record = entries ∧
      Stage script lookup loaded whole world e items steps := by
  obtain ⟨_, _, _, _, _, _, _, receiving, rfl, rfl⟩ := riding.receiving
  exact ⟨_, map_record_entries _, .receiving riding.free receiving⟩

/-- The record of what a walk visits has nothing to do with an enumeration. -/
theorem Riding.visit {entries : List Entry} {steps : Nat} (visit : Visit) (world : World σ)
    (riding : Riding script lookup loaded count e entries steps world) :
    Riding script lookup loaded count e entries steps
      { world with visits := visit :: world.visits } := by
  obtain ⟨_, _, _, _, _, _, _, receiving, coming⟩ := riding.receiving
  exact ⟨riding.calm.of_view rfl rfl, riding.unlost, riding.free, _, _, _, _, _, _, _,
    receiving.carry rfl receiving.serves rfl, coming⟩

theorem Stranded.visit (visit : Visit) (world : World σ) (stranded : Stranded count e world) :
    Stranded count e { world with visits := visit :: world.visits } :=
  ⟨⟨stranded.generation, stranded.lost, stranded.current⟩, stranded.parted⟩

section Carrying

variable (spares : Service.Spares σ loaded)
include spares

theorem Losing.after (losing : Losing count e world) (call : Call) :
    Losing count e (world.after call) where
  generation := losing.generation
  lost := Nat.lt_of_lt_of_le losing.lost (world.losses_le_after call)
  current := ⟨losing.current.1, losing.current.2.trans (spares.modified call world.outside).symm⟩

theorem Losing.tended : World.Tended (Losing (σ := σ) count e) where
  after _ call _ losing := losing.after spares call
  made _ _ losing := ⟨losing.generation, losing.lost, losing.current⟩
  hold _ _ losing := ⟨Nat.le_succ_of_le losing.generation, losing.lost, losing.current⟩
  look _ _ losing := ⟨losing.generation, losing.lost, losing.current⟩
  dropLink _ losing := ⟨losing.generation, losing.lost, losing.current⟩
  clearFork _ losing := ⟨losing.generation, losing.lost, losing.current⟩
  touch _ _ losing := ⟨losing.generation, losing.lost, losing.current⟩
  advance _ losing := ⟨losing.generation, losing.lost, losing.current⟩

/-- There is no way back: every connection that comes has a generation of its own. -/
theorem Stranded.tended : World.Tended (Stranded (σ := σ) count e) where
  after _ call _ stranded := ⟨stranded.toLosing.after spares call, stranded.parted⟩
  made _ _ stranded := ⟨(Losing.tended spares).made _ _ stranded.toLosing, stranded.parted⟩
  hold _ _ stranded := by
    refine ⟨(Losing.tended spares).hold _ _ stranded.toLosing, fun same => ?_⟩
    exact absurd stranded.generation (Nat.not_le.mpr (Nat.lt_of_succ_le (Nat.le_of_eq same)))
  look _ _ stranded := ⟨(Losing.tended spares).look _ _ stranded.toLosing, stranded.parted⟩
  dropLink _ stranded := ⟨(Losing.tended spares).dropLink _ stranded.toLosing,
    fun _ => Session.dropLink_link _⟩
  clearFork _ stranded := ⟨(Losing.tended spares).clearFork _ stranded.toLosing, stranded.parted⟩
  touch _ _ stranded := by
    refine ⟨(Losing.tended spares).touch _ _ stranded.toLosing, fun same => ?_⟩
    simpa using stranded.parted same
  advance _ stranded := ⟨(Losing.tended spares).advance _ stranded.toLosing, stranded.parted⟩

theorem Losing.moved (losing : Losing count e world) : Stranded count e world.moved :=
  ⟨(tended spares).advance _ ((tended spares).drop losing fun _ => rfl), fun _ => moved_link world⟩

theorem Riding.carried (apart : script.Apart) (entries : List Entry) (steps : Nat) :
    World.Carried (Riding script lookup loaded count e entries steps) (Losing count e)
      (Stranded count e) where
  calm _ riding := riding.calm
  configured _ riding := by
    obtain ⟨_, _, _, _, _, _, _, receiving, _⟩ := riding.receiving
    simp [receiving.configured]
  held _ riding := by
    obtain ⟨_, _, _, _, _, _, _, receiving, _⟩ := riding.receiving
    simp [receiving.held]
  looked _ riding := by
    obtain ⟨_, _, _, _, _, _, _, receiving, coming⟩ := riding.receiving
    exact ⟨riding.calm.looked, riding.unlost, riding.free, _, _, _, _, _, _, _,
      receiving.carry rfl receiving.serves rfl, coming⟩
  touched _ riding := by
    obtain ⟨_, _, _, _, _, _, _, receiving, coming⟩ := riding.receiving
    exact ⟨riding.calm.touched, riding.unlost, riding.free, _, _, _, _, _, _, _,
      receiving.touch _, coming⟩
  asked world link search riding held := by
    obtain ⟨link', _, _, _, _, _, _, receiving, coming⟩ := riding.receiving
    obtain rfl : link = link' := Option.some.inj (held.symm.trans receiving.held)
    split
    · -- A search that loses its server ends the ride. Any other leaves the stream as it was, since
      -- it asks for something else.
      next lost =>
      refine ⟨Nat.le_of_eq receiving.generation, ?_, ?_⟩
      · rw [losses_after, if_pos lost, riding.unlost]
        exact Nat.lt_succ_self _
      · exact ⟨by simp [receiving.configured],
          riding.calm.unchanged.trans (spares.modified _ world.outside).symm⟩
    · next spared =>
      have spared := Bool.eq_false_iff.mpr spared
      have calm := spares.calm world _ rfl receiving.configured riding.calm
        ((Call.loses_search _ _ _).mpr spared)
      obtain ⟨serves, queued⟩ := apart link.connection search world.outside receiving.serves spared
      exact ⟨calm, (losses_after_of_spared spared).trans riding.unlost, riding.free, _, _, _, _, _,
        _, _, receiving.carry rfl serves (queued _), coming⟩
  moved _ losing := losing.moved spares
  tended := Stranded.tended spares
  searched _ _ _ stranded := ⟨stranded.toLosing.after spares _, stranded.parted⟩
  current _ stranded := stranded.current

/-- The next entry comes, and those after it are still to come; or all have come. -/
theorem nextEntry_advances :
    ∀ (patience : Nat) {world : World σ} {e : Enumeration} {items : List (Item Entry)}
      {steps : Nat}, world.Calm → world.losses = count → (e.entry.isSome → e.position = .start) →
      Stage script lookup loaded whole world e items steps → steps ≤ patience →
      ∃ found e' later, e.nextEntry patience world = some ((.ok found, e'), later) ∧
        match found with
        | none => items = [] ∧ later.losses = count
        | some entry => ∃ entries fewer, items.map Item.record = entry :: entries ∧
            fewer < steps ∧ Riding script lookup loaded count e' entries fewer later
  | 0, _, _, _, _, _, _, _, stage, enough => by cases stage <;> exact absurd enough (by simp)
  | patience + 1, world, e, items, steps, calm, unlost, first, stage, enough => by
    cases stage with
    | exhausted free ended =>
      refine ⟨none, e, world, ?_, rfl, unlost⟩
      simp [nextEntry, free, fetch, ended, exhausted]
    | @offering entry index link id search done messages pages parts held stands receiving =>
      -- The entry was received as a whole, so that its one record is still to come.
      obtain rfl : index = 0 := by
        rw [first (by simp [held])] at stands
        rcases stands with start | ⟨start, -⟩
        · cases start
        · exact start
      refine ⟨some entry, e.dropEntry, world, by simp [nextEntry, held], _, _, ?_,
        Nat.lt_succ_self _, calm, unlost, rfl, link, id, search, done, messages, pages, parts,
        receiving.with_entry none .start e.retrying, rfl, rfl⟩
      rw [List.drop_zero, List.map_append, map_record_entries]
      rfl
    | receiving free receiving =>
      have quiet : Quiet (0 + 2) world := spares.quiet receiving.configured calm
      obtain ⟨result, e', later, ran, calm', outcome⟩ :=
        fetch_advances quiet free
          (.receiving free receiving : Stage script lookup loaded whole world e _ _)
      have unlost' : later.losses = count :=
        (fetch_lasts (losses_lasting count)
          (fun world _ _ same => (losses_after_of_spared rfl).trans same)
          (fun world _ _ same => (losses_after_of_spared rfl).trans same) e).ends unlost _ later ran
      rcases outcome with ⟨rfl, fewer, less, stage'⟩ | ⟨rfl, empty, -⟩
      · obtain ⟨found, e'', last, ran', reached⟩ := nextEntry_advances patience calm' unlost'
          (fetch_first free _ later ran) stage' (by omega)
        refine ⟨found, e'', last, by simp [nextEntry, free, ran, ran'], ?_⟩
        cases found with
        | none => exact reached
        | some entry =>
          obtain ⟨entries, fewer', same, less', riding⟩ := reached
          exact ⟨entries, fewer', same, Nat.lt_trans less' less, riding⟩
      · exact ⟨none, e', later, by simp [nextEntry, free, ran, exhausted], empty, unlost'⟩

/-- No entry comes after the loss of the connection. -/
theorem nextEntry_stranded {id : MessageId} (free : e.entry = none)
    (pending : e.pending = some id) (stranded : Stranded count e world) (patience : Nat) :
    ∃ e' later, e.nextEntry (patience + 1) world = some ((.error interrupted, e'), later) ∧
      count < later.losses := by
  obtain ⟨later, ready, stranded⟩ := Session.ensureReady_tended (Stranded.tended spares)
    (fun _ stranded => stranded.current) stranded
  refine ⟨e.reset, later, ?_, stranded.lost⟩
  -- Either there is no connection, or it has come after the one that carried the enumeration.
  cases held : later.session.link with
  | none => simp [nextEntry, free, fetch, pending, ready, held, interrupted]
  | some link =>
    have other : e.generation ≠ later.session.generation := fun same => by
      simp [stranded.parted same.symm] at held
    simp [nextEntry, free, fetch, pending, ready, held, other, interrupted]

end Carrying

end Enumeration

end NameService
