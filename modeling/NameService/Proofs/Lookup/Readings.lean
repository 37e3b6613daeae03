import NameService.Proofs.Session.Success

/-!
Entries that are read by their names, from a directory that has one answer to every request. The
answer may be an error; then the connection is closed, other servers are tried and time passes, but
in the end there is no entry, as if the directory had none.

## Main result

`Entry.run_read`: to read an entry is to look it up among the answers.
-/

namespace NameService

open Engine

/-- What a directory answers to requests for entries. Case makes no difference between names. -/
structure Readings where
  read : String → List String → Except Error (List Entry)
  read_fold : ∀ {name other : String} {attributes : List String},
    Text.fold name = Text.fold other → read name attributes = read other attributes

namespace Readings

variable (readings : Readings)

/-- The entry of this name, if it can be read. -/
def entry? (name : String) (attributes : List String) : Option Entry :=
  (readings.read name attributes).toOption.bind List.head?

/-- The answers of a directory that has no entries where this one fails. -/
def lenient : Readings where
  read name attributes := .ok ((readings.read name attributes).toOption.getD [])
  read_fold same := by rw [readings.read_fold same]

variable {readings}

theorem entry?_fold {name other : String} (same : Text.fold name = Text.fold other)
    (attributes : List String) :
    readings.entry? name attributes = readings.entry? other attributes := by
  unfold entry?
  rw [readings.read_fold same]

/-- Where nothing can be read there is nothing to read. -/
theorem entry?_lenient (name : String) (attributes : List String) :
    readings.lenient.entry? name attributes = readings.entry? name attributes := by
  simp only [lenient, entry?]
  cases readings.read name attributes <;> rfl

end Readings

/-- What an answer tells of an entry. It is no failure that there is none. -/
def told : Except Error (List Entry) → Except Error (Option Entry)
  | .ok entries => .ok entries.head?
  | .error error => if error.status = .notFound then .ok none else .error error

theorem join_toOption_told (answer : Except Error (List Entry)) :
    (told answer).toOption.join = answer.toOption.bind List.head? := by
  cases answer with
  | ok entries => rfl
  | error error =>
    simp only [told]
    split <;> rfl

/-- No call fails that has to do with connections, and each entry is read with one answer. -/
structure Service.Reads (σ : Type) [Service σ] (config : Config) (readings : Readings) : Prop
    extends Opens σ config where
  reads : ∀ (connection : Connection) (name : String) (attributes : List String) (outside : σ),
    (Service.answer (.search connection (.read name attributes config.timeLimit)) outside).1 =
      readings.read name attributes

variable {σ : Type} [Service σ] {config : Config} {readings : Readings}

namespace Entry

theorem run_readOnce {world : World σ} {loaded : Loaded} {link : Link}
    (configured : world.session.loaded = some loaded) (held : world.session.link = some link)
    (name : String) (attributes : List String) :
    let search := Search.read name attributes loaded.config.timeLimit
    (readOnce name attributes : Action σ (Option Entry)).run world =
      some (told (world.answer (.search link.connection search)),
        world.after (.search link.connection search)) := by
  intro search
  simp only [readOnce, run_action_bind, run_config, configured, run_connection, held, run_lift,
    run_perform, Option.bind_some, Option.map_some]
  cases world.answer (.search link.connection search) with
  | ok entries => rfl
  | error error =>
    simp only [told]
    split <;> rfl

/-- Without a configuration or a connection nothing is read. -/
theorem held_of_readOnce {world later : World σ} {name : String} {attributes : List String}
    {found : Option Entry} (ran : (readOnce name attributes : Action σ (Option Entry)).run world =
      some (.ok found, later)) :
    ∃ loaded link, world.session.loaded = some loaded ∧ world.session.link = some link := by
  cases configured : world.session.loaded with
  | none => simp [readOnce, configured] at ran
  | some loaded =>
    cases held : world.session.link with
    | none => simp [readOnce, configured, held] at ran
    | some link => exact ⟨loaded, link, rfl, rfl⟩

/-- To read an entry is to look it up among the answers. -/
theorem run_read (reads : Service.Reads σ config readings) {world : World σ}
    (suits : world.session.Suits config) (name : String) (attributes : List String) :
    ∃ outcome later, (read name attributes : Action σ (Option Entry)).run world =
        some (outcome, later) ∧
      outcome.toOption = (told (readings.read name attributes)).toOption := by
  have serves : Failover.Serves config (readOnce name attributes : Action σ (Option Entry))
      (told (readings.read name attributes)) := by
    rintro world loaded link configured rfl held
    have ran := run_readOnce configured held name attributes
    have answered := reads.reads link.connection name attributes world.outside
    exact ⟨_, ran.trans (by rw [World.answer, answered])⟩
  refine Failover.run_toOption reads.toOpens serves ?_
    (readOnce_lasts (fun _ _ _ kept => kept) name attributes) suits
  rintro begun suits _ later ran value rfl
  obtain ⟨loaded, link, configured, held⟩ := held_of_readOnce ran
  obtain ⟨_, ran'⟩ := serves begun loaded link configured (suits.loaded loaded configured) held
  rw [ran'] at ran
  exact congrArg Prod.fst (Option.some.inj ran)

end Entry

end NameService
