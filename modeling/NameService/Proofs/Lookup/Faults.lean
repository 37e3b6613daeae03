import NameService.Lookup.Answer
import NameService.Proofs.Engine.Faults
import NameService.Proofs.Lookup.Asking

/-!
What a question comes to. It is answered by a search, by an error that some call of it failed with,
or not asked at all because there is no filter for it or no server.

## Main result

`Lookup.one_accounts`: the reading of a question, with the calls that were made for it.
-/

namespace NameService

open Engine

/-- The entries that a search was answered with. That nothing matches may be told as an error. -/
def Call.gives? : (call : Call) → call.Answer → Option (List Entry)
  | .search _ _, .ok entries => some entries
  | .search _ _, .error error => if error.status = .notFound then some [] else none
  | _, _ => none

def Event.gives? (event : Event) : Option (List Entry) := event.call.gives? event.answer

/-- A search with these entries for an answer is among the events. -/
def Given (entries : List Entry) (history : List Event) : Prop :=
  ∃ event ∈ history, event.gives? = some entries

/-- Whatever was asked for was asked for by whole searches. -/
def OnlySearches (history : List Event) : Prop :=
  ∀ event ∈ history, event.call.isQuery →
    ∃ connection search, event.call = .search connection search

theorem given_after {σ : Type} [Service σ] {world : World σ} {call : Call} {entries : List Entry}
    (gives : call.gives? (world.answer call) = some entries) :
    Given entries (world.after call).history :=
  ⟨_, List.mem_cons_self, gives⟩

/-- An error that a caller hears of as one. -/
def Error.IsTold (error : Error) : Prop := error.status ≠ .success

theorem Error.isTold_of_unavailable (error : Error) (lost : error.isUnavailable) :
    error.IsTold := by
  have status : error.status = .unavailable := by simpa [isUnavailable] using lost
  simp [IsTold, status]

/-! ### Parsers -/

/-- A record was read from an entry that was at hand or had been received. -/
def Delivered {ρ : Type} (parser : RecordParser ρ) (known : Entry → List Event → Prop)
    (record : ρ) (history : List Event) : Prop :=
  ∃ entry position arena, known entry history ∧
    (parser entry position arena).outcome = .ok (some record)

namespace RecordParser

variable {ρ : Type} {parser : RecordParser ρ} {position : Position} {missing : Error}

/-- The record of a reading was found in one of the entries. -/
theorem exists_of_first {record : ρ} : ∀ {entries : List Entry} {arena : Arena},
    (parser.first position missing arena entries).record.result = .ok record →
    ∃ entry ∈ entries, ∃ arena, (parser entry position arena).outcome = .ok (some record)
  | [], _, found => nomatch found
  | entry :: entries, arena, found => by
    rw [first] at found
    split at found
    · next other parsed =>
      cases found
      exact ⟨entry, List.mem_cons_self, arena, parsed⟩
    · cases found
    all_goals
      obtain ⟨inner, among, arena, parsed⟩ := exists_of_first found
      exact ⟨inner, List.mem_cons_of_mem _ among, arena, parsed⟩

/-- A reading without a record says that there is none, or that there is no room for it. -/
theorem error_of_first {error : Error} : ∀ {entries : List Entry} {arena : Arena},
    (parser.first position missing arena entries).record.result = .error error →
    error = missing ∨ error.status = .tryAgain
  | [], _, failed => .inl (Except.error.inj failed).symm
  | entry :: entries, arena, failed => by
    rw [first] at failed
    split at failed
    · cases failed
    · cases failed
      exact .inr rfl
    all_goals exact error_of_first failed

end RecordParser

/-! ### Questions -/

theorem Filter.status_of_render {template : String} {args : Args} {error : Error}
    (failed : render template args = .error error) : error.status = .notFound := by
  unfold render at failed
  cases filled : fill template.toList args with
  | ok filter =>
    rw [filled] at failed
    cases failed
  | error misfit =>
    rw [filled] at failed
    rw [← Except.error.inj failed]
    cases misfit <;> rfl

namespace Lookup

/-- The errors of a question that no call has failed with: there is no server, or no filter. -/
def Own (lookup : Lookup) (error : Error) : Prop :=
  error.isUnavailable ∨ Filter.render lookup.template lookup.args = .error error

theorem own_of_unavailable (lookup : Lookup) (error : Error) (lost : error.isUnavailable) :
    lookup.Own error :=
  .inl lost

theorem Own.status {lookup : Lookup} {error : Error} (own : lookup.Own error) :
    error.status = .unavailable ∨ error.status = .notFound := by
  rcases own with unavailable | failed
  · exact .inl (by simpa [Error.isUnavailable] using unavailable)
  · exact .inr (Filter.status_of_render failed)

theorem Own.isTold {lookup : Lookup} {error : Error} (own : lookup.Own error) :
    error.IsTold := by
  rcases own.status with status | status <;> simp [Error.IsTold, status]

theorem own_of_search {lookup : Lookup} {config : Config} {target : Target} {error : Error}
    (failed : lookup.search config target = .error error) : lookup.Own error := by
  refine .inr ?_
  cases rendered : Filter.render lookup.template lookup.args with
  | error other =>
    simp only [search, Filter.build, rendered, bind, Except.bind] at failed
    rw [Except.error.inj failed]
  | ok filter =>
    simp only [search, Filter.build, rendered, bind, Except.bind] at failed
    split at failed
    · next stopped =>
      split at stopped
      · cases stopped
      · split at stopped <;> cases stopped
    · cases failed

theorem targets_ne_nil (lookup : Lookup) (config : Config) : lookup.targets config ≠ [] := by
  unfold targets
  split
  · simp
  · next some => simpa using some

variable {σ : Type} [Service σ]

/-- What is given back was given by a search, be it that all of them have given nothing. -/
theorem searchTargets_accounts (lookup : Lookup) (config : Config) :
    ∀ (targets : List Target) {world : World σ}, world.Unhurt →
      targets ≠ [] ∨ Given [] world.history →
      Ends world (lookup.searchTargets config targets : Action σ (List Entry)).run
        (Accounts lookup.Own Given)
  -- There was a part of the tree to ask about, so this is not the start.
  | [], world, unhurt, start => .of_run rfl (.ok unhurt (start.resolve_left (· rfl)))
  | target :: targets, world, unhurt, _ => by
    rw [searchTargets]
    cases asked : lookup.search config target with
    | error error =>
      exact .of_run rfl (.error_of_own unhurt (own_of_search asked))
    | ok search =>
      refine .action_bind_run rfl (Accounts.connection_bind lookup.own_of_unavailable unhurt ?_)
      intro connection
      have sent : (lift (perform (.search connection search)) : Action σ _).run world =
          some (.ok (world.answer (.search connection search)),
            world.after (.search connection search)) := by
        simp
      refine .action_bind_run sent ?_
      cases answered : world.answer (.search connection search) with
      | ok entries =>
        have answerable : (world.after (.search connection search)).Unhurt :=
          unhurt.after (by rw [answered]; rfl)
        have given : Given entries (world.after (.search connection search)).history :=
          given_after (by rw [answered]; rfl)
        cases entries with
        | nil => exact searchTargets_accounts lookup config targets answerable (.inr given)
        | cons entry entries => exact .pure (.ok answerable given)
      | error error =>
        by_cases missing : error.status = .notFound
        · -- This is an answer, and the next part of the tree is asked.
          simp only [missing, if_true]
          have spared : Call.fault? (.search connection search)
              (world.answer (.search connection search)) = none := by
            rw [answered]
            simp [Call.fault?, missing]
          refine searchTargets_accounts lookup config targets (unhurt.after spared) ?_
          refine .inr (given_after ?_)
          rw [answered]
          simp [Call.gives?, missing]
        · simp only [missing, if_false]
          refine .of_run (run_throw _ error) (.of_call unhurt ?_)
          rw [answered]
          simp [Call.fault?, missing]

theorem entries_accounts (lookup : Lookup) {world : World σ} (unhurt : world.Unhurt) :
    Ends world (lookup.entries : Action σ (List Entry)).run (Accounts lookup.Own Given) := by
  refine Failover.run_accounts lookup.own_of_unavailable (fun world unhurt => ?_) unhurt
  refine Accounts.config_bind lookup.own_of_unavailable unhurt fun config => ?_
  exact lookup.searchTargets_accounts config _ unhurt (.inl (lookup.targets_ne_nil config))

/-- What the one record is looked for in. -/
def read {ρ : Type} (lookup : Lookup) (parser : RecordParser ρ) (arena : Arena) :
    Except Error (List Entry) → Reading ρ
  | .error error => ⟨.error error, arena⟩
  | .ok entries =>
    (parser.first (.byKey (lookup.args.key?.getD "")) lookup.unanswered arena entries).record

theorem onlySearches_lasting : World.Lasting fun world : World σ => OnlySearches world.history where
  after world call quiet kept event member query := by
    rcases List.mem_cons.mp member with rfl | member
    · simp [quiet] at query
    · exact kept event member query
  made _ _ kept := kept
  hold _ _ kept := kept
  look _ _ kept := kept
  dropLink _ kept := kept
  clearFork _ kept := kept
  touch _ _ kept := kept
  advance _ kept := kept
  adopt world _ _ _ kept event member query := by
    rcases List.mem_cons.mp member with rfl | member
    · simp [Call.isQuery] at query
    · exact kept event member query

theorem entries_onlySearches (lookup : Lookup) :
    Lasts (fun world : World σ => OnlySearches world.history)
      (lookup.entries : Action σ (List Entry)).run := by
  refine Failover.run_lasts onlySearches_lasting (searchOnce_lasts ?_ lookup)
  intro world connection search kept event member query
  rcases List.mem_cons.mp member with rfl | member
  · exact ⟨connection, search, rfl⟩
  · exact kept event member query

/-- A question that is put to a world without a history is read, and the reading is that of a result
    which accounts for all that has happened since. -/
theorem one_accounts {ρ : Type} (lookup : Lookup) (parser : RecordParser ρ) (arena : Arena)
    {world : World σ} (fresh : world.history = []) :
    ∃ reading result later, lookup.one parser arena world = some (reading, later) ∧
      reading.record = lookup.read parser arena result ∧
      Accounts lookup.Own Given result later ∧ OnlySearches later.history := by
  obtain ⟨result, later, ran, kept⟩ := lookup.entries_onlySearches world
  have accounts := lookup.entries_accounts (World.unhurt_of_nil fresh) result later ran
  have searches : OnlySearches later.history := kept (by simp [OnlySearches, fresh])
  cases result with
  | error error =>
    refine ⟨⟨.error error, arena⟩, .error error, later, ?_, rfl, accounts, searches⟩
    rw [one, run_bind, ran]
    rfl
  | ok entries =>
    refine ⟨_, .ok entries, later, ?_, rfl, accounts, searches⟩
    rw [one, run_bind, ran]
    rfl

omit [Service σ] in
/-- The reading answers for the calls as the result does, and its record is from one of the entries
    that were given. -/
theorem read_accounts {ρ : Type} {lookup : Lookup} (parser : RecordParser ρ) (arena : Arena)
    {result : Except Error (List Entry)} {later : World σ}
    (accounts : Accounts lookup.Own Given result later) :
    Accounts Error.IsTold
      (Delivered parser fun entry history => ∃ entries, Given entries history ∧ entry ∈ entries)
      (lookup.read parser arena result).result later := by
  cases result with
  | error error => exact (accounts.mono fun _ own => own.isTold).error_mono fun _ => Iff.rfl
  | ok entries =>
    cases found : (lookup.read parser arena (.ok entries)).result with
    | ok record =>
      obtain ⟨entry, among, arena, parsed⟩ := RecordParser.exists_of_first found
      refine .ok accounts.unhurt ?_
      exact ⟨entry, _, arena, ⟨entries, accounts.given entries rfl, among⟩, parsed⟩
    | error error =>
      refine .error_of_own accounts.unhurt ?_
      rcases RecordParser.error_of_first found with rfl | full
      · simp [Error.IsTold, unanswered, Error.status]
      · simp [Error.IsTold, full]

end Lookup

end NameService
