import NameService.Enumeration
import NameService.Proofs.Lookup.Faults

/-!
What the next record of an enumeration comes to. A record is read from the entry at hand, which was
received by then; without a record there is an error, and it is one of the enumeration's own or one
that a call has failed with.

## Main result

`Enumeration.next_accounts`: a record of the next call, or the error that stands for it.
-/

namespace NameService

open Engine

/-- The entry that a message has brought. -/
def Call.brings? : (call : Call) → call.Answer → Option Entry
  | .next _ _, .ok (.entry entry) => some entry
  | _, _ => none

def Event.brings? (event : Event) : Option Entry := event.call.brings? event.answer

/-- An entry has been received. -/
def Received (entry : Entry) (history : List Event) : Prop :=
  ∃ event ∈ history, event.brings? = some entry

variable {σ : Type} [Service σ]

/-- To ask for a page is to start a search on the connection that is held, if there is anything to
    ask for. -/
theorem Lookup.startPage_ends (lookup : Lookup) (index : Nat) (cookie : List UInt8)
    (world : World σ) :
    Ends world (lookup.startPage index cookie : Action σ (Option MessageId)).run fun result later =>
      later = world ∧ (∀ error, result = .error error → lookup.Own error) ∨
        ∃ link search, world.session.link = some link ∧
          later = world.after (.start link.connection search) ∧
          result = (world.answer (.start link.connection search)).map some := by
  have fails {error : Error} (own : lookup.Own error) :
      ∀ other, (.error error : Except Error (Option MessageId)) = .error other →
        lookup.Own other := by
    rintro _ ⟨⟩
    exact own
  -- Up to the search itself nothing happens, and what can fail are the preparations.
  cases configured : world.session.loaded with
  | none =>
    have ran : (lookup.startPage index cookie : Action σ _).run world =
        some (.error (.configuration "directory session not initialized"), world) := by
      simp [startPage, configured]
    exact .of_run ran (.inl ⟨rfl, fails (lookup.own_of_unavailable _ rfl)⟩)
  | some loaded =>
    refine .action_bind_run (by rw [run_config, configured]) ?_
    cases asked : lookup.search? loaded.config index with
    | error error =>
      refine .of_run rfl (.inl ⟨rfl, fails ?_⟩)
      unfold search? at asked
      split at asked
      · cases asked
      · next target _ =>
        cases failed : lookup.search loaded.config target with
        | error other =>
          rw [failed] at asked
          rw [← Except.error.inj asked]
          exact own_of_search failed
        | ok search =>
          rw [failed] at asked
          cases asked
    | ok search? =>
      refine .action_bind_run rfl ?_
      cases search? with
      | none => exact .pure (.inl ⟨rfl, nofun⟩)
      | some search =>
        cases held : world.session.link with
        | none =>
          have misses {rest : Connection → Action σ (Option MessageId)} :
              (connection >>= rest).run world =
                some (.error (.unavailable "no directory connection"), world) := by
            simp [held]
          exact .of_run misses (.inl ⟨rfl, fails (lookup.own_of_unavailable _ rfl)⟩)
        | some link =>
          refine .action_bind_run (by rw [run_connection, held]) ?_
          let call := Call.start link.connection { search with page := loaded.config.page? cookie }
          have starts : (do return some (← ExceptT.mk (perform call)) :
              Action σ (Option MessageId)).run world =
                some ((world.answer call).map some, world.after call) := by
            cases answered : world.answer call <;> simp [answered, Except.map]
          exact .of_run starts (.inr ⟨link, _, rfl, rfl, rfl⟩)

theorem Lookup.startPage_accounts (lookup : Lookup) (index : Nat) (cookie : List UInt8)
    {world : World σ} (unhurt : world.Unhurt) :
    Ends world (lookup.startPage index cookie : Action σ (Option MessageId)).run
      (Accounts Error.IsTold fun _ _ => True) := by
  refine (lookup.startPage_ends index cookie world).mono ?_
  rintro result later (⟨rfl, own⟩ | ⟨link, search, held, rfl, rfl⟩)
  · cases result with
    | ok id => exact .ok unhurt trivial
    | error error => exact .error_of_own unhurt (own error rfl).isTold
  · cases answered : world.answer (.start link.connection search) with
    | ok id => exact .ok (unhurt.after (by rw [answered]; rfl)) trivial
    | error error => exact .of_call unhurt (by rw [answered]; rfl)

namespace Enumeration

theorem startNext_accounts (e : Enumeration) {world : World σ} (unhurt : world.Unhurt) :
    Ends world (e.startNext : Engine σ _) fun out later =>
      Accounts Error.IsTold (fun _ _ => True) out.1 later ∧
        (e.entry = none → out.2.entry = none) := by
  unfold startNext
  cases e.lookup with
  | none => exact .pure ⟨.ok unhurt trivial, id⟩
  | some lookup =>
    refine (lookup.startPage_accounts e.index e.cookie unhurt).bind fun result later accounts => ?_
    cases result with
    | ok id => exact .pure ⟨.ok accounts.unhurt trivial, fun free => free⟩
    | error error => exact .pure ⟨accounts.error_mono fun _ => Iff.rfl, fun _ => rfl⟩

theorem finish_accounts (e : Enumeration) (done : Done) {world : World σ} (unhurt : world.Unhurt) :
    Ends world (e.finish done : Engine σ _) fun out later =>
      Accounts Error.IsTold (fun _ _ => True) out.1 later ∧
        (e.entry = none → out.2.entry = none) := by
  unfold finish
  dsimp only
  split
  · next failed =>
    exact .pure ⟨.error_of_own unhurt failed.1, fun _ => rfl⟩
  split
  · exact startNext_accounts _ unhurt
  · refine (startNext_accounts _ unhurt).bind fun out later reached => ?_
    obtain ⟨accounts, free⟩ := reached
    match out with
    | (.ok (), e) =>
      dsimp only
      cases e.pending with
      | none =>
        refine .pure ⟨.error_of_own accounts.unhurt ?_, free⟩
        simp [Error.IsTold, exhausted, Error.status]
      | some id => exact .pure ⟨accounts, free⟩
    | (.error error, e) => exact .pure ⟨accounts, free⟩

/-- An entry that is at hand after a fetch has been received. -/
theorem fetch_accounts (e : Enumeration) (free : e.entry = none) {world : World σ}
    (unhurt : world.Unhurt) :
    Ends world (e.fetch : Engine σ _) fun out later =>
      Accounts Error.IsTold (fun _ _ => True) out.1 later ∧
        ∀ entry, out.2.entry = some entry → Received entry later.history := by
  have nothing : ∀ {other : Enumeration} {history : List Event}, other.entry = none →
      ∀ entry, other.entry = some entry → Received entry history := by
    intro other history free entry held
    rw [free] at held
    cases held
  unfold fetch
  cases e.pending with
  | none =>
    refine .pure ⟨.error_of_own unhurt ?_, nothing free⟩
    simp [Error.IsTold, exhausted, Error.status]
  | some id =>
    refine (Session.ensureReady_accounts Error.isTold_of_unavailable unhurt).bind ?_
    intro ready world accounts
    cases ready with
    | error error => exact .pure ⟨accounts.error_mono fun _ => Iff.rfl, nothing free⟩
    | ok _ =>
      have unhurt := accounts.unhurt
      refine .bind_run (run_session world) ?_
      have interruption : Accounts Error.IsTold (fun _ _ => True)
          (.error interrupted : Except Error Unit) world :=
        .error_of_own unhurt (Error.isTold_of_unavailable _ rfl)
      cases world.session.link with
      | none => exact .pure ⟨interruption, nothing rfl⟩
      | some link =>
        dsimp only
        split
        · exact .pure ⟨interruption, nothing rfl⟩
        let call := Call.next link.connection id
        refine .bind_run (run_perform world call) ?_
        cases answered : world.answer call with
        | error error =>
          have failed : Accounts Error.IsTold (fun _ _ => True)
              (.error error : Except Error Unit) (world.after call) :=
            .of_call unhurt (by rw [answered]; rfl)
          -- The connection may be closed for it, which does not make another error of it.
          dsimp only
          split
          · refine .bind_run (run_close _) (.pure ⟨failed.error_mono fun error => ?_, nothing rfl⟩)
            exact World.faulted_drop fun _ _ => rfl
          · exact .pure ⟨failed, nothing rfl⟩
        | ok message =>
          have received : (world.after call).Unhurt := unhurt.after (by rw [answered]; rfl)
          cases message with
          | entry entry =>
            refine .pure ⟨.ok received trivial, ?_⟩
            rintro _ ⟨⟩
            refine ⟨_, List.mem_cons_self, ?_⟩
            change call.brings? (world.answer call) = some entry
            rw [answered]
            rfl
          | reference => exact .pure ⟨.ok received trivial, nothing free⟩
          | done done =>
            refine (finish_accounts e done received).mono fun out later reached => ?_
            exact ⟨reached.1, nothing (reached.2 free)⟩

/-- An offer gives the record that the parser gives, or is refused with an error for the caller, or
    leaves no entry at hand. -/
theorem offer_cases {ρ : Type} (e : Enumeration) (entry : Entry) (parser : RecordParser ρ)
    (arena : Arena) :
    (∃ record, (e.offer entry parser arena).1 = .taken record ∧
        (parser entry e.position arena).outcome = .ok (some record)) ∨
      (∃ error, (e.offer entry parser arena).1 = .refused error ∧ error.IsTold) ∨
      (e.offer entry parser arena).1 = .passed ∧ (e.offer entry parser arena).2.1.entry = none := by
  unfold offer
  dsimp only
  split
  · next record parsed => exact .inl ⟨record, rfl, parsed⟩
  · exact .inr (.inl ⟨_, rfl, by simp [Error.IsTold, Error.status]⟩)
  · exact .inr (.inr ⟨rfl, rfl⟩)
  · exact .inr (.inr ⟨rfl, rfl⟩)

/-- The next record, or the error that stands for it. Entries that are passed over leave nothing. -/
theorem next_accounts {ρ : Type} (parser : RecordParser ρ) (known : Entry → List Event → Prop)
    (knows : ∀ entry history, Received entry history → known entry history) :
    ∀ (patience : Nat) (e : Enumeration) (arena : Arena) {world : World σ}, world.Unhurt →
      (∀ entry, e.entry = some entry → known entry world.history) →
      Ends world (next parser patience e arena : Engine σ _) fun out later =>
        Accounts Error.IsTold (Delivered parser known) out.1.result later := by
  -- The induction is on the turns that are left; a turn is a fetch, or the offer of an entry.
  intro patience
  induction patience with
  | zero =>
    intro e arena world _ _ out later ran
    cases ran
  | succ patience ih =>
    intro e arena world unhurt held
    rw [next]
    cases atHand : e.entry with
    | none =>
      refine (e.fetch_accounts atHand unhurt).bind fun out later reached => ?_
      obtain ⟨accounts, received⟩ := reached
      match out with
      | (.error error, e) => exact .pure (accounts.error_mono fun _ => Iff.rfl)
      | (.ok (), e) =>
        exact ih e arena accounts.unhurt fun entry held => knows entry _ (received entry held)
    | some entry =>
      dsimp only
      have offered := e.offer_cases entry parser arena
      generalize e.offer entry parser arena = out at offered
      match out, offered with
      | (_, e', arena'), .inl ⟨record, rfl, parsed⟩ =>
        refine .bind_run (run_touch world) (.pure (.ok (unhurt.of_history rfl) ?_))
        exact ⟨entry, e.position, arena, held entry atHand, parsed⟩
      | (_, e', arena'), .inr (.inl ⟨error, rfl, told⟩) =>
        exact .pure (.error_of_own unhurt told)
      | (_, e', arena'), .inr (.inr ⟨rfl, free⟩) =>
        refine ih e' arena' unhurt fun entry held => ?_
        rw [free] at held
        cases held

end Enumeration

end NameService
