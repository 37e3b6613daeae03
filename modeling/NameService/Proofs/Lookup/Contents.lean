import Mathlib.Data.Set.Card
import NameService.Proofs.Filter.Evaluation
import NameService.Proofs.Filter.Grammar
import NameService.Proofs.Lookup.Supply

/-!
Directories that hold some entries and answer a search through all of them with those that its
filter matches. What comes of a question is a matter of the filter that its template becomes: the
same entries come all at once and message by message.

## Main results

- `Lookup.Seeks.answer`, `Lookup.Seeks.answers`: an answer has what the filter matches.
- `Contents.faithful`: whatever the entries are, there is a directory that answers like this.
-/

namespace NameService

open Engine NameService.Filter

/-- What a directory holds, and what it sends of an entry: the name, and the values of those
    attributes at least that are asked for. -/
structure Contents where
  entries : List Entry
  shown : List String → Entry → Entry
  name_shown : ∀ attributes entry, (shown attributes entry).name = entry.name
  values?_shown : ∀ attributes entry, ∀ type ∈ attributes,
    (shown attributes entry).values? type = entry.values? type

namespace Contents

variable (contents : Contents)

/-- The entries that a filter matches. -/
def matched (formula : Formula) : Set Entry :=
  { entry | entry ∈ contents.entries ∧ formula.Matches entry.Passes }

/-- What is sent of them. -/
def found (attributes : List String) (formula : Formula) : Set Entry :=
  contents.shown attributes '' contents.matched formula

/-- A search through the whole directory for what a filter matches, and that is no more than the
    search allows. -/
structure Sought (config : Config) (search : Search) (formula : Formula) : Prop where
  base : search.base = config.base
  scope : search.scope = config.scope
  formed : formula.WellFormed
  written : search.filter.toList = formula.print
  fits : ∀ limit ∈ search.sizeLimit, (contents.matched formula).encard ≤ limit

/-- A directory that answers by what filters say, in any order and on as many pages as it likes. -/
structure Faithful (config : Config) (find : Search → Except Error (List Entry))
    (reply : Search → Reply) : Prop where
  finds : ∀ {search formula}, contents.Sought config search formula →
    ∃ entries, find search = .ok entries ∧
      { entry | entry ∈ entries } = contents.found search.attributes formula
  sends : ∀ {search formula}, contents.Sought config search formula →
    ∃ pages, Pages reply (fun cookie => { search with page := config.page? cookie }) [] pages ∧
      { entry | entry ∈ pages.flatten.reduceOption } = contents.found search.attributes formula

end Contents

namespace Lookup

/-- The question is for what a filter matches, in the whole directory. -/
structure Seeks (lookup : Lookup) (formula : Formula) : Prop where
  whole : lookup.base = none
  formed : formula.WellFormed
  renders : render lookup.template lookup.args = .ok (String.ofList formula.print)

namespace Seeks

variable {contents : Contents} {config : Config} {find : Search → Except Error (List Entry)}
  {reply : Search → Reply} {lookup : Lookup} {formula : Formula}
  (seeks : lookup.Seeks formula) (undivided : config.searchDescriptors = [])
include seeks undivided

theorem targets : lookup.targets config = [⟨config.base, config.scope, none⟩] := by
  simp [Lookup.targets, Config.descriptors, undivided, seeks.whole]

variable (fits : ∀ limit ∈ lookup.sizeLimit, (contents.matched formula).encard ≤ limit)
include fits

omit undivided in
theorem search : ∃ search,
    lookup.search config ⟨config.base, config.scope, none⟩ = .ok search ∧
      contents.Sought config search formula ∧ search.attributes = lookup.attributes := by
  refine ⟨{
    base := config.base
    scope := config.scope
    filter := String.ofList formula.print
    attributes := lookup.attributes
    deref := config.deref
    sizeLimit := lookup.sizeLimit
    timeLimit := config.timeLimit
    page := none }, ?_, ⟨rfl, rfl, seeks.formed, ?_, fits⟩, rfl⟩
  · simp [Lookup.search, Filter.build, seeks.renders, bind, Except.bind, pure, Except.pure]
  · exact String.toList_ofList

variable (faithful : contents.Faithful config find reply)
include faithful

/-- All that the filter matches comes at once. -/
theorem answer : ∃ entries, lookup.answer find config = .ok entries ∧
    { entry | entry ∈ entries } = contents.found lookup.attributes formula := by
  obtain ⟨search, searches, sought, attributes⟩ := seeks.search fits
  obtain ⟨entries, told, same⟩ := faithful.finds sought
  refine ⟨entries, ?_, attributes ▸ same⟩
  rw [Lookup.answer, seeks.targets undivided, answerIn_asked searches, told]
  cases entries <;> rfl

/-- All that the filter matches comes message by message. -/
theorem answers : ∃ search parts, lookup.search? config 0 = .ok (some search) ∧
    lookup.Answers config reply parts ∧
    { entry | entry ∈ parts.flatten.flatten.reduceOption } =
      contents.found lookup.attributes formula := by
  obtain ⟨search, searches, sought, attributes⟩ := seeks.search fits
  obtain ⟨pages, sent, same⟩ := faithful.sends sought
  refine ⟨search, [pages], ?_, ?_, ?_⟩
  · simp [search?, seeks.targets undivided, searches, Except.map]
  · -- There is one part only, the whole directory.
    unfold Answers
    rw [seeks.targets undivided]
    refine .cons ?_ .nil
    intro other searched
    cases searches.symm.trans searched
    exact sent
  · rw [← attributes, ← same]
    simp

end Seeks

end Lookup

namespace Contents

/-- A directory that sends nothing of an entry that it was not asked for. -/
def ofEntries (entries : List Entry) : Contents where
  entries := entries
  shown attributes entry :=
    { entry with attributes := entry.attributes.filter fun (type, _) =>
        attributes.any (Text.same type) }
  name_shown _ _ := rfl
  values?_shown _ _ type asked :=
    Entry.values?_filter fun _ same => List.any_eq_true.mpr ⟨type, asked, same⟩

variable (contents : Contents)

/-- Whether a text is a filter that matches an entry. -/
def Answering (filter : String) (entry : Entry) : Prop :=
  ∃ formula : Formula, formula.WellFormed ∧ filter.toList = formula.print ∧
    formula.Matches entry.Passes

/-- No text is a filter in two ways. -/
theorem answering_iff {filter : String} {formula : Formula} (formed : formula.WellFormed)
    (written : filter.toList = formula.print) (entry : Entry) :
    Answering filter entry ↔ formula.Matches entry.Passes := by
  constructor
  · rintro ⟨other, formed', written', matching⟩
    have same : formula.print ++ [] = other.print ++ [] := by rw [← written, ← written']
    rwa [(Formula.print_append_inj formed formed' same).1]
  · intro matching
    exact ⟨formula, formed, written, matching⟩

open Classical in
/-- Sends what a filter matches in one piece. -/
noncomputable def reply (search : Search) : Reply where
  messages := ((contents.entries.filter (Answering search.filter)).map
    (contents.shown search.attributes)).map some
  done := ⟨0, "", none⟩

theorem messages_reply {config : Config} {search : Search} {formula : Formula}
    (sought : contents.Sought config search formula) :
    { entry | entry ∈ (contents.reply search).messages.reduceOption } =
      contents.found search.attributes formula := by
  ext entry
  simp [reply, List.reduceOption, found, matched, answering_iff sought.formed sought.written]

theorem faithful (config : Config) : contents.Faithful config
    (fun search => .ok (contents.reply search).messages.reduceOption) contents.reply where
  finds sought := ⟨_, rfl, contents.messages_reply sought⟩
  sends {search formula} sought := by
    refine ⟨_, .last (.inl rfl) rfl, ?_⟩
    -- What is sent does not depend on the page.
    change { entry | entry ∈ ([(contents.reply search).messages].flatten).reduceOption } = _
    rw [List.flatten_singleton]
    exact contents.messages_reply sought

end Contents

end NameService
