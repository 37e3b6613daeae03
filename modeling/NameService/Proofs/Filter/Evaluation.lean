import NameService.Entry
import NameService.Membership.Plan
import NameService.Proofs.Filter.Filling

/-!
What filters match, and what they are when a template is filled. Case is of no account when values
are compared, and the name of an entry is compared like a value of one more attribute.

A template that is put together of tests is a filter with conversions in the place of some values.
Filled, it is the filter with the values of these, whatever characters they are made of.

## Main results

- `Formula.matches_equals`: a test for a value matches the entries that have it.
- `Becomes.both`, `Becomes.either`: filters come of templates part by part.
-/

namespace NameService

namespace Entry

/-- The values of an attribute as a filter compares them. The name of an entry is among the values
    of no attribute, and is looked for as if it were the one of `distinguishedName`. -/
def matchable (entry : Entry) (type : String) : List String :=
  if Text.same type "distinguishedName" then [entry.name] else entry.values type

def has (entry : Entry) (type value : String) : Bool :=
  (entry.matchable type).any (Text.same · value)

/-- Whether an entry passes a test. A value that is no text once it is read matches nothing. -/
def Passes (entry : Entry) : Filter.Item → Prop
  | .equals type value => ∃ wanted ∈ Filter.decode? value, entry.has (String.ofList type) wanted
  | .present type => entry.matchable (String.ofList type) ≠ []

theorem has_iff {entry : Entry} {type value : String}
    (plain : Text.same type "distinguishedName" = false) :
    entry.has type value ↔ ∃ given ∈ entry.values type, Text.fold given = Text.fold value := by
  simp [has, matchable, plain, Text.same_iff]

theorem has_name_iff {entry : Entry} {name : String} :
    entry.has "distinguishedName" name ↔ Text.fold entry.name = Text.fold name := by
  simp [has, matchable, Text.same_iff, Text.same_refl]

theorem has_fold {entry : Entry} {type value other : String}
    (same : Text.fold value = Text.fold other) : entry.has type value = entry.has type other := by
  simp [has, Text.same, same]

end Entry

namespace Filter

open NameService.Membership (isA both either)

namespace Formula

/-- Asks for a value of an attribute. -/
def equals (type value : String) : Formula := .test (.equals type.toList (escape value))

theorem wellFormed_equals {type : String} (named : isName type.toList) (value : String) :
    (equals type value).WellFormed :=
  .test ⟨named, isValue_escape value⟩

/-- A value is compared as it was before it was written into the filter. -/
@[simp] theorem matches_equals {entry : Entry} {type value : String} :
    (equals type value).Matches entry.Passes ↔ entry.has type value := by
  simp [equals, Matches, Entry.Passes, decode?_escape]

theorem matchesAny_map {α : Type} (passes : Item → Prop) (formula : α → Formula) (values : List α) :
    MatchesAny passes (values.map formula) ↔ ∃ value ∈ values, (formula value).Matches passes := by
  induction values with
  | nil => simp [MatchesAny]
  | cons value values ih => simp [MatchesAny, ih]

theorem printAll_eq_flatMap (parts : List Formula) : printAll parts = parts.flatMap print := by
  induction parts with
  | nil => rfl
  | cons part parts ih => simp [printAll, print, ih]

end Formula

/-- A part of a template, filled with some texts, is the written form of a filter. What comes after
    it is filled with what comes after the texts. -/
structure Becomes (part : String) (values : List String) (formula : Formula) : Prop where
  formed : formula.WellFormed
  filled : ∀ (after : List Char) (others : List Argument),
    substitute (part.toList ++ after) (values.map .ofText ++ others) =
      (substitute after others).map (formula.print ++ ·)

namespace Becomes

variable {type value part other : String} {values others : List String} {formula more : Formula}

/-- A test for a value that the template has itself. -/
theorem given (named : isName type.toList) (plain : '%' ∉ (isA type value).toList)
    (bare : escape value = value.toList) :
    Becomes (isA type value) [] (.equals type value) where
  formed := Formula.wellFormed_equals named value
  filled after others := by
    -- Nothing is left to be filled, so the text is taken over as it is.
    have whole : (Formula.equals type value).print = (isA type value).toList := by
      simp [Formula.equals, Formula.print, Formula.inside, Item.written, isA, bare]
    rw [whole]
    apply substitute_append plain

/-- A test for a value that the template is filled with. -/
theorem wanted (named : isName type.toList) (plain : '%' ∉ type.toList) (value : String) :
    Becomes (isA type "%s") [value] (.equals type value) where
  formed := Formula.wellFormed_equals named value
  filled after others := by
    have split : (isA type "%s").toList ++ after =
        ('(' :: type.toList ++ ['=']) ++ '%' :: 's' :: ')' :: after := by
      simp [isA]
    have label : '%' ∉ '(' :: type.toList ++ ['='] := by simp [plain]
    rw [split, substitute_append label, List.map_singleton, List.singleton_append,
      Argument.ofText, substitute, substitute_plain (by decide)]
    cases substitute after others <;>
      simp [Except.map, Formula.equals, Formula.print, Formula.inside, Item.written]

section Joined

variable (first : Becomes part values formula) (second : Becomes other others more)
include first second

/-- Two parts one after the other take what they need in this order. -/
theorem filled_both (after : List Char) (arguments : List Argument) :
    substitute (part.toList ++ (other.toList ++ after))
        ((values ++ others).map .ofText ++ arguments) =
      (substitute after arguments).map fun text => formula.print ++ (more.print ++ text) := by
  rw [List.map_append, List.append_assoc, first.filled, second.filled]
  cases substitute after arguments <;> rfl

theorem both : Becomes (both part other) (values ++ others) (.all [formula, more]) where
  formed := by
    apply Formula.WellFormed.all (List.cons_ne_nil _ _)
    simp [first.formed, second.formed]
  filled after arguments := by
    have split : (Membership.both part other).toList ++ after =
        ['(', '&'] ++ (part.toList ++ (other.toList ++ ')' :: after)) := by
      simp [Membership.both]
    rw [split, substitute_append (by decide), filled_both first second,
      substitute_plain (by decide)]
    cases substitute after arguments <;>
      simp [Except.map, Formula.print, Formula.inside, Formula.printAll]

theorem either : Becomes (either part other) (values ++ others) (.any [formula, more]) where
  formed := by
    apply Formula.WellFormed.any (List.cons_ne_nil _ _)
    simp [first.formed, second.formed]
  filled after arguments := by
    have split : (Membership.either part other).toList ++ after =
        ['(', '|'] ++ (part.toList ++ (other.toList ++ ')' :: after)) := by
      simp [Membership.either]
    rw [split, substitute_append (by decide), filled_both first second,
      substitute_plain (by decide)]
    cases substitute after arguments <;>
      simp [Except.map, Formula.print, Formula.inside, Formula.printAll]

end Joined

/-! ### Whole templates -/

theorem substitute_eq (becomes : Becomes part values formula) :
    substitute part.toList (values.map .ofText) = .ok formula.print := by
  simpa [substitute, Except.map] using becomes.filled [] []

theorem render_text (becomes : Becomes part [value] formula) :
    render part (.text value) = .ok (String.ofList formula.print) := by
  have filled : substitute part.toList [.ofText value] = .ok formula.print :=
    becomes.substitute_eq
  simp [render, fill, filled, Except.map, Except.mapError]

theorem render_texts {second : String} (becomes : Becomes part [value, second] formula) :
    render part (.texts value second) = .ok (String.ofList formula.print) := by
  have filled : substitute part.toList [.ofText value, .ofText second] = .ok formula.print :=
    becomes.substitute_eq
  simp [render, fill, filled, Except.map, Except.mapError]

/-- A template that is filled once for every value asks for one of them. -/
theorem render_anyOf {formula : String → Formula}
    (becomes : ∀ value, Becomes part [value] (formula value)) (values : List String) :
    render part (.anyOf values) = .ok (String.ofList (Formula.any (values.map formula)).print) := by
  have all : values.mapM (fun value => substitute part.toList [.ofText value]) =
      .ok ((values.map formula).map Formula.print) := by
    apply mapM_eq_ok_iff.mpr
    rw [List.map_map, List.forall₂_map_right_iff, List.forall₂_same]
    exact fun value _ => (becomes value).substitute_eq
  have joined : fill part.toList (.anyOf values) =
      .ok (Formula.any (values.map formula)).print := by
    rw [fill, aggregate, all, Formula.print, Formula.inside, Formula.printAll_eq_flatMap,
      List.flatMap]
    rfl
  simp [render, joined, Except.map, Except.mapError]

end Becomes

end Filter

end NameService
