import NameService.Text.Normal
import NameService.Text.Split
import NameService.Pairs

/-!
Directory entries: a name, and the values of attributes in the order in which a server gave them.
Attribute names differ in case only by accident, but an exact match goes first.
-/

namespace NameService

structure Entry where
  name : String
  attributes : List (String × List String) := []
deriving DecidableEq, Repr, Inhabited

namespace Entry

/-- The values of an attribute that is given more than once are put together. -/
def add (entry : Entry) (type : String) (values : List String) : Entry :=
  let known := (entry.attributes.lookup type).getD []
  { entry with attributes := Pairs.insert type (known ++ values) entry.attributes }

def values? (entry : Entry) (type : String) : Option (List String) :=
  (entry.attributes.lookup type).or
    ((entry.attributes.find? fun (name, _) => Text.same name type).map (·.2))

def values (entry : Entry) (type : String) : List String :=
  (entry.values? type).getD []

def first? (entry : Entry) (type : String) : Option String :=
  (entry.values? type).bind List.head?

def hasClass (entry : Entry) (name : String) : Bool :=
  (entry.values "objectClass").any fun given => Text.same given name

/-- The upper end that the options of an attribute give for a range of its values. -/
def rangeEnd? (type : String) (given : List Char) : Option (List Char) := do
  let (base, options) ← Text.cut ';' given
  guard (Text.same (String.ofList base) type)
  let range ← (Text.pieces ';' options).findSome? (Text.after? "range=".toList)
  let (_, high) ← Text.cut '-' range
  return high

/-- A part of the values of an attribute that a server did not give all at once, and its upper
    end as written. -/
def range? (entry : Entry) (type : String) : Option (String × List String) :=
  entry.attributes.findSome? fun (given, values) =>
    (rangeEnd? type given.toList).map fun high => (String.ofList high, values)

/-- The values of an attribute are all there when what else is kept depends on other names. -/
theorem values?_filter {entry : Entry} {keeps : String × List String → Bool} {type : String}
    (kept : ∀ pair, Text.same pair.1 type → keeps pair) :
    { entry with attributes := entry.attributes.filter keeps }.values? type =
      entry.values? type := by
  have exact : (entry.attributes.filter keeps).lookup type = entry.attributes.lookup type := by
    induction entry.attributes with
    | nil => rfl
    | cons pair rest ih =>
      obtain ⟨name, values⟩ := pair
      by_cases named : type = name
      · have there : keeps (name, values) := kept _ (named ▸ Text.same_refl type)
        simp [there, named]
      · have other : (type == name) = false := by simpa using named
        by_cases there : keeps (name, values) <;> simp [there, List.lookup_cons, other, ih]
  have folded : (entry.attributes.filter keeps).find? (Text.same ·.1 type) =
      entry.attributes.find? (Text.same ·.1 type) := by
    rw [List.find?_filter]
    congr 1
    funext pair
    cases same : Text.same pair.1 type with
    | true => simp [kept pair same]
    | false => simp
  simp only [values?, exact, folded]

/-- So are the ranges, when what has one is kept. -/
theorem range?_filter {entry : Entry} {keeps : String × List String → Bool} {type : String}
    (kept : ∀ pair, (rangeEnd? type pair.1.toList).isSome → keeps pair) :
    { entry with attributes := entry.attributes.filter keeps }.range? type =
      entry.range? type := by
  unfold range?
  dsimp only
  induction entry.attributes with
  | nil => rfl
  | cons pair rest ih =>
    by_cases there : keeps pair
    · rw [List.filter_cons_of_pos there, List.findSome?_cons, List.findSome?_cons, ih]
    · have none : rangeEnd? type pair.1.toList = none := by
        rw [← Option.not_isSome_iff_eq_none]
        exact fun ranged => there (kept pair ranged)
      rw [List.filter_cons_of_neg there, List.findSome?_cons, none, ih]
      rfl

end Entry

end NameService
