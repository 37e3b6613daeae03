import NameService.Proofs.Netgroup.Joining
import NameService.Text.Octets

/-!
How the reading of a netgroup ends. After the first answer that is no member nothing is left to
read, and there are no more from then on. The first answer of all should tell a netgroup that cannot
be found, as the first thing in its values is malformed, from one that has no members. It does so
unless the values are blank and not all empty: nothing in them is malformed, and still they cannot
be found.

## Main result

`told_iff`: the values whose end is told as what it is, and how the reading of any values ends.
-/

namespace NameService

namespace Netgroup

open NameService.Text

/-! ### The text of the values -/

/-- The values as one text, with spaces between them and without the empty ones. -/
def joined (values : List String) : String := " ".intercalate (values.filter (!·.isEmpty))

theorem Cursor.ofValues_eq (values : List String) :
    ofValues values = ⟨if joined values = "" then none else some (joined values).toList, true⟩ := by
  have text : (joined values).toList =
      List.intercalate [' '] ((values.filter (!·.isEmpty)).map String.toList) :=
    String.toList_intercalate
  rw [ofValues, ← text]
  cases letters : (joined values).toList with
  | nil =>
    rw [if_pos (String.toList_eq_nil_iff.mp letters)]
    rfl
  | cons c rest =>
    have filled : joined values ≠ "" := fun empty => by simp [empty] at letters
    rw [if_neg filled]

theorem spaced_eq (values : List String) :
    spaced values = if joined values = "" then [] else ' ' :: (joined values).toList := by
  obtain ⟨nothing, same⟩ | ⟨text, filled, same⟩ := Cursor.ofValues_cases values
  all_goals rw [Cursor.ofValues_eq] at same
  · by_cases void : joined values = ""
    · rw [nothing, if_pos void]
    · simp [void, Cursor.empty] at same
  · by_cases void : joined values = ""
    · simp [void] at same
    · obtain rfl : (joined values).toList = text := by simpa [void] using same
      rw [filled, if_neg void]

theorem joined_eq_empty_iff {values : List String} :
    joined values = "" ↔ ∀ value ∈ values, value = "" := by
  have none : joined values = "" ↔ spaced values = [] := by
    rw [spaced_eq]
    by_cases void : joined values = "" <;> simp [void]
  simp [none, spaced, List.flatMap_eq_nil_iff]

theorem blanks_joined_iff {values : List String} :
    Blanks (joined values).toList ↔ ∀ value ∈ values, Blanks value.toList := by
  have same : Blanks (joined values).toList ↔ Blanks (spaced values) := by
    rw [spaced_eq]
    by_cases void : joined values = "" <;> simp [void, Blanks, isBlank]
  -- What is between the values is blank, so only what is in them counts.
  rw [same]
  constructor
  · intro blank value among c there
    have filled : value ≠ "" := fun empty => by simp [empty] at there
    exact blank c (List.mem_flatMap.mpr
      ⟨value, by simp [List.mem_filter, among, filled], List.mem_cons_of_mem _ there⟩)
  · intro blank c there
    obtain ⟨value, among, inside⟩ := List.mem_flatMap.mp there
    rcases List.mem_cons.mp inside with rfl | inside
    · rfl
    · exact blank value (List.mem_filter.mp among).1 c inside

/-! ### Members that are read -/

theorem length_octets_lt_of_suffix {text rest : List Char} (suffix : rest <:+ text)
    (shorter : rest.length < text.length) : (octets rest).length < (octets text).length := by
  obtain ⟨front, rfl⟩ := suffix
  have filled : front ≠ [] := fun empty => by simp [empty] at shorter
  obtain ⟨c, others, rfl⟩ := List.exists_cons_of_ne_nil filled
  have wide := c.utf8Size_pos
  simp only [octets, List.cons_append, List.flatMap_cons, List.flatMap_append, List.length_append,
    String.length_utf8EncodeChar]
  omega

/-- Nothing is skipped behind a member. -/
theorem suffix_of_take? {text rest : List Char} {member : Member}
    (taken : take? text = some (member, rest)) : rest <:+ text := by
  refine List.IsSuffix.trans ?_ (List.dropWhile_suffix isBlank)
  change rest <:+ trimStart text
  cases start : trimStart text with
  | nil => simp [take?, start] at taken
  | cons c body =>
    rw [take?_of_trimStart_cons start] at taken
    -- A triple ends with its parenthesis, and a name where its word does.
    by_cases opens : c = '('
    · subst opens
      rw [take?_open] at taken
      obtain ⟨⟨inside, after⟩, cutting, triple⟩ := Option.bind_eq_some_iff.mp taken
      obtain ⟨fields, -, same⟩ := Option.map_eq_some_iff.mp triple
      obtain ⟨-, rfl⟩ := Prod.mk.inj same
      exact ⟨'(' :: (inside ++ [')']), by simp [append_of_cut cutting]⟩
    · rw [take?_name (dark_of_trimStart start) opens] at taken
      obtain ⟨-, rfl⟩ := Prod.mk.inj (Option.some.inj taken)
      exact List.drop_suffix _ _

/-- The octets that are still to be read. -/
def Cursor.ahead (cursor : Cursor) : Nat := (octets (cursor.rest.getD [])).length

/-- A member takes some octets, and any other answer gives up what is left. -/
theorem Cursor.next_cases (cursor : Cursor) :
    (∃ member later, cursor.next = (.ok member, later) ∧ later.ahead < cursor.ahead) ∨
      ∃ error later, cursor.next = (.error error, later) ∧ later.ahead = 0 := by
  obtain ⟨_ | text, first⟩ := cursor
  · exact .inr ⟨_, _, rfl, rfl⟩
  · cases taken : take? text with
    | none =>
      have closing : next ⟨some text, first⟩ =
          (.error (if first then .notFound "malformed netgroup" else .endOfEnumeration),
            ⟨none, first⟩) := by
        simp [next, taken]
      exact .inr ⟨_, _, closing, rfl⟩
    | some found =>
      obtain ⟨member, rest⟩ := found
      exact .inl ⟨member, ⟨some rest, false⟩, by simp [next, taken],
        length_octets_lt_of_suffix (suffix_of_take? taken) (length_lt_of_take? taken)⟩

/-- The members among the answers to so many questions. -/
def Cursor.yielded (cursor : Cursor) : Nat → List Member
  | 0 => []
  | calls + 1 =>
    match cursor.next with
    | (.ok member, later) => member :: later.yielded calls
    | (.error _, later) => later.yielded calls

/-- However often a cursor is asked, the members it has given and the octets it has still to read
    are together no more than the octets it had. -/
theorem Cursor.length_yielded_add_ahead_le (cursor : Cursor) (calls : Nat) :
    (cursor.yielded calls).length + (cursor.after calls).ahead ≤ cursor.ahead := by
  induction calls generalizing cursor with
  | zero => simp [yielded, after]
  | succ calls ih =>
    obtain ⟨member, later, next, spent⟩ | ⟨error, later, next, closed⟩ := cursor.next_cases
    -- A member is paid for with octets, and any other answer leaves none.
    all_goals
      have rest := ih later
      simp only [yielded, after, next, List.length_cons]
      omega

/-! ### Answers that are no members -/

/-- The first thing in the values is malformed. -/
def Spoiled (values : List String) : Prop := Malformed (trimStart (joined values).toList)

/-- There is nothing in the values but blanks, and they are not all empty. -/
def Hollow (values : List String) : Prop :=
  (∀ value ∈ values, Blanks value.toList) ∧ ∃ value ∈ values, value ≠ ""

/-- An answer that is no member tells what is the case: a netgroup whose values begin with something
    malformed cannot be found, and in all other cases there are no more members. -/
structure Told (values : List String) : Prop where
  notFound (calls : Nat) :
    (Cursor.ofValues values).answer calls = .error (.notFound "malformed netgroup") ↔
      calls = 0 ∧ Spoiled values
  ended (calls : Nat) (error : Error) :
    (Cursor.ofValues values).answer calls = .error error → ¬ (calls = 0 ∧ Spoiled values) →
      error = .endOfEnumeration

section Failures

variable {values : List String}

theorem hollow_iff : Hollow values ↔ Blanks (joined values).toList ∧ joined values ≠ "" := by
  simp [Hollow, blanks_joined_iff, joined_eq_empty_iff]

theorem Spoiled.joined_ne (spoiled : Spoiled values) : joined values ≠ "" := by
  intro empty
  obtain ⟨inside, head⟩ := Malformed.head spoiled
  simp [empty, trimStart] at head

theorem Spoiled.not_hollow (spoiled : Spoiled values) : ¬ Hollow values := by
  intro hollow
  obtain ⟨inside, head⟩ := Malformed.head spoiled
  rw [trimStart_eq_nil_iff.mpr (hollow_iff.mp hollow).1] at head
  cases head

theorem Cursor.members_ofValues_eq_nil_iff :
    (ofValues values).members = [] ↔ Blanks (joined values).toList ∨ Spoiled values := by
  have reading : (ofValues values).members = Netgroup.members (joined values).toList := by
    rw [ofValues_eq, Cursor.members]
    by_cases empty : joined values = "" <;> simp [empty]
  rw [reading, members_eq, Spoiled, ← trimStart_eq_nil_iff, ← take?_eq_none_iff]
  cases take? (joined values).toList <;> simp

/-- Where there is some text and no member in it, it is malformed or blank. -/
theorem Cursor.memberless_iff :
    (ofValues values).members = [] ∧ joined values ≠ "" ↔ Spoiled values ∨ Hollow values := by
  rw [members_ofValues_eq_nil_iff, hollow_iff]
  constructor
  · rintro ⟨blank | spoiled, filled⟩
    · exact .inr ⟨blank, filled⟩
    · exact .inl spoiled
  · rintro (spoiled | ⟨blank, filled⟩)
    · exact ⟨.inr spoiled, spoiled.joined_ne⟩
    · exact ⟨.inl blank, filled⟩

/-- A question fails when all members have been read, and only the first may find that there is some
    text and no member. -/
theorem Cursor.answer_ofValues_eq_error_iff {calls : Nat} {error : Error} :
    (ofValues values).answer calls = .error error ↔
      (ofValues values).members.length ≤ calls ∧
        (if calls = 0 ∧ joined values ≠ "" then .notFound "malformed netgroup"
          else .endOfEnumeration) = error := by
  have opened : (ofValues values).first ∧ (ofValues values).rest.isSome ↔ joined values ≠ "" := by
    rw [ofValues_eq]
    by_cases empty : joined values = "" <;> simp [empty]
  rw [answer_eq, ← List.getElem?_eq_none_iff]
  cases (ofValues values).members[calls]? with
  | some member => simp
  | none => simp [opened]

theorem Cursor.error_cases {calls : Nat} {error : Error}
    (failed : (ofValues values).answer calls = .error error) :
    error = .notFound "malformed netgroup" ∨ error = .endOfEnumeration := by
  obtain ⟨-, rfl⟩ := answer_ofValues_eq_error_iff.mp failed
  split <;> simp

/-- A netgroup cannot be found if the first thing in its values is malformed, or if there is nothing
    in them but blanks. -/
theorem Cursor.answer_notFound_iff {calls : Nat} :
    (ofValues values).answer calls = .error (.notFound "malformed netgroup") ↔
      calls = 0 ∧ (Spoiled values ∨ Hollow values) := by
  have told : (if calls = 0 ∧ joined values ≠ "" then .notFound "malformed netgroup"
      else .endOfEnumeration) = Error.notFound "malformed netgroup" ↔
        calls = 0 ∧ joined values ≠ "" := by
    by_cases first : calls = 0 ∧ joined values ≠ "" <;> simp [first]
  rw [answer_ofValues_eq_error_iff, told, ← memberless_iff]
  constructor
  · rintro ⟨past, rfl, filled⟩
    exact ⟨rfl, List.length_eq_zero_iff.mp (Nat.le_zero.mp past), filled⟩
  · rintro ⟨rfl, nothing, filled⟩
    exact ⟨by simp [nothing], rfl, filled⟩

theorem Hollow.answer (hollow : Hollow values) (calls : Nat) :
    (Cursor.ofValues values).answer calls =
      .error (if calls = 0 then .notFound "malformed netgroup" else .endOfEnumeration) := by
  obtain ⟨nothing, filled⟩ := Cursor.memberless_iff.mpr (.inr hollow)
  rw [Cursor.answer_ofValues_eq_error_iff, nothing]
  simp [filled]

/-- There are no more after an answer that is no member. -/
theorem Cursor.answer_ended {calls more : Nat} {error : Error}
    (failed : (ofValues values).answer calls = .error error) (later : calls < more) :
    (ofValues values).answer more = .error .endOfEnumeration := by
  obtain ⟨past, -⟩ := answer_ofValues_eq_error_iff.mp failed
  rw [answer_ofValues_eq_error_iff, if_neg (by omega)]
  exact ⟨by omega, rfl⟩

theorem told_iff_not_hollow : Told values ↔ ¬ Hollow values := by
  constructor
  · intro told hollow
    have found := (told.notFound 0).mp (Cursor.answer_notFound_iff.mpr ⟨rfl, .inr hollow⟩)
    exact found.2.not_hollow hollow
  · intro solid
    refine ⟨fun calls => ?_, fun calls error failed other => ?_⟩
    · simp [Cursor.answer_notFound_iff, solid]
    · rcases Cursor.error_cases failed with rfl | rfl
      · obtain ⟨zero, spoiled | hollow⟩ := Cursor.answer_notFound_iff.mp failed
        · exact absurd ⟨zero, spoiled⟩ other
        · exact absurd hollow solid
      · rfl

end Failures

theorem Cursor.length_yielded_ofValues_le (values : List String) (calls : Nat) :
    ((ofValues values).yielded calls).length ≤ (octets (joined values).toList).length := by
  have full : (ofValues values).ahead = (octets (joined values).toList).length := by
    rw [ofValues_eq, ahead]
    by_cases empty : joined values = "" <;> simp [empty]
  have spent := (ofValues values).length_yielded_add_ahead_le calls
  omega

/-- The end of values is told as what it is exactly if they are not blank, or all empty. Blank ones
    are taken for malformed by the first question, and have ended by the second. After any answer
    that is no member there are no more, and each member takes at least one octet. -/
theorem told_iff (values : List String) :
    let cursor := Cursor.ofValues values
    (Told values ↔ ¬ Hollow values) ∧
    (Hollow values → ∀ calls, cursor.answer calls =
      .error (if calls = 0 then .notFound "malformed netgroup" else .endOfEnumeration)) ∧
    (∀ calls error, cursor.answer calls = .error error →
      ∀ more, calls < more → cursor.answer more = .error .endOfEnumeration) ∧
    ∀ calls, (cursor.yielded calls).length ≤ (octets (joined values).toList).length := by
  intro cursor
  refine ⟨told_iff_not_hollow, fun hollow => hollow.answer, ?_, ?_⟩
  · intro calls error failed more later
    exact Cursor.answer_ended failed later
  · exact Cursor.length_yielded_ofValues_le values

/-- A value that is a single space is not malformed, and it is taken for malformed. -/
theorem not_told_space :
    ¬ Spoiled [" "] ∧
    (Cursor.ofValues [" "]).answer 0 = .error (.notFound "malformed netgroup") ∧
    ¬ Told [" "] := by
  have sound : ¬ Spoiled [" "] := fun spoiled => by
    obtain ⟨inside, head⟩ := Malformed.head spoiled
    have blank : trimStart (joined [" "]).toList = [] := by decide +kernel
    rw [blank] at head
    cases head
  have answer : (Cursor.ofValues [" "]).answer 0 = .error (.notFound "malformed netgroup") := by
    decide +kernel
  exact ⟨sound, answer, fun told => sound ((told.notFound 0).mp answer).2⟩

end Netgroup

end NameService
