import NameService.Proofs.Netgroup.Reading
import Mathlib.Data.List.TakeWhile

/-!
Values behind other values. The values of an entry are joined with spaces and read as one text, so
how far the first of them can be read decides what becomes of the rest. A word ends at the space and
a triple where it is closed, and neither takes anything from a value behind it. Only a parenthesis
that is left open reaches further: the next one that closes, in whatever value, closes it.

## Main result

`members_append`: the members of values with others behind them, by the text at which the reading of
the first ones stops.
-/

namespace NameService

namespace Netgroup

open NameService.Text

/-- The text before the cursor when there are no more members, without the blanks in front. -/
def Cursor.stop (cursor : Cursor) : List Char :=
  trimStart ((cursor.after cursor.members.length).rest.getD [])

section Reading

variable {text left rest inside : List Char} {member : Member}

theorem dark_of_trimStart {c : Char} (start : trimStart text = c :: left) : isBlank c = false := by
  have head := List.head?_dropWhile_not isBlank text
  unfold trimStart at start
  simpa [start] using head

theorem trimStart_append_of_cons {c : Char} (start : trimStart text = c :: left)
    (rest : List Char) : trimStart (text ++ rest) = trimStart (c :: (left ++ rest)) := by
  rw [trimStart_cons_of_dark (dark_of_trimStart start)]
  unfold trimStart at start ⊢
  rw [List.dropWhile_append, start]
  rfl

theorem trimStart_append_of_nil (start : trimStart text = []) (rest : List Char) :
    trimStart (text ++ rest) = trimStart rest := by
  unfold trimStart at start ⊢
  rw [List.dropWhile_append, start]
  rfl

theorem cut_append_of_some {c : Char} (cutting : cut c text = some (inside, left))
    (rest : List Char) : cut c (text ++ rest) = some (inside, left ++ rest) := by
  rw [append_of_cut cutting, List.append_assoc, List.cons_append]
  exact cut_append (notMem_of_cut cutting) _

/-- A word ends at a blank, if not before. -/
theorem word_append_rest (text : List Char) (parted : ∀ c ∈ rest.head?, isBlank c = true) :
    word (text ++ rest) = word text := by
  have split : text = word text ++ text.dropWhile (!isBlank ·) :=
    List.takeWhile_append_dropWhile.symm
  have dark : ∀ c ∈ word text, isBlank c = false := fun c there => by
    simpa using List.mem_takeWhile_imp there
  have ended : ∀ c ∈ (text.dropWhile (!isBlank ·) ++ rest).head?, isBlank c = true := by
    intro c head
    cases others : text.dropWhile (!isBlank ·) with
    | nil =>
      rw [others] at head
      exact parted c head
    | cons d others' =>
      have first := List.head?_dropWhile_not (!isBlank ·) text
      rw [others] at first head
      obtain rfl : d = c := by simpa using head
      simpa using first
  conv => lhs; rw [split, List.append_assoc]
  exact word_append dark ended

/-- Fewer than two commas make no three fields, and two do. -/
theorem triple?_eq_none_iff : triple? inside = none ↔ inside.count ',' < 2 := by
  refine ⟨fun nothing => ?_, triple?_of_few⟩
  by_contra enough
  have found (text : List Char) (commas : 0 < text.count ',') : ∃ before after,
      cut ',' text = some (before, after) := by
    have member : ',' ∈ text := List.count_pos_iff.mp commas
    obtain ⟨⟨before, after⟩, cutting⟩ :=
      Option.ne_none_iff_exists'.mp (cut_eq_none_iff.not.mpr (not_not_intro member))
    exact ⟨before, after, cutting⟩
  obtain ⟨host, others, first⟩ := found inside (by omega)
  have commas : inside.count ',' = others.count ',' + 1 := by
    have absent : host.count ',' = 0 := List.count_eq_zero.mpr (notMem_of_cut first)
    rw [append_of_cut first, List.count_append, List.count_cons_self, absent, Nat.zero_add]
  obtain ⟨user, domain, second⟩ := found others (by omega)
  simp [triple?, first, second] at nothing

/-- Blanks in front of a text make no difference to the member at its head. -/
theorem take?_of_trimStart_cons {c : Char} (start : trimStart text = c :: left) :
    take? text = take? (c :: left) := by
  apply take?_of_trimStart
  simpa using trimStart_append_of_cons start []

/-- A member is the same whatever comes behind it, and what comes behind it is left. -/
theorem take?_append (found : take? text = some (member, left))
    (parted : ∀ c ∈ rest.head?, isBlank c = true) :
    take? (text ++ rest) = some (member, left ++ rest) := by
  cases start : trimStart text with
  | nil => simp [take?, start] at found
  | cons c body =>
    have same := take?_of_trimStart_cons start
    rw [take?_of_trimStart (trimStart_append_of_cons start rest)]
    rw [same] at found
    by_cases opens : c = '('
    · subst opens
      rw [take?_open] at found ⊢
      obtain ⟨⟨inside, after⟩, cutting, triple⟩ := Option.bind_eq_some_iff.mp found
      obtain ⟨fields, parsed, same⟩ := Option.map_eq_some_iff.mp triple
      obtain ⟨rfl, rfl⟩ := Prod.mk.inj same
      rw [cut_append_of_some cutting]
      simp [parsed]
    · rw [take?_name (dark_of_trimStart start) opens] at found ⊢
      obtain ⟨rfl, rfl⟩ := Prod.mk.inj (Option.some.inj found)
      rw [← List.cons_append, word_append_rest _ parted, List.drop_append_of_le_length]
      exact (List.takeWhile_sublist _).length_le

/-- What begins with a parenthesis is a triple, or malformed. -/
theorem take?_open_eq_none_iff : take? ('(' :: rest) = none ↔ Malformed ('(' :: rest) := by
  rw [take?_open]
  constructor
  · intro nothing
    cases cutting : cut ')' rest with
    | none => exact .unclosed (cut_eq_none_iff.mp cutting)
    | some parts =>
      obtain ⟨inside, behind⟩ := parts
      rw [append_of_cut cutting]
      refine .short (notMem_of_cut cutting) (triple?_eq_none_iff.mp ?_)
      simpa [cutting] using nothing
  · intro malformed
    cases malformed with
    | unclosed never => simp [cut_eq_none_iff.mpr never]
    | short closed few => simp [cut_append closed, triple?_of_few few]

/-- Where nothing can be read, there is nothing or something malformed. -/
theorem take?_eq_none_iff :
    take? text = none ↔ trimStart text = [] ∨ Malformed (trimStart text) := by
  cases start : trimStart text with
  | nil => simp [take?, start]
  | cons c body =>
    have same := take?_of_trimStart_cons start
    rw [same]
    by_cases opens : c = '('
    · subst opens
      simp [take?_open_eq_none_iff]
    · have name : take? (c :: body) ≠ none := by
        rw [take?_name (dark_of_trimStart start) opens]
        simp
      have plain : ¬ Malformed (c :: body) := fun malformed => by
        obtain ⟨inside, head⟩ := malformed.head
        exact opens (List.cons.inj head).1
      simp [name, plain]

/-- A text is read up to where nothing more can be read of it, and what comes behind it is read from
    there on. -/
theorem exists_left (text : List Char) (first : Bool) :
    ∃ left, (Cursor.after ⟨some text, first⟩ (members text).length).rest = some left ∧
      take? left = none ∧ ∀ rest : List Char, (∀ c ∈ rest.head?, isBlank c = true) →
        members (text ++ rest) = members text ++ members (left ++ rest) := by
  fun_induction members text generalizing first with
  | case1 text ended => exact ⟨text, rfl, ended, fun rest _ => rfl⟩
  | case2 text member rest taken ih =>
    obtain ⟨left, reached, ended, further⟩ := ih false
    refine ⟨left, ?_, ended, fun more parted => ?_⟩
    · have next : (Cursor.next ⟨some text, first⟩).2 = ⟨some rest, false⟩ := by
        simp [Cursor.next, taken]
      rw [List.length_cons, Cursor.after, next, reached]
    · rw [members_eq, take?_append taken parted, List.cons_append, ← further more parted]

end Reading

/-- What is left when values have been read is what their cursor stops at, and it is read on with
    whatever is behind it. -/
theorem exists_stop (values : List String) :
    ∃ left, trimStart left = (Cursor.ofValues values).stop ∧ take? left = none ∧
      ∀ others, (Cursor.ofValues (values ++ others)).members =
        (Cursor.ofValues values).members ++ members (left ++ spaced others) := by
  obtain ⟨none, cursor⟩ | ⟨text, filled, cursor⟩ := Cursor.ofValues_cases values
  · refine ⟨[], by rw [cursor]; rfl, rfl, fun others => ?_⟩
    rw [members_ofValues, spaced_append, none, cursor]
    rfl
  · obtain ⟨left, reached, ended, further⟩ := exists_left text true
    refine ⟨left, ?_, ended, fun others => ?_⟩
    · rw [cursor, Cursor.stop, Cursor.members, reached]
      rfl
    · rw [members_ofValues, spaced_append, filled, cursor, Cursor.members, List.cons_append,
        members_space, further _ (spaced_head others)]

/-- What is malformed stays so with values behind it, unless one of them closes what is open. -/
theorem Malformed.append_spaced {inside : List Char} {others : List String}
    (malformed : Malformed ('(' :: inside))
    (unhealed : ')' ∈ '(' :: inside ∨ ∀ value ∈ others, ')' ∉ value.toList) :
    Malformed ('(' :: (inside ++ spaced others)) := by
  cases malformed with
  | @short inner behind closed few =>
    rw [List.append_assoc, List.cons_append]
    exact .short closed few
  | unclosed never =>
    have silent : ∀ value ∈ others, ')' ∉ value.toList :=
      unhealed.resolve_left (by simpa using never)
    refine .unclosed fun closes => ?_
    rcases List.mem_append.mp closes with here | later
    · exact never here
    · obtain ⟨value, among, there⟩ := List.mem_flatMap.mp later
      exact silent value (List.mem_filter.mp among).1 (by simpa using there)

/-- Values are read like others behind them, unless the reading of the first ones stops at something
    malformed. What is closed and has too few fields is the end, and so is what is left open when
    nothing closes it later. What a later value closes is read together with all between, as a
    triple if there are commas enough. -/
theorem members_append (values others : List String) :
    let stop := (Cursor.ofValues values).stop
    let before := (Cursor.ofValues values).members
    let whole := (Cursor.ofValues (values ++ others)).members
    (stop = [] ∨ Malformed stop) ∧
    (stop = [] → whole = before ++ (Cursor.ofValues others).members) ∧
    (Malformed stop → (')' ∈ stop ∨ ∀ value ∈ others, ')' ∉ value.toList) → whole = before) ∧
    ∀ inside more behind : List Char, stop = '(' :: inside → ')' ∉ inside →
      spaced others = more ++ ')' :: behind → ')' ∉ more →
      whole = before ++ match triple? (inside ++ more) with
        | none => []
        | some triple => .triple triple :: members behind := by
  intro stop before whole
  obtain ⟨left, start, ended, further⟩ := exists_stop values
  have stopped : trimStart left = stop := start
  have joined : whole = before ++ members (left ++ spaced others) := further others
  refine ⟨stopped ▸ take?_eq_none_iff.mp ended, ?_, ?_, ?_⟩
  · -- The text ends between two members, and the values that follow are read as if they came first.
    intro nothing
    rw [nothing] at stopped
    rw [joined, members_ofValues, members_eq,
      take?_of_trimStart (trimStart_append_of_nil stopped _), ← members_eq]
  · -- What could not be read before cannot be read now.
    intro malformed unhealed
    obtain ⟨inside, opened⟩ := malformed.head
    rw [opened] at stopped malformed unhealed
    have still := malformed.append_spaced unhealed
    rw [joined, members_eq, take?_of_trimStart (trimStart_append_of_cons stopped _),
      take?_open_eq_none_iff.mpr still, List.append_nil]
  · -- An open triple ends at the first parenthesis of what follows.
    intro inside more behind opened never closes first
    rw [opened] at stopped
    have cutting : cut ')' (inside ++ spaced others) = some (inside ++ more, behind) := by
      rw [closes, ← List.append_assoc]
      exact cut_append (by simp [never, first]) behind
    rw [joined, members_eq, take?_of_trimStart (trimStart_append_of_cons stopped _), take?_open,
      cutting, Option.bind_some]
    dsimp only
    cases triple? (inside ++ more) <;> rfl

/-- Values of each kind with others behind them: read to their end, ended by a group of two fields,
    and left open in the middle of a triple that the next value but one closes. -/
theorem members_append_kinds :
    (Cursor.ofValues ["admins"]).stop = [] ∧
    (Cursor.ofValues (["admins"] ++ ["(-,bob,)"])).members =
      [.group "admins", .triple ⟨some "-", some "bob", none⟩] ∧
    Malformed (Cursor.ofValues ["admins", "(web1,alice)"]).stop ∧
    (Cursor.ofValues (["admins", "(web1,alice)"] ++ ["(-,bob,)"])).members = [.group "admins"] ∧
    (Cursor.ofValues ["admins", "(web1"]).stop = '(' :: "web1".toList ∧
    (Cursor.ofValues (["admins", "(web1"] ++ [",alice,", "example) ops"])).members =
      [.group "admins", .triple ⟨some "web1", some "alice", some "example"⟩, .group "ops"] := by
  have read : (Cursor.ofValues ["admins"]).stop = [] := by decide +kernel
  have few : (Cursor.ofValues ["admins", "(web1,alice)"]).stop =
      '(' :: ("web1,alice".toList ++ ')' :: []) := by decide +kernel
  have short : Malformed (Cursor.ofValues ["admins", "(web1,alice)"]).stop :=
    few ▸ .short (by decide +kernel) (by decide +kernel)
  have opened : (Cursor.ofValues ["admins", "(web1"]).stop = '(' :: "web1".toList := by
    decide +kernel
  have closes : spaced [",alice,", "example) ops"] =
      " ,alice, example".toList ++ ')' :: " ops".toList := by decide +kernel
  -- One of the three rules for each way in which the first values can end.
  refine ⟨read, ?_, short, ?_, opened, ?_⟩
  · rw [(members_append ["admins"] ["(-,bob,)"]).2.1 read]
    decide +kernel
  · rw [(members_append ["admins", "(web1,alice)"] ["(-,bob,)"]).2.2.1 short
      (.inl (by rw [few]; decide +kernel))]
    decide +kernel
  · rw [(members_append ["admins", "(web1"] [",alice,", "example) ops"]).2.2.2 _ _ _ opened
      (by decide +kernel) closes (by decide +kernel)]
    decide +kernel

/-- The first value is malformed and has no member, and the second is a name. Joined, they are a
    triple that is in neither. -/
theorem members_append_straddling :
    Malformed (Cursor.ofValues ["(web1,alice,"]).stop ∧
    (Cursor.ofValues ["(web1,alice,"]).members = [] ∧
    (Cursor.ofValues ["example)"]).members = [.group "example)"] ∧
    (Cursor.ofValues (["(web1,alice,"] ++ ["example)"])).members =
      [.triple ⟨some "web1", some "alice", some "example"⟩] := by
  have stop : (Cursor.ofValues ["(web1,alice,"]).stop = '(' :: "web1,alice,".toList := by
    decide +kernel
  refine ⟨stop ▸ .unclosed (by decide +kernel), ?_, ?_, ?_⟩
  all_goals decide +kernel

end Netgroup

end NameService
