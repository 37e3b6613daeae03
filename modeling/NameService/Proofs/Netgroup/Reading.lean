import NameService.Netgroup
import NameService.Proofs.Text.Trimming

/-!
What a cursor reads. It gives the members of its text one after the other, and once it has come to
an end it stays there; so what it answers, and when, follows from what stands at the head of what
is left. A member in its usual form is read as what it says, with any blanks around the fields of
a triple, and takes nothing from the values behind it.

## Main results

`Cursor.answer_eq`: the answer to each question, for every cursor.
`answer_of_written`: members that are written down are read back, and what is malformed ends them.
-/

namespace NameService

namespace Netgroup

open NameService.Text

/-! ### Answers -/

/-- The cursor after so many questions. -/
def Cursor.after (cursor : Cursor) : Nat → Cursor
  | 0 => cursor
  | calls + 1 => cursor.next.2.after calls

/-- What the cursor answers after so many other questions. -/
def Cursor.answer (cursor : Cursor) (calls : Nat) : Except Error Member :=
  (cursor.after calls).next.1

theorem Cursor.answer_succ (cursor : Cursor) (calls : Nat) :
    cursor.answer (calls + 1) = cursor.next.2.answer calls := rfl

theorem Cursor.answer_of_closed {cursor : Cursor} (closed : cursor.rest = none) (calls : Nat) :
    cursor.answer calls = .error .endOfEnumeration := by
  have next : cursor.next = (.error .endOfEnumeration, cursor) := by rw [Cursor.next, closed]
  induction calls with
  | zero => rw [answer, after, next]
  | succ calls ih => rw [answer_succ, next, ih]

theorem members_eq (text : List Char) :
    members text =
      match take? text with
      | none => []
      | some (member, rest) => member :: members rest := by
  rw [members]
  split <;> simp_all

@[simp] theorem members_nil : members [] = [] := by
  rw [members_eq]
  rfl

/-- What a cursor that has this text before it answers. -/
theorem answer_members (text : List Char) (first : Bool) (calls : Nat) :
    Cursor.answer ⟨some text, first⟩ calls =
      match (members text)[calls]? with
      | some member => .ok member
      | none =>
        .error (if calls = 0 ∧ first then .notFound "malformed netgroup"
          else .endOfEnumeration) := by
  fun_induction members text generalizing first calls with
  | case1 text ended =>
    have next : Cursor.next ⟨some text, first⟩ =
        (.error (if first then .notFound "malformed netgroup" else .endOfEnumeration),
          ⟨none, first⟩) := by
      simp [Cursor.next, ended]
    -- The text is dropped with the first answer that is no member.
    cases calls with
    | zero => simp [Cursor.answer, Cursor.after, next]
    | succ calls => simp [Cursor.answer_succ, next, Cursor.answer_of_closed]
  | case2 text member rest taken ih =>
    have next : Cursor.next ⟨some text, first⟩ = (.ok member, ⟨some rest, false⟩) := by
      simp [Cursor.next, taken]
    cases calls with
    | zero => simp [Cursor.answer, Cursor.after, next]
    | succ calls => simp [Cursor.answer_succ, next, ih]

/-- A cursor gives its members one after the other, and nothing after them. Only its first answer
    may be that the netgroup cannot be found. -/
theorem Cursor.answer_eq (cursor : Cursor) (calls : Nat) :
    cursor.answer calls =
      match cursor.members[calls]? with
      | some member => .ok member
      | none =>
        .error (if calls = 0 ∧ cursor.first ∧ cursor.rest.isSome then .notFound "malformed netgroup"
          else .endOfEnumeration) := by
  obtain ⟨_ | text, first⟩ := cursor
  · simp [answer_of_closed, members]
  · simpa [members] using answer_members text first calls

/-! ### The member at the head of a text -/

theorem take?_of_trimStart {text trimmed : List Char} (start : trimStart text = trimStart trimmed) :
    take? text = take? trimmed := by
  rw [take?, start, take?]

theorem take?_open (rest : List Char) :
    take? ('(' :: rest) =
      (cut ')' rest).bind fun (inside, after) =>
        (triple? inside).map fun triple => (.triple triple, after) := by
  simp only [take?, trimStart_cons_of_dark (show isBlank '(' = false by decide),
    Option.bind_eq_bind, Option.map_eq_bind]
  rfl

theorem take?_name {c : Char} (dark : isBlank c = false) (other : c ≠ '(') (rest : List Char) :
    take? (c :: rest) =
      some (.group (String.ofList (word (c :: rest))),
        (c :: rest).drop (word (c :: rest)).length) := by
  rw [take?, trimStart_cons_of_dark dark]
  split <;> simp_all

/-! ### The values of an entry as one text -/

/-- The values, each behind a space. -/
def spaced (values : List String) : List Char :=
  (values.filter (!·.isEmpty)).flatMap fun value => ' ' :: value.toList

theorem spaced_append (values others : List String) :
    spaced (values ++ others) = spaced values ++ spaced others := by
  simp [spaced]

/-- Joined texts, with a space in front of the first as well. -/
theorem space_intercalate (text : List Char) (texts : List (List Char)) :
    ' ' :: List.intercalate [' '] (text :: texts) = (text :: texts).flatMap (' ' :: ·) := by
  induction texts generalizing text with
  | nil => simp
  | cons next texts ih => rw [List.intercalate_cons_cons, List.flatMap_cons, ← ih]; simp

theorem Cursor.ofValues_cases (values : List String) :
    spaced values = [] ∧ ofValues values = empty ∨
      ∃ text, spaced values = ' ' :: text ∧ ofValues values = ⟨some text, true⟩ := by
  have filled : ∀ value ∈ values.filter (!·.isEmpty), value.toList ≠ [] := by
    simp [List.mem_filter]
  unfold spaced ofValues
  generalize values.filter (!·.isEmpty) = values at filled
  cases values with
  | nil => exact Or.inl ⟨rfl, rfl⟩
  | cons value values =>
    have joined := space_intercalate value.toList (values.map String.toList)
    rw [← List.map_cons, List.flatMap_map] at joined
    refine Or.inr ⟨_, joined.symm, ?_⟩
    split
    · rename_i nothing
      -- The first value would be empty.
      rw [nothing] at joined
      simp [filled value (by simp)] at joined
    · rfl

theorem members_space (text : List Char) : members (' ' :: text) = members text := by
  rw [members_eq, take?_of_trimStart (trimStart_cons_of_blank rfl text), ← members_eq]

theorem members_ofValues (values : List String) :
    (Cursor.ofValues values).members = members (spaced values) := by
  obtain ⟨empty, cursor⟩ | ⟨text, filled, cursor⟩ := Cursor.ofValues_cases values
  · rw [empty, cursor, members_nil]
    rfl
  · rw [filled, cursor, members_space]
    rfl

theorem Cursor.answer_ofValues (values : List String) (calls : Nat) :
    (ofValues values).answer calls =
      match (Netgroup.members (spaced values))[calls]? with
      | some member => .ok member
      | none =>
        .error (if calls = 0 ∧ spaced values ≠ [] then .notFound "malformed netgroup"
          else .endOfEnumeration) := by
  rw [answer_eq, members_ofValues]
  obtain ⟨none, cursor⟩ | ⟨text, filled, cursor⟩ := ofValues_cases values
  · simp [none, cursor, empty]
  · simp [filled, cursor]

/-! ### Members, written down -/

/-- A member of a list; the fields of a triple may be empty. -/
inductive Listed where
  | group (name : String)
  | triple (host user domain : String)
deriving DecidableEq, Repr

/-- An empty field matches anything. -/
def field (text : String) : Option String :=
  if text.isEmpty then none else some text

def Listed.member : Listed → Member
  | group name => .group name
  | triple host user domain => .triple ⟨field host, field user, field domain⟩

/-- There is no blank in the text and nothing else at which it would end. -/
def Whole (ends : List Char) (text : String) : Prop :=
  ∀ c ∈ text.toList, isBlank c = false ∧ c ∉ ends

instance (ends : List Char) (text : String) : Decidable (Whole ends text) :=
  List.decidableBAll (fun c => isBlank c = false ∧ c ∉ ends) text.toList

theorem Whole.dark {ends : List Char} {text : String} (whole : Whole ends text) :
    ∀ c ∈ text.toList, isBlank c = false := fun c there => (whole c there).1

/-- A member that is written as it is. A domain, which is the last field, may have commas. -/
def Listed.Plain : Listed → Prop
  | group name => name ≠ "" ∧ name.toList.head? ≠ some '(' ∧ Whole [] name
  | triple host user domain =>
    Whole [',', ')'] host ∧ Whole [',', ')'] user ∧ Whole [')'] domain

instance : DecidablePred Listed.Plain
  | .group name =>
    inferInstanceAs (Decidable (name ≠ "" ∧ name.toList.head? ≠ some '(' ∧ Whole [] name))
  | .triple host user domain =>
    inferInstanceAs (Decidable
      (Whole [',', ')'] host ∧ Whole [',', ')'] user ∧ Whole [')'] domain))

/-- A field, with blanks on either side of it. -/
inductive Padded (text : String) : List Char → Prop
  | intro {front back : List Char} (blank : Blanks front ∧ Blanks back) :
    Padded text (front ++ text.toList ++ back)

/-- The text of a member. -/
inductive Listed.Written : Listed → List Char → Prop
  | group (name : String) : Written (group name) name.toList
  | triple {host user domain : String} {first second third : List Char}
    (hosted : Padded host first) (used : Padded user second) (placed : Padded domain third) :
    Written (triple host user domain)
      ('(' :: (first ++ ',' :: (second ++ ',' :: third) ++ [')']))

section Written

variable {ends text : List Char} {value : String} {one : Listed}

theorem Padded.notMem (padded : Padded value text) (whole : Whole ends value) {c : Char}
    (dark : isBlank c = false) (among : c ∈ ends) : c ∉ text := by
  obtain ⟨front, back⟩ := padded
  have absent : c ∉ value.toList := fun there => (whole c there).2 among
  simp [front.notMem dark, back.notMem dark, absent]

theorem Padded.part (padded : Padded value text) (whole : Whole ends value) :
    Triple.part text = field value := by
  obtain @⟨front, back, blankFront, blankBack⟩ := padded
  have dark := whole.dark
  have parted : ∀ c ∈ back.head?, isBlank c = true := fun c there =>
    blankBack c (List.mem_of_mem_head? there)
  rw [Triple.part, List.append_assoc, blankFront.trimStart_append]
  cases letters : value.toList with
  | nil =>
    have none : trimStart back = [] := by simpa [trimStart] using blankBack.trimStart_append []
    have empty : value = "" := String.toList_eq_nil_iff.mp letters
    simp [none, word, field, empty]
  | cons c rest =>
    have filled : value ≠ "" := by
      rintro rfl
      cases letters
    rw [letters] at dark
    rw [List.cons_append, trimStart_cons_of_dark (dark c (by simp)), ← List.cons_append,
      word_append dark parted]
    simp [field, filled, ← letters]

/-- A member that is written in front of a blank is read as what it says, and nothing after it is
    touched. -/
theorem Listed.Written.take? (written : one.Written text) (plain : one.Plain) {rest : List Char}
    (parted : ∀ c ∈ rest.head?, isBlank c = true) :
    Netgroup.take? (text ++ rest) = some (one.member, rest) := by
  cases written with
  | group name =>
    obtain ⟨named, shut, whole⟩ := plain
    have token : word (name.toList ++ rest) = name.toList := word_append whole.dark parted
    obtain ⟨c, others, split⟩ :=
      List.exists_cons_of_ne_nil (String.toList_eq_nil_iff.not.mpr named)
    have other : c ≠ '(' := by simpa [split] using shut
    have taken := take?_name (whole.dark c (by simp [split])) other (others ++ rest)
    rw [← List.cons_append, ← split, token, List.drop_left, String.ofList_toList] at taken
    exact taken
  | @triple host user domain first second third hosted used placed =>
    obtain ⟨hostWhole, userWhole, domainWhole⟩ := plain
    have comma : isBlank ',' = false := by decide
    have close : isBlank ')' = false := by decide
    -- No field has a parenthesis, so the first one closes the triple.
    have cutting : cut ')' (first ++ ',' :: (second ++ ',' :: third) ++ ')' :: rest) =
        some (first ++ ',' :: (second ++ ',' :: third), rest) := by
      apply cut_append
      simp [hosted.notMem hostWhole close, used.notMem userWhole close,
        placed.notMem domainWhole close]
    have fields : triple? (first ++ ',' :: (second ++ ',' :: third)) =
        some ⟨field host, field user, field domain⟩ := by
      -- The first two commas are those between the fields; a domain may have others.
      rw [triple?, cut_append (hosted.notMem hostWhole comma (by simp))]
      simp only [Option.bind_eq_bind, Option.bind_some]
      rw [cut_append (used.notMem userWhole comma (by simp))]
      simp [Triple.ofParts, hosted.part hostWhole, used.part userWhole, placed.part domainWhole]
    rw [List.cons_append, List.append_assoc, List.singleton_append, take?_open, cutting]
    simp [fields, Listed.member]

theorem Listed.Written.ne_nil (written : one.Written text) (plain : one.Plain) : text ≠ [] := by
  cases written with
  | group name => exact String.toList_eq_nil_iff.not.mpr plain.1
  | triple => simp

end Written

/-- What begins like a triple and is none: it is never closed, or there are fewer than three fields
    in it, which commas would part. -/
inductive Malformed : List Char → Prop
  | unclosed {inside : List Char} (never : ')' ∉ inside) : Malformed ('(' :: inside)
  | short {inside behind : List Char} (closed : ')' ∉ inside) (few : inside.count ',' < 2) :
    Malformed ('(' :: (inside ++ ')' :: behind))

theorem Malformed.head {text : List Char} (malformed : Malformed text) :
    ∃ inside, text = '(' :: inside := by
  cases malformed <;> exact ⟨_, rfl⟩

theorem triple?_of_few {inside : List Char} (few : inside.count ',' < 2) :
    triple? inside = none := by
  by_contra found
  obtain ⟨triple, found⟩ := Option.ne_none_iff_exists'.mp found
  simp only [triple?, Option.bind_eq_bind, Option.bind_eq_some_iff, Prod.exists] at found
  obtain ⟨host, rest, first, user, domain, second, -⟩ := found
  rw [append_of_cut first, append_of_cut second] at few
  simp only [List.count_append, List.count_cons_self] at few
  omega

/-- Spaces make no difference to what is malformed. -/
theorem take?_of_malformed {text spread : List Char} (malformed : Malformed text)
    (same : spread.filter (· ≠ ' ') = text.filter (· ≠ ' ')) : take? spread = none := by
  obtain ⟨inside, rfl⟩ := malformed.head
  rw [List.filter_cons_of_pos (by decide), List.filter_eq_cons_iff] at same
  obtain ⟨spaces, rest, rfl, only, -, same⟩ := same
  have start : trimStart (spaces ++ '(' :: rest) = trimStart ('(' :: rest) := by
    apply Blanks.trimStart_append
    intro c among
    have space : c = ' ' := by simpa using only c among
    rw [space]
    rfl
  rw [take?_of_trimStart start, take?_open]
  -- What is closed among the spaces is closed without them, and has as many commas.
  cases cutting : cut ')' rest with
  | none => rfl
  | some parts =>
    obtain ⟨inner, after⟩ := parts
    have close : ')' ≠ ' ' := by decide
    rw [append_of_cut cutting] at same
    cases malformed with
    | unclosed never =>
      have there : ')' ∈ inside.filter (· ≠ ' ') :=
        same ▸ List.mem_filter.mpr ⟨by simp, by simp⟩
      exact absurd (List.mem_filter.mp there).1 never
    | @short inside behind closed few =>
      have absent : ')' ∉ inner.filter (· ≠ ' ') := fun there =>
        notMem_of_cut cutting (List.mem_filter.mp there).1
      have absent' : ')' ∉ inside.filter (· ≠ ' ') := fun there =>
        closed (List.mem_filter.mp there).1
      simp only [List.filter_append, List.filter_cons, decide_not, close, decide_false,
        Bool.not_false, if_true] at same absent absent'
      have fields := congrArg (List.count ',') (append_cons_inj absent absent' same).1
      rw [List.count_filter (by decide), List.count_filter (by decide)] at fields
      simp [triple?_of_few (fields ▸ few)]

theorem filter_spaced (values : List String) :
    (spaced values).filter (· ≠ ' ') = (values.flatMap String.toList).filter (· ≠ ' ') := by
  induction values with
  | nil => rfl
  | cons value values ih =>
    have one : spaced (value :: values) = spaced [value] ++ spaced values :=
      spaced_append [value] values
    rw [one, List.filter_append, ih, List.flatMap_cons, List.filter_append]
    by_cases empty : value = "" <;> simp [spaced, empty]

theorem spaced_head (values : List String) : ∀ c ∈ (spaced values).head?, isBlank c = true := by
  obtain ⟨empty, -⟩ | ⟨text, filled, -⟩ := Cursor.ofValues_cases values
  · simp [empty]
  · simp [filled, isBlank]

/-- Members that are written in values are read one by one, up to what follows them. -/
theorem members_spaced {listed : List Listed} {values : List String}
    (plain : ∀ one ∈ listed, one.Plain)
    (written : List.Forall₂ (fun one value => one.Written value.toList) listed values)
    {rest : List Char} (parted : ∀ c ∈ rest.head?, isBlank c = true) :
    members (spaced values ++ rest) = listed.map Listed.member ++ members rest := by
  induction written with
  | nil => rfl
  | @cons one value listed values written _ ih =>
    rw [List.forall_mem_cons] at plain
    have filled : value ≠ "" := String.toList_eq_nil_iff.not.mp (written.ne_nil plain.1)
    have front : spaced (value :: values) = ' ' :: (value.toList ++ spaced values) := by
      simp [spaced, filled]
    -- A member ends at the space before the next value, if not at the end of all.
    have parted' : ∀ c ∈ (spaced values ++ rest).head?, isBlank c = true := by
      intro c head
      rw [List.head?_append, Option.mem_def, Option.or_eq_some_iff] at head
      rcases head with head | ⟨-, head⟩
      · exact spaced_head values c head
      · exact parted c head
    rw [front, List.cons_append, List.append_assoc, members_space, members_eq,
      written.take? plain.1 parted']
    simp [ih plain.2]

/-- Whatever is listed is read back, in its order, and then there is no more. What is malformed
    after it ends it as well, whatever else there would be; with nothing in front of it the netgroup
    cannot be found. -/
theorem answer_of_written {listed : List Listed} {values : List String}
    (plain : ∀ one ∈ listed, one.Plain)
    (written : List.Forall₂ (fun one value => one.Written value.toList) listed values) :
    (∀ calls, (Cursor.ofValues values).answer calls =
      match listed[calls]? with
      | some one => .ok one.member
      | none => .error .endOfEnumeration) ∧
    ∀ others : List String, Malformed (others.flatMap String.toList) →
      ∀ calls, (Cursor.ofValues (values ++ others)).answer calls =
        match listed[calls]? with
        | some one => .ok one.member
        | none =>
          .error (if calls = 0 then .notFound "malformed netgroup" else .endOfEnumeration) := by
  constructor
  · intro calls
    have read := @members_spaced listed values plain written [] (by simp)
    rw [List.append_nil, members_nil, List.append_nil] at read
    -- Without a member there is no value either.
    have unvalued : listed = [] → spaced values = [] := by
      rintro rfl
      cases written
      rfl
    rw [Cursor.answer_ofValues, read, List.getElem?_map]
    cases past : listed[calls]? with
    | some one => rfl
    | none =>
      rw [List.getElem?_eq_none_iff] at past
      have known : ¬(calls = 0 ∧ spaced values ≠ []) := fun ⟨zero, filled⟩ =>
        filled (unvalued (List.length_eq_zero_iff.mp (by omega)))
      simp [known]
  · intro others malformed calls
    have ended : take? (spaced others) = none := take?_of_malformed malformed (filter_spaced others)
    have stopped : members (spaced others) = [] := by rw [members_eq, ended]
    have filled : spaced others ≠ [] := fun empty => by
      have same := filter_spaced others
      obtain ⟨inside, head⟩ := malformed.head
      simp [empty, head] at same
    have read := members_spaced plain written (spaced_head others)
    rw [← spaced_append, stopped, List.append_nil] at read
    rw [Cursor.answer_ofValues, read, List.getElem?_map]
    cases listed[calls]? <;> simp [spaced_append, filled]

namespace Mixed

def listed : List Listed :=
  [.group "admins", .triple "web1" "alice" "example", .triple "-" "bob" ""]

/-- Blanks of two kinds around a field, and a field that is empty. -/
def values : List String := ["admins", "(web1,\u2003alice ,example)", "(-,bob,)"]

theorem plain : ∀ one ∈ listed, one.Plain := by decide +kernel

theorem written : List.Forall₂ (fun one value => one.Written value.toList) listed values := by
  have none : Blanks [] := by simp [Blanks]
  have wide : Blanks ['\u2003'] := by simp [Blanks, isBlank]
  have space : Blanks [' '] := by simp [Blanks, isBlank]
  exact .cons (.group "admins")
    (.cons (.triple (.intro ⟨none, none⟩) (.intro ⟨wide, space⟩) (.intro ⟨none, none⟩))
      (.cons (.triple (.intro ⟨none, none⟩) (.intro ⟨none, none⟩) (.intro ⟨none, none⟩)) .nil))

/-- A triple that is left open, over two values. -/
def broken : List String := ["(broken,", "triple"]

theorem malformed : Malformed (broken.flatMap String.toList) := .unclosed (by decide +kernel)

end Mixed

/-- Names and triples side by side, and with a broken triple after them. -/
theorem answer_of_written_mixed :
    (∀ one ∈ Mixed.listed, one.Plain) ∧
    List.Forall₂ (fun one value => one.Written value.toList) Mixed.listed Mixed.values ∧
    Malformed (Mixed.broken.flatMap String.toList) ∧
    (Cursor.ofValues Mixed.values).answer 2 = .ok (.triple ⟨some "-", some "bob", none⟩) ∧
    (Cursor.ofValues Mixed.values).answer 3 = .error .endOfEnumeration ∧
    (Cursor.ofValues (Mixed.values ++ Mixed.broken)).answer 1 =
      .ok (.triple ⟨some "web1", some "alice", some "example"⟩) ∧
    (Cursor.ofValues (Mixed.values ++ Mixed.broken)).answer 3 = .error .endOfEnumeration := by
  obtain ⟨read, ended⟩ := answer_of_written Mixed.plain Mixed.written
  refine ⟨Mixed.plain, Mixed.written, Mixed.malformed, read 2, read 3, ?_, ?_⟩
  · exact ended Mixed.broken Mixed.malformed 1
  · exact ended Mixed.broken Mixed.malformed 3

end Netgroup

end NameService
