import NameService.Filter
import NameService.Text.Numeral
import NameService.Text.Split

/-!
The written form of filters and what they say of an entry. A filter is a test of one attribute, or
is made of other filters by `&`, `|` and `!`; every filter stands in parentheses of its own.

## Main result

`print_append_inj`: a text that begins with a filter begins with no other, so a text is read as a
filter in one way at most.
-/

namespace NameService

namespace Filter

/-! ### Attribute names and values -/

def isKeyChar (c : Char) : Bool := c.isAlphanum || c == '-'

/-- A name in words: a letter, and letters, digits and hyphens after it. -/
def isDescriptor : List Char → Bool
  | [] => false
  | c :: rest => c.isAlpha && rest.all isKeyChar

/-- A number of a dotted name. Only zero itself begins with a zero. -/
def isArc : List Char → Bool
  | [] => false
  | ['0'] => true
  | c :: rest => c != '0' && (c :: rest).all Char.isDigit

/-- A name in numbers with dots between them. -/
def isDotted (text : List Char) : Bool :=
  2 ≤ (Text.pieces '.' text).length && (Text.pieces '.' text).all isArc

/-- The name of an attribute, and its options, each after a semicolon. -/
def isName (text : List Char) : Bool :=
  match Text.pieces ';' text with
  | [] => false
  | type :: options =>
    (isDescriptor type || isDotted type) &&
      options.all fun option => !option.isEmpty && option.all isKeyChar

/-- A value as it is written: characters with a meaning in filters are given by the hexadecimal
    digits of their octets after a backslash. -/
def isValue : List Char → Bool
  | [] => true
  | '\\' :: high :: low :: rest =>
    (Text.hexDigit? high).isSome && (Text.hexDigit? low).isSome && isValue rest
  | c :: rest =>
    c != '\\' && c != '*' && c != '(' && c != ')' && c != '\x00' && isValue rest

/-- Characters that a filter uses for itself. -/
def isReserved (c : Char) : Bool :=
  c == '&' || c == '|' || c == '!' || c == '=' || c == '(' || c == ')'

private theorem isReserved_of_isKeyChar {c : Char} (key : isKeyChar c = true) :
    isReserved c = false := by
  apply Bool.eq_false_iff.mpr
  intro reserved
  simp only [isReserved, Bool.or_eq_true, beq_iff_eq] at reserved
  rcases reserved with ((((rfl | rfl) | rfl) | rfl) | rfl) | rfl <;> revert key <;> decide

private theorem isKeyChar_of_isDigit {c : Char} (digit : c.isDigit = true) :
    isKeyChar c = true := by
  simp [isKeyChar, Char.isAlphanum, digit]

private theorem isKeyChar_of_mem_descriptor {text : List Char} (named : isDescriptor text = true)
    {c : Char} (member : c ∈ text) : isKeyChar c = true := by
  cases text with
  | nil => simp at member
  | cons first rest =>
    simp only [isDescriptor, Bool.and_eq_true, List.all_eq_true] at named
    rcases List.mem_cons.mp member with rfl | member
    · simp [isKeyChar, Char.isAlphanum, named.1]
    · exact named.2 c member

private theorem isKeyChar_of_mem_arc {text : List Char} (arc : isArc text = true)
    {c : Char} (member : c ∈ text) : isKeyChar c = true := by
  unfold isArc at arc
  split at arc
  · simp at arc
  · rw [List.mem_singleton.mp member]
    decide
  · simp only [Bool.and_eq_true, List.all_eq_true] at arc
    exact isKeyChar_of_isDigit (arc.2 c member)

private theorem isReserved_of_mem_dotted {text : List Char} (dotted : isDotted text = true)
    {c : Char} (member : c ∈ text) : isReserved c = false := by
  simp only [isDotted, Bool.and_eq_true, List.all_eq_true] at dotted
  rcases Text.mem_pieces '.' member with rfl | ⟨piece, among, inside⟩
  · decide
  · exact isReserved_of_isKeyChar (isKeyChar_of_mem_arc (dotted.2 piece among) inside)

/-- No character of a name has a meaning in a filter. -/
theorem isReserved_of_mem_name {text : List Char} (named : isName text = true)
    {c : Char} (member : c ∈ text) : isReserved c = false := by
  unfold isName at named
  split at named
  · simp at named
  next type options split =>
    simp only [Bool.and_eq_true, Bool.or_eq_true, List.all_eq_true] at named
    rcases Text.mem_pieces ';' member with rfl | ⟨piece, among, inside⟩
    · decide
    · rw [split] at among
      rcases List.mem_cons.mp among with rfl | among
      · rcases named.1 with worded | dotted
        · exact isReserved_of_isKeyChar (isKeyChar_of_mem_descriptor worded inside)
        · exact isReserved_of_mem_dotted dotted inside
      · exact isReserved_of_isKeyChar ((named.2 piece among).2 c inside)

theorem ne_nil_of_isName {text : List Char} (named : isName text = true) : text ≠ [] := by
  rintro rfl
  revert named
  decide

private theorem plain_of_hexDigit {c : Char} (hex : (Text.hexDigit? c).isSome = true) :
    c ≠ '(' ∧ c ≠ ')' ∧ c ≠ '*' := by
  refine ⟨?_, ?_, ?_⟩ <;> rintro rfl <;> revert hex <;> decide

/-- No parenthesis and no asterisk stands in a value. -/
theorem plain_of_mem_value {text : List Char} (valued : isValue text = true) {c : Char}
    (member : c ∈ text) : c ≠ '(' ∧ c ≠ ')' ∧ c ≠ '*' := by
  induction text using isValue.induct with
  | case1 => simp at member
  | case2 high low rest ih =>
    simp only [isValue, Bool.and_eq_true] at valued
    simp only [List.mem_cons] at member
    rcases member with rfl | rfl | rfl | member
    · decide
    · exact plain_of_hexDigit valued.1.1
    · exact plain_of_hexDigit valued.1.2
    · exact ih valued.2 member
  | case3 first rest _ ih =>
    rw [isValue] at valued
    · simp only [Bool.and_eq_true, bne_iff_ne, ne_eq] at valued
      rcases List.mem_cons.mp member with rfl | member
      · exact ⟨valued.1.1.1.2, valued.1.1.2, valued.1.1.1.1.2⟩
      · exact ih valued.2 member
    · assumption

/-! ### Filters -/

/-- What is asked of one attribute. Values are kept as they are written. -/
inductive Item where
  | equals (type value : List Char)
  | present (type : List Char)
deriving DecidableEq, Repr

inductive Formula where
  | all (parts : List Formula)
  | any (parts : List Formula)
  | not (part : Formula)
  | test (item : Item)
deriving Repr

namespace Item

def written : Item → List Char
  | equals type value => type ++ '=' :: value
  | present type => type ++ ['=', '*']

def WellFormed : Item → Prop
  | equals type value => isName type ∧ isValue value
  | present type => isName type

end Item

namespace Formula

mutual
/-- What stands between the parentheses of a filter. -/
def inside : Formula → List Char
  | all parts => '&' :: printAll parts
  | any parts => '|' :: printAll parts
  | not part => '!' :: '(' :: inside part ++ [')']
  | test item => item.written

def printAll : List Formula → List Char
  | [] => []
  | part :: parts => '(' :: inside part ++ ')' :: printAll parts
end

def print (formula : Formula) : List Char := '(' :: formula.inside ++ [')']

/-- Lists of filters have a member at least. -/
inductive WellFormed : Formula → Prop where
  | all {parts : List Formula} (nonempty : parts ≠ []) (each : ∀ part ∈ parts, WellFormed part) :
    WellFormed (all parts)
  | any {parts : List Formula} (nonempty : parts ≠ []) (each : ∀ part ∈ parts, WellFormed part) :
    WellFormed (any parts)
  | not {part : Formula} (formed : WellFormed part) : WellFormed (not part)
  | test {item : Item} (formed : item.WellFormed) : WellFormed (test item)

mutual
/-- What a filter says of an entry, given which tests the entry passes. -/
def Matches (passes : Item → Prop) : Formula → Prop
  | all parts => MatchesAll passes parts
  | any parts => MatchesAny passes parts
  | not part => ¬ Matches passes part
  | test item => passes item

def MatchesAll (passes : Item → Prop) : List Formula → Prop
  | [] => True
  | part :: parts => Matches passes part ∧ MatchesAll passes parts

def MatchesAny (passes : Item → Prop) : List Formula → Prop
  | [] => False
  | part :: parts => Matches passes part ∨ MatchesAny passes parts
end

theorem printAll_append (parts others : List Formula) :
    printAll (parts ++ others) = printAll parts ++ printAll others := by
  induction parts with
  | nil => rfl
  | cons part parts ih => simp [printAll, ih]

theorem matchesAll_append (passes : Item → Prop) (parts others : List Formula) :
    MatchesAll passes (parts ++ others) ↔
      MatchesAll passes parts ∧ MatchesAll passes others := by
  induction parts with
  | nil => simp [MatchesAll]
  | cons part parts ih => simp [MatchesAll, ih, and_assoc]

theorem matchesAny_append (passes : Item → Prop) (parts others : List Formula) :
    MatchesAny passes (parts ++ others) ↔
      MatchesAny passes parts ∨ MatchesAny passes others := by
  induction parts with
  | nil => simp [MatchesAny]
  | cons part parts ih => simp [MatchesAny, ih, or_assoc]

end Formula

/-! ### Unique reading -/

namespace Item

/-- A test is followed by a parenthesis, so it ends where the first one stands. -/
theorem written_append_inj {a b : Item} (formed : a.WellFormed) (other : b.WellFormed)
    {s t : List Char} (same : a.written ++ ')' :: s = b.written ++ ')' :: t) : a = b ∧ s = t := by
  -- Names hold no equals sign, so the two names end at the same place.
  have named {type type' rest rest' : List Char} (ha : isName type = true)
      (hb : isName type' = true) (equal : type ++ '=' :: rest = type' ++ '=' :: rest') :
      type = type' ∧ rest = rest' := by
    have absent {name : List Char} (h : isName name = true) : '=' ∉ name := fun member =>
      absurd (isReserved_of_mem_name h member) (by decide)
    exact Text.append_cons_inj (absent ha) (absent hb) equal
  have closed {value : List Char} (h : isValue value = true) : ')' ∉ value := fun member =>
    (plain_of_mem_value h member).2.1 rfl
  cases a with
  | equals type value =>
    cases b with
    | equals type' value' =>
      obtain ⟨rfl, rest⟩ := named formed.1 other.1 (by simpa [written] using same)
      obtain ⟨rfl, rfl⟩ := Text.append_cons_inj (closed formed.2) (closed other.2) rest
      exact ⟨rfl, rfl⟩
    | present type' =>
      -- An asterisk is no value.
      obtain ⟨-, rest⟩ := named formed.1 other (by simpa [written] using same)
      exfalso
      cases value with
      | nil => simp at rest
      | cons c value =>
        simp only [List.cons_append, List.cons.injEq] at rest
        exact (plain_of_mem_value formed.2 List.mem_cons_self).2.2 rest.1
  | present type =>
    cases b with
    | equals type' value' =>
      obtain ⟨-, rest⟩ := named formed other.1 (by simpa [written] using same)
      exfalso
      cases value' with
      | nil => simp at rest
      | cons c value =>
        simp only [List.cons_append, List.cons.injEq] at rest
        exact (plain_of_mem_value other.2 List.mem_cons_self).2.2 rest.1.symm
    | present type' =>
      obtain ⟨rfl, rest⟩ := named formed other (by simpa [written] using same)
      exact ⟨rfl, by simpa using rest⟩

/-- A test does not begin like a filter that is made of others. -/
theorem written_ne {item : Item} (formed : item.WellFormed) {c : Char}
    (reserved : isReserved c = true) (s t : List Char) : item.written ++ s ≠ c :: t := by
  have head {type : List Char} (named : isName type = true) (more : List Char) :
      type ++ more ≠ c :: t := by
    cases type with
    | nil => exact absurd rfl (ne_nil_of_isName named)
    | cons first rest =>
      intro same
      simp only [List.cons_append, List.cons.injEq] at same
      rw [← same.1, isReserved_of_mem_name named List.mem_cons_self] at reserved
      exact Bool.noConfusion reserved
  cases item with
  | equals type value => simpa [written] using head formed.1 ('=' :: value ++ s)
  | present type => simpa [written] using head formed ('=' :: '*' :: s)

theorem paren_notMem_written {item : Item} (formed : item.WellFormed) : '(' ∉ item.written := by
  have plain {type : List Char} (named : isName type = true) : '(' ∉ type := fun member =>
    absurd (isReserved_of_mem_name named member) (by decide)
  cases item with
  | equals type value =>
    have free : '(' ∉ value := fun member => (plain_of_mem_value formed.2 member).1 rfl
    simp [written, plain formed.1, free]
  | present type =>
    have free : '(' ∉ type := plain formed
    simp [written, free]

end Item

namespace Formula

/-- Filters one after the other end where no parenthesis opens another one. -/
private theorem printAll_append_inj {parts : List Formula}
    (each : ∀ part ∈ parts, ∀ other : Formula, other.WellFormed → ∀ s t,
      part.inside ++ ')' :: s = other.inside ++ ')' :: t → part = other ∧ s = t)
    {others : List Formula} (formed : ∀ other ∈ others, other.WellFormed) {s t : List Char}
    (same : printAll parts ++ ')' :: s = printAll others ++ ')' :: t) :
    parts = others ∧ s = t := by
  induction parts generalizing others with
  | nil =>
    cases others with
    | nil => simpa [printAll] using same
    | cons other others => simp [printAll] at same
  | cons part parts ih =>
    cases others with
    | nil => simp [printAll] at same
    | cons other others =>
      simp only [printAll, List.cons_append, List.append_assoc, List.cons.injEq, true_and] at same
      -- The first filters are the same, and what follows them is read in the same way.
      obtain ⟨rfl, rest⟩ :=
        each part List.mem_cons_self other (formed other List.mem_cons_self) _ _ same
      obtain ⟨rfl, rfl⟩ := ih (fun p member => each p (List.mem_cons_of_mem _ member))
        (fun o member => formed o (List.mem_cons_of_mem _ member)) rest
      exact ⟨rfl, rfl⟩

theorem inside_append_inj {a : Formula} (formed : a.WellFormed) :
    ∀ b : Formula, b.WellFormed → ∀ s t,
      a.inside ++ ')' :: s = b.inside ++ ')' :: t → a = b ∧ s = t := by
  -- By induction on the first formula, with all texts behind it. Two formulas that begin with
  -- different signs differ at once; a test begins with none.
  induction formed with
  | all nonempty each ih =>
    intro b other s t same
    cases other with
    | all nonempty' each' =>
      simp only [inside, List.cons_append, List.cons.injEq, true_and] at same
      obtain ⟨rfl, rfl⟩ := printAll_append_inj ih each' same
      exact ⟨rfl, rfl⟩
    | any nonempty' each' => simp [inside] at same
    | not formed' => simp [inside] at same
    | test formed' => exact absurd same.symm (Item.written_ne formed' rfl _ _)
  | any nonempty each ih =>
    intro b other s t same
    cases other with
    | all nonempty' each' => simp [inside] at same
    | any nonempty' each' =>
      simp only [inside, List.cons_append, List.cons.injEq, true_and] at same
      obtain ⟨rfl, rfl⟩ := printAll_append_inj ih each' same
      exact ⟨rfl, rfl⟩
    | not formed' => simp [inside] at same
    | test formed' => exact absurd same.symm (Item.written_ne formed' rfl _ _)
  | not formed ih =>
    intro b other s t same
    cases other with
    | all nonempty' each' => simp [inside] at same
    | any nonempty' each' => simp [inside] at same
    | not formed' =>
      simp only [inside, List.cons_append, List.append_assoc, List.nil_append, List.cons.injEq,
        true_and] at same
      obtain ⟨rfl, rest⟩ := ih _ formed' _ _ same
      exact ⟨rfl, by simpa using rest⟩
    | test formed' => exact absurd same.symm (Item.written_ne formed' rfl _ _)
  | test formed =>
    intro b other s t same
    cases other with
    | all nonempty' each' => exact absurd same (Item.written_ne formed rfl _ _)
    | any nonempty' each' => exact absurd same (Item.written_ne formed rfl _ _)
    | not formed' => exact absurd same (Item.written_ne formed rfl _ _)
    | test formed' =>
      obtain ⟨rfl, rfl⟩ := Item.written_append_inj formed formed' same
      exact ⟨rfl, rfl⟩

theorem print_append_inj {a b : Formula} (formed : a.WellFormed) (other : b.WellFormed)
    {s t : List Char} (same : a.print ++ s = b.print ++ t) : a = b ∧ s = t := by
  simp only [print, List.cons_append, List.append_assoc, List.nil_append, List.cons.injEq,
    true_and] at same
  exact inside_append_inj formed b other s t same

end Formula

end Filter

end NameService
