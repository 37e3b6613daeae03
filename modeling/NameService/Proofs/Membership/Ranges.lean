import NameService.Proofs.Engine.Host
import NameService.Proofs.Membership.Reading
import NameService.Proofs.Session.Deeds

/-!
Lists of members from a server that gives them in slices as it is meant to. Every slice begins where
the one before it ends and says where it ends itself, under a name that is read back here; how long
the slices are is up to the server, and it may choose again each time.

## Main result

`memberNames_whole`: such a list is put together as it was, with one question for each slice but the
first; a list that comes in one piece is returned as it is, without a question.
-/

namespace NameService

open Engine

/-! ## Questions to the directory -/

namespace World

variable {σ : Type}

/-- All that was asked of the directory, the latest first. -/
def queries (world : World σ) : List Event := world.history.filter (·.call.isQuery)

theorem queries_after [Service σ] {world : World σ} {call : Call} (query : call.isQuery) :
    (world.after call).queries =
      ⟨call, world.answer call, world.stand, world.look⟩ :: world.queries :=
  List.filter_cons_of_pos query

theorem queries_of_quiet [Service σ] {world : World σ} {call : Call}
    (quiet : call.isQuery = false) : (world.after call).queries = world.queries :=
  List.filter_cons_of_neg (by simp [quiet])

/-- Only questions are counted, so what is true of them lasts as long as none is asked. -/
theorem lasting_of_queries [Service σ] (holds : List Event → Prop) :
    Lasting fun world : World σ => holds world.queries where
  after _ _ quiet kept := by rwa [queries_of_quiet quiet]
  made _ _ kept := kept
  hold _ _ kept := kept
  look _ _ kept := kept
  dropLink _ kept := kept
  clearFork _ kept := kept
  touch _ _ kept := kept
  advance _ kept := kept
  adopt _ _ _ _ kept := kept

end World

/-! ## Attributes with options -/

namespace Entry

/-- The name of an attribute without its options. -/
def baseOf (given : String) : String :=
  match Text.cut ';' given.toList with
  | some (base, _) => String.ofList base
  | none => given

/-- The attribute is of this type, with options or without. -/
def isOf (type given : String) : Bool := Text.same given type || Text.same (baseOf given) type

/-- Only an attribute of a type with further options has a range for it. -/
theorem isOf_of_rangeEnd? {type given : String} {high : List Char}
    (ranged : rangeEnd? type given.toList = some high) :
    isOf type given ∧ ¬ Text.same given type := by
  cases parted : Text.cut ';' given.toList with
  | none => simp [rangeEnd?, parted] at ranged
  | some parts =>
    obtain ⟨base, options⟩ := parts
    by_cases alike : Text.same (String.ofList base) type
    · constructor
      · simp [isOf, baseOf, parted, alike]
      · -- With its options the name is too long.
        intro alike'
        have length := Text.length_of_same alike
        have length' := Text.length_of_same alike'
        rw [Text.append_of_cut parted] at length'
        simp only [String.toList_ofList, List.length_append, List.length_cons] at length length'
        omega
    · simp [rangeEnd?, parted, alike, failure] at ranged

/-- The attributes of a type, whatever options they have. -/
def ofType (entry : Entry) (type : String) : List (String × List String) :=
  entry.attributes.filter fun (given, _) => isOf type given

section Only

variable {entry : Entry} {type given : String} {values : List String}
  (only : entry.ofType type = [(given, values)])
include only

/-- The range that the one attribute of a type has is the range of the entry. -/
theorem range?_of_only : entry.range? type =
    (rangeEnd? type given.toList).map fun high => (String.ofList high, values) := by
  -- What has a range for the type is of the type, so nothing else is looked at.
  have kept (pair : String × List String) (ranged : (rangeEnd? type pair.1.toList).isSome) :
      isOf type pair.1 := by
    obtain ⟨high, ranged⟩ := Option.isSome_iff_exists.mp ranged
    exact (isOf_of_rangeEnd? ranged).1
  rw [← range?_filter kept]
  change Entry.range? ⟨_, entry.ofType type⟩ type = _
  rw [only]
  simp [range?]

/-- The values of the one attribute of a type are the values of the entry if it has no further
    options. -/
theorem values_of_only :
    entry.values type = if Text.same given type then values else [] := by
  have kept (pair : String × List String) (alike : Text.same pair.1 type) : isOf type pair.1 := by
    simp [isOf, alike]
  rw [Entry.values, ← values?_filter kept]
  change (Entry.values? ⟨_, entry.ofType type⟩ type).getD [] = _
  rw [only]
  by_cases exactly : type = given
  · subst exactly
    simp [values?, Text.same_refl]
  · have other : (type == given) = false := by simpa using exactly
    by_cases alike : Text.same given type <;> simp [values?, List.lookup_cons, other, alike]

end Only

end Entry

namespace Membership

/-! ## Slices of a list -/

/-- The name under which a slice is asked for, and under which it is given. -/
def label (name : String) (low : Nat) (high : String) : String :=
  name ++ ";range=" ++ toString low ++ "-" ++ high

/-- What a server writes for the upper end of a slice: the place of its last value, or a star if
    there are no more. -/
def upperEnd (list : List String) (next : Nat) : String :=
  if next < list.length then toString (next - 1) else "*"

/-- The one attribute of a type that the entry has is the slice of a list from one place up to
    another. The server may spell the type as it likes. -/
inductive Sliced (type : String) (list : List String) (low next : Nat) (entry : Entry) : Prop
  | intro (name : String) (alike : Text.same name type) (plain : ';' ∉ name.toList)
    (grows : low < next) (within : next ≤ list.length)
    (only : entry.ofType type = [(label name low (upperEnd list next), (list.take next).drop low)])

/-- What is asked for after a slice begins one above its end, if that is a place at all. -/
theorem continuation_eq (type : String) (high : Nat) : continuation type high =
    if high + 1 < rangeLimit then .ok (label type (high + 1) "*") else .error .overflow := by
  have star : "-" ++ "*" = "-*" := rfl
  simp only [continuation, label, String.append_assoc, star]

theorem rangeEnd?_label {type name : String} (alike : Text.same name type)
    (plain : ';' ∉ name.toList) (low : Nat) {high : String} (plain' : ';' ∉ high.toList) :
    Entry.rangeEnd? type (label name low high).toList = some high.toList := by
  have written : (label name low high).toList =
      name.toList ++ ';' :: ("range=".toList ++ ((toString low).toList ++ '-' :: high.toList)) := by
    simp [label]
  have digits (c : Char) (other : c.isDigit = false) : c ∉ (toString low).toList := by
    intro member
    rw [Text.isDigit_of_mem_toString member] at other
    cases other
  have semicolon := digits ';' (by decide)
  have dash := digits '-' (by decide)
  -- It is a matter of where the separators are, not of the digits.
  generalize (toString low).toList = number at *
  have options : ';' ∉ "range=".toList ++ (number ++ '-' :: high.toList) := by
    simp [semicolon, plain']
  rw [Entry.rangeEnd?, written, Text.cut_append plain]
  simp only [String.ofList_toList, alike, Text.pieces_of_notMem options, Option.bind_eq_bind,
    Option.bind_some, guard, if_true, List.findSome?_singleton, Text.after?_append,
    Text.cut_append dash]
  rfl

section Slices

variable {type : String} {list : List String} {low next : Nat} {entry : Entry}

theorem Sliced.grows (sliced : Sliced type list low next entry) : low < next := by
  obtain ⟨_, _, _, grows, -, -⟩ := sliced
  exact grows

theorem Sliced.within (sliced : Sliced type list low next entry) : next ≤ list.length := by
  obtain ⟨_, _, _, -, within, -⟩ := sliced
  exact within

theorem notMem_upperEnd (list : List String) (next : Nat) : ';' ∉ (upperEnd list next).toList := by
  unfold upperEnd
  split
  · intro member
    exact absurd (Text.isDigit_of_mem_toString member) (by decide)
  · decide

/-- If there are more, the place of the last value can be read. -/
theorem end?_upperEnd (short : list.length ≤ rangeLimit) (next : Nat) (values : List String) :
    Slice.end? (upperEnd list next, values) =
      if next < list.length then some (next - 1) else none := by
  unfold Slice.end? upperEnd
  split
  · exact Text.numeral?_toString (by omega)
  · have star : Text.numeral? rangeLimit ("*" : String).toList = none := by decide
    exact star

theorem Sliced.range? (sliced : Sliced type list low next entry) :
    entry.range? type = some (upperEnd list next, (list.take next).drop low) := by
  obtain ⟨name, alike, plain, -, -, only⟩ := sliced
  rw [Entry.range?_of_only only, rangeEnd?_label alike plain low (notMem_upperEnd list next)]
  simp

/-- A slice is not given under the plain name. -/
theorem Sliced.values (sliced : Sliced type list low next entry) : entry.values type = [] := by
  obtain ⟨name, alike, plain, -, -, only⟩ := sliced
  rw [Entry.values_of_only only, if_neg]
  exact (Entry.isOf_of_rangeEnd? (rangeEnd?_label alike plain low (notMem_upperEnd list next))).2

end Slices

/-! ## A server that gives a list in slices -/

/-- No call fails that has to do with connections, and whenever the values of a list from one of its
    places on are asked for, a slice of it is given that begins there. -/
structure Delivers (σ : Type) [Service σ] (config : Config) (name type : String)
    (list : List String) : Prop extends Service.Opens σ config where
  slices : ∀ (connection : Connection) (outside : σ) (low : Nat), 0 < low → low < list.length →
    ∃ next found others, Sliced type list low next found ∧
      (Service.answer (.search connection (.read name [label type low "*"] config.timeLimit))
        outside).1 = .ok (found :: others)

/-- The rest of a list was asked for slice by slice, each with one question. The latest question
    stands first. -/
inductive Fetched (name type : String) (list : List String) : Nat → List Event → Prop
  | all : Fetched name type list list.length []
  | slice {low next : Nat} {found : Entry} {connection : Connection} {event : Event}
    {events : List Event} (more : low < list.length)
    (shows : event.Shows connection name [label type low "*"] found)
    (sliced : Sliced type list low next found) (rest : Fetched name type list next events) :
    Fetched name type list low (events ++ [event])

section Fetching

variable {σ : Type} [Service σ] {config : Config} {name type : String} {list : List String}
  (delivers : Delivers σ config name type list)
include delivers

/-- To ask for more of the list is one question, and a slice is the answer. -/
theorem run_read_slice {world : World σ} (suits : world.session.Suits config) {low : Nat}
    (begun : 0 < low) (more : low < list.length) :
    ∃ next found event connection later,
      (Entry.read name [label type low "*"]).run world = some (.ok (some found), later) ∧
      Sliced type list low next found ∧
      event.Shows connection name [label type low "*"] found ∧
      later.queries = event :: world.queries ∧ later.session.Suits config := by
  let attributes := [label type low "*"]
  -- Whatever it takes to come to a connection, nothing is asked for it.
  obtain ⟨connected, loaded, link, past, configured, rfl, held, given⟩ :=
    Failover.run_once delivers.toOpens (Entry.readOnce name attributes)
      (World.lasting_of_queries (· = world.queries)) suits rfl
  obtain ⟨next, found, others, sliced, answered⟩ :=
    delivers.slices link.connection connected.outside low begun more
  let call := Call.search link.connection (.read name attributes loaded.config.timeLimit)
  have answered : connected.answer call = .ok (found :: others) := answered
  have once := Entry.run_readOnce configured held name attributes
  have read := given (some found) (connected.after call) (once.trans (by rw [answered]; rfl))
  have lasting := (Session.suits_lasting delivers.toOpens).world
  have keeps := Failover.run_lasts lasting
    (Entry.readOnce_lasts (fun _ _ _ kept => kept) name attributes)
  refine ⟨next, found, ⟨call, connected.answer call, connected.stand, connected.look⟩,
    link.connection, _, read, sliced, ?_, ?_, keeps.ends suits _ _ read⟩
  · rw [answered]
    exact .intro loaded.config.timeLimit others _ _
  · rw [← past]
    exact World.queries_after rfl

/-- From any slice on, the rest of the list is put together. -/
theorem run_retrieve (short : list.length ≤ rangeLimit) {low next : Nat} {entry : Entry}
    (sliced : Sliced type list low next entry) {last : Option Nat} (above : last.all (· < low))
    {world : World σ} (suits : world.session.Suits config) :
    ∃ slices events later, retrieve type name last (entry.range? type) world =
        some ({ slices }, later) ∧ slices.flatMap Prod.snd = list.drop low ∧
      Fetched name type list next events ∧ later.queries = events ++ world.queries := by
  have ended := end?_upperEnd short next ((list.take next).drop low)
  have grows : low < next := sliced.grows
  rw [sliced.range?]
  by_cases more : next < list.length
  · -- The end is the place of the last value, so the next slice begins right after it.
    rw [if_pos more] at ended
    have progress : last.all (· < next - 1) := by
      cases last with
      | none => rfl
      | some last =>
        have above : last < low := by simpa using above
        have beyond : last < next - 1 := by omega
        simpa using beyond
    have asks : continuation type (next - 1) = .ok (label type next "*") := by
      rw [continuation_eq, Nat.sub_add_cancel (by omega), if_pos (by omega)]
    obtain ⟨further, found, event, connection, between, read, sliced', shows, asked, suits⟩ :=
      run_read_slice delivers suits (by omega) more
    have above' : (some (next - 1)).all (· < next) := by
      have below : next - 1 < next := by omega
      simpa using below
    obtain ⟨slices, events, later, ran, rest, fetched, queries⟩ :=
      run_retrieve short sliced' above' suits
    refine ⟨(upperEnd list next, (list.take next).drop low) :: slices, events ++ [event], later,
      ?_, ?_, .slice more shows sliced' fetched, ?_⟩
    · rw [retrieve_progress ended progress, asks]
      dsimp only
      rw [run_bind, read]
      simp only [Option.bind_some, run_bind, ran, run_pure, Retrieval.after]
    · have inside : low ≤ (list.take next).length := by
        rw [List.length_take]
        omega
      rw [List.flatMap_cons, rest, ← List.drop_append_of_le_length inside, List.take_append_drop]
    · rw [queries, asked, List.append_assoc]
      rfl
  · -- There are no more, and a star is not a number.
    rw [if_neg more] at ended
    have whole : next = list.length := Nat.le_antisymm sliced.within (Nat.le_of_not_lt more)
    refine ⟨[(upperEnd list next, (list.take next).drop low)], [], world, ?_, ?_, whole ▸ .all,
      rfl⟩
    · rw [retrieve_unended ended]
      rfl
    · rw [List.flatMap_singleton, whole, List.take_length]
termination_by list.length - next
decreasing_by
  have := sliced'.grows
  omega

end Fetching

/-- A list that a server delivers in slices is returned as it is, and each slice but the first is
    asked for once, one after the other. A list that comes in one piece is returned without a
    question. (No list is so long that the places in it are not numbers of 64 bits.) -/
theorem memberNames_whole {σ : Type} [Service σ] (plan : Plan) (entry : Entry)
    (list : List String) (world : World σ) :
    let type := plan.names.uniqueMember
    (∀ config next, Delivers σ config entry.name type list → list.length ≤ rangeLimit →
      world.session.Suits config → Sliced type list 0 next entry →
      ∃ events later, (memberNames plan entry).run world = some (.ok list, later) ∧
        Fetched entry.name type list next events ∧ later.queries = events ++ world.queries) ∧
    (∀ given, Text.same given type → entry.ofType type = [(given, list)] →
      (memberNames plan entry).run world = some (.ok list, world)) := by
  intro type
  constructor
  · -- Nothing stands under the plain name, so the slices are all there is.
    intro config next delivers short suits sliced
    have above : (none : Option Nat).all (· < 0) := rfl
    obtain ⟨slices, events, later, ran, all, fetched, queries⟩ :=
      run_retrieve delivers short sliced above suits
    refine ⟨events, later, ?_, fetched, queries⟩
    rw [run_memberNames_of_retrieve ran, sliced.values, Retrieval.values, all]
    rfl
  · -- An attribute without further options has no range.
    intro given alike only
    have unranged : entry.range? type = none := by
      cases ranged : Entry.rangeEnd? type given.toList with
      | none => rw [Entry.range?_of_only only, ranged]; rfl
      | some high => exact ((Entry.isOf_of_rangeEnd? ranged).2 alike).elim
    have whole : entry.values type = list := by rw [Entry.values_of_only only, if_pos alike]
    exact (run_memberNames unranged world).trans (by rw [whole])

namespace Staff

def members : List String := ["uid=ann", "uid=bob", "uid=eve", "uid=joe"]

def config : Config where
  uris := ["ldap://one"]
  base := "dc=staff"

def plan : Plan := .ofConfig config {}

/-- The slice from a place on has two values at most, and its name is spelled in capitals. -/
def slice (low : Nat) : Entry :=
  let next := min (low + 2) members.length
  ⟨"cn=staff", [("cn", ["staff"]),
    (label "UNIQUEMEMBER" low (upperEnd members next), (members.take next).drop low)]⟩

def reply (search : Search) : Reply :=
  let lows := (List.range members.length).filter fun low =>
    search.attributes = [label "uniqueMember" low "*"]
  ⟨lows.map fun low => some (slice low), 0, "", none⟩

def group : Entry := ⟨"cn=staff", [("UniqueMember;range=0-0", ["uid=ann"])]⟩

def small : Entry := ⟨"cn=staff", [("uniquemember", members)]⟩

theorem delivers : Delivers (Host config reply) config "cn=staff" "uniqueMember" members where
  located := by decide
  loads _ := rfl
  connects _ _ := rfl
  binds _ _ _ _ := rfl
  slices connection outside low begun more := by
    have shown : ∀ low ∈ [1, 2, 3], (slice low).ofType "uniqueMember" =
        [(label "UNIQUEMEMBER" low (upperEnd members (min (low + 2) 4)),
          (members.take (min (low + 2) 4)).drop low)] ∧
        (reply (.read "cn=staff" [label "uniqueMember" low "*"] config.timeLimit)).messages =
          [some (slice low)] := by decide +kernel
    have size : members.length = 4 := rfl
    have among : low ∈ [1, 2, 3] := by
      simp only [List.mem_cons, List.not_mem_nil, or_false]
      omega
    obtain ⟨only, told⟩ := shown low among
    refine ⟨min (low + 2) 4, slice low, [], ?_, ?_⟩
    · exact .intro "UNIQUEMEMBER" (by decide) (by decide) (by omega) (Nat.min_le_right _ _) only
    · change Except.ok (reply _).messages.reduceOption = _
      rw [told]
      rfl

end Staff

/-- A list of four values that comes in three slices, and the same list in one piece. -/
theorem memberNames_whole_staff :
    let world : World (Host Staff.config Staff.reply) := { outside := {} }
    Delivers (Host Staff.config Staff.reply) Staff.config "cn=staff" "uniqueMember" Staff.members ∧
      Sliced "uniqueMember" Staff.members 0 1 Staff.group ∧
      (∃ events later,
        (memberNames Staff.plan Staff.group).run world = some (.ok Staff.members, later) ∧
        Fetched "cn=staff" "uniqueMember" Staff.members 1 events ∧
        later.queries = events ++ world.queries) ∧
      (memberNames Staff.plan Staff.small).run world = some (.ok Staff.members, world) := by
  intro world
  have sliced : Sliced "uniqueMember" Staff.members 0 1 Staff.group :=
    .intro "UniqueMember" (by decide) (by decide) (by decide) (by decide) (by decide +kernel)
  have only : Staff.small.ofType "uniqueMember" = [("uniquemember", Staff.members)] := by
    decide +kernel
  obtain ⟨slices, -⟩ := memberNames_whole Staff.plan Staff.group Staff.members world
  obtain ⟨-, whole⟩ := memberNames_whole Staff.plan Staff.small Staff.members world
  exact ⟨Staff.delivers, sliced,
    slices Staff.config 1 Staff.delivers (by decide) (Session.suits_new _) sliced,
    whole "uniquemember" (by decide) only⟩

end Membership

end NameService
