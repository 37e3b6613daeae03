import NameService.Json.Decoder
import NameService.Proofs.Text.Traversal

/-!
What the decoders make of values that were written for them, and what they never make. A dictionary
files everything under its key once, whatever the order and however often a key comes; a record
has no property that no field can give it.

## Main results

- `dictionary_ofMembers`: a dictionary is read member by member.
- `dictionary_read`: what is read is a dictionary.
- `record_keeps`: what no field can end is true of every record.
-/

namespace NameService

/-- No key is filed twice. -/
def Pairs.Filed {κ α : Type} (pairs : List (κ × α)) : Prop := (pairs.map Prod.fst).Nodup

namespace Pairs

variable {κ α : Type}

theorem Filed.concat {key : κ} {pairs : List (κ × α)} (filed : Filed pairs)
    (absent : key ∉ pairs.map Prod.fst) (value : α) : Filed (pairs ++ [(key, value)]) := by
  rw [Filed, List.map_append, List.nodup_append]
  refine ⟨filed, by simp, ?_⟩
  intro other member last among
  rw [List.map_cons, List.map_nil, List.mem_singleton] at among
  exact among ▸ ne_of_mem_of_not_mem member absent

variable [BEq κ] [LawfulBEq κ]

theorem insert_of_notMem {key : κ} {pairs : List (κ × α)} (absent : key ∉ pairs.map Prod.fst)
    (value : α) : insert key value pairs = pairs ++ [(key, value)] := by
  induction pairs with
  | nil => rfl
  | cons pair pairs ih =>
    simp only [List.map_cons, List.mem_cons, not_or] at absent
    have other : (pair.1 == key) = false := by simpa using Ne.symm absent.1
    simp [insert, other, ih absent.2]

/-- An old key stays in its place. -/
theorem keys_insert_of_mem {key : κ} {pairs : List (κ × α)} (present : key ∈ pairs.map Prod.fst)
    (value : α) : (insert key value pairs).map Prod.fst = pairs.map Prod.fst := by
  induction pairs with
  | nil => cases present
  | cons pair pairs ih =>
    by_cases here : pair.1 = key
    · simp [insert, here]
    · have later : key ∈ pairs.map Prod.fst :=
        (List.mem_cons.mp present).resolve_left (Ne.symm here)
      simp [insert, here, ih later]

theorem Filed.insert {pairs : List (κ × α)} (filed : Filed pairs) (key : κ) (value : α) :
    Filed (Pairs.insert key value pairs) := by
  by_cases present : key ∈ pairs.map Prod.fst
  · rw [Filed, keys_insert_of_mem present]
    exact filed
  · rw [insert_of_notMem present]
    exact filed.concat present value

end Pairs

namespace Json.Decoder

variable {α κ ρ : Type}

@[simp] theorem bool_bool (truth : Bool) : bool (.bool truth) = .ok truth := rfl

@[simp] theorem text_string (s : String) : text (.string s) = .ok s := rfl

theorem natural_ofNat {bound n : Nat} (below : n < bound) : natural bound (ofNat n) = .ok n := by
  simp [natural, ofNat, below]

@[simp] theorem natural_uint8 (n : UInt8) : natural UInt8.size (ofNat n.toNat) = .ok n.toNat :=
  natural_ofNat n.toNat_lt

@[simp] theorem natural_uint32 (n : UInt32) :
    natural UInt32.size (ofNat n.toNat) = .ok n.toNat :=
  natural_ofNat n.toNat_lt

@[simp] theorem natural_uint64 (n : UInt64) :
    natural UInt64.size (ofNat n.toNat) = .ok n.toNat :=
  natural_ofNat n.toNat_lt

@[simp] theorem optional_string (decode : Decoder α) (s : String) :
    Decoder.optional decode (.string s) = (decode (.string s)).map some := rfl

@[simp] theorem optional_ofMembers (decode : Decoder α) (members : List (String × Json)) :
    Decoder.optional decode (ofMembers members) = (decode (ofMembers members)).map some := rfl

theorem choice_string {find : String → Option α} {word : String} {a : α}
    (found : find word = some a) : choice find (.string word) = .ok a := by
  simp [choice, found]

theorem list_ofList {decode : Decoder α} {encode : α → Json} {items : List α}
    (inverse : ∀ item ∈ items, decode (encode item) = .ok item) :
    list decode (ofList (items.map encode)) = .ok items := by
  have read : (items.map encode).mapM decode = .ok items := by
    rw [mapM_eq_ok_iff, List.forall₂_map_left_iff, List.forall₂_same]
    exact inverse
  simp [list, ofList, read, pure, Except.pure]

section Dictionaries

variable [BEq κ] [LawfulBEq κ] {find : String → Option κ} {decode : Decoder α}

theorem dictionaryFrom_members {members : List (String × Json)} {known pairs : List (κ × α)}
    (each : List.Forall₂ (fun member pair => find member.1 = some pair.1 ∧
      decode member.2 = .ok pair.2) members pairs) (filed : Pairs.Filed (known ++ pairs)) :
    dictionaryFrom find decode known members = .ok (known ++ pairs) := by
  induction each generalizing known with
  | nil => simp [dictionaryFrom]
  | @cons member pair members pairs first _ ih =>
    -- The key is none of those before it, so its pair goes to the end.
    have absent : pair.1 ∉ known.map Prod.fst := by
      rw [Pairs.Filed, List.map_append, List.nodup_append] at filed
      exact fun present => filed.2.2 _ present _ List.mem_cons_self rfl
    rw [List.append_cons] at filed ⊢
    rw [dictionaryFrom]
    simp only [first.1, first.2, ok_bind]
    rw [Pairs.insert_of_notMem absent]
    exact ih filed

theorem dictionary_ofMembers {members : List (String × Json)} {pairs : List (κ × α)}
    (each : List.Forall₂ (fun member pair => find member.1 = some pair.1 ∧
      decode member.2 = .ok pair.2) members pairs) (filed : Pairs.Filed pairs) :
    dictionary find decode (ofMembers members) = .ok pairs := by
  have read : dictionaryFrom find decode [] members = .ok ([] ++ pairs) :=
    dictionaryFrom_members each filed
  simp [dictionary, ofMembers, read, pure, Except.pure]

/-- A dictionary that has been read: no key twice, and every value has been read as well. -/
def Read (decode : Decoder α) (pairs : List (κ × α)) : Prop :=
  Pairs.Filed pairs ∧ ∀ pair ∈ pairs, ∃ item, decode item = .ok pair.2

theorem dictionaryFrom_read {members : List (String × Json)} {known pairs : List (κ × α)}
    (start : Read decode known) (read : dictionaryFrom find decode known members = .ok pairs) :
    Read decode pairs := by
  induction members generalizing known with
  | nil =>
    cases read
    exact start
  | cons member members ih =>
    obtain ⟨name, item⟩ := member
    rw [dictionaryFrom] at read
    cases found : find name with
    | none =>
      rw [found] at read
      cases read
    | some key =>
      rw [found] at read
      obtain ⟨value, decoded, read⟩ := bind_eq_ok_iff.mp read
      -- A key that comes again takes the place of the first one.
      apply ih _ read
      constructor
      · exact start.1.insert key value
      · intro pair among
        rcases Pairs.mem_of_mem_insert among with rfl | before
        · exact ⟨item, decoded⟩
        · exact start.2 pair before

theorem dictionary_read {v : Json} {pairs : List (κ × α)}
    (read : dictionary find decode v = .ok pairs) : Read decode pairs := by
  unfold dictionary at read
  split at read
  · next members flaw =>
    obtain ⟨known, found, read⟩ := bind_eq_ok_iff.mp read
    have begun : Read decode ([] : List (κ × α)) := ⟨by simp [Pairs.Filed], by simp⟩
    cases flaw with
    | none =>
      cases read
      exact dictionaryFrom_read begun found
    | some flaw => cases read
  · cases read
  · cases read

end Dictionaries

section Records

@[simp] theorem record_ofMembers (fields : List (Field ρ)) (blank : ρ)
    (members : List (String × Json)) :
    record fields blank (ofMembers members) = (do
      let (found, seen) ← recordFrom fields [] blank members
      if fields.any fun f => f.required && !seen.contains f.name then throw .unsuitable
      return found) := rfl

/-- What holds of a record is not ended by reading the field. -/
def Field.Keeps (holds : ρ → Prop) (f : Field ρ) : Prop :=
  ∀ v before after, f.read v before = .ok after → holds before → holds after

theorem field_keeps {name : String} {decode : Decoder α} {set : ρ → α → ρ} {holds : ρ → Prop}
    (kept : ∀ v a before, decode v = .ok a → holds before → holds (set before a)) :
    (field name decode set).Keeps holds := by
  intro v before after read start
  obtain ⟨a, decoded, rfl⟩ := map_eq_ok_iff.mp read
  exact kept v a before decoded start

theorem Field.Keeps.needed {holds : ρ → Prop} {f : Field ρ} (keeps : f.Keeps holds) :
    f.needed.Keeps holds := keeps

variable {fields : List (Field ρ)} {holds : ρ → Prop} (reads : ∀ f ∈ fields, f.Keeps holds)
include reads

theorem recordFrom_keeps {members : List (String × Json)} {seen names : List String}
    {blank found : ρ} (start : holds blank)
    (read : recordFrom fields seen blank members = .ok (found, names)) : holds found := by
  induction members generalizing seen blank with
  | nil =>
    cases read
    exact start
  | cons member members ih =>
    obtain ⟨name, v⟩ := member
    rw [recordFrom] at read
    split at read
    · split at read
      · cases read
      · exact ih start read
    · next f known =>
      dsimp only at read
      split at read
      · cases read
      obtain ⟨after, filled, read⟩ := bind_eq_ok_iff.mp read
      exact ih (reads f (List.mem_of_find?_eq_some known) v blank after filled start) read

theorem recordOfItems_keeps {flaw : Option Fault} {rest : List (Field ρ)}
    (among : ∀ f ∈ rest, f ∈ fields) {items : List Json} {blank found : ρ} (start : holds blank)
    (read : recordOfItems flaw rest blank items = .ok found) : holds found := by
  induction rest generalizing flaw items blank with
  | nil =>
    cases items with
    | nil =>
      cases flaw <;> cases read
      exact start
    | cons item items => cases read
  | cons f rest ih =>
    have later : ∀ f ∈ rest, f ∈ fields := fun g member => among g (.tail _ member)
    cases items with
    | nil =>
      cases flaw with
      | some fault => cases read
      | none =>
        rw [recordOfItems] at read
        split at read
        · cases read
        · exact ih later start read
    | cons item items =>
      rw [recordOfItems] at read
      obtain ⟨after, filled, read⟩ := bind_eq_ok_iff.mp read
      exact ih later (reads f (among f List.mem_cons_self) item blank after filled start) read

theorem record_keeps {blank found : ρ} {v : Json} (start : holds blank)
    (read : record fields blank v = .ok found) : holds found := by
  unfold record at read
  split at read
  · next members flaw =>
    obtain ⟨⟨filled, names⟩, began, read⟩ := bind_eq_ok_iff.mp read
    have kept := recordFrom_keeps reads start began
    cases flaw with
    | some flaw => cases read
    | none =>
      dsimp only at read
      split at read
      · cases read
      · cases read
        exact kept
  · exact recordOfItems_keeps reads (fun _ => id) start read
  · cases read
  · cases read

end Records

end Json.Decoder

namespace Json

variable {α : Type} {decode : Decoder α} {contents : String} {found : α}

theorem decode_of_decodeText (loaded : decodeText decode contents = .ok found) :
    ∃ v, decode v = .ok found := by
  dsimp only [decodeText] at loaded
  split at loaded
  · cases loaded
  · cases loaded
  · next decoded _ =>
    cases loaded
    exact ⟨_, decoded⟩

theorem decodeText_of_read {v : Json} (written : read contents.toList = (v, none))
    (decoded : decode v = .ok found) : decodeText decode contents = .ok found := by
  simp [decodeText, written, decoded]

end Json

end NameService
