import NameService.Lookup.Answer
import NameService.Membership.Plan

/-!
Long lists of members. A server may give the values of an attribute in slices; what follows a slice
is asked for under a name of its own.
-/

namespace NameService.Membership

/-- A part of a list, and what is written for its upper end. -/
abbrev Slice := String × List String

/-- Upper ends of slices are numbers of 64 bits. -/
def rangeLimit : Nat := UInt64.size

def Slice.end? (slice : Slice) : Option Nat := Text.numeral? rangeLimit slice.1.toList

/-- The name under which the values after a slice are asked for. The number at which they begin may
    be one too large. -/
def continuation (type : String) (high : Nat) : Except Panic String :=
  if high + 1 < rangeLimit then .ok (type ++ ";range=" ++ toString (high + 1) ++ "-*")
  else .error .overflow

/-- The slices of a list that were taken over. -/
structure Retrieval where
  slices : List Slice := []
  /-- What has ended the retrieval before its time. -/
  panic : Option Panic := none
deriving DecidableEq, Repr

namespace Retrieval

def after (retrieval : Retrieval) (slice : Slice) : Retrieval :=
  { retrieval with slices := slice :: retrieval.slices }

/-- All values of the list, of which some were given at once. -/
def values (retrieval : Retrieval) (given : List String) : Except Panic (List String) :=
  match retrieval.panic with
  | some panic => .error panic
  | none => .ok (given ++ retrieval.slices.flatMap Prod.snd)

end Retrieval

open Engine

variable {σ : Type} [Service σ]

/-- Takes over a slice and all slices after it. A slice has to end above the last one, so there is
    an end to them. -/
def retrieve (type : String) (name : String) (last : Option Nat) :
    Option Slice → Engine σ Retrieval
  | none => return {}
  | some slice =>
    match _ended : slice.end? with
    | none => return { slices := [slice] }
    | some high =>
      if _progress : last.all (· < high) then
        match continuation type high with
        | .error panic => return { slices := [slice], panic }
        | .ok following => do
          match ← (Entry.read name [following]).run with
          | .ok (some entry) =>
            return (← retrieve type name (some high) (entry.range? type)).after slice
          | .ok none | .error _ => return { slices := [slice] }
      else return {}
termination_by match last with
  | none => rangeLimit + 1
  | some last => rangeLimit - last
decreasing_by
  have := Text.lt_of_numeral? _ended
  cases last with
  | none => simp only; omega
  | some last =>
    simp only [Option.all_some, decide_eq_true_eq] at _progress
    simp only
    omega

section Slices

variable {type name : String} {last : Option Nat} {slice : Slice} {high : Nat}

theorem retrieve_unended (unended : slice.end? = none) :
    (retrieve type name last (some slice) : Engine σ Retrieval) = return { slices := [slice] } := by
  rw [retrieve]
  split
  · rfl
  · next ended => simp [unended] at ended

theorem retrieve_progress (ended : slice.end? = some high) (progress : last.all (· < high)) :
    (retrieve type name last (some slice) : Engine σ Retrieval) =
      match continuation type high with
      | .error panic => return { slices := [slice], panic }
      | .ok following => do
        match ← (Entry.read name [following]).run with
        | .ok (some entry) =>
          return (← retrieve type name (some high) (entry.range? type)).after slice
        | .ok none | .error _ => return { slices := [slice] } := by
  rw [retrieve]
  split
  · next unended => simp [ended] at unended
  · next high' ended' =>
    obtain rfl : high = high' := Option.some.inj (ended.symm.trans ended')
    rw [dif_pos progress]

theorem retrieve_stuck (ended : slice.end? = some high) (stuck : ¬ last.all (· < high)) :
    (retrieve type name last (some slice) : Engine σ Retrieval) = return {} := by
  rw [retrieve]
  split
  · next unended => simp [ended] at unended
  · next high' ended' =>
    obtain rfl : high = high' := Option.some.inj (ended.symm.trans ended')
    rw [dif_neg stuck]

end Slices

/-- All names that a group lists as its members. -/
def memberNames (plan : Plan) (entry : Entry) : Brittle σ (List String) := ExceptT.mk do
  let type := plan.names.uniqueMember
  let retrieval ← retrieve type entry.name none (entry.range? type)
  return retrieval.values (entry.values type)

end NameService.Membership
