import NameService.Lookup.Answer
import NameService.Membership.Plan

/-!
The triples in a netgroup and in the netgroups below it. What cannot be read below the first
netgroup leaves out a branch and no more.
-/

namespace NameService.Membership

open Engine

variable {σ : Type} [Service σ]

def lookUp (plan : Plan) (level : Nat) (name : String) : Action σ (List Entry) := do
  lift (noteVisit (.find level name))
  (plan.findNetgroup name).entries

/-- The entry of a netgroup, which is looked up if it is not at hand. -/
def netgroup (plan : Plan) (level : Nat) (name : String) : Option Entry → Engine σ (Option Entry)
  | some entry => return some entry
  | none => do
    match ← (lookUp plan level name).run with
    | .ok entries => return entries.head?
    | .error _ => return none

/-- Goes through the members of a netgroup. The number of the level is for the record. -/
def walkNetgroup (plan : Plan) : Nat → Nat → String → Option Entry → Walk → Engine σ Walk
  | 0, _, _, _, walk => return walk
  | levels + 1, level, name, known, walk => do
    if walk.seen.contains name then return walk
    let walk := walk.meet name
    match ← netgroup plan level name known with
    | none => return walk
    | some entry =>
      let cursor := Netgroup.Cursor.ofValues
        (entry.values plan.names.memberNisNetgroup ++ entry.values plan.names.nisNetgroupTriple)
      cursor.members.foldlM (fun walk member =>
        match member with
        | .triple triple => return walk.add (.triple triple)
        | .group child =>
          if plan.policy.nested then walkNetgroup plan levels (level + 1) child none walk
          else return walk) walk

def expandNetgroup (plan : Plan) (name : String) : Action σ Walk := do
  match (← lookUp plan 0 name).head? with
  | none => throw (.notFound ("netgroup " ++ name ++ " does not exist"))
  | some entry => lift (walkNetgroup plan (plan.policy.maxDepth + 1) 0 name (some entry) {})

end NameService.Membership
