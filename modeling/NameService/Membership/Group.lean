import NameService.Membership.Range
import NameService.Membership.Plan
import NameService.DistinguishedName

/-!
The users in a group and in the groups below it. What cannot be read below the first group leaves
out a branch and no more.
-/

namespace NameService.Membership

open Engine

variable {σ : Type} [Service σ]

/-- What the name of a member stands for. -/
inductive Resolved where
  | user (uid : String)
  | group (entry : Entry)
  | unknown

def resolve (plan : Plan) (name : String) : Action σ Resolved := do
  match (← lift session).uid? name with
  | some uid => return .user uid
  | none =>
    match ← Entry.read name plan.memberAttributes with
    | none => return .unknown
    | some entry =>
      if entry.hasClass plan.names.posixGroup then return .group entry
      match entry.first? plan.names.uid with
      | none => return .unknown
      | some uid =>
        lift (update fun session => session.learn name uid)
        return .user uid

/-- Goes through the members of a group, unless it was met before or no level is left. The number
    of the level is for the record. -/
def walkGroup (plan : Plan) : Nat → Nat → Entry → Walk → Brittle σ Walk
  | 0, _, _, walk => return walk
  | levels + 1, level, entry, walk => do
    if walk.seen.contains entry.name then return walk
    lift (noteVisit (.scan level entry.name))
    -- The whole list is read before the first of its members is.
    let names ← memberNames plan entry
    let walk ← names.foldlM (fun walk value => do
      match ← lift (resolve plan (DistinguishedName.withoutUid value)).run with
      | .ok (.user uid) => return walk.add (.user uid)
      | .ok (.group group) =>
        if plan.policy.nested then walkGroup plan levels (level + 1) group walk else return walk
      | .ok .unknown | .error _ => return walk) (walk.meet entry.name)
    return (entry.values plan.names.memberUid).foldl (fun walk uid => walk.add (.user uid)) walk

def expandGroup (plan : Plan) (name : String) : Venture σ Walk := do
  match ← attempt (Entry.read name plan.memberAttributes) with
  | none => throw (.error (.notFound ("group " ++ name ++ " does not exist")))
  | some entry => risk (walkGroup plan (plan.policy.maxDepth + 1) 0 entry {})

end NameService.Membership
