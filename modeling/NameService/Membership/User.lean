import NameService.Enumeration
import NameService.Membership.Plan

/-!
The groups of a user, and the groups above them. The first of them come as an enumeration; what
cannot be read above one of them leaves out a branch and no more.
-/

namespace NameService.Membership

open Engine

variable {σ : Type} [Service σ]

/-- The question about the groups that an entry belongs to, if there is any to ask. -/
def chase (plan : Plan) (entry : Entry) (walk : Walk) : Option Lookup × Walk :=
  match plan.policy.direction with
  | .forward =>
    if walk.seen.contains entry.name then (none, walk)
    else (some (plan.groupsOf entry.name), walk.meet entry.name)
  | .backlink =>
    match walk.meetAll (entry.values plan.names.memberOf) with
    | ([], walk) => (none, walk)
    | (names, walk) => (some (plan.namedGroups names), walk)

/-- The names that a question is about, one for each condition of its filter. -/
def asked (lookup : Lookup) : List String :=
  match lookup.args with
  | .text name => [name]
  | .anyOf names => names
  | _ => []

/-- Counts a group of a user, and those it belongs to for as many levels as are left. The number of
    the level is for the record. -/
def collect (plan : Plan) (primary : Option Nat) : Nat → Nat → Entry → Walk → Engine σ Walk
  | levels, level, entry, walk => do
    if walk.limitReached then return walk
    let walk := match plan.gid? entry with
      | some gid => if primary = some gid then walk else walk.addGid plan.policy.limit gid
      | none => walk
    match levels with
    | 0 => return walk
    | levels + 1 =>
      if !plan.chases then return walk
      match chase plan entry walk with
      | (none, walk) => return walk
      | (some lookup, walk) =>
        noteVisit (.chase (level + 1) (asked lookup))
        match ← lookup.entries.run with
        | .error _ => return walk
        | .ok entries =>
          entries.foldlM (fun walk entry => collect plan primary levels (level + 1) entry walk) walk

/-- Counts the entries of an enumeration. -/
def collectAll (plan : Plan) (primary : Option Nat) (patience : Nat) :
    Nat → Enumeration → Walk → Engine σ (Except Error Walk × Enumeration)
  | 0, _, _ => outOfPatience
  | rounds + 1, e, walk => do
    match ← e.nextEntry patience with
    | (.error error, e) => return (.error error, e)
    | (.ok none, e) => return (.ok walk, e)
    | (.ok (some entry), e) =>
      let walk ← collect plan primary plan.policy.maxDepth 0 entry walk
      if walk.limitReached then return (.ok walk, e)
      else collectAll plan primary patience rounds e walk

/-- The question about the groups of a user. -/
def question (plan : Plan) (user : String) : Action σ Lookup := do
  match plan.policy.direction with
  | .backlink => return plan.groupsOrUser user
  | .forward =>
    if plan.config.flags.nestedGroups then
      let entries ← (plan.findUser user).entries
      return plan.groupsOfUser user (entries.head?.map (·.name))
    else return plan.groupsOfUser user none

/-- Counts the entries of an answer. An answer without entries counts nothing. -/
def collectAnswer (plan : Plan) (primary : Option Nat) (patience : Nat) (lookup : Lookup) :
    Engine σ (Except Error Walk × Enumeration) := do
  match ← Enumeration.start {} lookup with
  | (.error (.notFound _), e) => return (.ok {}, e)
  | (.error error, e) => return (.error error, e)
  | (.ok (), e) => collectAll plan primary patience patience e {}

def expandUser (plan : Plan) (patience : Nat) (user : String) (primary : Option Nat) :
    Action σ Walk := do
  if plan.config.ignoresUser user then
    throw (.notFound ("group membership of " ++ user ++ " is not expanded"))
  let lookup ← question plan user
  ExceptT.mk do
    let (result, e) ← collectAnswer plan primary patience lookup
    -- The end of the enumeration is told to the server whatever has come of it.
    let _ ← e.stop
    return result

theorem expandUser_eq (plan : Plan) (patience : Nat) (user : String) (primary : Option Nat) :
    (expandUser plan patience user primary : Action σ Walk) =
      if plan.config.ignoresUser user then
        throw (.notFound ("group membership of " ++ user ++ " is not expanded"))
      else (do
        let lookup ← question plan user
        ExceptT.mk do
          let out ← collectAnswer plan primary patience lookup
          let _ ← out.2.stop
          return out.1) := by
  unfold expandUser
  split <;> rfl

end NameService.Membership
