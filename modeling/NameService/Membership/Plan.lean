import NameService.Entry
import NameService.Lookup
import NameService.Netgroup
import NameService.Text.Normal
import NameService.Text.Numeral

/-!
What a walk through groups goes by, and how far it has come. The questions that it asks depend on
the configuration and on the policy, neither of which changes during a walk. Groups can be members
of each other, in cycles too, so a walk keeps the names it has met and meets none of them twice;
case makes no difference between names.
-/

namespace NameService.Membership

/-! ### Policies -/

inductive Direction where
  /-- Asks for the groups that list an entry. -/
  | forward
  /-- Follows the groups that an entry lists. -/
  | backlink
deriving DecidableEq, Repr, Inhabited

structure Policy where
  direction : Direction := .forward
  maxDepth : Nat := 16
  nested : Bool := true
  /-- How many groups of a user are wanted at most. -/
  limit : Option Nat := none
deriving DecidableEq, Repr, Inhabited

namespace Policy

def ofConfig (config : Config) : Policy :=
  { direction := if config.flags.backlinks then .backlink else .forward }

/-- A limit of nothing is no limit. -/
def withLimit (policy : Policy) (limit : Nat) : Policy :=
  { policy with limit := if limit = 0 then none else some limit }

end Policy

/-! ### Names and templates -/

/-- What a directory calls the attributes and classes that membership is made of. -/
structure Names where
  uid : String
  uniqueMember : String
  memberUid : String
  gidNumber : String
  memberOf : String
  memberNisNetgroup : String
  nisNetgroupTriple : String
  cn : String
  posixGroup : String
deriving DecidableEq, Repr

def Names.ofMap (map : NameTable) : Names where
  uid := map.rename .passwd "uid"
  uniqueMember := map.rename .group "uniqueMember"
  memberUid := map.rename .group "memberUid"
  gidNumber := map.rename .group "gidNumber"
  memberOf := map.rename .passwd "memberOf"
  memberNisNetgroup := map.rename .netgroup "memberNisNetgroup"
  nisNetgroupTriple := map.rename .netgroup "nisNetgroupTriple"
  cn := map.rename .netgroup "cn"
  posixGroup := map.rename .group "posixGroup"

/-- The filter templates that ask for members, groups and netgroups. -/
structure Templates where
  userByName : String
  groupsByMember : String
  groupsByMemberAndName : String
  groupsByName : String
  groupsByMemberOrUser : String
  backlink : String
  netgroupByName : String
deriving DecidableEq, Repr

def isA (type value : String) : String := "(" ++ type ++ "=" ++ value ++ ")"

def both (first second : String) : String := "(&" ++ first ++ second ++ ")"

def either (first second : String) : String := "(|" ++ first ++ second ++ ")"

def Templates.ofMap (map : NameTable) : Templates :=
  let objectClass := map.rename .passwd "objectClass"
  let account := isA objectClass (map.rename .passwd "posixAccount")
  let group := isA objectClass (map.rename .group "posixGroup")
  let named := isA (map.rename .passwd "uid") "%s"
  let memberUid := isA (map.rename .group "memberUid") "%s"
  let uniqueMember := isA (map.rename .group "uniqueMember") "%s"
  { userByName := both account named
    groupsByMember := both group memberUid
    groupsByMemberAndName := both group (either memberUid uniqueMember)
    groupsByName := both group uniqueMember
    groupsByMemberOrUser := either (both group memberUid) (both account named)
    backlink := isA (map.rename .passwd "distinguishedName") "%s"
    netgroupByName := both (isA objectClass (map.rename .netgroup "nisNetgroup"))
      (isA (map.rename .netgroup "cn") "%s") }

/-! ### Questions -/

/-- What does not change during a walk. -/
structure Plan where
  config : Config
  names : Names
  templates : Templates
  policy : Policy

def Plan.ofConfig (config : Config) (policy : Policy) : Plan where
  config := config
  names := .ofMap config.attributeMap
  templates := .ofMap config.attributeMap
  policy := policy

namespace Plan

/-- What is asked of an entry that may be a group or a user. -/
def memberAttributes (plan : Plan) : List String :=
  [plan.names.uid, plan.names.uniqueMember, plan.names.memberUid, "objectClass"]

/-- Groups of a user nest only where groups list their members by name. -/
def chases (plan : Plan) : Bool := plan.policy.nested && plan.config.flags.nestedGroups

def gid? (plan : Plan) (entry : Entry) : Option Nat :=
  (entry.first? plan.names.gidNumber).bind fun value =>
    Text.numeral? UInt32.size (Text.trim value.toList)

def findNetgroup (plan : Plan) (name : String) : Lookup where
  database := .netgroup
  template := plan.templates.netgroupByName
  args := .text name
  attributes := [plan.names.memberNisNetgroup, plan.names.nisNetgroupTriple]

def findUser (plan : Plan) (user : String) : Lookup where
  database := .passwd
  template := plan.templates.userByName
  args := .text user
  attributes := [plan.names.uid]
  sizeLimit := some 1

/-- Asks for the groups that list an entry. -/
def groupsOf (plan : Plan) (name : String) : Lookup where
  database := .group
  template := plan.templates.groupsByName
  args := .text name
  attributes := [plan.names.gidNumber]

/-- Asks for entries by their names. -/
def namedGroups (plan : Plan) (names : List String) : Lookup where
  database := .group
  template := plan.templates.backlink
  args := .anyOf names
  attributes := [plan.names.gidNumber, plan.names.memberOf]

/-- Asks for the groups of a user and for the user's own entry. -/
def groupsOrUser (plan : Plan) (user : String) : Lookup where
  database := .passwd
  template := plan.templates.groupsByMemberOrUser
  args := .texts user user
  attributes := [plan.names.gidNumber, plan.names.memberOf]

/-- Asks for the groups of a user, who may be listed by the name of his entry. -/
def groupsOfUser (plan : Plan) (user : String) : Option String → Lookup
  | some name => {
      database := .group
      template := plan.templates.groupsByMemberAndName
      args := .texts user name
      attributes := [plan.names.gidNumber] }
  | none => {
      database := .group
      template := plan.templates.groupsByMember
      args := .text user
      attributes := [plan.names.gidNumber] }

end Plan

/-! ### Walks -/

inductive Member where
  | user (name : String)
  | gid (gid : Nat)
  | triple (triple : Triple)
deriving DecidableEq, Repr

/-- Names in the order in which they were first met. -/
structure Roster where
  names : List String := []
deriving DecidableEq, Repr, Inhabited

namespace Roster

def contains (roster : Roster) (name : String) : Bool :=
  roster.names.any (Text.same name)

def add (roster : Roster) (name : String) : Roster := ⟨roster.names ++ [name]⟩

/-- Adds a name, and says whether it is new. -/
def insert (roster : Roster) (name : String) : Bool × Roster :=
  if roster.contains name then (false, roster) else (true, roster.add name)

end Roster

/-- How far a walk has come. -/
structure Walk where
  seen : Roster := {}
  members : List Member := []
  limitReached : Bool := false
deriving DecidableEq, Repr, Inhabited

namespace Walk

/-- Adds a member that is not there yet. -/
def add (walk : Walk) (member : Member) : Walk :=
  if member ∈ walk.members then walk else { walk with members := walk.members ++ [member] }

/-- Adds a group of a user, unless there are as many as are wanted. -/
def addGid (limit : Option Nat) (walk : Walk) (gid : Nat) : Walk :=
  if Member.gid gid ∈ walk.members then walk
  else if limit.any (· ≤ walk.members.length) then { walk with limitReached := true }
  else walk.add (.gid gid)

def meet (walk : Walk) (name : String) : Walk := { walk with seen := walk.seen.add name }

/-- Meets those names that it has not met, and gives them back. -/
def meetAll (walk : Walk) : List String → List String × Walk
  | [] => ([], walk)
  | name :: names =>
    if walk.seen.contains name then walk.meetAll names
    else
      let (others, walk) := (walk.meet name).meetAll names
      (name :: others, walk)

end Walk

end NameService.Membership
