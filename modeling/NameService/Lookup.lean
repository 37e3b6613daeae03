import NameService.Config
import NameService.Filter

/-!
Questions to a database, and the searches they stand for: one for every part of the tree that holds
entries of the database.
-/

namespace NameService

/-- The page of an answer that begins at a cookie. Without pages the answer comes as a whole. -/
def Config.page? (config : Config) (cookie : List UInt8) : Option Page :=
  if config.flags.pagedResults && 0 < config.pageSize then some ⟨config.pageSize.toNat, cookie⟩
  else none

structure Lookup where
  database : Database
  template : String
  args : Filter.Args := .none
  attributes : List String := []
  base : Option String := none
  sizeLimit : Option Nat := none
deriving DecidableEq, Repr

namespace Lookup

/-- A question about one part of the tree belongs to no database. -/
def under (lookup : Lookup) (base : String) : Lookup :=
  { lookup with base := some base, database := .none }

/-- A part of the tree where an answer may be found. -/
structure Target where
  base : String
  scope : Scope
  filter : Option String
deriving DecidableEq, Repr

def targets (lookup : Lookup) (config : Config) : List Target :=
  match config.descriptors lookup.database with
  | [] => [⟨lookup.base.getD config.base, config.scope, none⟩]
  | descriptors => descriptors.map fun descriptor =>
    ⟨config.resolveBase descriptor.base, descriptor.scope.getD config.scope, descriptor.filter⟩

def search (lookup : Lookup) (config : Config) (target : Target) : Except Error Search := do
  return {
    base := target.base
    scope := target.scope
    filter := ← Filter.build lookup.template lookup.args target.filter
    attributes := lookup.attributes
    deref := config.deref
    sizeLimit := lookup.sizeLimit
    timeLimit := config.timeLimit
    page := none }

/-- The search in one of the parts, if there are so many. -/
def search? (lookup : Lookup) (config : Config) (index : Nat) : Except Error (Option Search) :=
  match (lookup.targets config)[index]? with
  | none => .ok none
  | some target => (lookup.search config target).map some

end Lookup

end NameService
