/-!
Searches as a directory server receives them.
-/

namespace NameService

/-- How far below its base a search looks. -/
inductive Scope where
  | base
  | oneLevel
  | subtree
deriving DecidableEq, Repr, Inhabited

namespace Scope

def word : Scope → String
  | base => "base"
  | oneLevel => "onelevel"
  | subtree => "subtree"

def ofWord? : String → Option Scope
  | "base" => some base
  | "onelevel" | "one" => some oneLevel
  | "subtree" | "sub" => some subtree
  | _ => none

theorem ofWord?_word (scope : Scope) : ofWord? scope.word = some scope := by
  cases scope <;> rfl

end Scope

/-- When a server follows aliases. -/
inductive Deref where
  | never
  | searching
  | finding
  | always
deriving DecidableEq, Repr, Inhabited

namespace Deref

def word : Deref → String
  | never => "never"
  | searching => "searching"
  | finding => "finding"
  | always => "always"

def all : List Deref := [never, searching, finding, always]

def ofWord? (word : String) : Option Deref := all.find? (·.word == word)

theorem ofWord?_word (deref : Deref) : ofWord? deref.word = some deref := by
  cases deref <;> rfl

end Deref

/-- The part of a long answer that a search asks for: its size, and the server's mark of where the
    part begins. The mark of the first part is empty. -/
structure Page where
  size : Nat
  cookie : List UInt8
deriving DecidableEq, Repr

structure Search where
  base : String
  scope : Scope
  filter : String
  attributes : List String
  deref : Deref
  sizeLimit : Option Nat
  /-- In seconds. -/
  timeLimit : Option Nat
  page : Option Page
deriving DecidableEq, Repr

namespace Search

/-- The search that finds one entry by its name. -/
def read (name : String) (attributes : List String) (timeLimit : Option Nat) : Search where
  base := name
  scope := .base
  filter := "(objectClass=*)"
  attributes := attributes
  deref := .never
  sizeLimit := none
  timeLimit := timeLimit
  page := none

end Search

end NameService
