import NameService.Database
import NameService.Pairs
import NameService.Search
import NameService.Failover.Policy

/-!
The settings of a directory: where its servers are, whom to be there, which parts of the tree hold
which database, and under which names the attributes are kept.
-/

namespace NameService

/-- Whom to be at a server. Without a name the visit is anonymous. -/
structure Credentials where
  name : Option String := none
  password : Option String := none
deriving DecidableEq, Repr, Inhabited

namespace Credentials

def bindName (credentials : Credentials) : String := credentials.name.getD ""

def bindPassword (credentials : Credentials) : String := credentials.password.getD ""

def isAnonymous (credentials : Credentials) : Bool := credentials.bindName == ""

end Credentials

namespace Tls

inductive Mode where
  | off
  | ldaps
  | startTls
deriving DecidableEq, Repr, Inhabited

namespace Mode

def word : Mode → String
  | off => "off"
  | ldaps => "ldaps"
  | startTls => "start_tls"

def all : List Mode := [off, ldaps, startTls]

def ofWord? (word : String) : Option Mode := all.find? (·.word == word)

theorem ofWord?_word (mode : Mode) : ofWord? mode.word = some mode := by
  cases mode <;> rfl

end Mode

end Tls

structure Tls where
  mode : Tls.Mode := .off
  verifyPeer : Bool := true
  authorities : Option String := none
deriving DecidableEq, Repr, Inhabited

structure Flags where
  pagedResults : Bool := false
  /-- Groups list their members by directory name, so that groups can be members of groups. -/
  nestedGroups : Bool := false
  /-- Entries list the groups they belong to. -/
  backlinks : Bool := false
  /-- Connections do not outlive an enumeration. -/
  oneShot : Bool := false
deriving DecidableEq, Repr, Inhabited

/-- A part of the tree that holds entries of a database. A base that ends in a comma is relative to
    the base of the directory. -/
structure Descriptor where
  base : String
  scope : Option Scope := none
  filter : Option String := none
deriving DecidableEq, Repr, Inhabited

/-- Texts filed by database and name. -/
abbrev NameTable := List (Database × List (String × String))

namespace NameTable

def find? (table : NameTable) (database : Database) (name : String) : Option String :=
  (table.lookup database).bind (·.lookup name)

def insert (table : NameTable) (database : Database) (name value : String) : NameTable :=
  Pairs.insert database (Pairs.insert name value ((table.lookup database).getD [])) table

/-- The name under which the directory keeps an attribute or class. A database's own table counts
    first, then the table for all of them; a name in neither is its own. -/
def rename (table : NameTable) (database : Database) (name : String) : String :=
  (table.find? database name).getD ((table.find? .none name).getD name)

end NameTable

structure Config where
  uris : List String
  base : String
  scope : Scope := .subtree
  deref : Deref := .never
  credentials : Credentials := {}
  rootCredentials : Option Credentials := none
  protocolVersion : UInt8 := 3
  /-- In seconds; zero is no limit, here and in the next two. -/
  timeLimitSeconds : UInt64 := 0
  bindTimeLimitSeconds : UInt64 := 30
  idleTimeLimitSeconds : UInt64 := 0
  tls : Tls := {}
  failover : Failover.Policy := {}
  pageSize : UInt32 := 1000
  flags : Flags := {}
  searchDescriptors : List (Database × List Descriptor) := []
  attributeMap : NameTable := []
  attributeOverrides : NameTable := []
  attributeDefaults : NameTable := []
  ignoredUsers : List String := []
deriving DecidableEq, Repr, Inhabited

namespace Config

def limit (seconds : UInt64) : Option Nat :=
  if seconds = 0 then none else some seconds.toNat

def timeLimit (config : Config) : Option Nat := limit config.timeLimitSeconds

def bindTimeLimit (config : Config) : Option Nat := limit config.bindTimeLimitSeconds

def idleTimeLimit (config : Config) : Option Nat := limit config.idleTimeLimitSeconds

/-- Where the entries of a database are looked for, in this order. -/
def descriptors (config : Config) (database : Database) : List Descriptor :=
  if database = .none then [] else (config.searchDescriptors.lookup database).getD []

def addDescriptor (config : Config) (database : Database) (descriptor : Descriptor) : Config :=
  let known := (config.searchDescriptors.lookup database).getD []
  { config with
    searchDescriptors := Pairs.insert database (known ++ [descriptor]) config.searchDescriptors }

def resolveBase (config : Config) (base : String) : String :=
  if base.toList.getLast? = some ',' then base ++ config.base else base

/-- The superuser may have credentials of its own. -/
def credentialsFor (config : Config) (user : Nat) : Credentials :=
  match config.rootCredentials with
  | some root => if user = 0 then root else config.credentials
  | none => config.credentials

def ignoresUser (config : Config) (user : String) : Bool := config.ignoredUsers.contains user

end Config

end NameService
