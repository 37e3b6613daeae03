import NameService.Error

/-!
The databases of a name service. `none` is not a database: settings filed under it hold for all of
them, and a question asked outside every database names it.
-/

namespace NameService

inductive Database where
  | passwd
  | shadow
  | group
  | hosts
  | services
  | networks
  | protocols
  | rpc
  | ethers
  | netmasks
  | bootparams
  | aliases
  | netgroup
  | automount
  | none
deriving DecidableEq, Repr, Inhabited

namespace Database

def name : Database → String
  | passwd => "passwd"
  | shadow => "shadow"
  | group => "group"
  | hosts => "hosts"
  | services => "services"
  | networks => "networks"
  | protocols => "protocols"
  | rpc => "rpc"
  | ethers => "ethers"
  | netmasks => "netmasks"
  | bootparams => "bootparams"
  | aliases => "aliases"
  | netgroup => "netgroup"
  | automount => "automount"
  | none => "none"

/-- Every database, in the order of a host's lookup configuration. -/
def all : List Database :=
  [passwd, shadow, group, hosts, services, networks, protocols, rpc, ethers, netmasks, bootparams,
    aliases, netgroup, automount]

theorem mem_all {database : Database} : database ∈ all ↔ database ≠ none := by
  cases database <;> decide

/-- The database of exactly this name. -/
def ofName? (name : String) : Option Database := (all ++ [none]).find? (·.name == name)

theorem ofName?_name (database : Database) : ofName? database.name = some database := by
  cases database <;> rfl

/-- A small letter for a capital. Outside ASCII only the Kelvin sign has a small letter inside. -/
def lower (c : Char) : Char := if c = '\u212A' then 'k' else c.toLower

def ofText (text : String) : Except Error Database :=
  match ofName? (String.ofList (text.toList.map lower)) with
  | some database => .ok database
  | Option.none => .error (.invalidRequest ("Unknown map selector: " ++ text))

end Database

end NameService
