import NameService.Config.Validity
import NameService.Json.Decoder

/-!
Configurations as JSON documents. Every field but the servers and the base may be left out, fields
of no meaning here are passed over, and passwords are read but never written.
-/

namespace NameService

open Json Json.Decoder

/-- A member that is left out when there is nothing to say. -/
def optionalMember {α : Type} (name : String) (encode : α → Json) (value : Option α) :
    List (String × Json) :=
  match value with
  | some value => [(name, encode value)]
  | none => []

namespace Database

def decode : Decoder Database := choice ofName?

def toJson (database : Database) : Json := .string database.name

end Database

namespace Scope

def decode : Decoder Scope := choice ofWord?

def toJson (scope : Scope) : Json := .string scope.word

end Scope

namespace Deref

def decode : Decoder Deref := choice ofWord?

def toJson (deref : Deref) : Json := .string deref.word

end Deref

namespace Status

def decode : Decoder Status := choice fun text => all.find? (·.key == text)

def toJson (status : Status) : Json := .string status.key

end Status

namespace Credentials

def decode : Decoder Credentials :=
  record [
    field "bind_dn" (optional text) fun c name => { c with name := name },
    field "bind_password" (optional text) fun c password => { c with password := password }] {}

def toJson (credentials : Credentials) : Json :=
  ofMembers (optionalMember "bind_dn" .string credentials.name)

end Credentials

namespace Tls

def Mode.decode : Decoder Mode := choice Mode.ofWord?

def decode : Decoder Tls :=
  record [
    field "mode" Mode.decode fun t mode => { t with mode := mode },
    field "verify_peer" bool fun t verify => { t with verifyPeer := verify },
    field "ca_cert_file" (optional text) fun t path => { t with authorities := path }] {}

def toJson (tls : Tls) : Json :=
  ofMembers ([("mode", .string tls.mode.word), ("verify_peer", .bool tls.verifyPeer)]
    ++ optionalMember "ca_cert_file" .string tls.authorities)

end Tls

namespace Failover.Policy

def decode : Decoder Policy :=
  record [
    field "mode" (choice Mode.ofWord?) fun p mode => { p with mode := mode },
    field "tries" (natural UInt32.size) fun p n => { p with tries := .ofNat n },
    field "sleep_secs" (natural UInt64.size) fun p n => { p with sleep := .ofNat n },
    field "max_sleep_secs" (natural UInt64.size) fun p n => { p with maxSleep := .ofNat n },
    field "max_conn_tries" (natural UInt32.size) fun p n => { p with eagerTries := .ofNat n }] {}

def toJson (policy : Policy) : Json :=
  ofMembers [
    ("mode", .string policy.mode.word),
    ("tries", ofNat policy.tries.toNat),
    ("sleep_secs", ofNat policy.sleep.toNat),
    ("max_sleep_secs", ofNat policy.maxSleep.toNat),
    ("max_conn_tries", ofNat policy.eagerTries.toNat)]

end Failover.Policy

namespace Flags

def decode : Decoder Flags :=
  record [
    field "paged_results" bool fun f b => { f with pagedResults := b },
    field "rfc2307bis" bool fun f b => { f with nestedGroups := b },
    field "initgroups_backlink" bool fun f b => { f with backlinks := b },
    field "connect_policy_oneshot" bool fun f b => { f with oneShot := b }] {}

def toJson (flags : Flags) : Json :=
  ofMembers [
    ("paged_results", .bool flags.pagedResults),
    ("rfc2307bis", .bool flags.nestedGroups),
    ("initgroups_backlink", .bool flags.backlinks),
    ("connect_policy_oneshot", .bool flags.oneShot)]

end Flags

namespace Descriptor

def decode : Decoder Descriptor :=
  record [
    (field "base" text fun d base => { d with base := base }).needed,
    field "scope" (optional Scope.decode) fun d scope => { d with scope := scope },
    field "filter" (optional text) fun d filter => { d with filter := filter }] ⟨"", none, none⟩

def toJson (descriptor : Descriptor) : Json :=
  ofMembers ([("base", .string descriptor.base)]
    ++ optionalMember "scope" Scope.toJson descriptor.scope
    ++ optionalMember "filter" .string descriptor.filter)

end Descriptor

namespace NameTable

def decode : Decoder NameTable := dictionary Database.ofName? (dictionary some text)

def toJson (table : NameTable) : Json :=
  ofMembers (table.map fun (database, names) =>
    (database.name, ofMembers (names.map fun (name, value) => (name, .string value))))

end NameTable

namespace Config

def decode : Decoder Config :=
  record [
    (field "uris" (list text) fun c uris => { c with uris := uris }).needed,
    (field "base" text fun c base => { c with base := base }).needed,
    field "scope" Scope.decode fun c scope => { c with scope := scope },
    field "deref" Deref.decode fun c deref => { c with deref := deref },
    field "credentials" Credentials.decode fun c found => { c with credentials := found },
    field "root_credentials" (optional Credentials.decode) fun c found =>
      { c with rootCredentials := found },
    field "protocol_version" (natural UInt8.size) fun c n => { c with protocolVersion := .ofNat n },
    field "time_limit_secs" (natural UInt64.size) fun c n =>
      { c with timeLimitSeconds := .ofNat n },
    field "bind_time_limit_secs" (natural UInt64.size) fun c n =>
      { c with bindTimeLimitSeconds := .ofNat n },
    field "idle_time_limit_secs" (natural UInt64.size) fun c n =>
      { c with idleTimeLimitSeconds := .ofNat n },
    field "tls" Tls.decode fun c tls => { c with tls := tls },
    field "reconnect" Failover.Policy.decode fun c policy => { c with failover := policy },
    field "page_size" (natural UInt32.size) fun c n => { c with pageSize := .ofNat n },
    field "flags" Flags.decode fun c flags => { c with flags := flags },
    field "search_descriptors" (dictionary Database.ofName? (list Descriptor.decode)) fun c found =>
      { c with searchDescriptors := found },
    field "attribute_map" NameTable.decode fun c table => { c with attributeMap := table },
    field "attribute_overrides" NameTable.decode fun c table =>
      { c with attributeOverrides := table },
    field "attribute_defaults" NameTable.decode fun c table =>
      { c with attributeDefaults := table },
    field "initgroups_ignore_users" (list text) fun c users => { c with ignoredUsers := users }]
    { uris := [], base := "" }

def toJson (config : Config) : Json :=
  ofMembers ([
    ("uris", ofList (config.uris.map .string)),
    ("base", .string config.base),
    ("scope", config.scope.toJson),
    ("deref", config.deref.toJson),
    ("credentials", config.credentials.toJson)]
    ++ optionalMember "root_credentials" Credentials.toJson config.rootCredentials ++ [
    ("protocol_version", ofNat config.protocolVersion.toNat),
    ("time_limit_secs", ofNat config.timeLimitSeconds.toNat),
    ("bind_time_limit_secs", ofNat config.bindTimeLimitSeconds.toNat),
    ("idle_time_limit_secs", ofNat config.idleTimeLimitSeconds.toNat),
    ("tls", config.tls.toJson),
    ("reconnect", config.failover.toJson),
    ("page_size", ofNat config.pageSize.toNat),
    ("flags", config.flags.toJson),
    ("search_descriptors", ofMembers (config.searchDescriptors.map fun (database, found) =>
      (database.name, ofList (found.map Descriptor.toJson)))),
    ("attribute_map", NameTable.toJson config.attributeMap),
    ("attribute_overrides", NameTable.toJson config.attributeOverrides),
    ("attribute_defaults", NameTable.toJson config.attributeDefaults),
    ("initgroups_ignore_users", ofList (config.ignoredUsers.map .string))])

/-- Why a stored configuration cannot be used. -/
inductive Rejection where
  | unreadable
  | malformed (fault : Fault)
  | invalid (violations : List Violation)
deriving DecidableEq, Repr

def ofText (text : String) : Except Rejection Config := do
  let config ← (decodeText decode text).mapError .malformed
  config.validated.mapError .invalid

/-- The configuration in a file, given its octets; there may be no such file. -/
def ofFile (contents : Option (List UInt8)) : Except Rejection Config :=
  match contents.bind Text.decode? with
  | none => .error .unreadable
  | some text => ofText text

end Config

end NameService
