import NameService.Config
import NameService.Uri

/-!
The bounds a configuration has to keep. Each broken bound is reported once, under the path of its
field, and reports are in the order of their paths.
-/

namespace NameService

inductive Bound where
  | length
  | range
  | uri
deriving DecidableEq, Repr

def Bound.word : Bound → String
  | length => "length"
  | range => "range"
  | uri => "uri"

structure Violation where
  path : String
  bound : Bound
deriving DecidableEq, Repr

def violation (kept : Bool) (path : String) (bound : Bound) : List Violation :=
  if kept then [] else [⟨path, bound⟩]

namespace Failover.Policy

def violations (policy : Policy) : List Violation :=
  violation (1 ≤ policy.eagerTries && policy.eagerTries ≤ 100) "max_conn_tries" .range
    ++ violation (policy.maxSleep ≤ 3600) "max_sleep_secs" .range
    ++ violation (policy.sleep ≤ 3600) "sleep_secs" .range
    ++ violation (policy.tries ≤ 100) "tries" .range

end Failover.Policy

namespace Config

def violations (config : Config) : List Violation :=
  violation (config.base != "") "base" .length
    ++ violation (1 ≤ config.pageSize && config.pageSize ≤ 100000) "page_size" .range
    ++ violation (2 ≤ config.protocolVersion && config.protocolVersion ≤ 3) "protocol_version"
      .range
    ++ config.failover.violations.map (fun v => { v with path := "reconnect." ++ v.path })
    ++ violation (1 ≤ config.uris.length && config.uris.length ≤ 31) "uris" .length
    ++ violation (config.uris.all Uri.isDirectory) "uris" .uri

def validated (config : Config) : Except (List Violation) Config :=
  match config.violations with
  | [] => .ok config
  | broken => .error broken

end Config

end NameService
