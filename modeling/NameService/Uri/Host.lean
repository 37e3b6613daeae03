import NameService.Domain
import NameService.Error
import NameService.Text.Octets
import NameService.Uri.Address

/-!
Names of servers. A name is free text under most schemes; under the schemes of the web it has to be
a domain or a numeric address.
-/

namespace NameService.Uri

inductive Fault where
  | noScheme
  | emptyHost
  | badNumber
  | badIpv4
  | badIpv6
  | badDomain
  | badHostCharacter
deriving DecidableEq, Repr

namespace Fault

def message : Fault → String
  | noScheme => "relative URL without a base"
  | emptyHost => "empty host"
  | badNumber => "invalid port number"
  | badIpv4 => "invalid IPv4 address"
  | badIpv6 => "invalid IPv6 address"
  | badDomain => "invalid international domain name"
  | badHostCharacter => "invalid domain character"

/-- A server that cannot be addressed is a mistake in the configuration. -/
def toError (fault : Fault) : Error :=
  .configuration ("invalid directory URI: " ++ fault.message)

end Fault

/-- An address of groups stands in brackets. -/
def bracketed (host : List Char) : Except Fault Unit :=
  if host.getLast? == some ']' && isIpv6 ((host.drop 1).dropLast) then .ok () else .error .badIpv6

/-- Characters that no server name holds. -/
def isForbidden (c : Char) : Bool :=
  c == '\x00' || c == '\t' || c == '\n' || c == '\r' || c == ' ' || c == '#' || c == '/'
    || c == ':' || c == '<' || c == '>' || c == '?' || c == '@' || c == '[' || c == '\\'
    || c == ']' || c == '^' || c == '|'

def plainHost (host : List Char) : Except Fault Unit :=
  if host.head? == some '[' then bracketed host
  else if host.any isForbidden then .error .badHostCharacter
  else .ok ()

/-- Octets of a text in which some are given by their hexadecimal digits after a percent sign. -/
def percentDecode : List Char → List UInt8
  | '%' :: a :: b :: rest =>
    match Text.hexDigit? a, Text.hexDigit? b with
    | some high, some low => UInt8.ofNat (high * 16 + low) :: percentDecode rest
    | _, _ => 0x25 :: percentDecode (a :: b :: rest)
  | c :: rest => String.utf8EncodeChar c ++ percentDecode rest
  | [] => []

/-- Characters that no domain holds. -/
def isOutOfDomain (c : Char) : Bool :=
  isForbidden c || c == '%' || c.toNat < 0x20 || c.toNat == 0x7F

def webHost (host : List Char) : Except Fault Unit := do
  if host.head? == some '[' then bracketed host
  else
    let some name := Text.decode? (percentDecode host) | throw .badDomain
    let some labels := Domain.labels? name.toList | throw .badDomain
    if labels.any (·.any isOutOfDomain) then throw .badDomain
    let domain := ['.'].intercalate labels
    if domain.isEmpty then throw .emptyHost
    if endsInNumber domain && !isIpv4 domain then throw .badIpv4

end NameService.Uri
