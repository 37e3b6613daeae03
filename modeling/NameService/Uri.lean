import NameService.Uri.Host

/-!
Addresses of directory servers. Only two things about an address matter here: its scheme, and
whether it is an address at all. These modules stand for a general reader of addresses, and have no
more of it than decides the two.
-/

namespace NameService.Uri

/-- The three ways in which what follows a scheme is read. -/
inductive Kind where
  | plain
  | web
  | file
deriving DecidableEq, Repr

def Kind.ofScheme (scheme : String) : Kind :=
  if scheme = "file" then .file
  else if scheme ∈ ["http", "https", "ws", "wss", "ftp"] then .web
  else .plain

def isSchemeChar (c : Char) : Bool := c.isAlphanum || c == '+' || c == '-' || c == '.'

/-- The scheme in small letters, and what follows its colon. -/
def scheme? (text : List Char) : Option (String × List Char) :=
  match text with
  | [] => none
  | first :: _ =>
    if first.isAlpha then
      match text.dropWhile isSchemeChar with
      | ':' :: rest =>
        some (String.ofList ((text.takeWhile isSchemeChar).map Char.toLower), rest)
      | _ => none
    else none

/-- A character that ends the part of an address that names a server. -/
def endsAuthority (kind : Kind) (c : Char) : Bool :=
  c == '/' || c == '?' || c == '#' || (c == '\\' && kind != .plain)

/-- The name of a server: all that stands before its number, with colons inside brackets. -/
def takeHost (kind : Kind) (inside : Bool) : List Char → List Char
  | [] => []
  | c :: rest =>
    if (c == ':' && !inside) || endsAuthority kind c then []
    else c :: takeHost kind (if c == '[' then true else if c == ']' then false else inside) rest

/-- The number of a service at a server has sixteen bits and may be left out after its colon. -/
def serviceNumber (text : List Char) : Except Fault Unit :=
  let digits := text.takeWhile Char.isDigit
  if UInt16.size ≤ Text.decimal digits then .error .badNumber
  else match text.drop digits.length with
    | [] => .ok ()
    | c :: _ => if c ∈ ['/', '\\', '?', '#'] then .ok () else .error .badNumber

def hostAndNumber (kind : Kind) (named : Bool) (text : List Char) : Except Fault Unit := do
  let host := takeHost kind false text
  let rest := text.drop host.length
  if host.isEmpty && kind == .web then throw .emptyHost
  if kind == .plain then plainHost host else webHost host
  match rest with
  | ':' :: rest =>
    if host.isEmpty then throw .emptyHost
    serviceNumber rest
  | _ => pure ()
  -- A name or a password has to be given to somebody.
  if host.isEmpty && named then throw .emptyHost

/-- The part after two slashes. A name and a password may stand before the last at sign. -/
def authority (kind : Kind) (text : List Char) : Except Fault Unit :=
  let part := text.takeWhile (!endsAuthority kind ·)
  if part.contains '@' then
    let host := (part.reverse.takeWhile (· != '@')).reverse
    let user := part.take (part.length - host.length - 1)
    let rest := text.drop (user.length + 1)
    if user.isEmpty && host.isEmpty && !rest.isEmpty then .error .emptyHost
    else hostAndNumber kind (!user.isEmpty && user != [':']) rest
  else hostAndNumber kind false text

def isSlash (c : Char) : Bool := c == '/' || c == '\\'

/-- The name of a server of files; a drive may stand in its place. -/
def fileHost (text : List Char) : Except Fault Unit :=
  match text.takeWhile (!endsAuthority .file ·) with
  | [] => .ok ()
  | [drive, mark] =>
    if drive.isAlpha && (mark == ':' || mark == '|') then .ok () else webHost [drive, mark]
  | host => webHost host

/-- Blanks and control characters around an address do not count, nor do line ends inside it. -/
def clean (text : List Char) : List Char :=
  let outside (c : Char) : Bool := c ≤ ' '
  let inner := ((text.dropWhile outside).reverse.dropWhile outside).reverse
  inner.filter fun c => c != '\t' && c != '\n' && c != '\r'

/-- The scheme of an address. -/
def scheme (text : String) : Except Fault String := do
  let some (scheme, rest) := scheme? (clean text.toList) | throw .noScheme
  match Kind.ofScheme scheme with
  | .web => authority .web (rest.dropWhile isSlash)
  | .plain => match rest with
    | '/' :: '/' :: rest => authority .plain rest
    | _ => pure ()
  | .file => match rest with
    | first :: second :: rest =>
      if isSlash first && isSlash second then fileHost rest else pure ()
    | _ => pure ()
  return scheme

/-- An address under which a directory can be reached. -/
def isDirectory (text : String) : Bool :=
  match scheme text with
  | .ok scheme => scheme ∈ ["ldap", "ldaps", "ldapi"]
  | .error _ => false

end NameService.Uri
