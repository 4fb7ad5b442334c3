/-
# URLs

A URL has a scheme, in most cases an authority, a path, and perhaps a query and a fragment.
This file sets up the parts and puts them together again.  The parts are kept in their
written form: lower-case scheme and host, no default port, dots resolved, and everything
encoded that its part does not allow.
-/
import UpnpGateway.Net.Ip

namespace UpnpGateway.Net

open UpnpGateway.Text

/-- The host of a URL. -/
inductive Host where
  /-- A name, which is empty for some schemes. -/
  | name (chars : List Char)
  /-- An address of four bytes. -/
  | ipv4 (ip : Ipv4)
  /-- An address of sixteen bytes. -/
  | ipv6 (ip : Ipv6)
deriving DecidableEq, Repr

/-- The characters of a host; an address of sixteen bytes stands in brackets, and without a
decimal tail. -/
def Host.chars : Host → List Char
  | name chars => chars
  | ipv4 ip => ip.chars
  | ipv6 ip => '[' :: Ipv6.shortened ip.groups ++ [']']

/-- What stands behind the two slashes of a URL. -/
structure Authority where
  /-- The user name, often empty. -/
  user : List Char
  /-- The password, often empty. -/
  password : List Char
  /-- The host. -/
  host : Host
  /-- The port, unless it is the default one of the scheme. -/
  port : Option Nat
deriving DecidableEq, Repr

/-- The characters of an authority. -/
def Authority.chars (a : Authority) : List Char :=
  let password := if a.password.isEmpty then [] else ':' :: a.password
  let info := if a.user.isEmpty && a.password.isEmpty then [] else a.user ++ password ++ ['@']
  info ++ a.host.chars ++ (a.port.elim [] fun p => ':' :: decimal p)

/-- The path of a URL. -/
inductive Path where
  /-- Segments, each of which follows a slash. -/
  | segments (parts : List (List Char))
  /-- A text without structure, as in `mailto:`. -/
  | plain (chars : List Char)
deriving DecidableEq, Repr

/-- The characters of a path. -/
def Path.chars : Path → List Char
  | segments parts => parts.flatMap ('/' :: ·)
  | plain chars => chars

/-- A URL. -/
structure Url where
  /-- The scheme in lower case. -/
  scheme : List Char
  /-- The authority, if there is one. -/
  authority : Option Authority
  /-- The path. -/
  path : Path
  /-- The query without its question mark. -/
  query : Option (List Char)
  /-- The fragment without its number sign. -/
  fragment : Option (List Char)
deriving DecidableEq, Repr

namespace Url

/-- The characters of a URL.  Without an authority, a path that begins with an empty segment
gets a dot in front, so that its slashes do not announce an authority. -/
def chars (u : Url) : List Char :=
  let authority :=
    match u.authority, u.path with
    | some a, _ => "//".toList ++ a.chars
    | none, .segments ([] :: _ :: _) => "/.".toList
    | none, _ => []
  u.scheme ++ ':' :: authority ++ u.path.chars ++ (u.query.elim [] ('?' :: ·)) ++
    (u.fragment.elim [] ('#' :: ·))

/-- The written form. -/
def text (u : Url) : String := String.ofList u.chars

/-- The default ports of the special schemes; files have none. -/
def specialSchemes : List (String × Option Nat) :=
  [("http", some 80), ("https", some 443), ("ws", some 80), ("wss", some 443),
    ("ftp", some 21), ("file", none)]

/-- Whether a scheme is one of the special ones, which always have a path of segments and in
which a backslash counts as a slash. -/
def isSpecial (scheme : List Char) : Bool := specialSchemes.any (·.1.toList == scheme)

/-- The default port of a scheme. -/
def defaultPort? (scheme : List Char) : Option Nat :=
  (specialSchemes.find? (·.1.toList == scheme)).bind (·.2)

/-- The host, if there is one and it is not empty. -/
def host? (u : Url) : Option Host :=
  u.authority.bind fun a => if a.host == .name [] then none else some a.host

/-- The port, with the default one of the scheme if none is written. -/
def port? (u : Url) : Option Nat :=
  (u.authority.bind (·.port)).or (defaultPort? u.scheme)

/-- The path and, if there is one, the query, as they stand in a request line. -/
def requestTarget (u : Url) : List Char :=
  u.path.chars ++ u.query.elim [] ('?' :: ·)

end Url

end UpnpGateway.Net
