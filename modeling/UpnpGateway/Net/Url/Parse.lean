/-
# Reading URLs

A URL is read either on its own or against a base, from which a reference takes what it
leaves out.  Blanks and controls at the ends of the text, and tabs and line breaks anywhere
in it, do not count.  A reference with a scheme of its own is complete, except that one with
the special scheme of its base may still leave out the authority.
-/
import UpnpGateway.Net.Url.Basic
import UpnpGateway.Net.Domain.Name
import UpnpGateway.Net.Url.Percent
import UpnpGateway.Net.Url.Walk

namespace UpnpGateway.Net

open UpnpGateway.Text

namespace Host

/-- A number in the last label of a host: hexadecimal behind `0x`, octal behind a zero, and
decimal otherwise. -/
def number? (s : List Char) : Option Nat :=
  match s with
  | [] => none
  | '0' :: x :: r =>
    if x == 'x' || x == 'X' then if r.isEmpty then some 0 else digits? 16 r
    else digits? 8 (x :: r)
  | _ => digits? 10 s

/-- The labels of a host, without an empty one at the end. -/
def labels (s : List Char) : List (List Char) :=
  let ls := splitWhere (· == '.') s
  if 2 ≤ ls.length && ls.getLast? == some [] then ls.dropLast else ls

/-- Whether a host is an address of four bytes rather than a name: its last label is a
number. -/
def endsInNumber (s : List Char) : Bool :=
  match (labels s).getLast? with
  | some l => (!l.isEmpty && l.all Char.isDigit) || (number? l).isSome
  | none => false

/-- The address of one to four numbers, of which the last one fills all bytes that are
left. -/
def ipv4OfNumbers? (ns : List Nat) : Option Ipv4 :=
  match ns.reverse with
  | [] => none
  | last :: front =>
    let front := front.reverse
    let bits := 8 * (4 - front.length)
    if 4 ≤ front.length || 1 <<< bits ≤ last || front.any (255 < ·) then none
    else
      let n := (front.foldl (fun n p => n * 256 + p) 0) <<< bits + last
      some ⟨UInt8.ofNat (n >>> 24), UInt8.ofNat (n >>> 16), UInt8.ofNat (n >>> 8), UInt8.ofNat n⟩

/-- A character that no host has. -/
def isForbidden (c : Char) : Bool :=
  c == '\x00' || "\t\n\r #/:<>?@[\\]^|".toList.contains c

/-- The address between brackets. -/
def ofBrackets? (s : List Char) : Option Host :=
  match s.reverse with
  | ']' :: r => (Ipv6.ofChars? r.reverse).map .ipv6
  | _ => none

/-- The host of a URL with a special scheme, or without one. -/
def ofChars? (special : Bool) (s : List Char) : Option Host :=
  match s with
  | '[' :: r => ofBrackets? r
  | _ =>
    if special then
      let bytes := Percent.decode s
      let decoded := decodeUtf8 bytes
      if encodeUtf8 decoded != bytes then none
      else
        match Domain.toAscii? decoded with
        | none | some [] => none
        | some ascii =>
          if endsInNumber ascii then (((labels ascii).mapM number?).bind ipv4OfNumbers?).map .ipv4
          else some (.name ascii)
    else if s.any isForbidden then none
    else some (.name (Percent.encode Percent.isControl s))

end Host

namespace Url

/-- A text as it is read: without blanks and controls at its ends. -/
def clean (s : List Char) : List Char := dropEndsWhile (fun c => c.toNat ≤ 0x20) s

/-- The scheme that a text begins with, and what stands behind its colon. -/
def cutScheme (s : List Char) : Option (List Char × List Char) :=
  match cutFirst ':' s with
  | some (scheme, rest) =>
    let scheme := solid scheme
    if scheme.head?.any Char.isAlpha &&
        scheme.all fun c => c.isAlphanum || c == '+' || c == '-' || c == '.' then
      some (lower scheme, rest)
    else none
  | none => none

/-- The parts of a text before its query, of its query and of its fragment. -/
def cutTail (s : List Char) : List Char × Option (List Char) × Option (List Char) :=
  let (s, fragment) :=
    match cutFirst '#' s with
    | some (a, b) => (a, some (solid b))
    | none => (s, none)
  match cutFirst '?' s with
  | some (a, b) => (a, some (solid b), fragment)
  | none => (s, none, fragment)

/-- Reads the digits of a port; no digits are no port, and neither is the default one. -/
def portOf? (scheme ds : List Char) : Option (Option Nat) :=
  if ds.isEmpty then some none
  else
    ((digits? 10 ds).filter (· ≤ maxPort)).map fun p =>
      if defaultPort? scheme == some p then none else some p

/-- The host and the text behind the first colon outside brackets. -/
def cutPort (s : List Char) : List Char × Option (List Char) :=
  match s with
  | '[' :: _ =>
    match cutFirst ']' s with
    | some (ip, ':' :: port) => (ip ++ [']'], some port)
    | _ => (s, none)
  | _ =>
    match cutFirst ':' s with
    | some (host, port) => (host, some port)
    | none => (s, none)

/-- The user name, the password and the text behind the last at sign.  An at sign may stand
without a user name before it, but `last` says whether anything follows the authority, and an
authority of an at sign alone has to be the end. -/
def cutUser (last : Bool) (s : List Char) : Option (List Char × List Char × List Char) :=
  match cutLast '@' s with
  | none => some ([], [], s)
  | some ([], rest) => if rest.isEmpty && !last then none else some ([], [], rest)
  | some (info, rest) =>
    match cutFirst ':' info with
    | some (user, password) => some (user, password, rest)
    | none => some (info, [], rest)

/-- Reads an authority, and returns the path that begins in it.  A special scheme needs a host,
and so does a user name or a port.  A backslash ends a port; if it ends the authority of no
special scheme, it belongs to the path. -/
def authority? (scheme s : List Char) (last : Bool) : Option (Authority × List Char) := do
  let (user, password, rest) ← cutUser last s
  let (host, port) := cutPort rest
  if host.isEmpty &&
      (isSpecial scheme || !user.isEmpty || !password.isEmpty || port.isSome) then none
  else
    let host ← Host.ofChars? (isSpecial scheme) host
    let behind := port.getD []
    let port ← portOf? scheme (behind.takeWhile (· != '\\'))
    return (⟨Percent.encode Percent.inUserInfo user, Percent.encode Percent.inUserInfo password,
      host, port⟩, behind.dropWhile (· != '\\'))

/-- Puts query and fragment to a URL. -/
def withTail (u : Url) (query fragment : Option (List Char)) : Url :=
  { u with
    query := query.map (Percent.encode (Percent.inQuery (isSpecial u.scheme)))
    fragment := fragment.map (Percent.encode Percent.inFragment) }

/-- The path behind an authority. -/
def pathBehind (scheme s : List Char) : Path :=
  match next? s with
  | none => .segments (if isSpecial scheme then [[]] else [])
  | some (c, r) =>
    .segments ((Trail.root.walk scheme (if isSlash (isSpecial scheme) c then r else s)).segments)

/-- Reads authority and path behind the slashes that announce an authority; `last` says whether
neither a query nor a fragment follows. -/
def ofAuthority? (scheme s : List Char) (last : Bool) : Option Url := do
  let slash := isSlash (isSpecial scheme)
  let path := s.dropWhile (!slash ·)
  let (authority, begun) ← authority? scheme (solid (s.takeWhile (!slash ·)))
    (last && path.isEmpty)
  return ⟨scheme, some authority, pathBehind scheme (begun ++ path), none, none⟩

/-- The scheme of files. -/
def fileScheme : List Char := "file".toList

/-- The authority of a file without a host. -/
def localFile : Authority := ⟨[], [], .name [], none⟩

/-- The file that a walk has come to. -/
def ofTrail (authority : Authority) (t : Trail) : Url :=
  ⟨fileScheme, some authority, .segments (rooted t.segments), none, none⟩

/-- The segments of the path of a URL. -/
def segments (u : Url) : List (List Char) :=
  match u.path with
  | .segments parts => parts
  | .plain _ => []

/-- Reads a file of which the host is written behind two slashes.  A path that names a drive
has no host. -/
def ofFileHost? (s : List Char) : Option Url :=
  let host := solid (s.takeWhile (!isSlash true ·))
  let rest := s.dropWhile (!isSlash true ·)
  if isDrive host then some (ofTrail localFile (Trail.root.walk fileScheme s))
  else if host.isEmpty then some (ofTrail localFile (Trail.root.walk fileScheme rest))
  else
    (Host.ofChars? true host).map fun h =>
      if h == .name "localhost".toList then
        ofTrail localFile (Trail.root.walk fileScheme rest)
      else
        let t := Trail.root.walk fileScheme (rest.drop 1)
        ofTrail (if t.drive then localFile else { localFile with host := h }) t

/-- Reads what stands behind the scheme of a file, against a base that is a file too.  A path
from the root stays on the drive of the base, or else on its host. -/
def ofFile? (base : Option Url) (s : List Char) : Option Url :=
  match next? s with
  | none =>
    some ((base.map fun b => { b with fragment := none }).getD
      (ofTrail localFile (Trail.root.walk fileScheme s)))
  | some (c, r) =>
    if isSlash true c then
      match next? r with
      | some (d, t) => if isSlash true d then ofFileHost? t else some (fromRoot r)
      | none => some (fromRoot r)
    else
      match base with
      | some b =>
        if startsWithDrive s then some (ofTrail localFile (Trail.root.walk fileScheme s))
        else
          some (ofTrail (b.authority.getD localFile)
            ((Trail.beside (segments b)).walk fileScheme s))
      | none => some (ofTrail localFile (Trail.root.walk fileScheme s))
where
  /-- Reads a path from the root, behind its slash. -/
  fromRoot (r : List Char) : Url :=
    match base with
    | some b =>
      if startsWithDrive r then ofTrail localFile (Trail.root.walk fileScheme r)
      else
        match (segments b).head?.filter isWrittenDrive with
        | some drive => ofTrail localFile ((Trail.inside [drive]).walk fileScheme r)
        | none => ofTrail (b.authority.getD localFile) (Trail.root.walk fileScheme r)
    | none => ofTrail localFile (Trail.root.walk fileScheme r)

/-- Reads a reference without a scheme of its own, of which query and fragment are cut off,
against a base whose path has segments; `last` says whether it has none of these.  Two slashes
announce an authority right behind them; if there are backslashes among them, the authority is
behind all slashes. -/
def ofRelative? (base : Url) (parts : List (List Char)) (s : List Char) (last : Bool) :
    Option Url :=
  if base.scheme == fileScheme then ofFile? (some base) s
  else
    match next? s with
    | none => some base
    | some (c, r) =>
      if isSlash true c then
        match next? r with
        | some (d, t) =>
          if c == '/' && d == '/' then ofAuthority? base.scheme t last
          else if isSlash true d then ofAuthority? base.scheme (skipSlashes t) last
          else some (onPath (Trail.root.walk base.scheme r))
        | none => some (onPath (Trail.root.walk base.scheme r))
      else some (onPath ((Trail.inside parts.dropLast).walk base.scheme s))
where
  /-- The base with another path. -/
  onPath (t : Trail) : Url := { base with path := .segments t.segments }

/-- Reads a URL, against a base if there is one. -/
def ofChars? (base : Option Url) (s : List Char) : Option Url :=
  let s := clean s
  match cutScheme s with
  | some (scheme, rest) =>
    let (s, query, fragment) := cutTail rest
    let last := query.isNone && fragment.isNone
    if scheme == fileScheme then
      let base := base.filter (·.scheme == scheme)
      let inherited := if (solid s).isEmpty && query.isNone then base.bind (·.query) else none
      (ofFile? base s).map fun u =>
        let u := withTail u query fragment
        { u with query := u.query.or inherited }
    else if isSpecial scheme then
      match base with
      | some b =>
        if !announcesAuthority s && b.scheme == scheme then relative b s query fragment
        else (ofAuthority? scheme (skipSlashes s) last).map (withTail · query fragment)
      | none => (ofAuthority? scheme (skipSlashes s) last).map (withTail · query fragment)
    else
      match solid s with
      | '/' :: '/' :: r => (ofAuthority? scheme r last).map (withTail · query fragment)
      | '/' :: r =>
        some (withTail ⟨scheme, none, .segments (Trail.root.walk scheme r).segments, none, none⟩
          query fragment)
      | s =>
        some (withTail ⟨scheme, none, .plain (Percent.encode Percent.isControl s), none, none⟩
          query fragment)
  | none =>
    let (s, query, fragment) := cutTail s
    base.bind fun b => relative b s query fragment
where
  /-- Reads a reference without a scheme of its own; one that leaves out everything before
  its fragment keeps the query of the base, and a base with a plain path takes no other. -/
  relative (b : Url) (s : List Char) (query fragment : Option (List Char)) : Option Url :=
    let bare := (solid s).isEmpty && query.isNone
    match b.path with
    | .plain _ =>
      if bare && fragment.isSome then some { withTail b none fragment with query := b.query }
      else none
    | .segments parts =>
      (ofRelative? b parts s (query.isNone && fragment.isNone)).map fun u =>
        if bare then { withTail b none fragment with query := b.query }
        else withTail u query fragment

/-- Reads a URL that stands on its own. -/
def parse? (s : String) : Option Url := ofChars? none s.toList

/-- Reads a reference against a base. -/
def join? (base : Url) (s : String) : Option Url := ofChars? (some base) s.toList

end Url

end UpnpGateway.Net
