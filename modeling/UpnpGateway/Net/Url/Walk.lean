/-
# Walking along a path

The path of a reference is a row of segments between slashes.  Reading it is a walk that starts
at the root or beside the last segment of a base: most segments lead one step down, a dot stays,
and two dots lead one step up, but never above the root and never out of a drive.  A drive is a
segment of a letter and a colon, for which a bar may stand.

Tabs and line breaks do not count.
-/
import UpnpGateway.Net.Url.Basic
import UpnpGateway.Net.Url.Percent
import UpnpGateway.Text.Blank

namespace UpnpGateway.Net.Url

open UpnpGateway.Text

/-- A character that does not count in a URL. -/
def isBreak (c : Char) : Bool := c == '\t' || c == '\n' || c == '\r'

/-- The characters of a text that count. -/
def solid (s : List Char) : List Char := s.filter (!isBreak ·)

/-- The next character that counts, and what stands behind it. -/
def next? : List Char → Option (Char × List Char)
  | [] => none
  | c :: s => if isBreak c then next? s else some (c, s)

/-- Whether a character separates the segments of a path; in a special scheme, a backslash does
too. -/
def isSlash (special : Bool) (c : Char) : Bool := c == '/' || (special && c == '\\')

/-- What stands behind the slashes and backslashes at the start of a text. -/
def skipSlashes (s : List Char) : List Char := s.dropWhile fun c => isSlash true c || isBreak c

/-- Whether a text begins with at least two slashes or backslashes. -/
def announcesAuthority (s : List Char) : Bool :=
  match solid s with
  | c :: d :: _ => isSlash true c && isSlash true d
  | _ => false

/-- Whether a segment stands for the directory that it is in. -/
def isDot (s : List Char) : Bool :=
  s == ['.'] || lower s == "%2e".toList

/-- Whether a segment stands for the directory above. -/
def isDoubleDot (s : List Char) : Bool :=
  ["..", ".%2e", "%2e.", "%2e%2e"].any (·.toList == lower s)

/-- Whether a segment names a drive, as a letter and a colon or bar. -/
def isDrive (s : List Char) : Bool :=
  match s with
  | [c, d] => c.isAlpha && (d == ':' || d == '|')
  | _ => false

/-- Whether a segment names a drive, with a colon. -/
def isWrittenDrive (s : List Char) : Bool := isDrive s && s.getLast? == some ':'

/-- Whether the first segment of a path names a drive. -/
def startsWithDrive (s : List Char) : Bool := isDrive ((solid s).takeWhile (!isSlash true ·))

/-- How far a walk has come. -/
structure Trail where
  /-- The segments that a slash stands behind. -/
  closed : List (List Char)
  /-- What is written behind the last slash. -/
  opened : List Char
  /-- Whether the walk has entered a drive. -/
  drive : Bool
deriving DecidableEq, Repr

namespace Trail

/-- Inside a directory. -/
def inside (directory : List (List Char)) : Trail := ⟨directory, [], false⟩

/-- At the root. -/
def root : Trail := inside []

/-- Beside the last segment of the path of a file; if that names a drive, at its end. -/
def beside (parts : List (List Char)) : Trail :=
  ⟨parts.dropLast, (parts.getLast?.filter isWrittenDrive).getD [], false⟩

/-- The segments of the path that a walk has made. -/
def segments (t : Trail) : List (List Char) := t.closed ++ [t.opened]

/-- Behind a slash. -/
def close (t : Trail) : Trail := { t with closed := t.closed ++ [t.opened], opened := [] }

/-- Whether a segment names a drive, or a place on a drive behind a backslash. -/
def isOnDrive (s : List Char) : Bool := isDrive (s.takeWhile (· != '\\'))

/-- One step up, if that leads neither above the root nor out of a drive. -/
def up (t : Trail) : Trail :=
  if t.closed.getLast?.any isOnDrive then t else { t with closed := t.closed.dropLast }

/-- The rest of a segment that begins with a drive at which a tab or line break stands. -/
def behindDrive? (s : List Char) : Option (List Char) :=
  match next? s with
  | none => none
  | some (c, s) =>
    match next? s with
    | some (d, b :: s) =>
      if isWrittenDrive [c, d] && isBreak b && !(solid s).isEmpty then some (solid s) else none
    | _ => none

/-- Walks along one segment; `ends` says whether a slash stands behind it.  In the path of a
file, the text behind a drive begins a segment of its own where the drive is known to have
ended. -/
def step (file : Bool) (t : Trail) (s : List Char) (ends : Bool) : Trail :=
  let inRoot := file && t.closed.isEmpty
  let t := if inRoot && isWrittenDrive t.opened && !(solid s).isEmpty then t.close else t
  let first := inRoot && t.closed.isEmpty && t.opened.isEmpty
  let text := Percent.encode Percent.inPath (solid s)
  let finish := fun (t : Trail) => if ends then t.close else t
  if isDoubleDot text then if t.opened.isEmpty then t.up else finish t
  else if isDot text then if t.opened.isEmpty then t else t.close
  else if first && isDrive text then
    finish { t with opened := text.take 1 ++ [':'], drive := true }
  else
    match if first then behindDrive? s else none with
    | some rest =>
      finish { t with closed := [text.take 2], opened := Percent.encode Percent.inPath rest }
    | none => finish { t with opened := t.opened ++ text }

/-- Walks along segments. -/
def steps (file : Bool) (t : Trail) : List (List Char) → Trail
  | [] => t
  | [s] => t.step file s false
  | s :: rest => (t.step file s true).steps file rest

/-- Walks along the segments of a text. -/
def walk (t : Trail) (scheme s : List Char) : Trail :=
  t.steps (scheme == "file".toList) (splitWhere (isSlash (isSpecial scheme)) s)

end Trail

/-- The segments of the path of a file, which has no empty ones in front. -/
def rooted (parts : List (List Char)) : List (List Char) :=
  match parts.dropWhile List.isEmpty with
  | [] => [[]]
  | parts => parts

end UpnpGateway.Net.Url
