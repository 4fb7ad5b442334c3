/-
# Percent encoding

Each part of a URL has its own set of characters that must not stand in it as they are; they
are written as a percent sign and two hexadecimal digits for each of their bytes.  The sets
grow from the inside of a URL to its authority, and every one of them has the controls and
all characters outside ASCII in it.
-/
import UpnpGateway.Text.Numeral
import UpnpGateway.Text.Utf8

namespace UpnpGateway.Net.Percent

open UpnpGateway.Text

/-- Controls and characters outside ASCII. -/
def isControl (c : Char) : Bool := c.toNat < 0x20 || 0x7E < c.toNat

/-- The characters that are encoded in a fragment. -/
def inFragment (c : Char) : Bool := isControl c || " \"<>\x60".toList.contains c

/-- The characters that are encoded in the query of a URL; `special` says whether its scheme
is one of the special ones. -/
def inQuery (special : Bool) (c : Char) : Bool :=
  isControl c || " \"#<>".toList.contains c || (special && c == '\'')

/-- The characters that are encoded in a path. -/
def inPath (c : Char) : Bool := inFragment c || "#?\x7b\x7d".toList.contains c

/-- The characters that are encoded in a user name or password. -/
def inUserInfo (c : Char) : Bool := inPath c || "/:;=@[\\]^|".toList.contains c

/-- The two digits of a byte. -/
def byteDigits (b : UInt8) : List Char :=
  [b.toNat / 16, b.toNat % 16].map fun d => (Nat.digitChar d).toUpper

/-- The text with the characters of a set encoded. -/
def encode (set : Char → Bool) (s : List Char) : List Char :=
  s.flatMap fun c =>
    if set c then (String.utf8EncodeChar c).flatMap fun b => '%' :: byteDigits b else [c]

/-- The bytes of a text with its percent encodings resolved; a percent sign that begins none
stays. -/
def decode : List Char → List UInt8
  | '%' :: a :: b :: s =>
    match digitValue? a, digitValue? b with
    | some x, some y => UInt8.ofNat (x * 16 + y) :: decode s
    | _, _ => String.utf8EncodeChar '%' ++ decode (a :: b :: s)
  | c :: s => String.utf8EncodeChar c ++ decode s
  | [] => []

end UpnpGateway.Net.Percent
