/-
# Domain names

A domain name is compared and sent in ASCII.  It is folded and brought into composed form; a
label with other characters left in it is then written in Punycode, behind a mark that says so.
A label that has this mark already has to be the written form of characters that folding does
not change.  Names with characters that could mislead a reader are refused.
-/
import UpnpGateway.Net.Domain.Direction
import UpnpGateway.Net.Domain.Fold
import UpnpGateway.Net.Domain.Joiner
import UpnpGateway.Net.Domain.Punycode
import UpnpGateway.Text.Canonical.Normal
import UpnpGateway.Text.Glyphless

namespace UpnpGateway.Net.Domain

open UpnpGateway.Text

/-- The characters beyond ASCII that no name has although they are assigned. -/
def barredRanges : Array (Nat × Nat) := #[
    (0x600, 0x605), (0x61C, 0x61C), (0x6DD, 0x6DD), (0x70F, 0x70F), (0x890, 0x891),
    (0x8E2, 0x8E2), (0x1680, 0x1680), (0x200E, 0x200F), (0x2024, 0x2026), (0x2028, 0x202E),
    (0x2066, 0x2069), (0x2488, 0x249B), (0x2FF0, 0x2FFF), (0x31EF, 0x31EF), (0x33C2, 0x33C2),
    (0x33C7, 0x33C7), (0x33D8, 0x33D8), (0xFE12, 0xFE12), (0xFE19, 0xFE19), (0xFE30, 0xFE30),
    (0xFE52, 0xFE52), (0xFFF9, 0xFFFD), (0x110BD, 0x110BD), (0x110CD, 0x110CD),
    (0x13430, 0x1343F), (0x1F100, 0x1F100), (0xE0001, 0xE0001), (0xE0020, 0xE007F)]

/-- A character that no name has. -/
def isBarred (c : Char) : Bool :=
  isControl c || " %#/:<>?@[\\]^|".toList.contains c || isUnassigned c || inRanges barredRanges c

/-- The name as it is compared. -/
def folded (name : List Char) : List Char := Canonical.normalize (name.flatMap fold)

/-- Whether a text has characters beyond ASCII. -/
def isWide (s : List Char) : Bool := s.any fun c => 0x80 ≤ c.toNat

/-- What a label in Punycode begins with. -/
def codeMark : List Char := "xn--".toList

/-- The most characters that are read behind the mark of Punycode. -/
def maxCode : Nat := 2000

/-- The characters of a folded label.  Behind the mark of Punycode, they have to be some that
need it and that folding does not change. -/
def labelOf? (label : List Char) : Option (List Char) :=
  if codeMark.isPrefixOf label then
    if isWide label || maxCode + codeMark.length < label.length then none
    else
      (Punycode.decode? (label.drop codeMark.length)).filter fun cs =>
        isWide cs && !cs.any isBarred && folded cs == cs
  else some label

/-- The most characters that a label can have if it is written in Punycode. -/
def maxWide : Nat := 1000

/-- Whether a label begins with a character of its own, has joiners only where they make a
difference, and is not too long to be written. -/
def isSound (label : List Char) : Bool :=
  !label.head?.any isMark && joinersFit [] label && (!isWide label || label.length ≤ maxWide)

/-- A label in ASCII. -/
def written (label : List Char) : List Char :=
  if isWide label then codeMark ++ Punycode.encode label else label

/-- A domain name in ASCII. -/
def toAscii? (name : List Char) : Option (List Char) :=
  let name := folded name
  if name.any isBarred then none
  else
    ((splitWhere (· == '.') name).mapM labelOf?).bind fun labels =>
      if labels.all isSound && Direction.agree labels then
        some (List.intercalate ['.'] (labels.map written))
      else none

end UpnpGateway.Net.Domain
