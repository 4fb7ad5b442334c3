/-
# Composed form

The same text can be written in several ways: with composed characters or with marks, with the
marks in another order, and with characters that only repeat others.  The composed form is the
one spelling that all of these share.  It is found by taking every character apart, sorting the
marks by their classes, and composing again what can be composed.

The syllables of Hangul are composed of letters by a rule, and have no table.
-/
import UpnpGateway.Text.Canonical.Class
import UpnpGateway.Text.Canonical.Forms
import UpnpGateway.Text.Canonical.Pairs

namespace UpnpGateway.Text.Canonical

/-- The first syllable, of 19 leading letters times 21 vowels times 28 trailing letters. -/
def firstSyllable : Nat := 0xAC00

/-- The first leading letter. -/
def firstLeading : Nat := 0x1100

/-- The first vowel. -/
def firstVowel : Nat := 0x1161

/-- The place before the first trailing letter, which stands for none. -/
def noTrailing : Nat := 0x11A7

/-- The letters of a syllable. -/
def syllableLetters? (c : Char) : Option (List Char) :=
  let n := c.toNat - firstSyllable
  if c.toNat < firstSyllable || 19 * 21 * 28 ≤ n then none
  else
    let open_ := [Char.ofNat (firstLeading + n / (21 * 28)), Char.ofNat (firstVowel + n / 28 % 21)]
    some (if n % 28 == 0 then open_ else open_ ++ [Char.ofNat (noTrailing + n % 28)])

/-- The syllable of a leading letter and a vowel, or of a syllable without a trailing letter and
that letter. -/
def syllable? (a b : Char) : Option Char :=
  let l := a.toNat - firstLeading
  let v := b.toNat - firstVowel
  let s := a.toNat - firstSyllable
  let t := b.toNat - noTrailing
  if firstLeading ≤ a.toNat && l < 19 && firstVowel ≤ b.toNat && v < 21 then
    some (Char.ofNat (firstSyllable + (l * 21 + v) * 28))
  else if firstSyllable ≤ a.toNat && s < 19 * 21 * 28 && s % 28 == 0 && noTrailing < b.toNat &&
      t < 28 then
    some (Char.ofNat (a.toNat + t))
  else none

/-- Takes a character apart; what it is composed of is taken apart again, up to a given
depth. -/
def decomposeTo : Nat → Char → List Char
  | 0, c => [c]
  | depth + 1, c =>
    match pairOf? c with
    | some (a, b) => decomposeTo depth a ++ [b]
    | none => ((meaning? c).or (syllableLetters? c)).getD [c]

/-- Takes a character apart.  No character is composed in more than three steps. -/
def decompose (c : Char) : List Char := decomposeTo 4 c

/-- Puts a character behind a reversed text; a mark goes before the marks of higher classes
that stand at its end. -/
def place (c : Char) : List Char → List Char
  | [] => [c]
  | d :: s =>
    if combiningClass c != 0 && combiningClass c < combiningClass d then d :: place c s
    else c :: d :: s

/-- Sorts the marks between other characters by their classes; marks of one class keep their
order. -/
def sortMarks (s : List Char) : List Char := (s.foldl (fun placed c => place c placed) []).reverse

/-- Composes what follows the character `base` with it, where `marks` are the marks between the
two that could not be composed, the last one first.  A mark can be composed only if no mark of
its own or a higher class is between. -/
def composeBehind (base : Char) (marks : List Char) : List Char → List Char
  | [] => base :: marks.reverse
  | c :: s =>
    let near := marks.head?.all fun m => combiningClass m < combiningClass c
    match if near then (composed? base c).or (syllable? base c) else none with
    | some d => composeBehind d marks s
    | none =>
      if combiningClass c == 0 then base :: marks.reverse ++ composeBehind c [] s
      else composeBehind base (c :: marks) s

/-- Composes what can be composed. -/
def compose : List Char → List Char
  | [] => []
  | c :: s => if combiningClass c == 0 then composeBehind c [] s else c :: compose s

/-- The composed form of a text. -/
def normalize (s : List Char) : List Char := compose (sortMarks (s.flatMap decompose))

end UpnpGateway.Text.Canonical
