/-
# Letter case

Names that a gateway sends are compared without regard to the case of the letters A to Z.
Other letters have no case here, so `ı` and `I` stay different.
-/
import UpnpGateway.Text.Cut

namespace UpnpGateway.Text

/-- The text with the letters A to Z in lower case. -/
def lower (s : List Char) : List Char := s.map Char.toLower

/-- The text with the letters a to z in upper case. -/
def upper (s : List Char) : List Char := s.map Char.toUpper

/-- Whether two texts agree when the case of the letters A to Z is ignored. -/
def sameLetters (s t : List Char) : Bool := lower s == lower t

/-- Whether `w` occurs in `s` when the case of the letters A to Z is ignored. -/
def hasLetters (w s : List Char) : Bool := hasRun (lower w) (lower s)

theorem sameLetters_iff {s t : List Char} : sameLetters s t = true ↔ lower s = lower t := by
  simp [sameLetters]

@[simp] theorem sameLetters_refl (s : List Char) : sameLetters s s = true := by
  simp [sameLetters]

end UpnpGateway.Text
