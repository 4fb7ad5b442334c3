/-
# Truth values

A truth value is written as a digit, and may be given as a digit or as a word, in any case of
letters.
-/
import UpnpGateway.Text.Blank
import UpnpGateway.Text.Letter

namespace UpnpGateway.Text

/-- The truth value that a text stands for, blanks at its ends aside. -/
def readTruth? (s : List Char) : Option Bool :=
  let word := lower (trim s)
  if ["1", "true", "yes"].any (·.toList == word) then some true
  else if ["0", "false", "no"].any (·.toList == word) then some false
  else none

/-- The digit of a truth value. -/
def truthDigit (b : Bool) : String := if b then "1" else "0"

end UpnpGateway.Text
