/-
# Reading and writing whole numbers

Ports, status codes, lengths and argument values are whole numbers in decimal or, for chunk
sizes and addresses, in hexadecimal.  A numeral is one or more ASCII digits; a plus sign may
stand before it, a minus sign only where negative numbers are allowed, and the value has to
fit the range of the field that it is read into.
-/
import UpnpGateway.Text.Letter

namespace UpnpGateway.Text

/-- The value of an ASCII digit, with the letters A to F as digits from ten on. -/
def digitValue? (c : Char) : Option Nat :=
  if '0' ≤ c && c ≤ '9' then some (c.toNat - '0'.toNat)
  else if 'a' ≤ c && c ≤ 'f' then some (c.toNat - 'a'.toNat + 10)
  else if 'A' ≤ c && c ≤ 'F' then some (c.toNat - 'A'.toNat + 10)
  else none

/-- Whether `c` is a digit of the given radix, which is at most sixteen. -/
def isDigitOf (radix : Nat) (c : Char) : Bool :=
  (digitValue? c).any (· < radix)

/-- The value of a row of digits. -/
def valueOf (radix : Nat) (ds : List Char) : Nat :=
  ds.foldl (fun n c => n * radix + (digitValue? c).getD 0) 0

/-- The value of a text that consists of one or more digits and nothing else. -/
def digits? (radix : Nat) (s : List Char) : Option Nat :=
  if !s.isEmpty && s.all (isDigitOf radix) then some (valueOf radix s) else none

/-- Reads a number of at most `max`; one plus sign may stand before the digits. -/
def readNat? (radix max : Nat) (s : List Char) : Option Nat :=
  let ds := match s with
    | '+' :: r => r
    | _ => s
  (digits? radix ds).filter (· ≤ max)

/-- Reads a decimal number between `min` and `max`; one sign may stand before the digits. -/
def readInt? (min max : Int) (s : List Char) : Option Int :=
  let value := match s with
    | '-' :: r => (digits? 10 r).map fun n => -(n : Int)
    | '+' :: r => (digits? 10 r).map fun n => (n : Int)
    | _ => (digits? 10 s).map fun n => (n : Int)
  value.filter fun n => min ≤ n && n ≤ max

/-- The decimal digits of a number, without leading zeros. -/
def decimal (n : Nat) : List Char := Nat.toDigits 10 n

/-- The decimal digits of a number, after a minus sign if it is negative. -/
def signedDecimal (n : Int) : List Char :=
  match n with
  | .ofNat m => decimal m
  | .negSucc m => '-' :: decimal (m + 1)

/-- The hexadecimal digits of a number in lower case, without leading zeros. -/
def hexadecimal (n : Nat) : List Char := Nat.toDigits 16 n

/-- The last `width` decimal digits of a number, with zeros in front where it has fewer. -/
def paddedDecimal : Nat → Nat → List Char
  | 0, _ => []
  | width + 1, n => paddedDecimal width (n / 10) ++ [Nat.digitChar (n % 10)]

/-- The largest number of eight bits. -/
def maxByte : Nat := 255

/-- The largest number of sixteen bits, and so the largest port. -/
def maxPort : Nat := 65535

/-- The largest number of 32 bits. -/
def maxWord : Nat := 4294967295

/-- The largest number of 64 bits. -/
def maxLong : Nat := 18446744073709551615

/-- Reads a decimal number of sixteen bits. -/
def readPort? (s : List Char) : Option UInt16 := (readNat? 10 maxPort s).map UInt16.ofNat

/-- Reads a decimal number of 32 bits. -/
def readWord? (s : List Char) : Option UInt32 := (readNat? 10 maxWord s).map UInt32.ofNat

end UpnpGateway.Text
