/-
# Argument values

The value of an argument is a text, a number or a truth value, whichever the caller has.  It
is written for the data type that the service declares: a truth value as a digit, a number in
decimal if it is in the range of its type, and anything else as the text that it is.
-/
import UpnpGateway.Device.DataType
import UpnpGateway.Text.Quoted
import UpnpGateway.Text.Truth

namespace UpnpGateway.Soap

open UpnpGateway.Text

/-- The value of an argument. -/
inductive Value where
  /-- A text. -/
  | text (s : String)
  /-- A number without a sign. -/
  | unsigned (n : UInt64)
  /-- A number with a sign. -/
  | signed (n : Int64)
  /-- A truth value. -/
  | truth (b : Bool)
deriving DecidableEq, Repr

/-- Why a value cannot be written for a data type. -/
inductive EncodeError where
  /-- It is no truth value. -/
  | notBoolean (value : Value)
  /-- It is a text that is no number. -/
  | notInteger (s : String)
  /-- It is a number outside the range of the type. -/
  | outOfRange (n : Int) (type : IntegerType)
deriving DecidableEq, Repr

namespace Value

/-- The written form of a value in messages. -/
def shown : Value → String
  | text s => quoted s
  | unsigned n => "UInt(" ++ String.ofList (decimal n.toNat) ++ ")"
  | signed n => "Int(" ++ String.ofList (signedDecimal n.toInt) ++ ")"
  | truth b => "Bool(" ++ (if b then "true" else "false") ++ ")"

/-- The value as a text. -/
def plain : Value → String
  | text s => s
  | unsigned n => String.ofList (decimal n.toNat)
  | signed n => String.ofList (signedDecimal n.toInt)
  | truth b => truthDigit b

/-- The truth value that a value stands for. -/
def truth? : Value → Option Bool
  | text s => readTruth? s.toList
  | unsigned n => if n == 0 then some false else if n == 1 then some true else none
  | signed n => if n == 0 then some false else if n == 1 then some true else none
  | truth b => some b

/-- The largest number that a text can stand for; with its sign it has 128 bits. -/
def maxInteger : Int := 170141183460469231731687303715884105727

/-- The number that a value stands for; a text is read with blanks at its ends. -/
def integer? : Value → Option Int
  | text s => readInt? (-maxInteger - 1) maxInteger (trim s.toList)
  | unsigned n => some n.toNat
  | signed n => some n.toInt
  | truth b => some (if b then 1 else 0)

/-- The value as it is written for a data type. -/
def encode (v : Value) : DataType → Except EncodeError String
  | .boolean =>
    match v.truth? with
    | some b => .ok (truthDigit b)
    | none => .error (.notBoolean v)
  | .integer type =>
    match v.integer? with
    | some n =>
      if type.min ≤ n ∧ n ≤ type.max then .ok (String.ofList (signedDecimal n))
      else .error (.outOfRange n type)
    | none => .error (.notInteger v.plain)
  | .string | .other _ => .ok v.plain

end Value

/-- The text that is shown for a value that cannot be written. -/
def EncodeError.message : EncodeError → String
  | notBoolean value => value.shown ++ " is not a boolean"
  | notInteger s => quoted s ++ " is not an integer"
  | outOfRange n type =>
    String.ofList (signedDecimal n) ++ " is out of range for " ++ type.name

end UpnpGateway.Soap
