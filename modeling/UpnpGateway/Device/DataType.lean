/-
# Data types of state variables

A service declares for each of its state variables a data type, and an argument has the type
of the state variable that it is related to.  Only the types whose values are checked before
they are sent are told apart; any other type is known by its name and takes any text.
-/
import UpnpGateway.Text.Blank
import UpnpGateway.Text.Letter
import UpnpGateway.Text.Numeral

namespace UpnpGateway

open UpnpGateway.Text

/-- A type of whole numbers of one, two, four or eight bytes, without or with a sign. -/
inductive IntegerType where
  | ui1 | ui2 | ui4 | ui8 | i1 | i2 | i4 | i8
deriving DecidableEq, Repr

namespace IntegerType

/-- The name of the type in a service description. -/
def name : IntegerType → String
  | ui1 => "ui1"
  | ui2 => "ui2"
  | ui4 => "ui4"
  | ui8 => "ui8"
  | i1 => "i1"
  | i2 => "i2"
  | i4 => "i4"
  | i8 => "i8"

/-- The smallest number of the type. -/
def min : IntegerType → Int
  | ui1 | ui2 | ui4 | ui8 => 0
  | i1 => -128
  | i2 => -32768
  | i4 => -2147483648
  | i8 => -9223372036854775808

/-- The largest number of the type. -/
def max : IntegerType → Int
  | ui1 => 255
  | ui2 => 65535
  | ui4 => 4294967295
  | ui8 => 18446744073709551615
  | i1 => 127
  | i2 => 32767
  | i4 => 2147483647
  | i8 => 9223372036854775807

end IntegerType

/-- The data type of a state variable. -/
inductive DataType where
  /-- Any text. -/
  | string
  /-- A truth value. -/
  | boolean
  /-- A whole number. -/
  | integer (type : IntegerType)
  /-- A type that is known by its name alone and takes any text. -/
  | other (name : String)
deriving DecidableEq, Repr, Inhabited

namespace DataType

/-- The data type with the given name, whatever the case of its letters; `int` is a second
name of the signed type of four bytes. -/
def ofName (name : String) : DataType :=
  let name := trimmed name
  let key := lower name.toList
  if key == "string".toList then .string
  else if key == "boolean".toList then .boolean
  else if key == "ui1".toList then .integer .ui1
  else if key == "ui2".toList then .integer .ui2
  else if key == "ui4".toList then .integer .ui4
  else if key == "ui8".toList then .integer .ui8
  else if key == "i1".toList then .integer .i1
  else if key == "i2".toList then .integer .i2
  else if key == "i4".toList || key == "int".toList then .integer .i4
  else if key == "i8".toList then .integer .i8
  else .other name

/-- The name of the data type in messages. -/
def name : DataType → String
  | string => "string"
  | boolean => "boolean"
  | integer type => type.name
  | other name => name

/-- The smallest and the largest number of the data type, if it is a type of numbers. -/
def range? : DataType → Option (Int × Int)
  | integer type => some (type.min, type.max)
  | _ => none

end DataType

end UpnpGateway
