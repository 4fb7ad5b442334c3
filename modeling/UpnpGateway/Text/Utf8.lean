/-
# Text from bytes

A datagram or a reply body is a list of bytes in UTF-8.  Bytes that are not valid UTF-8 do
not make a text unreadable: each run of bytes that begins a character but does not finish it,
and each byte that cannot begin one, is read as one replacement character.
-/
import UpnpGateway.Text.Cut

namespace UpnpGateway.Text

/-- The bytes of a text. -/
def encodeUtf8 (s : List Char) : List UInt8 := s.flatMap String.utf8EncodeChar

/-- The replacement character. -/
def replacement : Char := '\uFFFD'

/-- The character at the head of a list of bytes, if it begins with a whole one. -/
def headChar? (bytes : List UInt8) : Option Char :=
  (bytes.take 4).toByteArray.utf8DecodeChar? 0

/-- Whether `b` may follow the first byte `a` of a character. -/
def continues (a b : UInt8) : Bool :=
  if a == 0xE0 then 0xA0 ≤ b && b ≤ 0xBF
  else if a == 0xED then 0x80 ≤ b && b ≤ 0x9F
  else if a == 0xF0 then 0x90 ≤ b && b ≤ 0xBF
  else if a == 0xF4 then 0x80 ≤ b && b ≤ 0x8F
  else 0xC2 ≤ a && a ≤ 0xF4 && 0x80 ≤ b && b ≤ 0xBF

/-- How many bytes at the head of a list begin a character that they do not finish; at least
one, so that reading goes on behind it. -/
def brokenLength (bytes : List UInt8) : Nat :=
  match bytes with
  | a :: b :: r =>
    if a < 0xE0 || !continues a b then 1
    else match r with
      | c :: _ => if a < 0xF0 || !(0x80 ≤ c && c ≤ 0xBF) then 2 else 3
      | [] => 2
  | _ => 1

/-- The characters of a list of bytes, after those read so far in reverse order. -/
def decodeUtf8From (done : List Char) (bytes : List UInt8) : List Char :=
  match bytes with
  | [] => done.reverse
  | b :: r =>
    match headChar? (b :: r) with
    | some c => decodeUtf8From (c :: done) (r.drop (c.utf8Size - 1))
    | none => decodeUtf8From (replacement :: done) (r.drop (brokenLength (b :: r) - 1))
termination_by bytes.length
decreasing_by all_goals simp only [List.length_drop, List.length_cons]; omega

/-- The text of a list of bytes, with a replacement character for what is not valid. -/
def decodeUtf8 (bytes : List UInt8) : List Char := decodeUtf8From [] bytes

end UpnpGateway.Text
