/-
# Internet addresses

Addresses of both families with their usual written forms.  Reading is strict: four decimal
bytes without leading zeros, or eight groups of up to four hexadecimal digits, of which one
row of zero groups may be written as `::` and the last two as four decimal bytes.  Writing
an address of sixteen bytes shortens its longest row of zero groups, the first one if there
are several.
-/
import UpnpGateway.Text.Numeral

namespace UpnpGateway.Net

open UpnpGateway.Text

/-- An address of four bytes. -/
structure Ipv4 where
  /-- The first byte. -/
  a : UInt8
  /-- The second byte. -/
  b : UInt8
  /-- The third byte. -/
  c : UInt8
  /-- The fourth byte. -/
  d : UInt8
deriving DecidableEq, Repr, Inhabited

namespace Ipv4

/-- The address that stands for no address in particular. -/
def unspecified : Ipv4 := ⟨0, 0, 0, 0⟩

/-- The characters of the written form. -/
def chars (ip : Ipv4) : List Char :=
  decimal ip.a.toNat ++ '.' :: decimal ip.b.toNat ++ '.' :: decimal ip.c.toNat ++
    '.' :: decimal ip.d.toNat

/-- The written form. -/
def text (ip : Ipv4) : String := String.ofList ip.chars

/-- Reads a byte of one to three digits without a leading zero. -/
def byte? (s : List Char) : Option UInt8 :=
  if s.length ≤ 3 && (s.head? != some '0' || s.length == 1) then
    ((digits? 10 s).filter (· ≤ maxByte)).map UInt8.ofNat
  else none

/-- Reads the characters of a written form. -/
def ofChars? (s : List Char) : Option Ipv4 :=
  match splitWhere (· == '.') s with
  | [a, b, c, d] => do return ⟨← byte? a, ← byte? b, ← byte? c, ← byte? d⟩
  | _ => none

/-- Reads a written form. -/
def parse? (s : String) : Option Ipv4 := ofChars? s.toList

end Ipv4

/-- An address of sixteen bytes. -/
structure Ipv6 where
  /-- The eight groups of two bytes. -/
  groups : List UInt16
  length_groups : groups.length = 8
deriving DecidableEq, Repr

namespace Ipv6

/-- The address of some groups, if there are eight of them. -/
def ofGroups? (groups : List UInt16) : Option Ipv6 :=
  if h : groups.length = 8 then some ⟨groups, h⟩ else none

/-- The two groups that an address of four bytes takes up. -/
def groupsOf (ip : Ipv4) : List UInt16 :=
  [ip.a.toUInt16 * 256 + ip.b.toUInt16, ip.c.toUInt16 * 256 + ip.d.toUInt16]

/-- The address of four bytes that two groups hold. -/
def ipv4Of (g h : UInt16) : Ipv4 :=
  ⟨(g / 256).toUInt8, g.toUInt8, (h / 256).toUInt8, h.toUInt8⟩

/-- Where the longest row of zero groups begins, and its length. -/
def longestZeros (groups : List UInt16) : Nat × Nat :=
  (List.range groups.length).foldl (fun best i =>
    let n := ((groups.drop i).takeWhile (· == 0)).length
    if best.2 < n then (i, n) else best) (0, 0)

/-- Some groups with colons between them. -/
def joinGroups (groups : List UInt16) : List Char :=
  List.intercalate [':'] (groups.map fun g => hexadecimal g.toNat)

/-- The characters of some groups, with the longest row of at least two zero groups left
out. -/
def shortened (groups : List UInt16) : List Char :=
  let (start, n) := longestZeros groups
  if 2 ≤ n then
    joinGroups (groups.take start) ++ ':' :: ':' :: joinGroups (groups.drop (start + n))
  else joinGroups groups

/-- The characters of the written form; an address of four bytes that is mapped into one of
sixteen keeps its decimal form. -/
def chars (ip : Ipv6) : List Char :=
  match ip.groups with
  | [0, 0, 0, 0, 0, 0xFFFF, g, h] => "::ffff:".toList ++ (ipv4Of g h).chars
  | groups => shortened groups

/-- The written form. -/
def text (ip : Ipv6) : String := String.ofList ip.chars

/-- Reads a group of one to four digits. -/
def group? (s : List Char) : Option UInt16 :=
  if s.length ≤ 4 then (digits? 16 s).map UInt16.ofNat else none

/-- Reads groups with colons between them; nothing at all is no groups. -/
def plainGroups? (s : List Char) : Option (List UInt16) :=
  if s.isEmpty then some [] else (splitWhere (· == ':') s).mapM group?

/-- Reads groups of which the last two may be written as four decimal bytes. -/
def mixedGroups? (s : List Char) : Option (List UInt16) :=
  match cutLast ':' s with
  | some (front, last) =>
    if last.contains '.' then do
      let tail ← Ipv4.ofChars? last
      return (← if front.isEmpty then none else plainGroups? front) ++ groupsOf tail
    else plainGroups? s
  | none => if s.contains '.' then (Ipv4.ofChars? s).map groupsOf else plainGroups? s

/-- Reads the characters of a written form; `::` stands for at least one group. -/
def ofChars? (s : List Char) : Option Ipv6 :=
  match cutRun "::".toList s with
  | none => if s.isEmpty then none else (mixedGroups? s).bind ofGroups?
  | some (front, back) => do
    let front ← plainGroups? front
    let back ← mixedGroups? back
    let n := front.length + back.length
    if n ≤ 7 then ofGroups? (front ++ List.replicate (8 - n) 0 ++ back) else none

/-- Reads a written form. -/
def parse? (s : String) : Option Ipv6 := ofChars? s.toList

end Ipv6

/-- An address of either family. -/
inductive Ip where
  /-- An address of four bytes. -/
  | v4 (ip : Ipv4)
  /-- An address of sixteen bytes. -/
  | v6 (ip : Ipv6)
deriving DecidableEq, Repr

instance : Inhabited Ip := ⟨.v4 .unspecified⟩

namespace Ip

/-- The written form. -/
def text : Ip → String
  | v4 ip => ip.text
  | v6 ip => ip.text

/-- Reads a written form of either family. -/
def parse? (s : String) : Option Ip :=
  ((Ipv4.parse? s).map v4).or ((Ipv6.parse? s).map v6)

end Ip

/-- An address with a port. -/
structure Endpoint where
  /-- The address. -/
  ip : Ip
  /-- The port. -/
  port : UInt16
deriving DecidableEq, Repr

namespace Endpoint

/-- The written form; an address of sixteen bytes stands in brackets. -/
def text (e : Endpoint) : String :=
  match e.ip with
  | .v4 ip => ip.text ++ ":" ++ toString e.port.toNat
  | .v6 ip => "[" ++ ip.text ++ "]:" ++ toString e.port.toNat

/-- Reads a port. -/
def port? (s : List Char) : Option UInt16 :=
  ((digits? 10 s).filter (· ≤ maxPort)).map UInt16.ofNat

/-- Reads a written form. -/
def parse? (s : String) : Option Endpoint :=
  match s.toList with
  | '[' :: r =>
    match cutRun "]:".toList r with
    | some (ip, port) => do return ⟨.v6 (← Ipv6.ofChars? ip), ← port? port⟩
    | none => none
  | r =>
    match cutFirst ':' r with
    | some (ip, port) => do return ⟨.v4 (← Ipv4.ofChars? ip), ← port? port⟩
    | none => none

end Endpoint

end UpnpGateway.Net
