/-
# Spans of time

Timeouts and windows are counted in nanoseconds and hold up to 2^64 seconds.  They are
written in the largest unit of which they have at least one, with as many decimal places as
they need.
-/
import UpnpGateway.Text.Blank
import UpnpGateway.Text.Numeral

namespace UpnpGateway

open UpnpGateway.Text

/-- The number of nanoseconds in a second. -/
def nanosPerSecond : Nat := 1000000000

/-- The number of nanoseconds that every span is shorter than. -/
def spanLimit : Nat := (maxLong + 1) * nanosPerSecond

/-- A span of time. -/
structure Duration where
  /-- The length in nanoseconds. -/
  nanos : Nat
  nanos_lt : nanos < spanLimit
deriving DecidableEq, Repr

namespace Duration

instance : Inhabited Duration := ⟨⟨0, by decide⟩⟩

/-- The span with the given length, if it is short enough. -/
def ofNanos? (nanos : Nat) : Option Duration :=
  if h : nanos < spanLimit then some ⟨nanos, h⟩ else none

/-- The whole seconds of a span. -/
def seconds (d : Duration) : Nat := d.nanos / nanosPerSecond

/-- What a span has beyond its whole seconds, in nanoseconds. -/
def subsecNanos (d : Duration) : Nat := d.nanos % nanosPerSecond

/-- The span `mul` times over, unless that is too long. -/
def times? (d : Duration) (mul : Nat) : Option Duration := ofNanos? (d.nanos * mul)

/-- The span divided by `div` and rounded down to a nanosecond, unless `div` is zero. -/
def dividedBy? (d : Duration) (div : Nat) : Option Duration :=
  if div == 0 then none
  else some ⟨d.nanos / div, Nat.lt_of_le_of_lt (Nat.div_le_self _ _) d.nanos_lt⟩

/-- A number of nanoseconds in a unit that is `places` decimal places longer, without zeros at
the end of the fraction. -/
def inUnit (nanos places : Nat) (unit : String) : String :=
  let fraction := dropEndWhile (· == '0') (paddedDecimal places nanos)
  let point := if fraction.isEmpty then [] else '.' :: fraction
  String.ofList (decimal (nanos / Nat.pow 10 places) ++ point) ++ unit

/-- The written form. -/
def text (d : Duration) : String :=
  if 1000000000 ≤ d.nanos then inUnit d.nanos 9 "s"
  else if 1000000 ≤ d.nanos then inUnit d.nanos 6 "ms"
  else if 1000 ≤ d.nanos then inUnit d.nanos 3 "µs"
  else inUnit d.nanos 0 "ns"

end Duration

end UpnpGateway
