/-
# The schedule of a search

A search without an answer is repeated a number of times.  Each round gives the gateways one
second more to answer than the last one, up to five, and the window in which answers are
waited for grows with it.
-/
import UpnpGateway.Duration

namespace UpnpGateway.Discovery

/-- The most seconds that a gateway is given to answer. -/
def maxMx : Nat := 5

/-- How many nanoseconds answers may be under way. -/
def windowMargin : Nat := 500000000

/-- The seconds that the first round gives. -/
def firstMx (mx : UInt8) : Nat := Nat.min (Nat.max mx.toNat 1) maxMx

/-- The seconds that a round gives, when the first one gives `first`. -/
def roundMx (first round : Nat) : Nat := Nat.min (first + round) maxMx

/-- How many rounds there are at most. -/
def attempts (retries : UInt32) : UInt32 := if retries == 4294967295 then retries else retries + 1

/-- The window of a round: in proportion to its seconds if the window of the first round is
given, and otherwise its seconds and a margin.  There is none if it is too long or if the
first round gives no time at all. -/
def responseWindow? (window : Option Duration) (first mx : Nat) : Option Duration :=
  match window with
  | some window => (window.times? mx).bind fun total => total.dividedBy? first
  | none => Duration.ofNanos? (mx * nanosPerSecond + windowMargin)

/-- The number of nanoseconds that the clock does not get to; it counts its seconds in 64 bits with
a sign. -/
def clockLimit : Nat := 9223372036854775808 * nanosPerSecond

end UpnpGateway.Discovery
