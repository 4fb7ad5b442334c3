/-
# Numbers of 53 bits

A fraction of a second in a configuration is a binary number of 53 significant bits, as
computers usually hold them.  This file rounds fractions to such numbers, and reads a decimal
numeral in the way in which it is computed with them: its digits and a power of ten are
rounded first, and then their product or quotient.
-/
import UpnpGateway.Text.Numeral

namespace UpnpGateway

open UpnpGateway.Text

/-- A fraction that is not negative. -/
structure Fraction where
  /-- The numerator. -/
  num : Nat
  /-- The denominator. -/
  den : Nat
deriving DecidableEq, Repr

namespace Fraction

/-- The nearest whole number, and the even one of two that are equally near. -/
def nearest (q : Fraction) : Nat :=
  let n := q.num / q.den
  let rest := 2 * (q.num % q.den)
  if rest < q.den || (rest == q.den && n % 2 == 0) then n else n + 1

/-- A fraction times a power of two. -/
def shift (q : Fraction) (e : Int) : Fraction :=
  if 0 ≤ e then ⟨q.num <<< e.toNat, q.den⟩ else ⟨q.num, q.den <<< (-e).toNat⟩

/-- A whole number times a power of two, as a fraction. -/
def scaled (m : Nat) (e : Int) : Fraction := shift ⟨m, 1⟩ e

/-- The exponent of the last of the 53 bits that a fraction is rounded to; small numbers have
fewer bits. -/
def lastBit (q : Fraction) : Int :=
  let e := (q.num.log2 : Int) - q.den.log2 - 52
  let high := shift q (-e)
  max (if high.num < high.den <<< 52 then e - 1 else e) (-1074)

/-- The nearest number of 53 bits, if there is one of that size. -/
def rounded? (q : Fraction) : Option Fraction :=
  let e := lastBit q
  let r := scaled (shift q (-e)).nearest e
  if r.num < r.den <<< 1024 then some r else none

/-- The product of two fractions. -/
def mul (p q : Fraction) : Fraction := ⟨p.num * q.num, p.den * q.den⟩

/-- The quotient of two fractions. -/
def div (p q : Fraction) : Fraction := ⟨p.num * q.den, p.den * q.num⟩

/-- The power of ten with the given exponent, as a number of 53 bits. -/
def tenTo? (k : Nat) : Option Fraction := rounded? ⟨Nat.pow 10 k, 1⟩

/-- The number `q` divided by ten `k` times, in steps that a power of ten exists for. -/
def divTen? (q : Fraction) (k : Nat) : Option Fraction :=
  if k ≤ 308 then (tenTo? k).bind fun ten => rounded? (q.div ten)
  else if q.num == 0 then some q
  else do divTen? (← rounded? (q.div (← tenTo? 308))) (k - 308)
termination_by k

/-- The number `q` times ten to the given power. -/
def mulTen? (q : Fraction) (k : Nat) : Option Fraction :=
  if k ≤ 308 then (tenTo? k).bind fun ten => rounded? (q.mul ten)
  else if q.num == 0 then some q
  else none

end Fraction

/-- A decimal numeral as it is written. -/
structure Numeral where
  /-- Whether a minus sign stands before it. -/
  negative : Bool
  /-- Its digits. -/
  digits : Nat
  /-- The power of ten that the last digit counts. -/
  exponent : Int
deriving DecidableEq, Repr

namespace Numeral

/-- The whole number that is written without a point and without an exponent. -/
def whole? (n : Numeral) : Option Int :=
  if n.exponent == 0 then some (if n.negative then -(n.digits : Int) else n.digits) else none

/-- The first digits of a number, as many as 64 bits hold, and how many there are more. -/
def leading (digits : Nat) : Nat × Nat :=
  if h : maxLong < digits then
    have : digits / 10 < digits := Nat.div_lt_self (Nat.zero_lt_of_lt h) (by omega)
    let (ds, more) := leading (digits / 10)
    (ds, more + 1)
  else (digits, 0)
termination_by digits

/-- The value of the numeral without its sign, as a number of 53 bits. -/
def value? (n : Numeral) : Option Fraction :=
  let (ds, more) := leading n.digits
  let e := n.exponent + more
  (Fraction.rounded? ⟨ds, 1⟩).bind fun q =>
    if 0 ≤ e then q.mulTen? e.toNat else q.divTen? (-e).toNat

end Numeral

end UpnpGateway
