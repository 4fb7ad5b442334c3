/-
# Punycode

Punycode writes a row of characters in ASCII: the ASCII characters first, then a number for
each of the others in the order of their code points.  Such a number says how many places and
code points lie between one insertion and the next; its digits have weights that adapt to the
numbers before it.
-/
import UpnpGateway.Text.Cut

namespace UpnpGateway.Net.Domain.Punycode

open UpnpGateway.Text

/-- The digit for a value below 36. -/
def digit (d : Nat) : Char :=
  if d < 26 then Char.ofNat ('a'.toNat + d) else Char.ofNat ('0'.toNat + d - 26)

/-- The value of a digit. -/
def digitValue? (c : Char) : Option Nat :=
  if 'a' ≤ c && c ≤ 'z' then some (c.toNat - 'a'.toNat)
  else if 'A' ≤ c && c ≤ 'Z' then some (c.toNat - 'A'.toNat)
  else if '0' ≤ c && c ≤ '9' then some (c.toNat - '0'.toNat + 26)
  else none

/-- The threshold of the digit at position `k`. -/
def threshold (bias k : Nat) : Nat :=
  let t := 36 * (k + 1) - bias
  if t < 1 then 1 else if 26 < t then 26 else t

/-- A threshold is at least one, so that each digit shortens the number it belongs to. -/
theorem one_le_threshold (bias k : Nat) : 1 ≤ threshold bias k := by
  unfold threshold
  dsimp only
  split <;> (try split) <;> omega

/-- Halves the distance until it is small, and counts the steps in units of 36. -/
def settle (k delta : Nat) : Nat :=
  if 455 < delta then settle (k + 36) (delta / 35) else k + 36 * delta / (delta + 38)
termination_by delta

/-- The bias behind a number, when there are `count` characters so far. -/
def adapt (delta count : Nat) (first : Bool) : Nat :=
  let delta := if first then delta / 700 else delta / 2
  settle 0 (delta + delta / count)

/-- The digits of a number, from position `k` on. -/
def number (bias k q : Nat) : List Char :=
  if q < threshold bias k then [digit q]
  else
    digit (threshold bias k + (q - threshold bias k) % (36 - threshold bias k)) ::
      number bias (k + 1) ((q - threshold bias k) / (36 - threshold bias k))
termination_by q
decreasing_by
  have := one_le_threshold bias k
  have := Nat.div_le_self (q - threshold bias k) (36 - threshold bias k)
  omega

/-- The state of the encoder between two numbers. -/
structure Encoder where
  /-- What is written so far. -/
  written : List Char
  /-- The number of characters that have been written. -/
  placed : Nat
  /-- The places and code points passed since the last number. -/
  passed : Nat
  /-- The bias of the next number. -/
  bias : Nat

/-- Writes all occurrences of the character `n` in a row of characters of which `basic` are
ASCII. -/
def Encoder.put (cs : List Char) (basic : Nat) (s : Encoder) (n : Nat) : Encoder :=
  cs.foldl (fun s c =>
    if c.toNat < n then { s with passed := s.passed + 1 }
    else if c.toNat == n then
      ⟨s.written ++ number s.bias 0 s.passed, s.placed + 1, 0,
        adapt s.passed (s.placed + 1) (s.placed == basic)⟩
    else s) s

/-- The written form of a row of characters. -/
def encode (cs : List Char) : List Char :=
  let basic := cs.filter (·.toNat < 0x80)
  let others := ((cs.filter (0x80 ≤ ·.toNat)).map Char.toNat).mergeSort.eraseDups
  let start : Encoder := ⟨if basic.isEmpty then [] else basic ++ ['-'], basic.length, 0, 72⟩
  let step := fun (p : Encoder × Nat) n =>
    let s := Encoder.put cs basic.length
      { p.1 with passed := p.1.passed + (n - p.2) * (p.1.placed + 1) } n
    ({ s with passed := s.passed + 1 }, n + 1)
  (others.foldl step (start, 0x80)).1.written

/-- Reads the numbers of a written form and inserts a character into `cs` for each: `n` is
the last one inserted, `old` the place behind it, `i` the number read so far on top of `old`,
and `weight` and `k` are the weight and the position of the next digit. -/
def decodeFrom (cs : List Char) (n old i bias weight k : Nat) : List Char → Option (List Char)
  | [] => if k == 0 then some cs else none
  | c :: s =>
    match digitValue? c with
    | none => none
    | some d =>
      let i := i + d * weight
      let t := threshold bias k
      if d < t then
        let count := cs.length + 1
        let n := n + i / count
        let place := i % count
        if n ≤ 0x10FFFF && !(0xD800 ≤ n && n ≤ 0xDFFF) then
          decodeFrom (cs.take place ++ Char.ofNat n :: cs.drop place) n (place + 1) (place + 1)
            (adapt (i - old) count (old == 0)) 1 0 s
        else none
      else decodeFrom cs n old i bias (weight * (36 - t)) (k + 1) s

/-- The characters that are written.  A hyphen that nothing stands before ends no ASCII
characters. -/
def decode? (s : List Char) : Option (List Char) :=
  match cutLast '-' s with
  | some (c :: basic, digits) => decodeFrom (c :: basic) 0x80 0 0 72 1 0 digits
  | _ => decodeFrom [] 0x80 0 0 72 1 0 s

end UpnpGateway.Net.Domain.Punycode
