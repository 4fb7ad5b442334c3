/-
# Spans in seconds and nanoseconds

A span is counted in nanoseconds here, and multiplied and divided as a whole.  It may as well be
held as its whole seconds and the nanoseconds beyond them, which are multiplied and divided each on
their own, with a carry from one to the other.  This file shows that both come to the same: no
nanosecond is lost between the two parts, and there is no room for a span exactly if there is none
for its seconds.
-/
import Mathlib.Tactic.Lemma
import UpnpGateway.Duration

namespace UpnpGateway.Duration

open UpnpGateway.Text

/-- A span in two parts. -/
structure Parts where
  /-- The whole seconds. -/
  seconds : Nat
  /-- The nanoseconds beyond the whole seconds. -/
  nanos : Nat
deriving DecidableEq

namespace Parts

/-- The parts `mul` times over; the nanoseconds carry over into the seconds. -/
def times (p : Parts) (mul : Nat) : Parts :=
  ⟨p.seconds * mul + p.nanos * mul / nanosPerSecond, p.nanos * mul % nanosPerSecond⟩

/-- The parts divided by `div`; what is left of the seconds and of the nanoseconds is divided
together. -/
def dividedBy (p : Parts) (div : Nat) : Parts :=
  ⟨p.seconds / div, p.nanos / div + (p.seconds % div * nanosPerSecond + p.nanos % div) / div⟩

end Parts

variable {d e : Duration} {mul div : Nat}

/-- The two parts of a span. -/
def parts (d : Duration) : Parts := ⟨d.seconds, d.subsecNanos⟩

lemma eq_of_nanos_eq (h : d.nanos = e.nanos) : d = e := by
  obtain ⟨nanos, hlt⟩ := d
  obtain rfl : nanos = e.nanos := h
  rfl

lemma nanosPerSecond_pos : 0 < nanosPerSecond := by decide

lemma nanos_eq_parts (d : Duration) :
    d.nanos = nanosPerSecond * d.parts.seconds + d.parts.nanos :=
  (Nat.div_add_mod _ _).symm

lemma nanos_parts_lt (d : Duration) : d.parts.nanos < nanosPerSecond :=
  Nat.mod_lt _ nanosPerSecond_pos

lemma ofNanos?_eq_some_iff {nanos : Nat} : ofNanos? nanos = some d ↔ d.nanos = nanos := by
  rw [ofNanos?]
  constructor
  · intro h
    split at h
    · rw [← Option.some.inj h]
    · cases h
  · rintro rfl
    exact dif_pos d.nanos_lt

lemma ofNanos?_eq_none_iff {nanos : Nat} : ofNanos? nanos = none ↔ spanLimit ≤ nanos := by
  rw [ofNanos?, dite_eq_right_iff, ← Nat.not_lt]
  exact forall_congr' fun h => by simp

/-- A number of nanoseconds in two parts. -/
lemma parts_of_nanos_eq {seconds nanos : Nat} (hnanos : nanos < nanosPerSecond)
    (h : d.nanos = nanosPerSecond * seconds + nanos) : d.parts = ⟨seconds, nanos⟩ := by
  rw [parts, Duration.seconds, subsecNanos, h, Nat.mul_add_div nanosPerSecond_pos,
    Nat.div_eq_of_lt hnanos, Nat.mul_add_mod, Nat.mod_eq_of_lt hnanos, Nat.add_zero]

lemma nanos_mul (d : Duration) (mul : Nat) :
    d.nanos * mul =
      nanosPerSecond * (d.parts.times mul).seconds + (d.parts.times mul).nanos := by
  rw [nanos_eq_parts d, Parts.times]
  dsimp only
  rw [Nat.mul_add, Nat.add_assoc, Nat.div_add_mod, Nat.add_mul, Nat.mul_assoc]

lemma nanos_times_lt (p : Parts) (mul : Nat) : (p.times mul).nanos < nanosPerSecond :=
  Nat.mod_lt _ nanosPerSecond_pos

lemma nanos_of_times? (h : d.times? mul = some e) : e.nanos = d.nanos * mul :=
  ofNanos?_eq_some_iff.1 h

lemma parts_of_times? (h : d.times? mul = some e) : e.parts = d.parts.times mul :=
  parts_of_nanos_eq (nanos_times_lt _ _) ((nanos_of_times? h).trans (nanos_mul d mul))

/-- A product is too long exactly if its seconds are too many. -/
lemma spanLimit_le_iff : spanLimit ≤ d.nanos * mul ↔ maxLong < (d.parts.times mul).seconds := by
  have hlt := nanos_times_lt d.parts mul
  rw [nanos_mul, spanLimit]
  unfold nanosPerSecond at *
  omega

lemma nanos_of_dividedBy? (h : d.dividedBy? div = some e) : 0 < div ∧ e.nanos = d.nanos / div := by
  rw [dividedBy?] at h
  split at h
  · cases h
  · rename_i hdiv
    rw [← Option.some.inj h]
    exact ⟨Nat.pos_of_ne_zero fun h0 => hdiv (by rw [h0, BEq.rfl]), rfl⟩

lemma parts_of_dividedBy? (h : d.dividedBy? div = some e) : e.parts = d.parts.dividedBy div := by
  obtain ⟨hdiv, hnanos⟩ := nanos_of_dividedBy? h
  have hseconds := Nat.div_add_mod d.parts.seconds div
  have hrest := Nat.div_add_mod d.parts.nanos div
  -- the nanoseconds and what is left of the seconds are together less than `div` seconds
  have hlt : d.parts.seconds % div * nanosPerSecond + d.parts.nanos < div * nanosPerSecond := by
    have hmod : d.parts.seconds % div + 1 ≤ div := Nat.mod_lt _ hdiv
    have hmul := Nat.mul_le_mul_right nanosPerSecond hmod
    have hpart := nanos_parts_lt d
    rw [Nat.add_mul] at hmul
    omega
  have hsplit : d.parts.nanos / div +
      (d.parts.seconds % div * nanosPerSecond + d.parts.nanos % div) / div =
        (d.parts.seconds % div * nanosPerSecond + d.parts.nanos) / div := by
    rw [← Nat.mul_add_div hdiv, Nat.add_left_comm, hrest]
  refine parts_of_nanos_eq ?_ ?_
  · rw [hsplit]
    exact Nat.div_lt_of_lt_mul hlt
  · have hwhole : d.nanos = div * (nanosPerSecond * (d.parts.seconds / div)) +
        (d.parts.seconds % div * nanosPerSecond + d.parts.nanos) := by
      rw [← Nat.add_assoc, Nat.mul_left_comm, Nat.mul_comm (_ % _), ← Nat.mul_add, hseconds]
      exact nanos_eq_parts d
    rw [hsplit, hnanos, hwhole, Nat.mul_add_div hdiv]

end UpnpGateway.Duration
