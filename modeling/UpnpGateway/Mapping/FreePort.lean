/-
# Free ports

A port for a new mapping is looked for upwards from the wanted one, or from the lowest one in
use if that is higher, so that the ports in use stay together.  Port zero is never taken.
-/
import UpnpGateway.Error

namespace UpnpGateway

open UpnpGateway.Text

/-- The first number from `start` on that does not occur in an ascending list. -/
def firstGap (start : Nat) : List Nat → Nat
  | [] => start
  | p :: ps =>
    if p < start then firstGap start ps
    else if p == start then firstGap (start + 1) ps
    else start

theorem le_firstGap (start : Nat) (ps : List Nat) : start ≤ firstGap start ps := by
  induction ps generalizing start with
  | nil => exact Nat.le_refl _
  | cons p ps ih =>
    unfold firstGap
    split
    · exact ih start
    · split
      · exact Nat.le_of_succ_le (ih (start + 1))
      · exact Nat.le_refl _

/-- Where the search for a free port begins. -/
def searchStart (used : List UInt16) (base : UInt16) : Nat :=
  Nat.max (Nat.max ((used.map UInt16.toNat).min?.getD 0) base.toNat) 1

/-- The first port that is free. -/
def nextFreePort (used : List UInt16) (base : UInt16) : Except Error UInt16 :=
  let start := searchStart used base
  let port := firstGap start (used.map UInt16.toNat).mergeSort
  if port ≤ maxPort then .ok (.ofNat port) else .error (.portsExhausted (.ofNat start))

end UpnpGateway
