/-
# What a course of exchanges asks for

A course of exchanges only ever adds to the list of requests.  Which requests it adds depends
on the network, but of which kind they are can often be told from the course alone.  This file
sets up the courses all of whose requests are of one kind, and the rules by which a course is
shown to be one from the courses that it is put together of.
-/
import Mathlib.Tactic.Lemma
import UpnpGateway.Net.Network

namespace UpnpGateway.Net.Exchange

variable {ε ε' α β : Type} {p q : Request → Prop}

/-- A course comes to something. -/
lemma exists_run (x : Exchange ε α) (net : Network) (past : List Request) :
    ∃ outcome later, x.run net past = (outcome, later) := ⟨_, _, rfl⟩

/-- A course sends nothing, whatever the network says. -/
def IsSilent (x : Exchange ε α) : Prop := ∀ net past, (x.run net past).2 = past

/-- The requests of a course are of the kind `p`, whatever the network says. -/
def Asks (p : Request → Prop) (x : Exchange ε α) : Prop :=
  ∀ net past, ∃ asked, (x.run net past).2 = past ++ asked ∧ ∀ r ∈ asked, p r

namespace IsSilent

lemma ofExcept (r : Except ε α) : (Exchange.ofExcept r).IsSilent := fun _ _ => rfl

lemma bind {x : Exchange ε α} {f : α → Exchange ε β} (hx : x.IsSilent)
    (hf : ∀ a, (f a).IsSilent) : (x >>= f).IsSilent := by
  intro net past
  have hlater := hx net past
  rw [run_bind]
  split
  · rename_i h
    rw [hf, ← hlater, h]
  · rename_i h
    rw [← hlater, h]

/-- What is made of an answer changes nothing about what has been sent for it. -/
lemma snd_run_bind {f : α → Exchange ε β} (hf : ∀ a, (f a).IsSilent) (x : Exchange ε α)
    (net : Network) (past : List Request) :
    ((x >>= f).run net past).2 = (x.run net past).2 := by
  rw [run_bind]
  split
  · rename_i h
    rw [hf, h]
  · rename_i h
    rw [h]

end IsSilent

namespace Asks

lemma mono {x : Exchange ε α} (hx : x.Asks p) (h : ∀ r, p r → q r) : x.Asks q := by
  intro net past
  obtain ⟨asked, hlater, hasked⟩ := hx net past
  exact ⟨asked, hlater, fun r hr => h r (hasked r hr)⟩

/-- A course that sends nothing is of every kind. -/
lemma of_isSilent {x : Exchange ε α} (hx : x.IsSilent) : x.Asks p :=
  fun net past => ⟨[], by rw [hx, List.append_nil], by simp⟩

lemma pure (a : α) : (Pure.pure a : Exchange ε α).Asks p := of_isSilent fun _ _ => rfl

lemma fail (e : ε) : (Exchange.fail e : Exchange ε α).Asks p := of_isSilent fun _ _ => rfl

lemma ofExcept (r : Except ε α) : (Exchange.ofExcept r).Asks p := of_isSilent (.ofExcept r)

lemma clock : (Exchange.clock : Exchange ε Nat).Asks p := of_isSilent fun _ _ => rfl

lemma search {source : Ipv4} {target : Endpoint} {datagram : String}
    (h : p (.search source target datagram)) :
    (Exchange.search source target datagram).Asks p :=
  fun net past => ⟨[.search source target datagram], rfl, by simpa using h⟩

lemma mapError (f : ε → ε') {x : Exchange ε α} (hx : x.Asks p) : (x.mapError f).Asks p :=
  fun net past => hx net past

lemma attempt {x : Exchange ε α} (hx : x.Asks p) : (x.attempt : Exchange ε' _).Asks p :=
  fun net past => hx net past

/-- The requests of a course that goes on come before those of what it goes on with. -/
lemma bind {x : Exchange ε α} {f : α → Exchange ε β} (hx : x.Asks p) (hf : ∀ a, (f a).Asks p) :
    (x >>= f).Asks p := by
  intro net past
  obtain ⟨asked, hlater, hasked⟩ := hx net past
  obtain ⟨outcome, later, hrun⟩ := x.exists_run net past
  obtain rfl : later = past ++ asked := by simpa [hrun] using hlater
  cases outcome with
  | error e => exact ⟨asked, by rw [run_bind_error net past hrun], hasked⟩
  | ok a =>
    obtain ⟨more, hend, hmore⟩ := hf a net (past ++ asked)
    refine ⟨asked ++ more, ?_, fun r hr => ?_⟩
    · rw [run_bind_ok net past hrun, hend, List.append_assoc]
    · rcases List.mem_append.1 hr with hr | hr
      · exact hasked r hr
      · exact hmore r hr

/-- What follows a check has to be looked at only if the check succeeds. -/
lemma ofExcept_bind {r : Except ε α} {f : α → Exchange ε β} (hf : ∀ a, r = .ok a → (f a).Asks p) :
    (Exchange.ofExcept r >>= f).Asks p := by
  cases r with
  | error e => exact of_isSilent fun _ _ => rfl
  | ok a => exact hf a rfl

end Asks

end UpnpGateway.Net.Exchange
