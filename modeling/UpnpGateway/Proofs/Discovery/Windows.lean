/-
# The windows of a search

Every round of a search gives the gateways more seconds to answer than the one before, up to five,
and answers are waited for in a window that grows in proportion.  This file tells how the seconds
and the windows grow from round to round, and exactly when a window is too long to be a span of
time, in which case the search breaks off.
-/
import Mathlib.Tactic.Choose
import UpnpGateway.Config.Reading
import UpnpGateway.Discovery.Discover
import UpnpGateway.Net.Offline
import UpnpGateway.Proofs.Duration
import UpnpGateway.Proofs.Net.Asking

namespace UpnpGateway.Discovery

open UpnpGateway.Net UpnpGateway.Text

variable (config : Config)

/-! ## The seconds of a round -/

/-- The seconds that a round of a search gives. -/
def secondsOfRound (round : Nat) : Nat := (searchOfRound config round).mx

lemma firstMx_pos (mx : UInt8) : 1 ≤ firstMx mx :=
  Nat.le_min.2 ⟨Nat.le_max_right _ _, by decide⟩

lemma firstMx_le (mx : UInt8) : firstMx mx ≤ maxMx := Nat.min_le_right _ _

lemma secondsOfRound_eq (round : Nat) :
    secondsOfRound config round = min (firstMx config.mx + round) maxMx := rfl

lemma secondsOfRound_zero : secondsOfRound config 0 = firstMx config.mx :=
  Nat.min_eq_left (firstMx_le config.mx)

lemma secondsOfRound_mono {r r' : Nat} (h : r ≤ r') :
    secondsOfRound config r ≤ secondsOfRound config r' := by
  rw [secondsOfRound_eq, secondsOfRound_eq]
  omega

lemma secondsOfRound_le (round : Nat) : secondsOfRound config round ≤ maxMx :=
  Nat.min_le_right _ _

lemma firstMx_le_secondsOfRound (round : Nat) :
    firstMx config.mx ≤ secondsOfRound config round := by
  rw [← secondsOfRound_zero]
  exact secondsOfRound_mono config (Nat.zero_le round)

/-! ## The window of a round -/

/-- The window in which a round of a search waits for answers, if there is one. -/
def windowOfRound (round : Nat) : Option Duration :=
  responseWindow? config.responseWindow (firstMx config.mx) (secondsOfRound config round)

variable {config}

lemma windowOfRound_eq_bind {w : Duration} (h : config.responseWindow = some w) (round : Nat) :
    windowOfRound config round =
      (w.times? (secondsOfRound config round)).bind fun total =>
        total.dividedBy? (firstMx config.mx) := by
  rw [windowOfRound, h, responseWindow?]

/-- If no window is configured, a round waits for its seconds and a margin. -/
lemma exists_windowOfRound_of_none (h : config.responseWindow = none) (round : Nat) :
    ∃ window, windowOfRound config round = some window ∧
      window.nanos = secondsOfRound config round * nanosPerSecond + windowMargin := by
  have hle := secondsOfRound_le config round
  have hlt : secondsOfRound config round * nanosPerSecond + windowMargin < spanLimit := by
    unfold spanLimit nanosPerSecond windowMargin maxLong maxMx at *
    omega
  exact ⟨⟨_, hlt⟩, by rw [windowOfRound, h, responseWindow?, Duration.ofNanos?, dif_pos hlt], rfl⟩

/-- There is no window exactly if the product of the configured one and the seconds of the round is
too long; a division by zero is never to blame. -/
lemma windowOfRound_eq_none_iff (round : Nat) :
    windowOfRound config round = none ↔ ∃ w, config.responseWindow = some w ∧
      spanLimit ≤ w.nanos * secondsOfRound config round := by
  cases hw : config.responseWindow with
  | none =>
    obtain ⟨window, hwindow, -⟩ := exists_windowOfRound_of_none hw round
    simp [hwindow]
  | some w =>
    have hfirst : (firstMx config.mx == 0) = false :=
      beq_false_of_ne (Nat.ne_of_gt (firstMx_pos config.mx))
    have hlong : spanLimit ≤ w.nanos * secondsOfRound config round ↔
        w.times? (secondsOfRound config round) = none :=
      Duration.ofNanos?_eq_none_iff.symm
    rw [windowOfRound_eq_bind hw]
    cases htotal : w.times? (secondsOfRound config round) with
    | none => simp [hlong, htotal]
    | some total => simp [hlong, htotal, Duration.dividedBy?, hfirst]

/-- The window is in proportion to the seconds, rounded down to a nanosecond, and it does not matter
whether this is computed in nanoseconds or in two parts. -/
lemma windowOfRound_eq_some {w window : Duration} {round : Nat}
    (hw : config.responseWindow = some w) (h : windowOfRound config round = some window) :
    window.nanos = w.nanos * secondsOfRound config round / firstMx config.mx ∧
      window.parts =
        (w.parts.times (secondsOfRound config round)).dividedBy (firstMx config.mx) := by
  rw [windowOfRound_eq_bind hw] at h
  obtain ⟨total, htotal, hwindow⟩ := Option.bind_eq_some_iff.1 h
  rw [(Duration.nanos_of_dividedBy? hwindow).2, Duration.nanos_of_times? htotal,
    Duration.parts_of_dividedBy? hwindow, Duration.parts_of_times? htotal]
  exact ⟨rfl, rfl⟩

/-! ## Growth -/

/-- The rounds of a search give more and more time. -/
structure Grows (config : Config) (window : Nat → Duration) : Prop where
  /-- The windows are those of the rounds. -/
  windowOfRound_eq : ∀ round, windowOfRound config round = some (window round)
  /-- The first round gives the configured seconds, but at least one and at most five. -/
  seconds_zero : secondsOfRound config 0 = min (max config.mx.toNat 1) 5
  /-- Every round gives at least one and at most five seconds. -/
  seconds_bounds : ∀ round, 1 ≤ secondsOfRound config round ∧ secondsOfRound config round ≤ 5
  /-- From round to round the seconds never get fewer. -/
  seconds_mono : ∀ r r', r ≤ r' → secondsOfRound config r ≤ secondsOfRound config r'
  /-- There is one more in each round until there are five. -/
  seconds_succ : ∀ round,
    secondsOfRound config (round + 1) = min (secondsOfRound config round + 1) 5
  /-- The number of the round may be added in 32 bits, where a sum stops at the largest number. -/
  seconds_word : ∀ round,
    secondsOfRound config round = min (min (secondsOfRound config 0 + round) maxWord) 5
  /-- From round to round the windows never get shorter. -/
  window_mono : ∀ r r', r ≤ r' → (window r).nanos ≤ (window r').nanos
  /-- The first window is the configured one. -/
  window_zero : ∀ w, config.responseWindow = some w → window 0 = w
  /-- The windows are in proportion to the seconds, rounded down to a nanosecond. -/
  nanos_window : ∀ w, config.responseWindow = some w → ∀ round,
    (window round).nanos = w.nanos * secondsOfRound config round / secondsOfRound config 0
  /-- It does not matter whether they are computed in nanoseconds or in two parts. -/
  parts_window : ∀ w, config.responseWindow = some w → ∀ round, (window round).parts =
    (w.parts.times (secondsOfRound config round)).dividedBy (secondsOfRound config 0)
  /-- No window is more than five times as long as the configured one. -/
  window_le : ∀ w, config.responseWindow = some w → ∀ round, (window round).nanos ≤ 5 * w.nanos
  /-- If none is configured, a window is as long as the seconds and half a second more. -/
  parts_window_of_none : config.responseWindow = none → ∀ round,
    (window round).parts = ⟨secondsOfRound config round, 500000000⟩

lemma nanos_window_of_none {window : Duration} {round : Nat}
    (hround : windowOfRound config round = some window) (h : config.responseWindow = none) :
    window.nanos = nanosPerSecond * secondsOfRound config round + windowMargin := by
  obtain ⟨window', hwindow', hnanos⟩ := exists_windowOfRound_of_none h round
  obtain rfl := Option.some.inj (hround.symm.trans hwindow')
  rw [hnanos, Nat.mul_comm]

/-- The window of a later round is not shorter. -/
lemma nanos_window_mono {window window' : Duration} {r r' : Nat} (h : r ≤ r')
    (hr : windowOfRound config r = some window) (hr' : windowOfRound config r' = some window') :
    window.nanos ≤ window'.nanos := by
  have hseconds := secondsOfRound_mono config h
  cases hw : config.responseWindow with
  | none =>
    rw [nanos_window_of_none hr hw, nanos_window_of_none hr' hw]
    exact Nat.add_le_add_right (Nat.mul_le_mul_left _ hseconds) _
  | some w =>
    rw [(windowOfRound_eq_some hw hr).1, (windowOfRound_eq_some hw hr').1]
    exact Nat.div_le_div_right (Nat.mul_le_mul_left _ hseconds)

/-- If a round has no window, no later one has. -/
lemma windowOfRound_eq_none_of_le {r r' : Nat} (h : r ≤ r')
    (hnone : windowOfRound config r = none) : windowOfRound config r' = none := by
  obtain ⟨w, hw, hlong⟩ := (windowOfRound_eq_none_iff r).1 hnone
  exact (windowOfRound_eq_none_iff r').2
    ⟨w, hw, Nat.le_trans hlong (Nat.mul_le_mul_left _ (secondsOfRound_mono config h))⟩

/-- If five times the configured window is a span of time, or none is configured, then every round
has a window, and the seconds and the windows grow as they should. -/
theorem exists_grows
    (hroom : ∀ w, config.responseWindow = some w → 5 * w.nanos < spanLimit) :
    ∃ window, Grows config window := by
  have hexists : ∀ round, ∃ window, windowOfRound config round = some window := by
    intro round
    refine Option.ne_none_iff_exists'.1 fun hnone => ?_
    obtain ⟨w, hw, hlong⟩ := (windowOfRound_eq_none_iff round).1 hnone
    have hle := Nat.mul_le_mul_left w.nanos (secondsOfRound_le config round)
    have hlt := hroom w hw
    unfold maxMx at hle
    omega
  choose window hwindow using hexists
  refine ⟨window, ?_⟩
  exact {
    windowOfRound_eq := hwindow
    seconds_zero := secondsOfRound_zero config
    seconds_bounds := fun round =>
      ⟨Nat.le_trans (firstMx_pos config.mx) (firstMx_le_secondsOfRound config round),
        secondsOfRound_le config round⟩
    seconds_mono := fun r r' => secondsOfRound_mono config
    seconds_succ := fun round => by
      rw [secondsOfRound_eq, secondsOfRound_eq]
      unfold maxMx
      omega
    seconds_word := fun round => by
      rw [secondsOfRound_zero, secondsOfRound_eq]
      unfold maxMx maxWord
      omega
    window_mono := fun r r' h => nanos_window_mono h (hwindow r) (hwindow r')
    window_zero := fun w hw => by
      refine Duration.eq_of_nanos_eq ?_
      rw [(windowOfRound_eq_some hw (hwindow 0)).1, secondsOfRound_zero]
      exact Nat.mul_div_cancel _ (firstMx_pos config.mx)
    nanos_window := fun w hw round => by
      rw [secondsOfRound_zero]
      exact (windowOfRound_eq_some hw (hwindow round)).1
    parts_window := fun w hw round => by
      rw [secondsOfRound_zero]
      exact (windowOfRound_eq_some hw (hwindow round)).2
    window_le := fun w hw round => by
      rw [(windowOfRound_eq_some hw (hwindow round)).1, Nat.mul_comm 5]
      exact Nat.le_trans (Nat.div_le_self _ _)
        (Nat.mul_le_mul_left _ (secondsOfRound_le config round))
    parts_window_of_none := fun h round =>
      Duration.parts_of_nanos_eq (by decide) (nanos_window_of_none (hwindow round) h) }

/-! ### A window that is rounded -/

/-- A configuration with a window that is no multiple of two nanoseconds. -/
def oddConfig : Config :=
  { (default : Config) with
    mx := 2, retries := 4294967295, responseWindow := some ⟨1999999999, by decide⟩ }

/-- The first window is kept to the nanosecond, the later ones are rounded down. -/
theorem exists_grows_odd :
    (∀ w, oddConfig.responseWindow = some w → 5 * w.nanos < spanLimit) ∧
    ∃ window, Grows oddConfig window ∧ (window 0).nanos = 1999999999 ∧
      (window 1).nanos = 2999999998 ∧ (window 4294967294).parts = ⟨4, 999999997⟩ := by
  have hconfig : oddConfig.responseWindow = some ⟨1999999999, by decide⟩ := rfl
  have hroom : ∀ w, oddConfig.responseWindow = some w → 5 * w.nanos < spanLimit := by
    intro w hw
    obtain rfl := Option.some.inj (hconfig.symm.trans hw)
    decide
  obtain ⟨window, h⟩ := exists_grows hroom
  refine ⟨hroom, window, h, ?_, ?_, ?_⟩
  · rw [h.window_zero _ hconfig]
  · rw [h.nanos_window _ hconfig]
    decide
  · rw [h.parts_window _ hconfig]
    decide

/-! ## Searches that break off -/

/-- The last round of a search. -/
def lastRound (config : Config) : Nat := (attempts config.retries).toNat - 1

/-- A round cannot be timed when the clock stands at `now`: it has no window, or one that ends
later than the clock can count. -/
def Overflows (config : Config) (now round : Nat) : Prop :=
  ∀ window, windowOfRound config round = some window → clockLimit ≤ now + window.nanos

/-- A search breaks off because one of its rounds cannot be timed. -/
def BreaksOff (outcome : Except Error (List Advertisement)) : Prop :=
  outcome = .error .windowOverflow ∨ outcome = .error .clockOverflow

/-- If a round cannot be timed, no later one can. -/
lemma Overflows.mono {now r r' : Nat} (hround : Overflows config now r) (h : r ≤ r') :
    Overflows config now r' := by
  intro window' hwindow'
  cases hwindow : windowOfRound config r with
  | none =>
    rw [windowOfRound_eq_none_of_le h hwindow] at hwindow'
    cases hwindow'
  | some window =>
    have hle := nanos_window_mono h hwindow hwindow'
    have hlong := hround window hwindow
    omega

section Run

variable {target : Endpoint} {filter : Option Ip} {net : Network} {past : List Request}

/-- What a round comes to. -/
lemma run_searchRound (config : Config) (target : Endpoint) (filter : Option Ip) (round : Nat)
    (net : Network) (past : List Request) :
    let sent := past ++ [.search config.localIp target (searchOfRound config round).datagram]
    (searchRound config target filter round).run net past =
      match net.search past config.localIp target (searchOfRound config round).datagram with
      | .error e => (.error (.socket e), sent)
      | .ok answers =>
        (match windowOfRound config round with
          | none => .error .windowOverflow
          | some window =>
            if clockLimit ≤ net.clock sent + window.nanos then .error .clockOverflow
            else .ok ((Collector.empty filter).listen (answers window)).found, sent) := by
  have hwindow : responseWindow? config.responseWindow (firstMx config.mx)
      (searchOfRound config round).mx = windowOfRound config round := rfl
  rw [searchRound, Exchange.run_bind, Exchange.run_mapError, Exchange.run_search, hwindow]
  cases net.search past config.localIp target (searchOfRound config round).datagram with
  | error e => rfl
  | ok answers =>
    dsimp only [Except.mapError]
    cases windowOfRound config round with
    | none => rfl
    | some window =>
      dsimp only
      rw [Exchange.run_bind, Exchange.run_clock]
      dsimp only
      split <;> rfl

/-- How a round can fail. -/
lemma error_of_searchRound {round : Nat} {e : Error}
    (h : ((searchRound config target filter round).run net past).1 = .error e) :
    (∃ text, e = .socket text) ∨
    (e = .windowOverflow ∧ windowOfRound config round = none) ∨
    ∃ window later, e = .clockOverflow ∧ windowOfRound config round = some window ∧
      clockLimit ≤ net.clock later + window.nanos := by
  rw [run_searchRound] at h
  split at h
  · exact .inl ⟨_, (Except.error.inj h).symm⟩
  · dsimp only at h
    split at h
    · rename_i hnone
      exact .inr (.inl ⟨(Except.error.inj h).symm, hnone⟩)
    · rename_i window hwindow
      split at h
      · rename_i hlong
        exact .inr (.inr ⟨window, _, (Except.error.inj h).symm, hwindow, hlong⟩)
      · cases h

/-- A round that breaks off cannot be timed. -/
lemma exists_overflows_of_error {round : Nat} {e : Error}
    (he : e = .windowOverflow ∨ e = .clockOverflow)
    (h : ((searchRound config target filter round).run net past).1 = .error e) :
    ∃ later, Overflows config (net.clock later) round := by
  rcases error_of_searchRound h with ⟨text, rfl⟩ | ⟨-, hnone⟩ | ⟨window, later, -, hwindow, hlong⟩
  · rcases he with he | he <;> cases he
  · refine ⟨past, fun window hwindow => ?_⟩
    rw [hnone] at hwindow
    cases hwindow
  · refine ⟨later, fun window' hwindow' => ?_⟩
    obtain rfl := Option.some.inj (hwindow.symm.trans hwindow')
    exact hlong

/-- It is the window of a round that overflows only if there is none. -/
lemma windowOfRound_of_overflow {round : Nat}
    (h : ((searchRound config target filter round).run net past).1 = .error .windowOverflow) :
    windowOfRound config round = none := by
  rcases error_of_searchRound h with ⟨text, he⟩ | ⟨-, hnone⟩ | ⟨window, later, he, -⟩
  · cases he
  · exact hnone
  · cases he

/-- A failure of a search, other than that nobody answers, is the failure of one of its rounds. -/
lemma exists_round_of_error {left round : Nat} {e : Error} (he : e ≠ unanswered config filter)
    (h : ((searchFrom config target filter left round).run net past).1 = .error e) :
    ∃ r later, r < round + left ∧
      ((searchRound config target filter r).run net later).1 = .error e := by
  induction left generalizing round past with
  | zero => exact absurd (Except.error.inj h).symm he
  | succ left ih =>
    rw [searchFrom] at h
    obtain ⟨outcome, later, hrun⟩ := (searchRound config target filter round).exists_run net past
    cases outcome with
    | error e' =>
      rw [Exchange.run_bind_error net past hrun] at h
      exact ⟨round, past, by omega, by rw [hrun, h]⟩
    | ok found =>
      rw [Exchange.run_bind_ok net past hrun] at h
      split at h
      · obtain ⟨r, later', hr, hround⟩ := ih h
        exact ⟨r, later', by omega, hround⟩
      · cases h

lemma windowOverflow_ne_unanswered : .windowOverflow ≠ unanswered config filter := by
  cases filter <;> nofun

lemma clockOverflow_ne_unanswered : .clockOverflow ≠ unanswered config filter := by
  cases filter <;> nofun

/-- A search breaks off only if one of its rounds cannot be timed. -/
lemma exists_round_of_breaksOff {left round : Nat}
    (h : BreaksOff ((searchFrom config target filter left round).run net past).1) :
    ∃ r later, r < round + left ∧ Overflows config (net.clock later) r := by
  obtain ⟨e, he, hne, herror⟩ : ∃ e, (e = .windowOverflow ∨ e = .clockOverflow) ∧
      e ≠ unanswered config filter ∧
      ((searchFrom config target filter left round).run net past).1 = .error e := by
    rcases h with h | h
    · exact ⟨_, .inl rfl, windowOverflow_ne_unanswered, h⟩
    · exact ⟨_, .inr rfl, clockOverflow_ne_unanswered, h⟩
  obtain ⟨r, later, hr, hround⟩ := exists_round_of_error hne herror
  obtain ⟨later', hlong⟩ := exists_overflows_of_error he hround
  exact ⟨r, later', hr, hlong⟩

end Run

/-- A network in which searches are sent and nobody answers, on a host whose clock stands. -/
def quietNetwork (now : Nat) : Network :=
  { Network.offline with search _ _ _ _ := .ok fun _ => [], clock := fun _ => now }

/-- If nobody answers, a search goes on up to a round that cannot be timed. -/
lemma breaksOff_of_overflows (target : Endpoint) (filter : Option Ip) {now left round r : Nat}
    (hr : round ≤ r) (hlt : r < round + left) (hlong : Overflows config now r)
    (past : List Request) :
    BreaksOff ((searchFrom config target filter left round).run (quietNetwork now) past).1 := by
  induction left generalizing round past with
  | zero => omega
  | succ left ih =>
    have hquiet : (quietNetwork now).search past config.localIp target
        (searchOfRound config round).datagram = .ok fun _ => [] := rfl
    have hclock : ∀ later, (quietNetwork now).clock later = now := fun _ => rfl
    have hrun := run_searchRound config target filter round (quietNetwork now) past
    rw [hquiet] at hrun
    dsimp only at hrun
    rw [hclock] at hrun
    rw [searchFrom]
    cases hwindow : windowOfRound config round with
    | none =>
      rw [hwindow] at hrun
      rw [Exchange.run_bind_error _ _ hrun]
      exact .inl rfl
    | some window =>
      rw [hwindow] at hrun
      dsimp only at hrun
      by_cases hend : clockLimit ≤ now + window.nanos
      · rw [if_pos hend] at hrun
        rw [Exchange.run_bind_error _ _ hrun]
        exact .inr rfl
      · rw [if_neg hend] at hrun
        rw [Exchange.run_bind_ok _ _ hrun]
        -- the round has been timed, so it is not the one that cannot be
        have hne : round ≠ r := by
          rintro rfl
          exact hend (hlong window hwindow)
        exact ih (by omega) (by omega) _

lemma attempts_pos (retries : UInt32) : 0 < (attempts retries).toNat := by
  rw [attempts]
  split
  · rename_i h
    rw [eq_of_beq h]
    decide
  · rename_i h
    have hne : retries.toNat ≠ 4294967295 := fun heq => h (beq_iff_eq.2 (UInt32.toNat_inj.1 heq))
    have hlt : retries.toNat < 4294967296 := retries.toNat_lt
    have hone : (1 : UInt32).toNat = 1 := rfl
    have hsum : (retries + 1).toNat = retries.toNat + 1 := by
      rw [UInt32.toNat_add, hone, Nat.mod_eq_of_lt]
      omega
    rw [hsum]
    exact Nat.succ_pos _

/-- When searches break off.  A round has no window exactly if the configured one times the seconds
of the round has more whole seconds than there is room for, and it is a window that overflows in a
search only if this happens in its last round.  A search can break off at all exactly if its last
round cannot be timed, be it because it has no window or because the clock cannot count it. -/
theorem overflow_iff (config : Config) :
    (∀ round, windowOfRound config round = none ↔ ∃ w, config.responseWindow = some w ∧
      maxLong < (w.parts.times (secondsOfRound config round)).seconds) ∧
    (∀ target filter net past,
      ((searchAt config target filter).run net past).1 = .error .windowOverflow →
        ∃ w, config.responseWindow = some w ∧
          maxLong < (w.parts.times (secondsOfRound config (lastRound config))).seconds) ∧
    ∀ target filter now,
      (∃ net past, (∀ later, net.clock later = now) ∧
        BreaksOff ((searchAt config target filter).run net past).1) ↔
        Overflows config now (lastRound config) := by
  simp only [← Duration.spanLimit_le_iff]
  have hpos := attempts_pos config.retries
  refine ⟨windowOfRound_eq_none_iff, fun target filter net past h => ?_,
    fun target filter now => ?_⟩
  · obtain ⟨r, later, hr, hround⟩ := exists_round_of_error windowOverflow_ne_unanswered h
    exact (windowOfRound_eq_none_iff _).1 (windowOfRound_eq_none_of_le
      (by unfold lastRound; omega) (windowOfRound_of_overflow hround))
  · constructor
    · rintro ⟨net, past, hclock, h⟩
      obtain ⟨r, later, hr, hlong⟩ := exists_round_of_breaksOff h
      rw [hclock] at hlong
      exact hlong.mono (by unfold lastRound; omega)
    · intro hlong
      exact ⟨quietNetwork now, [], fun _ => rfl, breaksOff_of_overflows target filter
        (Nat.zero_le _) (by unfold lastRound; omega) hlong []⟩

/-- A configuration that is accepted when it is read has no window for the first round, although
this window is configured. -/
theorem windowOfRound_long :
    ∃ config, Config.ofSetting?
        (.record [("response_window", .number ⟨false, 18446744073709549568, 0⟩)]) = some config ∧
      config.responseWindow.map Duration.parts = some ⟨18446744073709549568, 0⟩ ∧
      windowOfRound config 0 = none := by
  have hread : (Config.ofSetting?
      (.record [("response_window", .number ⟨false, 18446744073709549568, 0⟩)])).any
        (fun config => config.responseWindow.map Duration.parts =
          some ⟨18446744073709549568, 0⟩ ∧ windowOfRound config 0 = none) = true := by
    decide +kernel
  generalize Config.ofSetting? (.record _) = outcome at hread ⊢
  cases outcome with
  | none => cases hread
  | some config => exact ⟨config, rfl, by simpa using hread⟩

end UpnpGateway.Discovery
