/-
# What a collector keeps

A collector is offered the advertisements of a sequence of datagrams, of which some cannot be
read and some come from elsewhere.  This file shows that it keeps exactly the first one of each
name among those that count, that it says so when it keeps one, and that a datagram that does
not count leaves no trace, wherever it arrives and whatever name it carries.
-/
import Mathlib.Tactic.Lemma
import UpnpGateway.Discovery.Discover

namespace UpnpGateway.Discovery

open UpnpGateway.Http UpnpGateway.Net UpnpGateway.Text

/-- A datagram as it arrives: its sender and its text. -/
abbrev Datagram := Endpoint × String

/-- The advertisement in a datagram. -/
def Datagram.advertisement? (d : Datagram) : Option Advertisement :=
  Advertisement.parse? d.2 d.1

/-- The advertisement in a datagram that counts: it comes from the address that is asked, if one
is. -/
def Datagram.genuine? (filter : Option Ip) (d : Datagram) : Option Advertisement :=
  if filter.all fun ip => d.1.ip == ip then d.advertisement? else none

/-- Two advertisements of one gateway. -/
def Advertisement.sameName (a b : Advertisement) : Bool := a.usn == b.usn

namespace Collector

/-- Whether the advertisement of a datagram is kept. -/
def answer (c : Collector) (d : Datagram) : Bool := d.advertisement?.any c.accepts

/-- The collector after a datagram has come. -/
def hear (c : Collector) (d : Datagram) : Collector :=
  match d.advertisement? with
  | none => c
  | some a => c.offer a

/-- The collector after some datagrams have come. -/
def hearAll (c : Collector) (ds : List Datagram) : Collector := ds.foldl hear c

/-- What is said to each of some datagrams. -/
def answers (c : Collector) : List Datagram → List Bool
  | [] => []
  | d :: ds => c.answer d :: (c.hear d).answers ds

/-- The advertisements of some datagrams that are answered with yes. -/
def kept (c : Collector) (ds : List Datagram) : List Advertisement :=
  ((ds.zip (c.answers ds)).filter Prod.snd).filterMap fun e => e.1.advertisement?

variable {c : Collector} {d : Datagram} {ds : List Datagram} {name : String}

/-! ## One datagram -/

lemma sender_of_advertisement? {a : Advertisement} (h : d.advertisement? = some a) :
    a.sender = d.1 := by
  rw [Datagram.advertisement?, Advertisement.parse?] at h
  split at h
  · cases h
  · split at h
    · simp at h
    · simp only [Option.bind_eq_bind, Option.bind_eq_some_iff, Option.pure_def,
        Option.some.injEq] at h
      obtain ⟨-, -, location, -, usn, -, rfl⟩ := h
      rfl

/-- An advertisement is kept if it counts and its name is a new one. -/
lemma accepts_of_advertisement? {a : Advertisement} (h : d.advertisement? = some a) :
    c.accepts a = ((d.genuine? c.filter).isSome && !c.seen.contains a.usn) := by
  rw [accepts, sender_of_advertisement? h, Datagram.genuine?, h]
  split
  · rename_i hfilter
    rw [hfilter]
    rfl
  · rename_i hfilter
    rw [Bool.not_eq_true] at hfilter
    rw [hfilter]
    rfl

/-- A datagram does not count, or its name has been seen, or its advertisement is kept. -/
lemma hear_cases (c : Collector) (d : Datagram) :
    (d.genuine? c.filter = none ∧ c.answer d = false ∧ c.hear d = c) ∨
    (∃ a, d.genuine? c.filter = some a ∧ a.usn ∈ c.seen ∧ c.answer d = false ∧ c.hear d = c) ∨
    (∃ a, d.genuine? c.filter = some a ∧ d.advertisement? = some a ∧ a.usn ∉ c.seen ∧
      c.answer d = true ∧ c.hear d = ⟨c.filter, a.usn :: c.seen, c.found ++ [a]⟩) := by
  cases had : d.advertisement? with
  | none =>
    have hnone : d.genuine? c.filter = none := by
      rw [Datagram.genuine?, had, ite_self]
    exact .inl ⟨hnone, by rw [answer, had]; rfl, by rw [hear, had]⟩
  | some a =>
    have haccepts := accepts_of_advertisement? (c := c) had
    have hanswer : c.answer d = c.accepts a := by
      rw [answer, had, Option.any_some]
    have hhear : c.hear d = c.offer a := by
      rw [hear, had]
    by_cases hfilter : (c.filter.all fun ip => d.1.ip == ip) = true
    · have hsome : d.genuine? c.filter = some a := by
        rw [Datagram.genuine?, if_pos hfilter, had]
      rw [hsome, Option.isSome_some, Bool.true_and] at haccepts
      by_cases hseen : a.usn ∈ c.seen
      · have hno : c.accepts a = false := by
          simpa [hseen] using haccepts
        exact .inr (.inl ⟨a, hsome, hseen, hanswer.trans hno, by rw [hhear, offer, hno]; rfl⟩)
      · have hyes : c.accepts a = true := by
          simpa [hseen] using haccepts
        exact .inr (.inr ⟨a, hsome, rfl, hseen, hanswer.trans hyes,
          by rw [hhear, offer, hyes]; rfl⟩)
    · have hnone : d.genuine? c.filter = none := by
        rw [Datagram.genuine?, if_neg hfilter]
      have hno : c.accepts a = false := by
        rw [haccepts, hnone]
        rfl
      exact .inl ⟨hnone, hanswer.trans hno, by rw [hhear, offer, hno]; rfl⟩

@[simp] lemma filter_hear (c : Collector) (d : Datagram) : (c.hear d).filter = c.filter := by
  rcases hear_cases c d with ⟨-, -, h⟩ | ⟨a, -, -, -, h⟩ | ⟨a, -, -, -, -, h⟩ <;> rw [h]

/-- A datagram is answered with yes if it counts and its name is a new one. -/
lemma answer_iff (c : Collector) (d : Datagram) :
    c.answer d = true ↔ ∃ a, d.genuine? c.filter = some a ∧ a.usn ∉ c.seen := by
  rcases hear_cases c d with ⟨hg, ha, -⟩ | ⟨a, hg, hseen, ha, -⟩ | ⟨a, hg, -, hseen, ha, -⟩
  · simp [hg, ha]
  · simp [hg, ha, hseen]
  · simp [hg, ha, hseen]

/-! ## Many datagrams -/

@[simp] lemma hearAll_cons (c : Collector) (d : Datagram) (ds : List Datagram) :
    c.hearAll (d :: ds) = (c.hear d).hearAll ds := rfl

@[simp] lemma filter_hearAll (c : Collector) (ds : List Datagram) :
    (c.hearAll ds).filter = c.filter := by
  induction ds generalizing c with
  | nil => rfl
  | cons d ds ih => rw [hearAll_cons, ih, filter_hear]

/-- The names that have been seen are those of the answers that have been kept. -/
def Consistent (c : Collector) : Prop :=
  ∀ name, name ∈ c.seen ↔ ∃ a ∈ c.found, a.usn = name

lemma consistent_empty (filter : Option Ip) : (empty filter).Consistent := by
  intro name
  simp [empty]

lemma Consistent.hear (h : c.Consistent) (d : Datagram) : (c.hear d).Consistent := by
  rcases hear_cases c d with ⟨-, -, hc⟩ | ⟨a, -, -, -, hc⟩ | ⟨a, -, -, -, -, hc⟩
  · rwa [hc]
  · rwa [hc]
  · intro name
    rw [hc, List.mem_cons, h name]
    constructor
    · rintro (rfl | ⟨b, hb, rfl⟩)
      · exact ⟨a, by simp, rfl⟩
      · exact ⟨b, by simp [hb], rfl⟩
    · rintro ⟨b, hb, rfl⟩
      rcases List.mem_append.1 hb with hb | hb
      · exact .inr ⟨b, hb, rfl⟩
      · exact .inl (congrArg Advertisement.usn (List.mem_singleton.1 hb))

lemma Consistent.hearAll (h : c.Consistent) (ds : List Datagram) : (c.hearAll ds).Consistent := by
  induction ds generalizing c with
  | nil => exact h
  | cons d ds ih => exact ih (h.hear d)

/-- The names that have been seen are those that were seen before and those of the datagrams that
count. -/
lemma mem_seen_hearAll (c : Collector) (ds : List Datagram) :
    name ∈ (c.hearAll ds).seen ↔
      name ∈ c.seen ∨ ∃ a ∈ ds.filterMap (Datagram.genuine? c.filter), a.usn = name := by
  induction ds generalizing c with
  | nil => simp [hearAll]
  | cons d ds ih =>
    rw [hearAll_cons, ih, filter_hear]
    rcases hear_cases c d with ⟨hg, -, hc⟩ | ⟨a, hg, hseen, -, hc⟩ | ⟨a, hg, -, hseen, -, hc⟩
    · rw [hc, List.filterMap_cons_none hg]
    · rw [hc, List.filterMap_cons_some hg]
      simp only [List.mem_cons, exists_eq_or_imp]
      constructor
      · rintro (h | h)
        · exact .inl h
        · exact .inr (.inr h)
      · rintro (h | rfl | h)
        · exact .inl h
        · exact .inl hseen
        · exact .inr h
    · rw [hc, List.filterMap_cons_some hg]
      simp only [List.mem_cons, exists_eq_or_imp]
      constructor
      · rintro ((rfl | h) | h)
        · exact .inr (.inl rfl)
        · exact .inl h
        · exact .inr (.inr h)
      · rintro (h | rfl | h)
        · exact .inl (.inr h)
        · exact .inl (.inl rfl)
        · exact .inr h

/-- The answers that are found are those that were found before and, of those that count and whose
names had not been seen, the first one of each name. -/
lemma found_hearAll (c : Collector) (ds : List Datagram) :
    (c.hearAll ds).found = c.found ++
      ((ds.filterMap (Datagram.genuine? c.filter)).filter fun a =>
        !c.seen.contains a.usn).eraseDupsBy Advertisement.sameName := by
  induction ds generalizing c with
  | nil => simp [hearAll]
  | cons d ds ih =>
    rw [hearAll_cons, ih, filter_hear]
    rcases hear_cases c d with ⟨hg, -, hc⟩ | ⟨a, hg, hseen, -, hc⟩ | ⟨a, hg, -, hseen, -, hc⟩
    · rw [hc, List.filterMap_cons_none hg]
    · rw [hc, List.filterMap_cons_some hg, List.filter_cons_of_neg (by simpa using hseen)]
    · -- from here on the name of the new answer counts as seen
      rw [hc, List.filterMap_cons_some hg, List.filter_cons_of_pos (by simpa using hseen),
        List.eraseDupsBy_cons, List.filter_filter, List.append_assoc, List.singleton_append]
      congr 3
      refine List.filter_congr fun b _ => ?_
      by_cases hb : b.usn = a.usn <;> simp [Advertisement.sameName, hb]

lemma answers_append (c : Collector) (ds ds' : List Datagram) :
    c.answers (ds ++ ds') = c.answers ds ++ (c.hearAll ds).answers ds' := by
  induction ds generalizing c with
  | nil => rfl
  | cons d ds ih =>
    rw [List.cons_append, answers, ih, answers, List.cons_append, hearAll_cons]

@[simp] lemma length_answers (c : Collector) (ds : List Datagram) :
    (c.answers ds).length = ds.length := by
  induction ds generalizing c with
  | nil => rfl
  | cons d ds ih => rw [answers, List.length_cons, ih, List.length_cons]

/-- What is found is what is answered with yes. -/
lemma found_eq_append_kept (c : Collector) (ds : List Datagram) :
    (c.hearAll ds).found = c.found ++ c.kept ds := by
  induction ds generalizing c with
  | nil => simp [hearAll, kept]
  | cons d ds ih =>
    have hstep : (c.hear d).found = c.found ++ c.kept [d] := by
      rcases hear_cases c d with ⟨-, ha, hc⟩ | ⟨a, -, -, ha, hc⟩ | ⟨a, -, had, -, ha, hc⟩
      · simp [kept, answers, ha, hc]
      · simp [kept, answers, ha, hc]
      · simp [kept, answers, ha, hc, had]
    have hkept : c.kept (d :: ds) = c.kept [d] ++ (c.hear d).kept ds := by
      rw [kept, answers, List.zip_cons_cons, ← List.singleton_append, List.filter_append,
        List.filterMap_append]
      rfl
    rw [hearAll_cons, ih, hstep, hkept, List.append_assoc]

/-! ## Datagrams that do not count -/

/-- What is left of a list when the marked items are taken out. -/
def unmarked {α : Type} (xs : List (α × Bool)) : List α :=
  (xs.filter fun x => !x.2).map Prod.fst

/-- Datagrams that do not count leave no trace. -/
lemma hearAll_unmarked (c : Collector) {padded : List (Datagram × Bool)}
    (h : ∀ p ∈ padded, p.2 = true → p.1.genuine? c.filter = none) :
    c.hearAll (padded.map Prod.fst) = c.hearAll (unmarked padded) ∧
      unmarked ((c.answers (padded.map Prod.fst)).zip (padded.map Prod.snd)) =
        c.answers (unmarked padded) := by
  induction padded generalizing c with
  | nil => exact ⟨rfl, rfl⟩
  | cons p padded ih =>
    obtain ⟨d, mark⟩ := p
    have hrest : ∀ p ∈ padded, p.2 = true → p.1.genuine? (c.hear d).filter = none := by
      intro p hp hmark
      rw [filter_hear]
      exact h p (List.mem_cons_of_mem _ hp) hmark
    obtain ⟨hall, hanswers⟩ := ih (c.hear d) hrest
    cases mark with
    | false =>
      constructor
      · exact hall
      · simpa [unmarked, answers] using hanswers
    | true =>
      have hnone : d.genuine? c.filter = none := h _ List.mem_cons_self rfl
      have hsame : c.hear d = c := by
        rcases hear_cases c d with ⟨-, -, hc⟩ | ⟨a, hg, -⟩ | ⟨a, hg, -⟩
        · exact hc
        · rw [hnone] at hg
          cases hg
        · rw [hnone] at hg
          cases hg
      rw [hsame] at hall hanswers
      constructor
      · rw [List.map_cons, hearAll_cons, hsame]
        exact hall
      · simpa [unmarked, answers, hsame] using hanswers

/-! ## The whole sequence -/

/-- What a collector makes of a sequence of datagrams, and what it says to each of them. -/
structure CollectsFirsts (filter : Option Ip) (ds : List Datagram) : Prop where
  /-- Of the advertisements that count the first one of each name is found, in the order in which
  they came. -/
  found_eq : ((empty filter).hearAll ds).found =
    (ds.filterMap (Datagram.genuine? filter)).eraseDupsBy Advertisement.sameName
  /-- What is found is what is answered with yes. -/
  kept_eq : (empty filter).kept ds = ((empty filter).hearAll ds).found
  /-- A datagram is answered with yes if its advertisement counts and none before it has its
  name. -/
  answer_iff : ∀ before d after, ds = before ++ d :: after →
    (((empty filter).answers ds)[before.length]? = some true ↔
      ∃ a, d.genuine? filter = some a ∧
        ∀ b ∈ before.filterMap (Datagram.genuine? filter), b.usn ≠ a.usn)
  /-- The names that have been seen are those of the advertisements that are found. -/
  mem_seen_iff : ∀ name, name ∈ ((empty filter).hearAll ds).seen ↔
    ∃ a ∈ ((empty filter).hearAll ds).found, a.usn = name
  /-- Datagrams that do not count may be put in anywhere: the same is found, and the others are
  answered as before. -/
  padded : ∀ padded : List (Datagram × Bool), unmarked padded = ds →
    (∀ p ∈ padded, p.2 = true → p.1.genuine? filter = none) →
    ((empty filter).hearAll (padded.map Prod.fst)).found = ((empty filter).hearAll ds).found ∧
    unmarked (((empty filter).answers (padded.map Prod.fst)).zip (padded.map Prod.snd)) =
      (empty filter).answers ds

/-- A collector keeps exactly the first advertisement of each name that comes from the right
address. -/
theorem collectsFirsts (filter : Option Ip) (ds : List Datagram) : CollectsFirsts filter ds where
  found_eq := by
    -- no name has been seen yet, so none is left out
    have hnew : ∀ a ∈ ds.filterMap (Datagram.genuine? (empty filter).filter),
        (!(empty filter).seen.contains a.usn) = true := by
      intro a _
      rfl
    rw [found_hearAll, List.filter_eq_self.2 hnew]
    rfl
  kept_eq := by
    rw [found_eq_append_kept]
    simp [empty]
  answer_iff := by
    rintro before d after rfl
    have hget : ((empty filter).answers (before ++ d :: after))[before.length]? =
        some (((empty filter).hearAll before).answer d) := by
      rw [answers_append, List.getElem?_append_right (by simp)]
      simp [answers]
    rw [hget, Option.some.injEq, Collector.answer_iff, filter_hearAll]
    constructor
    · rintro ⟨a, ha, hseen⟩
      refine ⟨a, ha, fun b hb hname => hseen ?_⟩
      exact (mem_seen_hearAll _ _).2 (.inr ⟨b, hb, hname⟩)
    · rintro ⟨a, ha, hnew⟩
      refine ⟨a, ha, fun hseen => ?_⟩
      rcases (mem_seen_hearAll _ _).1 hseen with h | ⟨b, hb, hname⟩
      · simp [empty] at h
      · exact hnew b hb hname
  mem_seen_iff := (consistent_empty filter).hearAll ds
  padded := by
    rintro padded rfl hpadded
    obtain ⟨hall, hanswers⟩ := hearAll_unmarked (empty filter) hpadded
    exact ⟨congrArg Collector.found hall, hanswers⟩

/-! ## Listening -/

/-- A datagram that arrives as bytes. -/
def datagramOf (arrival : Endpoint × Bytes) : Datagram :=
  (arrival.1, String.ofList (decodeUtf8 (arrival.2.take maxDatagram)))

lemma listen_cons (c : Collector) (arrival : Endpoint × Bytes)
    (arrivals : List (Endpoint × Bytes)) :
    c.listen (arrival :: arrivals) =
      if c.answer (datagramOf arrival) && c.filter.isSome then c.hear (datagramOf arrival)
      else (c.hear (datagramOf arrival)).listen arrivals := by
  obtain ⟨sender, bytes⟩ := arrival
  have hread : (datagramOf (sender, bytes)).advertisement? = readDatagram? sender bytes := rfl
  rw [listen, answer, hear, hread]
  cases readDatagram? sender bytes with
  | none => rfl
  | some a => rfl

/-- A search in which one gateway is asked ends with its first answer; in any other search all that
arrives in a round is heard. -/
theorem found_listen (filter : Option Ip) (arrivals : List (Endpoint × Bytes)) :
    ((empty filter).listen arrivals).found =
      let found := ((empty filter).hearAll (arrivals.map datagramOf)).found
      if filter.isSome then found.take 1 else found := by
  cases filter with
  | none =>
    have hall : ∀ c : Collector, c.filter = none →
        c.listen arrivals = c.hearAll (arrivals.map datagramOf) := by
      induction arrivals with
      | nil => exact fun c _ => rfl
      | cons arrival arrivals ih =>
        intro c hc
        rw [listen_cons, hc, Option.isSome_none, Bool.and_false, List.map_cons, hearAll_cons]
        exact ih (c.hear _) (by rw [filter_hear, hc])
    exact congrArg Collector.found (hall (empty none) rfl)
  | some ip =>
    -- up to the first answer the collector stays empty
    dsimp only
    rw [Option.isSome_some, if_pos rfl]
    induction arrivals with
    | nil => rfl
    | cons arrival arrivals ih =>
      rw [listen_cons, List.map_cons, hearAll_cons]
      rcases hear_cases (empty (some ip)) (datagramOf arrival) with
        ⟨-, ha, hc⟩ | ⟨a, -, -, ha, hc⟩ | ⟨a, -, -, -, ha, hc⟩
      · rw [ha, hc]
        exact ih
      · rw [ha, hc]
        exact ih
      · have hfound : ((empty (some ip)).hear (datagramOf arrival)).found = [a] := by
          rw [hc]
          rfl
        rw [found_hearAll, hfound, ha]
        simpa [empty] using hfound

end Collector

end UpnpGateway.Discovery
