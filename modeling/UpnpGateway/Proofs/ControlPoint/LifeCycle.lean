/-
# The life of a session

A control point gets its session by connecting and keeps it until it is told to use another
gateway.  This file follows a control point over a whole life: it is told one thing after the
other, on a network that may change in between, and everything may fail.  The session is always
that of the last connecting that succeeded, nothing else has a part in it, and while there is one,
nothing is searched for or described again.
-/
import UpnpGateway.Proofs.ControlPoint.Deeds

namespace UpnpGateway

open UpnpGateway.Discovery UpnpGateway.Net UpnpGateway.Soap

/-! ## Courses that cannot fail -/

namespace Net

namespace Exchange

variable {ε α β : Type} (net : Network) (past : List Request)

/-- What a course that cannot fail comes to, with the longer list of requests. -/
def outcome (x : Exchange Empty α) : α × List Request :=
  match x.run net past with
  | (.ok a, later) => (a, later)

@[simp] lemma outcome_pure (a : α) : (pure a : Exchange Empty α).outcome net past = (a, past) := rfl

@[simp] lemma outcome_attempt (x : Exchange ε α) : x.attempt.outcome net past = x.run net past :=
  rfl

lemma outcome_of_run {x : Exchange Empty α} {a : α} {later : List Request}
    (h : x.run net past = (.ok a, later)) : x.outcome net past = (a, later) := by
  rw [outcome, h]

lemma outcome_bind (x : Exchange Empty α) (f : α → Exchange Empty β) :
    (x >>= f).outcome net past =
      (f (x.outcome net past).1).outcome net (x.outcome net past).2 := by
  obtain ⟨answer, later, hx⟩ := x.exists_run net past
  cases answer with
  | ok a => simp only [outcome, run_bind, hx]
  | error e => cases e

end Exchange

end Net

/-! ## Turns -/

/-- What a control point is told. -/
inductive Step where
  /-- To connect. -/
  | connect
  /-- To use a gateway that has been found. -/
  | connectTo (a : Advertisement)
  /-- To search for gateways. -/
  | search
  /-- To carry out a command. -/
  | execute (command : Command)
  /-- To do a deed with its gateway. -/
  | act {α : Type} (deed : Deed α)

namespace Step

/-- The control point that a step leaves, whatever the result of the step is. -/
def run (c : ControlPoint) : Step → Exchange Empty ControlPoint
  | connect => do return (← c.connect).1
  | connectTo a => do return (← c.connectTo a).1
  | execute command => do return (← c.execute command).1
  | search => do
    let _ ← c.search.attempt
    return c
  | act deed => do
    let _ ← (c.act fun s => s.carryOut deed).attempt
    return c

/-- The connecting that a step begins with, if it does. -/
def connecting? (c : ControlPoint) : Step → Option (Exchange Empty (ControlPoint.Outcome Session))
  | connect | execute (.operate _) => some c.connect
  | connectTo a => some (c.connectTo a)
  | search | execute .search | act _ => none

end Step

/-- A control point, and what has been asked for so far. -/
structure Situation where
  /-- The control point. -/
  point : ControlPoint
  /-- The requests so far. -/
  past : List Request

/-- What a control point is told, and the network at that time. -/
structure Turn where
  /-- What the control point is told. -/
  step : Step
  /-- The network. -/
  net : Network

/-- The situation after a turn. -/
def Turn.play (t : Turn) (x : Situation) : Situation :=
  let (point, past) := (t.step.run x.point).outcome t.net x.past
  ⟨point, past⟩

/-- The session that a turn connects to, if it connects and that succeeds. -/
def Turn.connected? (t : Turn) (x : Situation) : Option Session :=
  (t.step.connecting? x.point).bind fun connecting =>
    (connecting.outcome t.net x.past).1.2.toOption

/-- The situation after some turns. -/
def play (x : Situation) : List Turn → Situation
  | [] => x
  | t :: turns => play (t.play x) turns

/-- The sessions that some turns connect to. -/
def connections (x : Situation) : List Turn → List Session
  | [] => []
  | t :: turns => (t.connected? x).toList ++ connections (t.play x) turns

/-! ## One turn -/

namespace ControlPoint

variable (c : ControlPoint) (net : Network) (past : List Request)

/-- The control point with a session, if there is one. -/
def withSession? (found : Option Session) : ControlPoint :=
  { c with session := found.or c.session }

@[simp] lemma withSession?_none : c.withSession? none = c := rfl

/-- A session that is established is adopted, and otherwise nothing changes. -/
lemma outcome_adopt (x : Exchange Error Session) :
    (c.adopt x).outcome net past =
      ((c.withSession? (x.run net past).1.toOption, (x.run net past).1), (x.run net past).2) := by
  rw [adopt, Exchange.outcome_bind, Exchange.outcome_attempt]
  cases (x.run net past).1 <;> rfl

/-- Without a gateway, connecting establishes a session. -/
lemma connect_of_none (h : c.session = none) : c.connect = c.adopt (Session.establish c.config) := by
  rw [connect, h]

/-- With a gateway, connecting does nothing. -/
lemma connect_of_some {s : Session} (h : c.session = some s) : c.connect = pure (c, .ok s) := by
  rw [connect, h]

/-- Connecting, however it comes out, leaves the control point with the session that it yields. -/
lemma fst_outcome_connect :
    (c.connect.outcome net past).1.1 =
      c.withSession? (c.connect.outcome net past).1.2.toOption := by
  -- with a gateway, connecting yields the session that is there already
  cases h : c.session with
  | none => rw [c.connect_of_none h, outcome_adopt]
  | some s =>
    rw [c.connect_of_some h, Exchange.outcome_pure, Except.toOption, withSession?, Option.some_or,
      ← h]

lemma fst_outcome_connectTo (a : Advertisement) :
    ((c.connectTo a).outcome net past).1.1 =
      c.withSession? ((c.connectTo a).outcome net past).1.2.toOption := by
  rw [connectTo, outcome_adopt]

/-- A command leaves the control point as connecting does. -/
lemma fst_outcome_execute (operation : Operation) :
    ((c.execute (.operate operation)).outcome net past).1.1 =
      (c.connect.outcome net past).1.1 := by
  rw [execute, Exchange.outcome_bind]
  split
  rename_i c' connected h
  rw [h]
  cases connected with
  | error e => rfl
  | ok s => rfl

end ControlPoint

namespace Turn

variable (x : Situation)

/-- A turn leaves the control point with the session that it connects to, if there is one, and
changes nothing else. -/
lemma point_play (t : Turn) : (t.play x).point = x.point.withSession? (t.connected? x) := by
  obtain ⟨step, net⟩ := t
  change ((step.run x.point).outcome net x.past).1 = _
  cases step with
  | connect =>
    rw [Step.run, Exchange.outcome_bind, Exchange.outcome_pure, ControlPoint.fst_outcome_connect]
    rfl
  | connectTo a =>
    rw [Step.run, Exchange.outcome_bind, Exchange.outcome_pure,
      ControlPoint.fst_outcome_connectTo]
    rfl
  | search =>
    rw [Step.run, Exchange.outcome_bind, Exchange.outcome_pure]
    rfl
  | execute command =>
    rw [Step.run, Exchange.outcome_bind, Exchange.outcome_pure]
    cases command with
    | search => rfl
    | operate operation =>
      rw [ControlPoint.fst_outcome_execute, ControlPoint.fst_outcome_connect]
      rfl
  | act deed =>
    rw [Step.run, Exchange.outcome_bind, Exchange.outcome_pure]
    rfl

/-- A turn that connects to nothing leaves the control point as it is. -/
lemma point_play_of_none {t : Turn} (h : t.connected? x = none) : (t.play x).point = x.point := by
  rw [point_play, h, ControlPoint.withSession?_none]

end Turn

namespace ControlPoint

variable (c : ControlPoint) {s : Session} (net : Network) (past : List Request)

/-- With a gateway, a command that needs one only invokes actions of it. -/
lemma exists_run_execute (h : c.session = some s) (operation : Operation) :
    ∃ result asked, (c.execute (.operate operation)).run net past =
      (.ok (c, result), past ++ asked) ∧ ∀ r ∈ asked, r.IsAction := by
  obtain ⟨asked, hasked, hkind⟩ := s.perform_asks_isAction operation net past
  refine ⟨((s.perform operation).run net past).1, asked, ?_, hkind⟩
  rw [execute, c.connect_of_some h, Exchange.run_bind, Exchange.run_pure, ← hasked]
  rfl

/-- A command to search does nothing but search. -/
lemma exists_run_execute_search :
    ∃ result asked, (c.execute .search).run net past = (.ok (c, result), past ++ asked) ∧
      ∀ r ∈ asked, r.IsSearch := by
  have hsearch : (CommandResult.gateways <$> c.search).Asks Request.IsSearch :=
    .bind (discover_asks_isSearch c.config) fun _ => .pure _
  obtain ⟨asked, hasked, hkind⟩ := hsearch net past
  refine ⟨((CommandResult.gateways <$> c.search).run net past).1, asked, ?_, hkind⟩
  rw [execute, Exchange.run_bind, Exchange.run_attempt, hasked]
  rfl

/-- Without a gateway, an action fails, and nothing is sent. -/
lemma run_act_of_none {α : Type} (h : c.session = none) (operation : Session → Exchange Error α) :
    (c.act operation).run net past = (.error .notReady, past) := by
  rw [act, ready, h]
  rfl

/-- With a gateway, an action is that of its session. -/
lemma act_of_some {α : Type} (h : c.session = some s) (operation : Session → Exchange Error α) :
    c.act operation = operation s := by
  rw [act, ready, h]
  rfl

end ControlPoint

/-- A step needs a gateway, but not a certain one. -/
def Step.NeedsGateway : Step → Prop
  | connect | execute (.operate _) | act _ => True
  | connectTo _ | search | execute .search => False

/-- While there is a gateway, what needs one changes nothing and asks only for actions. -/
lemma Turn.play_of_needsGateway {t : Turn} {x : Situation} {s : Session}
    (hs : x.point.session = some s) (ht : t.step.NeedsGateway) :
    (t.play x).point = x.point ∧
      ∃ asked, (t.play x).past = x.past ++ asked ∧ ∀ r ∈ asked, r.IsAction := by
  obtain ⟨step, net⟩ := t
  have hplay : (Turn.mk step net).play x =
    ⟨((step.run x.point).outcome net x.past).1, ((step.run x.point).outcome net x.past).2⟩ := rfl
  rw [hplay]
  cases step with
  | connect =>
    rw [Step.run, Exchange.outcome_bind, x.point.connect_of_some hs]
    exact ⟨rfl, [], (List.append_nil _).symm, by simp⟩
  | connectTo a => cases ht
  | search => cases ht
  | execute command =>
    cases command with
    | search => cases ht
    | operate operation =>
      obtain ⟨result, asked, hrun, hasked⟩ :=
        x.point.exists_run_execute net x.past hs operation
      rw [Step.run, Exchange.outcome_bind, Exchange.outcome_of_run net x.past hrun]
      exact ⟨rfl, asked, rfl, hasked⟩
  | act deed =>
    -- the control point is left alone by definition, so that only the requests matter
    obtain ⟨asked, hrun, hasked⟩ := s.carryOut_asks_isAction deed net x.past
    rw [Step.run, Exchange.outcome_bind, Exchange.outcome_attempt, x.point.act_of_some hs]
    exact ⟨rfl, asked, hrun, hasked⟩

/-! ## Many turns -/

/-- While there is a gateway, nothing is searched for or described again, however often the control
point connects. -/
lemma play_of_needsGateway {x : Situation} {s : Session} (hs : x.point.session = some s)
    {turns : List Turn} (hturns : ∀ t ∈ turns, t.step.NeedsGateway) :
    (play x turns).point = x.point ∧
      ∃ asked, (play x turns).past = x.past ++ asked ∧ ∀ r ∈ asked, r.IsAction := by
  induction turns generalizing x with
  | nil => exact ⟨rfl, [], (List.append_nil _).symm, by simp⟩
  | cons t turns ih =>
    obtain ⟨hpoint, asked, hpast, hasked⟩ :=
      Turn.play_of_needsGateway hs (hturns t List.mem_cons_self)
    obtain ⟨hlast, more, hlater, hmore⟩ :=
      ih (by rwa [hpoint]) fun t ht => hturns t (List.mem_cons_of_mem _ ht)
    refine ⟨hlast.trans hpoint, asked ++ more, ?_, fun r hr => ?_⟩
    · rw [play, hlater, hpast, List.append_assoc]
    · exact (List.mem_append.1 hr).elim (hasked r) (hmore r)

/-- The session is that of the last connecting that succeeded. -/
lemma point_play (x : Situation) (turns : List Turn) :
    (play x turns).point = x.point.withSession? (connections x turns).getLast? := by
  induction turns generalizing x with
  | nil => rfl
  | cons t turns ih =>
    rw [play, ih, t.point_play, connections, List.getLast?_append]
    cases t.connected? x <;> cases (connections (t.play x) turns).getLast? <;> rfl

/-- A session is connected to in one of the turns. -/
lemma mem_connections {x : Situation} {s : Session} {turns : List Turn} :
    s ∈ connections x turns ↔ ∃ before t after, turns = before ++ t :: after ∧
      t.connected? (play x before) = some s := by
  induction turns generalizing x with
  | nil => simp [connections]
  | cons t turns ih =>
    rw [connections, List.mem_append, Option.mem_toList, ih]
    constructor
    · rintro (h | ⟨before, t', after, rfl, h⟩)
      · exact ⟨[], t, turns, rfl, h⟩
      · exact ⟨t :: before, t', after, rfl, h⟩
    · rintro ⟨before, t', after, hturns, h⟩
      cases before with
      | nil =>
        obtain ⟨rfl, rfl⟩ := List.cons.inj hturns
        exact .inl h
      | cons u before =>
        obtain ⟨rfl, rfl⟩ := List.cons.inj hturns
        exact .inr ⟨before, t', after, rfl, h⟩

/-- How a control point goes on from a situation, whatever it is told and whatever the network
says. -/
structure Situation.IsOrderly (x : Situation) : Prop where
  /-- Without a gateway, a deed fails, and nothing is sent. -/
  act_absent : x.point.session = none → ∀ {α : Type} (deed : Deed α) (net : Network),
    (x.point.act fun s => s.carryOut deed).run net x.past = (.error .notReady, x.past)
  /-- With a gateway, a deed is done with it. -/
  act_present : ∀ s, x.point.session = some s → ∀ {α : Type} (deed : Deed α),
    (x.point.act fun s => s.carryOut deed) = s.carryOut deed
  /-- Connecting that fails changes nothing, and neither does anything that does not connect. -/
  kept : ∀ t : Turn, t.connected? x = none → (t.play x).point = x.point
  /-- A session that is connected to is there afterwards, whatever else becomes of the turn. -/
  adopted : ∀ (t : Turn) (s : Session), t.connected? x = some s →
    (t.play x).point = { x.point with session := some s }
  /-- Searches and deeds change nothing. -/
  unchanged : ∀ net, ((Turn.mk .search net).play x).point = x.point ∧
    ((Turn.mk (.execute .search) net).play x).point = x.point ∧
    ∀ {α : Type} (deed : Deed α), ((Turn.mk (.act deed) net).play x).point = x.point
  /-- Without a gateway, connecting searches for one and describes it. -/
  connect_absent : x.point.session = none → ∀ net,
    (x.point.connect.outcome net x.past).1.2 =
      ((Session.establish x.point.config).run net x.past).1
  /-- With a gateway, connecting yields it, and nothing is sent. -/
  connect_present : ∀ s, x.point.session = some s → ∀ net,
    x.point.connect.run net x.past = (.ok (x.point, .ok s), x.past)
  /-- With a gateway, commands that need one only invoke actions of it. -/
  execute_present : ∀ s, x.point.session = some s → ∀ operation net, ∃ result asked,
    (x.point.execute (.operate operation)).run net x.past =
      (.ok (x.point, result), x.past ++ asked) ∧ ∀ r ∈ asked, r.IsAction
  /-- The other command only searches for gateways, with or without one. -/
  execute_search : ∀ net, ∃ result asked,
    (x.point.execute .search).run net x.past = (.ok (x.point, result), x.past ++ asked) ∧
      ∀ r ∈ asked, r.IsSearch
  /-- So it goes on as long as there are only turns that need a gateway. -/
  lasting : ∀ s, x.point.session = some s → ∀ turns : List Turn,
    (∀ t ∈ turns, t.step.NeedsGateway) → (play x turns).point = x.point ∧
      ∃ asked, (play x turns).past = x.past ++ asked ∧ ∀ r ∈ asked, r.IsAction
  /-- With a gateway, only being told to use another one changes anything. -/
  replaced : ∀ s, x.point.session = some s → ∀ t : Turn, (t.play x).point ≠ x.point →
    ∃ a s', t.step = .connectTo a ∧ ((x.point.connectTo a).outcome t.net x.past).1.2 = .ok s' ∧
      (t.play x).point = { x.point with session := some s' }

lemma Situation.isOrderly (x : Situation) : x.IsOrderly where
  act_absent h _ deed net := x.point.run_act_of_none net x.past h _
  act_present s h _ deed := x.point.act_of_some h _
  kept t h := Turn.point_play_of_none x h
  adopted t s h := by
    rw [t.point_play, h]
    rfl
  unchanged net := ⟨Turn.point_play_of_none x rfl, Turn.point_play_of_none x rfl,
    fun deed => Turn.point_play_of_none x rfl⟩
  connect_absent h net := by rw [x.point.connect_of_none h, ControlPoint.outcome_adopt]
  connect_present s h net := by rw [x.point.connect_of_some h, Exchange.run_pure]
  execute_present s h operation net := x.point.exists_run_execute net x.past h operation
  execute_search net := x.point.exists_run_execute_search net x.past
  lasting s h turns hturns := play_of_needsGateway h hturns
  replaced s h t hne := by
    obtain ⟨step, net⟩ := t
    -- what needs a gateway, and what connects to nothing, has been seen to change nothing
    have hneeds : ¬ step.NeedsGateway := fun hstep => hne (Turn.play_of_needsGateway h hstep).1
    have hconnected : (Turn.mk step net).connected? x ≠ none := fun hnone =>
      hne (Turn.point_play_of_none x hnone)
    cases step with
    | connectTo a =>
      cases hresult : ((x.point.connectTo a).outcome net x.past).1.2 with
      | error e => exact absurd (congrArg Except.toOption hresult) hconnected
      | ok s' =>
        have hsession : (Turn.mk (.connectTo a) net).connected? x = some s' :=
          congrArg Except.toOption hresult
        refine ⟨a, s', rfl, hresult, ?_⟩
        rw [Turn.point_play, hsession]
        rfl
    | connect | act deed => exact absurd trivial hneeds
    | search => exact absurd rfl hconnected
    | execute command =>
      cases command with
      | search => exact absurd rfl hconnected
      | operate operation => exact absurd trivial hneeds

/-- The life of a session.  Whatever a control point is told and whatever fails on the way, its
session is that of the last connecting that succeeded, so that it has one exactly if some
connecting has succeeded; and it is in good order wherever it has got to. -/
theorem session_play (config : Config) (past : List Request) (turns : List Turn) :
    let start : Situation := ⟨.new config, past⟩
    (play start turns).point = ⟨config, (connections start turns).getLast?⟩ ∧
    ((play start turns).point.session.isSome = true ↔ ∃ before t after,
      turns = before ++ t :: after ∧ (t.connected? (play start before)).isSome = true) ∧
    (play start turns).IsOrderly := by
  intro start
  have hpoint : (play start turns).point = ⟨config, (connections start turns).getLast?⟩ := by
    rw [point_play]
    exact congrArg (ControlPoint.mk config) Option.or_none
  refine ⟨hpoint, ?_, Situation.isOrderly _⟩
  rw [hpoint]
  constructor
  · intro hsome
    obtain ⟨s, hs⟩ := Option.isSome_iff_exists.1 hsome
    obtain ⟨before, t, after, hturns, h⟩ := mem_connections.1 (List.mem_of_getLast? hs)
    exact ⟨before, t, after, hturns, by rw [h, Option.isSome_some]⟩
  · rintro ⟨before, t, after, hturns, h⟩
    obtain ⟨s, hs⟩ := Option.isSome_iff_exists.1 h
    have hmem := mem_connections.2 ⟨before, t, after, hturns, hs⟩
    exact List.getLast?_isSome.2 (List.ne_nil_of_mem hmem)

end UpnpGateway
