/-
# `TurtleLogo.Proofs.Turtle.Decoration` — decorated turtles are transparent or atomic

A turtle that only keeps its pose may be wrapped, any number of times, in
reports and in robots.  Whatever the hardware refuses on the way, a call then
ends in one of two ways (`Mirrored`):

    done       with the answer and the pose of the bare turtle in the same pose
    refused    with an error that is told, and the pose as it was

For the wrappers this is one lemma each, `Turtle.Mirrors.reported` and
`Turtle.Mirrors.robot`; a call of a wrapped turtle is put in the form "do
something that leaves the inner turtle alone, then ask it" first.  By induction
over the calls the pose at any time is that of a bare turtle which received
only the calls that were done.
-/
import TurtleLogo.Proofs.Robot.Hardware
import TurtleLogo.Rig

namespace TurtleLogo

variable {σ η : Type}

/-! ## Calls of wrapped turtles

A call of a wrapped turtle is put in one form: something is done beside the turtle
inside, then it is asked, and then its answer is passed on. -/

/-- Calls whose amounts can be driven. -/
def Call.Measurable : Call → Prop
  | .move amount | .rotate amount => amount.Measurable
  | .penUp _ => True

/-- The line that a turtle reports after a call. -/
def Call.line : Call → Pose → Reply String
  | .move steps => movedLine steps
  | .rotate degrees => rotatedLine degrees
  | .penUp _ => penLine

theorem Call.Measurable.line {c : Call} (h : c.Measurable) (p : Pose) : ∃ text, c.line p = .ok text := by
  cases c with
  | move steps =>
      obtain ⟨⟨x, hx⟩, -⟩ := h
      simp only [Call.line, movedLine, reportQuantity, hx]
      exact ⟨_, rfl⟩
  | rotate degrees =>
      obtain ⟨⟨x, hx⟩, -⟩ := h
      simp only [Call.line, rotatedLine, reportQuantity, hx]
      exact ⟨_, rfl⟩
  | penUp up => exact ⟨_, rfl⟩

/-- Reporting an action and turning its result into an answer may change places. -/
theorem Turtle.reporting_bind {α β : Type} (t : Turtle σ) (x : Action σ α) (line : Pose → Reply String)
    (f : α → β) : (do let a ← t.reporting x line; pure (f a)) =
      t.reporting (do let a ← x; pure (f a)) line := by
  funext s
  rcases hr : x s with ⟨r, s'⟩
  cases r with
  | ok a => cases hl : line (t.pose s'.state) <;>
      simp [Bind.bind, Action.bind, Turtle.reporting, hr, hl, Pure.pure, Action.pure]
  | error e => cases hl : line (t.pose s'.state) <;>
      simp [Bind.bind, Action.bind, Turtle.reporting, hr, hl]

theorem Turtle.reported_answer (t : Turtle σ) (c : Call) :
    t.reported.answer c = t.reporting (t.answer c) c.line := by
  cases c with
  | move steps => exact t.reporting_bind (t.move steps) (movedLine steps) fun p => Answer.position p.1 p.2
  | rotate degrees => exact t.reporting_bind (t.rotate degrees) (rotatedLine degrees) Answer.heading
  | penUp up => exact t.reporting_bind (t.penUp up) penLine Answer.pen

namespace Robot

/-- What the hardware does for a call before the wrapped turtle is asked. -/
def prepare (c : Chassis η) (k : Calibration) : Call → Action η Unit
  | .move steps => do
    let (direction, count) ← Action.lift (phases steps k.moveScale)
    drive c k.delay direction direction count
  | .rotate degrees => do
    let (direction, count) ← Action.lift (phases degrees k.rotateScale)
    drive c k.delay direction (-direction) count
  | .penUp up => setPen c k up

theorem Dependable.prepare {c : Chassis η} {k : Calibration} {J : η → Prop} (h : Dependable c k J)
    {call : Call} (hc : call.Measurable) : (prepare c k call).Safe J Failure.IsReported := by
  cases call with
  | move steps =>
      refine Action.Safe.lift_bind (fun n _ => drive_safe h.advance _ _ _ _) fun e he => ?_
      exact phases_reported hc h.moveScale he
  | rotate degrees =>
      refine Action.Safe.lift_bind (fun n _ => drive_safe h.advance _ _ _ _) fun e he => ?_
      exact phases_reported hc h.rotateScale he
  | penUp up => exact h.setPen up

/-- What the hardware calculates and does, and what is made of the answer, do not depend on each
other. -/
theorem onFst_onSnd {α β γ : Type} (n : Reply α) (x : α → Action η Unit) (y : Action σ β) (f : β → γ) :
    (do
      let b ← (do let a ← Action.lift n; Action.onFst (x a); Action.onSnd y)
      pure (f b) : Action (η × σ) γ) = (do
      Action.onFst (do let a ← Action.lift n; x a)
      Action.onSnd (do let b ← y; pure (f b))) := by
  funext s
  cases n with
  | error e => rfl
  | ok a =>
      rcases hx : x a ⟨s.state.1, s.journal⟩ with ⟨r, s'⟩
      cases r with
      | error e => simp [Bind.bind, Action.bind, Action.lift, Action.onFst, hx]
      | ok u =>
          rcases hy : y ⟨s.state.2, s'.journal⟩ with ⟨r', s''⟩
          cases r' <;> simp [Bind.bind, Action.bind, Action.lift, Action.onFst, Action.onSnd, hx, hy,
            Pure.pure, Action.pure]

/-- A robot lets its hardware work and then asks the turtle that it takes along. -/
theorem turtle_answer (c : Chassis η) (k : Calibration) (t : Turtle σ) (call : Call) :
    (turtle c k t).answer call = (do
      Action.onFst (prepare c k call)
      Action.onSnd (t.answer call)) := by
  cases call with
  | move steps =>
      exact onFst_onSnd (phases steps k.moveScale) (fun n => drive c k.delay n.1 n.1 n.2)
        (t.move steps) fun p => Answer.position p.1 p.2
  | rotate degrees =>
      exact onFst_onSnd (phases degrees k.rotateScale) (fun n => drive c k.delay n.1 (-n.1) n.2)
        (t.rotate degrees) Answer.heading
  | penUp up => exact onFst_onSnd (.ok ()) (fun _ => setPen c k up) (t.penUp up) Answer.pen

theorem turtle_answer_of_error {c : Chassis η} {k : Calibration} {t : Turtle σ} {call : Call}
    {s : Scene (η × σ)} {s₁ : Scene η} {f : Failure}
    (h : prepare c k call ⟨s.state.1, s.journal⟩ = (.error f, s₁)) :
    (turtle c k t).answer call s = (.error f, ⟨(s₁.state, s.state.2), s₁.journal⟩) := by
  rw [turtle_answer]
  refine Action.bind_of_error ?_ _
  simp only [Action.onFst, h]

theorem turtle_answer_of_ok {c : Chassis η} {k : Calibration} {t : Turtle σ} {call : Call}
    {s : Scene (η × σ)} {s₁ : Scene η} (h : prepare c k call ⟨s.state.1, s.journal⟩ = (.ok (), s₁)) :
    (turtle c k t).answer call s =
      Action.onSnd (t.answer call) ⟨(s₁.state, s.state.2), s₁.journal⟩ := by
  rw [turtle_answer]
  refine Action.bind_of_ok (a := ()) ?_ _
  simp only [Action.onFst, h]

end Robot

/-! ## One call

Each wrapper adds a way to refuse a call, and none adds a way to change what is
done. -/

/-- `Mirrored c before reply after`: how the call `c` can end for a turtle that had the pose
`before` and has the pose `after`. -/
inductive Mirrored (c : Call) (before : Pose) : Reply Answer → Pose → Prop where
  | done {answer : Answer} {after : Pose} :
      (∀ j, kinematic.answer c ⟨before, j⟩ = (.ok answer, ⟨after, j⟩)) →
      Mirrored c before (.ok answer) after
  | refused (e : LogoError) : Mirrored c before (.error (.error e)) before

/-- `t.Mirrors I c`: in the states `I`, which it does not leave, the turtle `t` answers the call `c`
as a bare turtle does or refuses it. -/
def Turtle.Mirrors (t : Turtle σ) (I : σ → Prop) (c : Call) : Prop :=
  ∀ s, I s.state → I (t.answer c s).2.state ∧
    Mirrored c (t.pose s.state) (t.answer c s).1 (t.pose (t.answer c s).2.state)

/-- The bare turtle does what it is asked for. -/
theorem kinematic_answers {c : Call} (hc : c.Measurable) (p : Pose) :
    ∃ answer after, ∀ j, kinematic.answer c ⟨p, j⟩ = (.ok answer, ⟨after, j⟩) := by
  have calculates : ∀ {q : Quantity} {x : Float}, q.toFloat = .ok x →
      calculated q.toFloat = .ok x := by
    intro q x h
    rw [h]
    rfl
  cases c with
  | move steps =>
      obtain ⟨⟨x, hx⟩, -⟩ := hc
      refine ⟨.position (p.moved x).x (p.moved x).y, p.moved x, fun j => ?_⟩
      simp only [Turtle.answer, kinematic, Bind.bind, Action.bind, calculates hx]
      rfl
  | rotate degrees =>
      obtain ⟨⟨x, hx⟩, -⟩ := hc
      refine ⟨.heading (p.rotated x).heading, p.rotated x, fun j => ?_⟩
      simp only [Turtle.answer, kinematic, Bind.bind, Action.bind, calculates hx]
      rfl
  | penUp up => exact ⟨.pen up, p.withPen up, fun j => rfl⟩

/-- A report comes behind the call and changes nothing of it. -/
theorem Turtle.reported_answer_eq {c : Call} (hc : c.Measurable) (t : Turtle σ) (s : Scene σ) :
    ∃ text, t.reported.answer c s =
      ((t.answer c s).1, (t.answer c s).2.write (.wrote text)) := by
  obtain ⟨text, hline⟩ := hc.line (t.pose (t.answer c s).2.state)
  refine ⟨text, ?_⟩
  rw [t.reported_answer]
  simp only [Turtle.reporting, hline]

namespace Turtle.Mirrors

theorem bare {c : Call} (hc : c.Measurable) : kinematic.Mirrors (fun _ => True) c := by
  intro s _
  obtain ⟨answer, after, run⟩ := kinematic_answers hc s.state
  have here : kinematic.answer c s = (.ok answer, ⟨after, s.journal⟩) := run s.journal
  rw [here]
  exact ⟨trivial, .done run⟩

theorem reported {t : Turtle σ} {I : σ → Prop} {c : Call} (h : t.Mirrors I c) (hc : c.Measurable) :
    t.reported.Mirrors I c := by
  intro s hs
  obtain ⟨text, run⟩ := Turtle.reported_answer_eq hc t s
  rw [run]
  exact h s hs

/-- The hardware comes before the call, and if it fails the wrapped turtle is not asked. -/
theorem robot {c : Robot.Chassis η} {k : Robot.Calibration} {J : η → Prop} {t : Turtle σ}
    {I : σ → Prop} {call : Call} (hw : Robot.Dependable c k J) (h : t.Mirrors I call)
    (hc : call.Measurable) :
    (Robot.turtle c k t).Mirrors (fun s => J s.1 ∧ I s.2) call := by
  rintro ⟨⟨e, i⟩, j⟩ ⟨hJ, hI⟩
  have hkept := (hw.prepare hc ⟨e, j⟩ hJ).1
  have hreported := (hw.prepare hc ⟨e, j⟩ hJ).2
  rcases hr : Robot.prepare c k call ⟨e, j⟩ with ⟨r, s'⟩
  rw [hr] at hkept hreported
  cases r with
  | error f =>
      obtain ⟨told, rfl⟩ := hreported f rfl
      rw [Robot.turtle_answer_of_error hr]
      exact ⟨⟨hkept, hI⟩, .refused told⟩
  | ok u =>
      obtain ⟨hinner, hmirrored⟩ := h ⟨i, s'.journal⟩ hI
      rw [Robot.turtle_answer_of_ok hr]
      exact ⟨⟨hkept, hinner⟩, hmirrored⟩

end Turtle.Mirrors

/-! ## Turtles in wrappers

The wrappers may be put on in any order and number. -/

/-- `Decorated t I`: the turtle `t` is the bare one in any number of reports and robots; `I` are the
states in which the robots' hardware can be relied on to report what it cannot do. -/
inductive Decorated : {σ : Type} → Turtle σ → (σ → Prop) → Prop where
  | bare : Decorated kinematic fun _ => True
  | reported {σ : Type} {t : Turtle σ} {I : σ → Prop} : Decorated t I → Decorated t.reported I
  | robot {η σ : Type} {c : Robot.Chassis η} {k : Robot.Calibration} {J : η → Prop} {t : Turtle σ}
      {I : σ → Prop} : Robot.Dependable c k J → Decorated t I →
      Decorated (Robot.turtle c k t) fun s => J s.1 ∧ I s.2

theorem Decorated.mirrors {t : Turtle σ} {I : σ → Prop} (h : Decorated t I) {c : Call}
    (hc : c.Measurable) : t.Mirrors I c := by
  induction h with
  | bare => exact .bare hc
  | reported _ ih => exact ih.reported hc
  | robot hw _ ih => exact .robot hw ih hc

/-- The rigs with a bare turtle inside and real measures on all benches. -/
def Rig.IsReal : Rig → Prop
  | .kinematic => True
  | .faulty _ => False
  | .reported inner => inner.IsReal
  | .robot k bench inner => k.moveScale.IsReal ∧ k.rotateScale.IsReal ∧
      (∀ up, (k.penAngle up).InReals) ∧ bench.servo.IsReal ∧ inner.IsReal

/-- Such rigs are decorated turtles, whatever fails on their benches, and they start in order. -/
theorem Rig.decorated : ∀ (r : Rig) (robots : Nat), r.IsReal →
    ∃ I, Decorated (r.turtleWithin robots) I ∧ I r.initial
  | .kinematic, _, _ => ⟨_, .bare, trivial⟩
  | .faulty _, _, h => nomatch h
  | .reported inner, robots, h => by
      obtain ⟨I, hI, hstart⟩ := inner.decorated robots h
      exact ⟨I, .reported hI, hstart⟩
  | .robot k bench inner, robots, ⟨hmove, hrotate, hpen, hservo, hinner⟩ => by
      obtain ⟨I, hI, hstart⟩ := inner.decorated (robots + 1) hinner
      exact ⟨_, .robot (Robot.Bench.dependable robots hmove hrotate hpen) hI, hservo, hstart⟩

/-- The wired robot is a decorated turtle, as long as its devices are open. -/
theorem Robot.Wiring.decorated {c : Robot.Config} (hmove : c.moveScale.IsReal)
    (hrotate : c.rotateScale.IsReal) (hpen : ∀ up, (c.calibration.penAngle up).InReals) :
    Decorated (Robot.Wiring.turtle c) fun s => Robot.Wiring.IsOpen s.1 ∧ True :=
  .robot (Robot.Wiring.dependable hmove hrotate hpen) (.reported .bare)

/-! ## Calls in a row

The calls that were done, taken alone, are the history of a bare turtle. -/

/-- Asks a turtle for one thing after the other, whatever becomes of each, and writes down what it
replies. -/
def Turtle.serve (t : Turtle σ) : List Call → Scene σ → List (Call × Reply Answer) × Scene σ
  | [], s => ([], s)
  | c :: cs, s =>
    match t.answer c s with
    | (r, s) =>
      match t.serve cs s with
      | (log, s) => ((c, r) :: log, s)

/-- The calls that were done, with their answers. -/
def granted (log : List (Call × Reply Answer)) : List (Call × Answer) :=
  log.filterMap fun
    | (c, .ok a) => some (c, a)
    | (_, .error _) => none

theorem Turtle.serve_cons (t : Turtle σ) (c : Call) (cs : List Call) (s : Scene σ) :
    t.serve (c :: cs) s = ((c, (t.answer c s).1) :: (t.serve cs (t.answer c s).2).1,
      (t.serve cs (t.answer c s).2).2) := rfl

section Run

variable {t : Turtle σ} {I : σ → Prop}

theorem Turtle.serve_keeps {cs : List Call} (h : ∀ c ∈ cs, t.Mirrors I c) {s : Scene σ}
    (hs : I s.state) : I (t.serve cs s).2.state := by
  induction cs generalizing s with
  | nil => exact hs
  | cons c cs ih =>
      obtain ⟨hc, hcs⟩ := List.forall_mem_cons.mp h
      exact ih hcs (hc s hs).1

/-- A bare turtle that receives only the calls that were done gives the same answers, and ends in
the same pose. -/
theorem Turtle.serve_granted {cs : List Call} (h : ∀ c ∈ cs, t.Mirrors I c) {s : Scene σ}
    (hs : I s.state) (j : Journal) :
    kinematic.serve ((granted (t.serve cs s).1).map Prod.fst) ⟨t.pose s.state, j⟩ =
      ((granted (t.serve cs s).1).map fun g => (g.1, .ok g.2), ⟨t.pose (t.serve cs s).2.state, j⟩) := by
  induction cs generalizing s with
  | nil => rfl
  | cons c cs ih =>
      obtain ⟨hc, hcs⟩ := List.forall_mem_cons.mp h
      obtain ⟨hkept, hmirrored⟩ := hc s hs
      have rest := ih hcs hkept
      rw [t.serve_cons]
      generalize t.pose s.state = before at hmirrored ⊢
      generalize hafter : t.pose (t.answer c s).2.state = after at hmirrored rest
      generalize (t.answer c s).1 = reply at hmirrored ⊢
      cases hmirrored with
      | @done answer _ bare =>
          have head : granted ((c, .ok answer) :: (t.serve cs (t.answer c s).2).1) =
              (c, answer) :: granted (t.serve cs (t.answer c s).2).1 := rfl
          rw [head, List.map_cons, List.map_cons, Turtle.serve_cons, bare j, rest]
      | refused e => exact rest

end Run

/-- However a bare turtle is wrapped in reports and robots and whatever the hardware refuses, each
call is done as the bare turtle would do it or refused with the pose untouched; so a bare turtle
that receives only the calls that were done has the same pose in the end. -/
theorem decorated_transparent_or_atomic {t : Turtle σ} {I : σ → Prop} (h : Decorated t I)
    {calls : List Call} (measurable : ∀ c ∈ calls, c.Measurable) {s : Scene σ} (hs : I s.state) :
    (∀ earlier c later, calls = earlier ++ c :: later →
      let before := (t.serve earlier s).2
      let (reply, after) := t.answer c before
      Mirrored c (t.pose before.state) reply (t.pose after.state)) ∧
    ∀ j, kinematic.serve ((granted (t.serve calls s).1).map Prod.fst) ⟨t.pose s.state, j⟩ =
      ((granted (t.serve calls s).1).map fun g => (g.1, .ok g.2),
        ⟨t.pose (t.serve calls s).2.state, j⟩) := by
  have mirrors : ∀ c ∈ calls, t.Mirrors I c := fun c hc => h.mirrors (measurable c hc)
  refine ⟨?_, fun j => Turtle.serve_granted mirrors hs j⟩
  rintro earlier c later rfl
  have there : I (t.serve earlier s).2.state :=
    Turtle.serve_keeps (fun c hc => mirrors c (List.mem_append_left _ hc)) hs
  exact (mirrors c (by simp) _ there).2

/-- A robot that reports and takes a reporting turtle along.  Its left wheel fails in its fourth
phase and a line of its right one in the sixth, and its pen cannot be let down. -/
def halfwayRig : Rig :=
  .reported
    (.robot ⟨.real 1.0, .real 0.5, .real 0.002, .real 0.0, .real 90.0⟩
      { servo := ⟨some ⟨.real 0.0, .real 45.0, .real 0.05, .real 0.2, 0.003⟩, ⟨Schedule.never, 0⟩⟩
        left := .standIn ⟨fun k => k == 3, 0⟩
        right := .stepper ⟨Robot.standardPattern, .real 0.001, Robot.benchLines .right
          [Schedule.never, fun k => k == 5, Schedule.never, Schedule.never], 0⟩
        devices := [] }
      (.reported .kinematic))

theorem halfwayRig_isReal : halfwayRig.IsReal := by
  refine ⟨⟨_, rfl⟩, ⟨_, rfl⟩, fun up => ?_, fun servo h => ?_, trivial⟩
  · cases up with
    | false => exact ⟨_, rfl⟩
    | true => exact ⟨_, rfl⟩
  · obtain rfl := Option.some.inj h
    exact ⟨⟨_, rfl⟩, ⟨_, rfl⟩⟩

/-- Calls of which the second, the third and the fifth fail halfway on the rig above. -/
def halfwayCalls : List Call :=
  [.move (.real 2.5), .move (.whole (-2)), .penUp false, .penUp true, .rotate (.real 5.0),
    .move (.truth true)]

theorem halfwayCalls_measurable : ∀ c ∈ halfwayCalls, c.Measurable := by
  have whole : (Quantity.whole (-2)).Measurable :=
    ⟨Quantity.inReals_of_isOk (by decide +kernel), Quantity.inReals_of_isOk (by decide +kernel)⟩
  have truth : (Quantity.truth true).Measurable :=
    ⟨Quantity.inReals_of_isOk (by decide +kernel), Quantity.inReals_of_isOk (by decide +kernel)⟩
  have real : ∀ x, (Quantity.real x).Measurable := fun x => Quantity.IsReal.measurable ⟨x, rfl⟩
  simp only [halfwayCalls, List.forall_mem_cons]
  exact ⟨real _, whole, trivial, trivial, real _, truth, List.forall_mem_nil _⟩

def halfwayRun : List (Call × Reply Answer) × Scene halfwayRig.State :=
  halfwayRig.turtle.serve halfwayCalls ⟨halfwayRig.initial, []⟩

theorem decorated_transparent_or_atomic_halfway :
    (∃ I, Decorated halfwayRig.turtle I ∧ I halfwayRig.initial) ∧
      (∀ c ∈ halfwayCalls, c.Measurable) ∧
      (halfwayRun.1.map fun r => r.2.isOk) = [true, false, false, true, false, true] ∧
      kinematic.serve ((granted halfwayRun.1).map Prod.fst)
          ⟨halfwayRig.turtle.pose halfwayRig.initial, []⟩ =
        ((granted halfwayRun.1).map fun g => (g.1, .ok g.2),
          ⟨halfwayRig.turtle.pose halfwayRun.2.state, []⟩) := by
  have decorates : ∃ I, Decorated halfwayRig.turtle I ∧ I halfwayRig.initial :=
    halfwayRig.decorated 0 halfwayRig_isReal
  refine ⟨decorates, halfwayCalls_measurable, by decide +kernel, ?_⟩
  obtain ⟨I, decorated, start⟩ := decorates
  have conclusion := decorated_transparent_or_atomic decorated halfwayCalls_measurable
    (s := ⟨halfwayRig.initial, []⟩) start
  rw [halfwayRun]
  exact conclusion.2 []

end TurtleLogo
