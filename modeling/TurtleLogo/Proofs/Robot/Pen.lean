/-
# `TurtleLogo.Proofs.Robot.Pen` — where the servo holds the pen, and where the turtle says it is

The pen of a robot is in two places: its servo stands at one of two angles, and the
turtle that it takes along says whether the pen is up.  A robot turns the servo first,
and only if that succeeds is the turtle told; so the two agree, whatever the servo
refuses on the way.

    t.KeepsPen I          in the states I, which it does not leave, the turtle t sets its
                          pen when it is told to, and never else, but that closing may lift it
    PenWorks c k J        in the states J, which it does not leave, the chassis c can set its
                          servo at both angles of the measures k
    c.recorded            the chassis c, with the angles at which its servo has been set
    x.Refines f y         the action x replies what y does, and does the same to what f
                          shows of a scene
    Shifted t I k o s s'  what an operation of a robot may do to the servo and to the pen

Closing is where they may part.  It closes the turtle also if the servo has failed, and
a robot that is taken along lifts its pen when it is closed.  Then the pen is said to be
up while the servo of the outer robot still holds it down; that is the only way, and it
lasts until the servo is set again.
-/
import TurtleLogo.Proofs.Robot.Lifecycle
import TurtleLogo.Proofs.Robot.Steering

namespace TurtleLogo

variable {σ τ η α β : Type}

/-! ## Turtles that keep their pen

What has to be known of the turtle that is taken along.  The bare turtle keeps its
pen, and reports do not change that. -/

/-- Whether the pen is said to be up. -/
def Turtle.isUp (t : Turtle σ) (s : Scene σ) : Bool :=
  (t.pose s.state).penUp

/-- `t.KeepsPen I`: in the states `I`, which it does not leave, the turtle `t` sets its pen when it is
told to, and moves, rotates and closes without touching it, but that closing may lift it. -/
structure Turtle.KeepsPen (t : Turtle σ) (I : σ → Prop) : Prop where
  penUp : ∀ up s, I s.state → ∃ b s', t.penUp up s = (.ok b, s') ∧ I s'.state ∧ t.isUp s' = up
  motion : ∀ (m : Robot.Motion) s, I s.state →
    I (t.answer m.call s).2.state ∧ t.isUp (t.answer m.call s).2 = t.isUp s
  close : ∀ s, I s.state →
    I (t.close s).2.state ∧ (t.isUp (t.close s).2 = t.isUp s ∨ t.isUp (t.close s).2 = true)

/-- Closing does not touch the pen. -/
def Turtle.ClosesQuietly (t : Turtle σ) (I : σ → Prop) : Prop :=
  ∀ s, I s.state → t.isUp (t.close s).2 = t.isUp s

theorem kinematic_keepsPen : kinematic.KeepsPen fun _ => True where
  penUp up _ _ := ⟨up, _, rfl, trivial, rfl⟩
  motion m s _ := by
    refine ⟨trivial, ?_⟩
    cases m with
    | move steps =>
        simp only [Robot.Motion.call, Turtle.answer, kinematic, Turtle.isUp, Bind.bind, Action.bind]
        cases calculated steps.toFloat with
        | error e => rfl
        | ok x => rfl
    | rotate degrees =>
        simp only [Robot.Motion.call, Turtle.answer, kinematic, Turtle.isUp, Bind.bind, Action.bind]
        cases calculated degrees.toFloat with
        | error e => rfl
        | ok x => rfl
  close _ _ := ⟨trivial, .inl rfl⟩

theorem kinematic_closesQuietly : kinematic.ClosesQuietly fun _ => True :=
  fun _ _ => rfl

/-- A report comes behind an action, and at most hides what became of it. -/
theorem Turtle.reporting_state (t : Turtle σ) (x : Action σ α) (line : Pose → Reply String)
    (s : Scene σ) : (t.reporting x line s).2.state = (x s).2.state := by
  simp only [Turtle.reporting]
  split
  · rfl
  · rfl

namespace Turtle.KeepsPen

variable {t : Turtle σ} {I : σ → Prop}

theorem reported (h : t.KeepsPen I) : t.reported.KeepsPen I where
  penUp up s hs := by
    obtain ⟨b, s', run, kept, isUp⟩ := h.penUp up s hs
    obtain ⟨text, hline⟩ : ∃ text, penLine (t.pose s'.state) = .ok text := ⟨_, rfl⟩
    refine ⟨b, s'.write (.wrote text), ?_, kept, isUp⟩
    show t.reporting (t.penUp up) penLine s = _
    simp only [Turtle.reporting, run, hline]
  motion m s hs := by
    have same : (t.reported.answer m.call s).2.state = (t.answer m.call s).2.state := by
      rw [t.reported_answer]
      exact t.reporting_state _ _ s
    show I (t.reported.answer m.call s).2.state ∧
      (t.pose (t.reported.answer m.call s).2.state).penUp = (t.pose s.state).penUp
    rw [same]
    exact h.motion m s hs
  close := h.close

end Turtle.KeepsPen

theorem Turtle.ClosesQuietly.reported {t : Turtle σ} {I : σ → Prop} (h : t.ClosesQuietly I) :
    t.reported.ClosesQuietly I :=
  h

/-! ## Closing a robot

The pen is lifted, the turtle is closed and the devices are released, each of
these whatever became of those before. -/

theorem Action.ensuring_snd (x : Action σ α) (y : Action σ Unit) (s : Scene σ) :
    (Action.ensuring x y s).2 = (y (x s).2).2 := by
  rcases hx : x s with ⟨r, s₁⟩
  rcases hy : y s₁ with ⟨_ | _, s₂⟩
  all_goals simp only [Action.ensuring, hx, hy]

/-- What is done in any case does not turn a failure into a success. -/
theorem Action.ensuring_of_error {x : Action σ α} {y : Action σ Unit} {s s' : Scene σ} {f : Failure}
    (h : x s = (.error f, s')) (a : α) : (Action.ensuring x y s).1 ≠ .ok a := by
  rcases hy : y s' with ⟨_ | _, s₂⟩
  all_goals
    simp only [Action.ensuring, h, hy]
    intro ok
    cases ok

namespace Robot

theorem perform_call (t : Turtle σ) (call : Call) (s : Scene σ) :
    ((Operation.call call).perform t s).2 = (t.answer call s).2 := by
  simp only [Operation.perform, Bind.bind, Action.bind]
  rcases t.answer call s with ⟨_ | _, s'⟩
  · rfl
  · rfl

/-- What closing a robot does after its pen has been lifted, whatever became of that. -/
def ending (c : Chassis η) (t : Turtle σ) : Action (η × σ) Unit :=
  Action.ensuring (Action.onSnd t.close) (Action.onFst c.release)

theorem setting_pen (c : Chassis η) (k : Calibration) (t : Turtle σ) (up : Bool) :
    (Operation.call (.penUp up)).perform (turtle c k t) = (do
      Action.onFst (setPen c k up)
      let _ ← Action.onSnd (t.penUp up)
      pure ()) := by
  simp only [Operation.perform, Turtle.answer, turtle, bind_assoc, pure_bind]

theorem turtle_close (c : Chassis η) (k : Calibration) (t : Turtle σ) :
    (turtle c k t).close =
      Action.ensuring ((Operation.call (.penUp true)).perform (turtle c k t)) (ending c t) := by
  rw [setting_pen]
  rfl

theorem ending_state (c : Chassis η) (t : Turtle σ) (s : Scene (η × σ)) :
    (ending c t s).2.state.2 = (t.close ⟨s.state.2, s.journal⟩).2.state := by
  rw [ending, Action.ensuring_snd]
  rfl

/-! ## Robots that are taken along

A robot is such a turtle, too, if its servo can always be set.  It is not closed
quietly: it lifts its pen. -/

/-- `PenWorks c k J`: in the states `J`, which no part of the chassis `c` leaves, its servo can be set
at both angles. -/
structure PenWorks (c : Chassis η) (k : Calibration) (J : η → Prop) : Prop where
  pen : ∀ up s, J s.state → ∃ s', c.pen (k.penAngle up) s = (.ok (), s') ∧ J s'.state
  advance : ∀ wheel direction, (c.advance wheel direction).Safe J fun _ => True
  release : c.release.Safe J fun _ => True

end Robot

section Robots

open Robot

variable {c : Chassis η} {k : Calibration} {J : η → Prop} {t : Turtle σ} {I : σ → Prop}

theorem Robot.PenWorks.prepare (h : PenWorks c k J) (m : Motion) :
    (prepare c k m.call).Safe J fun _ => True := by
  rw [prepare_motion]
  refine Action.Safe.lift_bind (fun p _ => ?_) fun _ _ => trivial
  exact drive_safe h.advance k.delay p.1 _ p.2

/-- A robot whose servo works keeps its pen if the turtle does that it takes along. -/
theorem Turtle.KeepsPen.robot (hw : PenWorks c k J) (h : t.KeepsPen I) :
    (Robot.turtle c k t).KeepsPen fun s => J s.1 ∧ I s.2 := by
  have sets : ∀ up (s : Scene (η × σ)), J s.state.1 ∧ I s.state.2 → ∃ b s',
      (Robot.turtle c k t).penUp up s = (.ok b, s') ∧ (J s'.state.1 ∧ I s'.state.2) ∧
        (Robot.turtle c k t).isUp s' = up := by
    rintro up ⟨⟨e, i⟩, j⟩ ⟨hJ, hI⟩
    obtain ⟨s₁, turned, hJ'⟩ := hw.pen up ⟨e, j⟩ hJ
    obtain ⟨b, s₂, told, hI', isUp⟩ := h.penUp up ⟨i, .paused k.delay :: s₁.journal⟩ hI
    refine ⟨b, ⟨(s₁.state, s₂.state), s₂.journal⟩, ?_, ⟨hJ', hI'⟩, isUp⟩
    simp only [Robot.turtle, setPen, Action.onFst, Action.onSnd, Bind.bind, Action.bind, turned,
      Action.pause, Action.emit, Scene.write, told]
  refine ⟨sets, ?_, ?_⟩
  · rintro m s ⟨hJ, hI⟩
    have hJ' := (hw.prepare m ⟨s.state.1, s.journal⟩ hJ).1
    rcases hdrive : prepare c k m.call ⟨s.state.1, s.journal⟩ with ⟨f | _, s₁⟩
    all_goals rw [hdrive] at hJ'
    · rw [turtle_answer_of_error hdrive]
      exact ⟨⟨hJ', hI⟩, rfl⟩
    · obtain ⟨hI', same⟩ := h.motion m ⟨s.state.2, s₁.journal⟩ hI
      rw [turtle_answer_of_ok hdrive]
      exact ⟨⟨hJ', hI'⟩, same⟩
  · intro s hs
    obtain ⟨b, s₁, told, ⟨hJ, hI⟩, isUp⟩ := sets true s hs
    have lifted : ((Operation.call (.penUp true)).perform (Robot.turtle c k t) s).2 = s₁ := by
      rw [perform_call, Turtle.answer, Action.bind_of_ok told]
      rfl
    obtain ⟨hI', pen⟩ := h.close ⟨s₁.state.2, s₁.journal⟩ hI
    have hJ' := (hw.release ⟨s₁.state.1, (t.close ⟨s₁.state.2, s₁.journal⟩).2.journal⟩ hJ).1
    rw [turtle_close, Action.ensuring_snd, lifted, ending, Action.ensuring_snd]
    exact ⟨⟨hJ', hI'⟩, .inr (pen.elim (fun same => same.trans isUp) id)⟩

end Robots

namespace Robot

/-- A servo on the bench can always be set at both angles. -/
structure BenchServo.Works (k : Calibration) (b : BenchServo) : Prop where
  never : b.gauge.fails = Schedule.never
  within : ∀ servo, b.real = some servo → ∀ up, ∃ duty, servo.duty (k.penAngle up) = .ok duty

theorem Gauge.act_of_never (robot : Nat) (message : String) (e : BenchEvent) {s : Scene Gauge}
    (h : s.state.fails = Schedule.never) : ∃ s', Gauge.act robot message e s = (.ok (), s') ∧
      s'.state.fails = Schedule.never := by
  refine ⟨⟨s.state.attempt.1, .benched robot e :: s.journal⟩, ?_, h⟩
  simp only [Gauge.act, Gauge.attempt, h, Schedule.never, Bool.false_eq_true, if_false]

theorem BenchServo.Works.turn (robot : Nat) {k : Calibration} (up : Bool) {s : Scene BenchServo}
    (h : s.state.Works k) :
    ∃ s', BenchServo.turn robot (k.penAngle up) s = (.ok (), s') ∧ s'.state.Works k := by
  rcases s with ⟨⟨real, gauge⟩, j⟩
  cases real with
  | none =>
      obtain ⟨s', run, never⟩ := Gauge.act_of_never robot "servo write failed"
        (.angled (k.penAngle up)) (s := ⟨gauge, j⟩) h.never
      simp only [BenchServo.turn, run]
      exact ⟨_, rfl, never, fun _ none => absurd none.symm (Option.some_ne_none _)⟩
  | some servo =>
      obtain ⟨duty, hduty⟩ := h.within servo rfl up
      obtain ⟨s', run, never⟩ := Gauge.act_of_never robot "pwm write failed" (.pulsed duty)
        (s := ⟨gauge, j⟩) h.never
      simp only [BenchServo.turn, hduty, run]
      exact ⟨_, rfl, never, h.within⟩

theorem Bench.penWorks (robot : Nat) (k : Calibration) :
    PenWorks (Bench.chassis robot) k fun b => b.servo.Works k where
  pen up s h := by
    obtain ⟨s', run, works⟩ := h.turn robot up (s := ⟨s.state.servo, s.journal⟩)
    refine ⟨⟨{ s.state with servo := s'.state }, s'.journal⟩, ?_, works⟩
    simp only [Bench.chassis, Bench.pen, run]
  advance wheel direction := by
    cases wheel with
    | left => exact fun s h => ⟨h, fun _ _ => trivial⟩
    | right => exact fun s h => ⟨h, fun _ _ => trivial⟩
  release s h := by
    refine ⟨?_, fun _ _ => trivial⟩
    show BenchServo.Works k (Bench.release s).2.state.servo
    simp only [Bench.release]
    rcases closeDevices s.state.devices s.journal with ⟨_ | _, _, j⟩
    · exact h
    · exact h

end Robot

/-- The rigs with a bare turtle inside whose servos all work. -/
def Rig.PenWorks : Rig → Prop
  | .kinematic => True
  | .faulty _ => False
  | .reported inner => inner.PenWorks
  | .robot k bench inner => bench.servo.Works k ∧ inner.PenWorks

theorem Rig.keepsPen : ∀ (r : Rig) (robots : Nat), r.PenWorks →
    ∃ I, (r.turtleWithin robots).KeepsPen I ∧ I r.initial
  | .kinematic, _, _ => ⟨_, kinematic_keepsPen, trivial⟩
  | .faulty _, _, h => nomatch h
  | .reported inner, robots, h => by
      obtain ⟨I, keeps, start⟩ := inner.keepsPen robots h
      exact ⟨I, keeps.reported, start⟩
  | .robot k bench inner, robots, ⟨works, hinner⟩ => by
      obtain ⟨I, keeps, start⟩ := inner.keepsPen (robots + 1) hinner
      exact ⟨_, keeps.robot (Robot.Bench.penWorks robots k), works, start⟩

/-! ## The servo's record

To speak of the angle at which the servo stands, its angles are kept in a list
beside the state.  Keeping the list changes nothing of what is done. -/

/-- `x.Refines f y`: the action `x` replies what the action `y` does, and does the same as far as `f`
shows it. -/
def Action.Refines (f : Scene τ → Scene σ) (x : Action τ α) (y : Action σ α) : Prop :=
  ∀ s, y (f s) = ((x s).1, f (x s).2)

namespace Action.Refines

variable {f : Scene τ → Scene σ} {x : Action τ α} {y : Action σ α}

theorem pure (a : α) : (Pure.pure a : Action τ α).Refines f (Pure.pure a) :=
  fun _ => rfl

theorem lift (r : Reply α) : (Action.lift r : Action τ α).Refines f (Action.lift r) :=
  fun _ => rfl

theorem bind {x' : α → Action τ β} {y' : α → Action σ β} (h : x.Refines f y)
    (h' : ∀ a, (x' a).Refines f (y' a)) : (x >>= x').Refines f (y >>= y') := by
  intro s
  have first := h s
  rcases hx : x s with ⟨e | a, s'⟩
  · rw [hx] at first
    rw [Action.bind_of_error first, Action.bind_of_error hx]
  · rw [hx] at first
    rw [Action.bind_of_ok first, Action.bind_of_ok hx]
    exact h' a s'

theorem ensuring {x' : Action τ Unit} {y' : Action σ Unit} (h : x.Refines f y)
    (h' : x'.Refines f y') : (Action.ensuring x x').Refines f (Action.ensuring y y') := by
  intro s
  have first := h s
  rcases hx : x s with ⟨r, s₁⟩
  rw [hx] at first
  have second := h' s₁
  rcases hx' : x' s₁ with ⟨_ | _, s₂⟩
  all_goals
    rw [hx'] at second
    simp only [Action.ensuring, first, second, hx, hx']

end Action.Refines

namespace Robot

variable {c : Chassis η} {k : Calibration} {t : Turtle σ} {I : σ → Prop}

/-- The chassis that acts as `c` does and keeps a list of the angles at which its servo has been
set. -/
def Chassis.recorded (c : Chassis η) : Chassis (η × List Quantity) where
  pen degrees := do
    Action.onFst (c.pen degrees)
    Action.modify fun s => (s.1, s.2 ++ [degrees])
  advance wheel direction := Action.onFst (c.advance wheel direction)
  release := Action.onFst c.release

/-- The angles at which the servo has been set. -/
def angles (s : Scene ((η × List Quantity) × σ)) : List Quantity :=
  s.state.1.2

def unrecorded (s : Scene ((η × List Quantity) × σ)) : Scene (η × σ) :=
  ⟨(s.state.1.1, s.state.2), s.journal⟩

def bare (s : Scene (η × List Quantity)) : Scene η :=
  ⟨s.state.1, s.journal⟩

theorem onFst_refines {x : Action (η × List Quantity) α} {y : Action η α} (h : x.Refines bare y) :
    (Action.onFst x : Action ((η × List Quantity) × σ) α).Refines unrecorded (Action.onFst y) := by
  intro s
  have part := h ⟨s.state.1, s.journal⟩
  simp only [bare] at part
  simp only [Action.onFst, unrecorded, part]

theorem onSnd_refines (x : Action σ α) :
    (Action.onSnd x : Action ((η × List Quantity) × σ) α).Refines unrecorded (Action.onSnd x) :=
  fun _ => rfl

theorem recorded_pen (c : Chassis η) (degrees : Quantity) :
    (c.recorded.pen degrees).Refines bare (c.pen degrees) := by
  intro s
  rcases hr : c.pen degrees ⟨s.state.1, s.journal⟩ with ⟨_ | _, s'⟩
  all_goals
    simp only [Chassis.recorded, Bind.bind, Action.bind, Action.onFst, Action.modify, bare, hr]

theorem recorded_drive (c : Chassis η) (delay : Quantity) (left right : Int) : ∀ n,
    (drive c.recorded delay left right n).Refines bare (drive c delay left right n)
  | 0 => .pure ()
  | n + 1 => by
      rw [drive, drive]
      refine .bind (fun _ => rfl) fun _ => .bind (fun _ => rfl) fun _ => .bind (fun _ => rfl) ?_
      exact fun _ => recorded_drive c delay left right n

theorem recorded_prepare (c : Chassis η) (k : Calibration) (call : Call) :
    (prepare c.recorded k call).Refines bare (prepare c k call) := by
  cases call with
  | move steps => exact .bind (.lift _) fun p => recorded_drive c k.delay p.1 p.1 p.2
  | rotate degrees => exact .bind (.lift _) fun p => recorded_drive c k.delay p.1 (-p.1) p.2
  | penUp up => exact .bind (recorded_pen c _) fun _ _ => rfl

theorem recorded_perform (c : Chassis η) (k : Calibration) (t : Turtle σ) (o : Operation) :
    (o.perform (turtle c.recorded k t)).Refines unrecorded (o.perform (turtle c k t)) := by
  have called : ∀ call, ((Operation.call call).perform (turtle c.recorded k t)).Refines unrecorded
      ((Operation.call call).perform (turtle c k t)) := by
    intro call
    simp only [Operation.perform, turtle_answer]
    refine .bind (.bind (onFst_refines (recorded_prepare c k call)) fun _ => ?_) fun _ => .pure ()
    exact onSnd_refines _
  cases o with
  | call call => exact called call
  | close =>
      simp only [Operation.perform, turtle_close]
      refine (called _).ensuring (.ensuring (onSnd_refines _) ?_)
      exact onFst_refines fun _ => rfl

/-- Keeping the list changes nothing of what a robot does. -/
theorem recorded_operate (c : Chassis η) (k : Calibration) (t : Turtle σ) (os : List Operation)
    (s : Scene ((η × List Quantity) × σ)) :
    operate (turtle c k t) os (unrecorded s) = unrecorded (operate (turtle c.recorded k t) os s) := by
  induction os generalizing s with
  | nil => rfl
  | cons o os ih =>
      rw [operate_cons, operate_cons, recorded_perform c k t o s]
      exact ih _

/-! ## One operation

What an operation may do to the list and to the pen, read off the order in which a
robot does things. -/

/-- How setting the pen may end: both the servo and the turtle are set, or neither is. -/
inductive PenSet (t : Turtle σ) (I : σ → Prop) (k : Calibration) (up : Bool)
    (s : Scene ((η × List Quantity) × σ)) : Reply Unit → Scene ((η × List Quantity) × σ) → Prop
  | set {s' : Scene ((η × List Quantity) × σ)} : angles s' = angles s ++ [k.penAngle up] →
      I s'.state.2 → (t.pose s'.state.2).penUp = up → PenSet t I k up s (.ok ()) s'
  | refused {f : Failure} {s' : Scene ((η × List Quantity) × σ)} : angles s' = angles s →
      s'.state.2 = s.state.2 → PenSet t I k up s (.error f) s'

/-- `Shifted t I k o s s'`: what the operation `o` may do to the servo and to the pen. -/
inductive Shifted (t : Turtle σ) (I : σ → Prop) (k : Calibration) (o : Operation)
    (s s' : Scene ((η × List Quantity) × σ)) : Prop
  /-- both are set -/
  | set {up : Bool} : o.penUp? = some up → angles s' = angles s ++ [k.penAngle up] →
      (t.pose s'.state.2).penUp = up → Shifted t I k o s s'
  /-- both are as they were -/
  | kept : angles s' = angles s → (t.pose s'.state.2).penUp = (t.pose s.state.2).penUp →
      Shifted t I k o s s'
  /-- the turtle that is taken along has lifted its pen when it was closed -/
  | lifted : o = .close → ¬ t.ClosesQuietly I → angles s' = angles s →
      (t.pose s'.state.2).penUp = true → Shifted t I k o s s'

section Step

theorem perform_penUp (h : t.KeepsPen I) (c : Chassis η) (k : Calibration) (up : Bool)
    {s : Scene ((η × List Quantity) × σ)} (hs : I s.state.2) :
    let run := (Operation.call (.penUp up)).perform (turtle c.recorded k t) s
    PenSet t I k up s run.1 run.2 := by
  intro run
  rcases hpen : c.pen (k.penAngle up) ⟨s.state.1.1, s.journal⟩ with ⟨f | _, s₁⟩
  · have ran : run = (.error f, ⟨((s₁.state, s.state.1.2), s.state.2), s₁.journal⟩) := by
      simp only [run, setting_pen, setPen, Chassis.recorded, Action.onFst, Bind.bind, Action.bind,
        hpen]
    rw [ran]
    exact .refused rfl rfl
  · obtain ⟨b, s₂, told, kept, isUp⟩ :=
      h.penUp up ⟨s.state.2, .paused k.delay :: s₁.journal⟩ hs
    have ran : run = (.ok (), ⟨((s₁.state, s.state.1.2 ++ [k.penAngle up]), s₂.state), s₂.journal⟩) := by
      simp only [run, setting_pen, setPen, Chassis.recorded, Action.onFst, Action.onSnd, Bind.bind,
        Action.bind, hpen, Action.modify, Action.pause, Action.emit, Scene.write, told, Pure.pure,
        Action.pure]
    rw [ran]
    exact .set rfl kept isUp

theorem ending_angles (c : Chassis η) (t : Turtle σ) (s : Scene ((η × List Quantity) × σ)) :
    angles (ending c.recorded t s).2 = angles s := by
  rw [ending, Action.ensuring_snd]
  rfl

/-- To move or to rotate, a robot does not touch its servo. -/
theorem prepare_leaves (c : Chassis η) (k : Calibration) (m : Motion) :
    (prepare c.recorded k m.call).Leaves fun s => s.state.2 := by
  rw [prepare_motion]
  refine (Action.Leaves.lift _).bind ?_
  rintro ⟨direction, count⟩
  exact drive_leaves (fun _ _ _ => rfl) (fun _ _ => rfl) k.delay direction _ count

theorem perform_motion (h : t.KeepsPen I) (c : Chassis η) (k : Calibration) (m : Motion)
    {s : Scene ((η × List Quantity) × σ)} (hs : I s.state.2) :
    let run := (Operation.call m.call).perform (turtle c.recorded k t) s
    I run.2.state.2 ∧ Shifted t I k (.call m.call) s run.2 := by
  intro run
  have ran : run.2 = ((turtle c.recorded k t).answer m.call s).2 := perform_call _ _ s
  have untouched := prepare_leaves c k m ⟨s.state.1, s.journal⟩
  rcases hdrive : prepare c.recorded k m.call ⟨s.state.1, s.journal⟩ with ⟨f | _, s₁⟩
  all_goals rw [hdrive] at untouched
  · rw [ran, turtle_answer_of_error hdrive]
    exact ⟨hs, .kept untouched rfl⟩
  · obtain ⟨kept, same⟩ := h.motion m ⟨s.state.2, s₁.journal⟩ hs
    rw [ran, turtle_answer_of_ok hdrive]
    exact ⟨kept, .kept untouched same⟩

/-- To close a robot sets both unless the servo refuses.  Then it is for the turtle that is taken along
to leave its pen as it is. -/
theorem perform_close (h : t.KeepsPen I) (c : Chassis η) (k : Calibration)
    {s : Scene ((η × List Quantity) × σ)} (hs : I s.state.2) :
    let run := (turtle c.recorded k t).close s
    I run.2.state.2 ∧ Shifted t I k .close s run.2 ∧ (run.1 = .ok () →
      angles run.2 = angles s ++ [k.penUpAngle] ∧ (t.pose run.2.state.2).penUp = true) := by
  intro run
  have closed : run = Action.ensuring
      ((Operation.call (.penUp true)).perform (turtle c.recorded k t)) (ending c.recorded t) s :=
    congrFun (turtle_close c.recorded k t) s
  have pen := perform_penUp h c k true hs
  rcases hpen : (Operation.call (.penUp true)).perform (turtle c.recorded k t) s with ⟨r, s₁⟩
  rw [hpen] at pen
  have after : run.2 = (ending c.recorded t s₁).2 := by rw [closed, Action.ensuring_snd, hpen]
  have same : angles run.2 = angles s₁ := by rw [after, ending_angles]
  have there : run.2.state.2 = (t.close ⟨s₁.state.2, s₁.journal⟩).2.state := by
    rw [after, ending_state]
  cases pen with
  | set added kept isUp =>
      obtain ⟨kept', pen'⟩ := h.close ⟨s₁.state.2, s₁.journal⟩ kept
      rw [Turtle.isUp, ← there] at pen'
      have isUp' : (t.pose run.2.state.2).penUp = true := pen'.elim (fun eq => eq.trans isUp) id
      exact ⟨there ▸ kept', .set rfl (same.trans added) isUp', fun _ => ⟨same.trans added, isUp'⟩⟩
  | refused unset untouched =>
      obtain ⟨kept', pen'⟩ := h.close ⟨s₁.state.2, s₁.journal⟩ (untouched ▸ hs)
      have was : t.isUp ⟨s₁.state.2, s₁.journal⟩ = (t.pose s.state.2).penUp := by
        rw [← untouched]
        rfl
      rw [was, Turtle.isUp, ← there] at pen'
      refine ⟨there ▸ kept', ?_, fun ok => absurd ok (closed ▸ Action.ensuring_of_error hpen ())⟩
      rcases pen' with eq | isUp
      · exact .kept (same.trans unset) eq
      · by_cases quiet : t.ClosesQuietly I
        · refine .kept (same.trans unset) ?_
          rw [there, ← was]
          exact quiet _ (untouched ▸ hs)
        · exact .lifted rfl quiet (same.trans unset) isUp

/-- Whatever is done with a robot, the servo and the pen are both set, or neither of them, unless the
turtle that it takes along lifts its pen when it is closed. -/
theorem perform_shifted (h : t.KeepsPen I) (c : Chassis η) (k : Calibration) (o : Operation)
    {s : Scene ((η × List Quantity) × σ)} (hs : I s.state.2) :
    let run := o.perform (turtle c.recorded k t) s
    I run.2.state.2 ∧ Shifted t I k o s run.2 := by
  intro run
  cases o with
  | close =>
      obtain ⟨kept, shifted, -⟩ := perform_close h c k hs
      exact ⟨kept, shifted⟩
  | call call =>
      cases call with
      | move steps => exact perform_motion h c k (.move steps) hs
      | rotate degrees => exact perform_motion h c k (.rotate degrees) hs
      | penUp up =>
          have pen := perform_penUp h c k up hs
          revert pen
          show PenSet t I k up s run.1 run.2 → _
          rcases run with ⟨r, s'⟩
          rintro (⟨added, kept, isUp⟩ | ⟨same, untouched⟩)
          · exact ⟨kept, .set rfl added isUp⟩
          · refine ⟨?_, .kept same (congrArg (fun i => (t.pose i).penUp) untouched)⟩
            show I s'.state.2
            rw [untouched]
            exact hs

end Step

/-! ## Any number of operations

By induction on the operations, from the first one on.  As long as nothing has
parted them, servo and pen agree. -/

theorem operate_append (t : Turtle σ) (os os' : List Operation) (s : Scene σ) :
    operate t (os ++ os') s = operate t os' (operate t os s) := by
  induction os generalizing s with
  | nil => rfl
  | cons o os ih => rw [List.cons_append, operate_cons, operate_cons, ih]

def unset (s : Scene (η × σ)) : Scene ((η × List Quantity) × σ) :=
  ⟨((s.state.1, []), s.state.2), s.journal⟩

/-- The angles at which the servo of a robot is set, in order, when it is used. -/
def anglesSet (c : Chassis η) (k : Calibration) (t : Turtle σ) (os : List Operation)
    (s : Scene (η × σ)) : List Quantity :=
  angles (operate (turtle c.recorded k t) os (unset s))

/-- `Told c k t I os s angle up`: after the operations `os` the pen is told to be up or not as the
servo stands, or else closing the turtle has lifted its pen, since which the servo has not been
set. -/
inductive Told (c : Chassis η) (k : Calibration) (t : Turtle σ) (I : σ → Prop) (os : List Operation)
    (s : Scene (η × σ)) : Quantity → Bool → Prop
  | rightly {up : Bool} : Told c k t I os s (k.penAngle up) up
  | early {before later : List Operation} : ¬ t.ClosesQuietly I → os = before ++ .close :: later →
      anglesSet c k t before s = anglesSet c k t os s → Told c k t I os s k.penDownAngle true

namespace Told

variable {os : List Operation} {s : Scene (η × σ)} {angle : Quantity} {up : Bool}

/-- What sets neither the servo nor the pen changes nothing of it. -/
theorem kept {o : Operation} (h : Told c k t I os s angle up)
    (same : anglesSet c k t (os ++ [o]) s = anglesSet c k t os s) :
    Told c k t I (os ++ [o]) s angle up := by
  cases h with
  | rightly => exact .rightly
  | @early before later loud split since =>
      have split' : os ++ [o] = before ++ .close :: (later ++ [o]) := by
        rw [split, List.append_assoc, List.cons_append]
      exact .early loud split' (since.trans same.symm)

/-- A turtle that lifts its pen when it is closed parts it from a servo that holds it down. -/
theorem lifted (h : Told c k t I os s angle up) (loud : ¬ t.ClosesQuietly I)
    (same : anglesSet c k t (os ++ [.close]) s = anglesSet c k t os s) :
    Told c k t I (os ++ [.close]) s angle true := by
  cases h with
  | @rightly up =>
      cases up with
      | false => exact .early loud rfl same.symm
      | true => exact .rightly
  | @early before later loud split since =>
      exact (Told.early loud split since).kept same

/-- Else the pen is told of as the servo stands. -/
theorem quietly (h : Told c k t I os s angle up) (quiet : t.ClosesQuietly I) :
    angle = k.penAngle up := by
  cases h with
  | rightly => rfl
  | early loud _ _ => exact absurd quiet loud

end Told

theorem operate_told (h : t.KeepsPen I) (c : Chassis η) (k : Calibration) (os : List Operation)
    {s : Scene (η × σ)} (hs : I s.state.2) :
    let now := operate (turtle c.recorded k t) os (unset s)
    I now.state.2 ∧ ∀ angle, (angles now).getLast? = some angle →
      Told c k t I os s angle (t.pose now.state.2).penUp := by
  -- The last operation is the one that counts, so the induction takes them off at the end.
  induction os using List.reverseRecOn with
  | nil => exact ⟨hs, nofun⟩
  | append_singleton os o ih =>
      obtain ⟨kept, told⟩ := ih
      obtain ⟨kept', shifted⟩ := perform_shifted h c k o kept
      have last : operate (turtle c.recorded k t) (os ++ [o]) (unset s) =
          (o.perform (turtle c.recorded k t) (operate (turtle c.recorded k t) os (unset s))).2 := by
        rw [operate_append, operate_cons, operate]
      rw [← last] at kept' shifted
      refine ⟨kept', fun angle hangle => ?_⟩
      cases shifted with
      | set _ added isUp =>
          rw [added, List.getLast?_concat] at hangle
          cases hangle
          rw [isUp]
          exact .rightly
      | kept same pen =>
          rw [same] at hangle
          rw [pen]
          exact (told angle hangle).kept same
      | lifted hclose loud same isUp =>
          subst hclose
          rw [same] at hangle
          rw [isUp]
          exact (told angle hangle).lifted loud same

/-- Where the servo stands and where the pen is said to be.  Whatever the parts of a robot refuse, and
however it is used, the angle at which its servo was last set is the one for the pen as the turtle
that it takes along tells it, provided that this turtle keeps its pen and is closed without touching
it.  A turtle that lifts its pen when it is closed makes one exception: to close the robot while its
servo refuses lifts the pen that is told of, and the servo holds it down until it is set again.  As
soon as the robot has been closed with success, the pen is up in both ways. -/
theorem last_angle_tells_pen (h : t.KeepsPen I) (c : Chassis η) (k : Calibration)
    (os : List Operation) {s : Scene (η × σ)} (hs : I s.state.2) :
    let now := operate (turtle c k t) os s
    let up := (t.pose now.state.2).penUp
    (∀ angle, (anglesSet c k t os s).getLast? = some angle →
      Told c k t I os s angle up ∧ (t.ClosesQuietly I → angle = k.penAngle up)) ∧
    ∀ s', (turtle c k t).close now = (.ok (), s') →
      (t.pose s'.state.2).penUp = true ∧
        (anglesSet c k t (os ++ [.close]) s).getLast? = some k.penUpAngle := by
  intro now up
  obtain ⟨kept, told⟩ := operate_told h c k os hs
  have plain : now = unrecorded (operate (turtle c.recorded k t) os (unset s)) :=
    recorded_operate c k t os (unset s)
  constructor
  · intro angle hangle
    have tells : Told c k t I os s angle up := by
      show Told c k t I os s angle (t.pose now.state.2).penUp
      rw [plain]
      exact told angle hangle
    exact ⟨tells, tells.quietly⟩
  · intro s' hclose
    obtain ⟨-, -, lifts⟩ := perform_close h c k kept
    have refined : (turtle c k t).close now = _ := plain ▸ recorded_perform c k t .close _
    rw [hclose] at refined
    obtain ⟨ok, same⟩ := Prod.mk.inj refined
    obtain ⟨added, isUp⟩ := lifts ok.symm
    rw [same]
    refine ⟨isUp, ?_⟩
    rw [anglesSet, operate_append, operate, operate, added, List.getLast?_concat]

/-- A robot on the bench of which nothing fails but the servo, as laid down. -/
def penBench (fails : Schedule) : Bench :=
  ⟨⟨none, ⟨fails, 0⟩⟩, .standIn ⟨Schedule.never, 0⟩, .standIn ⟨Schedule.never, 0⟩, []⟩

/-- Measures of which only the angles count. -/
def penMeasures : Calibration :=
  ⟨.whole 1, .whole 1, .whole 0, .whole 0, .whole 90⟩

/-- The robot's servo sticks when its pen is to be lifted, and turns again when it is closed. -/
theorem last_angle_tells_pen_sticking :
    let t := kinematic.reported
    let robot := turtle (Bench.chassis 0) penMeasures t
    let start : Scene (Bench × Pose) := ⟨(penBench fun n => n == 1, Pose.home), []⟩
    let os : List Operation := [.call (.penUp false), .call (.penUp true)]
    t.KeepsPen (fun _ => True) ∧ t.ClosesQuietly (fun _ => True) ∧
      (anglesSet (Bench.chassis 0) penMeasures t os start).getLast? = some (.whole 90) ∧
      .whole 90 = penMeasures.penAngle (t.pose (operate robot os start).state.2).penUp ∧
      ∃ s', robot.close (operate robot os start) = (.ok (), s') ∧ (t.pose s'.state.2).penUp = true := by
  intro t robot start os
  have keeps : t.KeepsPen (fun _ => True) := kinematic_keepsPen.reported
  have quiet : t.ClosesQuietly (fun _ => True) := kinematic_closesQuietly.reported
  have last : (anglesSet (Bench.chassis 0) penMeasures t os start).getLast? = some (.whole 90) := rfl
  obtain ⟨tells, lifts⟩ := last_angle_tells_pen (I := fun _ => True) keeps (Bench.chassis 0)
    penMeasures os (s := start) trivial
  exact ⟨keeps, quiet, last, (tells _ last).2 quiet, _, rfl, (lifts _ rfl).1⟩

/-- A robot that takes a robot along.  The servo of the outer one sticks after its first turn, and
that of the inner one works. -/
def stickingRig : Rig :=
  .robot penMeasures (penBench (Schedule.after 1))
    (.robot penMeasures (penBench Schedule.never) .kinematic)

def stickingRun (os : List Operation) : Scene (Bench × Bench × Pose) :=
  operate stickingRig.turtle os ⟨stickingRig.initial, []⟩

/-- The robot that is taken along sets its pen, and it is closed with success, which lifts its pen,
while the outer servo still holds the pen down. -/
theorem pen_up_behind_servo :
    let inner : Turtle (Bench × Pose) := turtle (Bench.chassis 1) penMeasures kinematic
    let lowered := stickingRun [.call (.penUp false)]
    let closed := stickingRun [.call (.penUp false), .close]
    inner.KeepsPen (fun s => s.1.servo.Works penMeasures ∧ True) ∧
      lowered.state.2.1.servo.Works penMeasures ∧
      (stickingRig.turtle.answer (.penUp false) ⟨stickingRig.initial, []⟩).1 = .ok (.pen false) ∧
      (inner.close ⟨lowered.state.2, lowered.journal⟩).1 = .ok () ∧
      (servoAngles (benchEvents 0 closed.journal.events)).getLast? = some penMeasures.penDownAngle ∧
      (stickingRig.turtle.pose closed.state).penUp = true ∧
      penMeasures.penAngle true ≠ penMeasures.penDownAngle := by
  intro inner lowered closed
  have keeps : inner.KeepsPen (fun s => s.1.servo.Works penMeasures ∧ True) :=
    kinematic_keepsPen.robot (Bench.penWorks 1 penMeasures)
  refine ⟨keeps, ?_, ?_, ?_, ?_, ?_, ?_⟩
  · have none : lowered.state.2.1.servo.real = none := rfl
    exact ⟨rfl, fun servo some => absurd (some.symm.trans none) (Option.some_ne_none servo)⟩
  · exact rfl
  · exact rfl
  · exact rfl
  · exact rfl
  · intro same
    exact absurd (Quantity.whole.inj same) (by decide)

end Robot

end TurtleLogo
