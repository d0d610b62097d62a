/-
# `TurtleLogo.Rig` — turtles put together from parts

A rig is a turtle that keeps books, one that fails on schedule, or one of the
two wrapped, any number of times, in reports and in robots on the bench.  The
outermost robot is number zero.
-/
import TurtleLogo.Robot.Bench
import TurtleLogo.Turtle.Reported

namespace TurtleLogo

/-- How a turtle is put together. -/
inductive Rig where
  | kinematic
  | faulty (plan : FaultPlan)
  | reported (inner : Rig)
  | robot (calibration : Robot.Calibration) (bench : Robot.Bench) (inner : Rig)

namespace Rig

/-- The states of a rig. -/
def State : Rig → Type
  | .kinematic => Pose
  | .faulty _ => Faulty
  | .reported inner => inner.State
  | .robot _ _ inner => Robot.Bench × inner.State

def initial : (r : Rig) → r.State
  | .kinematic => Pose.home
  | .faulty _ => ({} : Faulty)
  | .reported inner => inner.initial
  | .robot _ bench inner => (bench, inner.initial)

/-- The turtle that a rig is when it is wrapped in `robots` robots. -/
def turtleWithin (robots : Nat) : (r : Rig) → Turtle r.State
  | .kinematic => TurtleLogo.kinematic
  | .faulty plan => TurtleLogo.faulty plan
  | .reported inner => (inner.turtleWithin robots).reported
  | .robot calibration _ inner =>
    Robot.turtle (Robot.Bench.chassis robots) calibration (inner.turtleWithin (robots + 1))

def turtle (r : Rig) : Turtle r.State :=
  r.turtleWithin 0

/-- The outermost bench of a rig, if it has one. -/
def bench? : (r : Rig) → r.State → Option Robot.Bench
  | .kinematic, _ => none
  | .faulty _, _ => none
  | .reported inner, s => inner.bench? s
  | .robot _ _ _, s => some s.1

end Rig

end TurtleLogo
