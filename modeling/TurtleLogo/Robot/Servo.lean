/-
# `TurtleLogo.Robot.Servo` — angles as duty cycles

A servo travels between two angles, and the duty cycle of its signal says
where it stands, in proportion to the way from one end to the other.
-/
import TurtleLogo.Error

namespace TurtleLogo.Robot

/-- The travel of a servo, the duty cycles at its two ends, and how much the duty cycle changes
with a degree. -/
structure Servo where
  minAngle : Quantity
  maxAngle : Quantity
  minDuty : Quantity
  maxDuty : Quantity
  dutyPerDegree : Float

namespace Servo

/-- How much the duty cycle changes with a degree between two ends. -/
def slope (minAngle maxAngle minDuty maxDuty : Quantity) : Except ArithmeticFault Float := do
  let duties ← maxDuty.sub minDuty
  let angles ← maxAngle.sub minAngle
  duties.div angles

/-- A servo with ends in the right order. -/
def make (minAngle maxAngle minDuty maxDuty : Quantity) : Reply Servo :=
  if maxAngle.le minAngle then .error (Failure.of .angleRange)
  else if maxDuty.le minDuty then .error (Failure.of .dutyRange)
  else (calculated (slope minAngle maxAngle minDuty maxDuty)).map
    fun dutyPerDegree => ⟨minAngle, maxAngle, minDuty, maxDuty, dutyPerDegree⟩

/-- The duty cycle of an angle, also of one outside the travel. -/
def dutyFor (s : Servo) (degrees : Quantity) : Except ArithmeticFault Float := do
  let way ← degrees.sub s.minAngle
  let change ← way.mul (.real s.dutyPerDegree)
  let duty ← s.minDuty.add change
  duty.toFloat

/-- The duty cycle of an angle within the travel. -/
def duty (s : Servo) (degrees : Quantity) : Reply Float :=
  if degrees.lt s.minAngle || s.maxAngle.lt degrees then
    .error (Failure.of (.outOfRange degrees s.minAngle s.maxAngle))
  else calculated (s.dutyFor degrees)

def record (s : Servo) : String :=
  "PWMServo(angle=[" ++ s.minAngle.text ++ ", " ++ s.maxAngle.text ++ "], duty_cycle=[" ++
    s.minDuty.text ++ ", " ++ s.maxDuty.text ++ "])"

end Servo

end TurtleLogo.Robot
