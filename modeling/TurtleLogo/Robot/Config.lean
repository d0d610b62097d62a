/-
# `TurtleLogo.Robot.Config` — the wiring and the measures of the robot
-/
import TurtleLogo.Robot.Drive

namespace TurtleLogo.Robot

/-- The wiring and the measures of the two-wheeled pen robot.  Delays are in seconds. -/
structure Config where
  penServoPin : Int := 18
  leftWheelPins : List Int := [6, 13, 19, 26]
  rightWheelPins : List Int := [21, 20, 16, 12]
  minAngle : Quantity := .real 0.0
  maxAngle : Quantity := .real 90.0
  minDuty : Quantity := .real 0.05
  maxDuty : Quantity := .real 0.2
  penUpAngle : Quantity := .real 0.0
  penDownAngle : Quantity := .real 90.0
  moveScale : Quantity := .real 100.0
  rotateScale : Quantity := .real 23.0
  stepDelay : Quantity := .real 0.002
  stepperDelay : Quantity := .real 0.001
  blasterPath : String := "/dev/pi-blaster"
  gpioRoot : String := "/sys/class/gpio"

/-- The measures that driving needs. -/
def Config.calibration (c : Config) : Calibration where
  moveScale := c.moveScale
  rotateScale := c.rotateScale
  delay := c.stepDelay
  penUpAngle := c.penUpAngle
  penDownAngle := c.penDownAngle

end TurtleLogo.Robot
