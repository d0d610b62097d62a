/-
# `TurtleLogo.Robot.Wiring` — the robot on its pins

The pen's servo hangs on a pulse-width channel and each wheel on digital
lines.  They are opened in that order; when one of them fails, those opened
before it are closed again, and the first failure is the one that is told.
The lines of a wheel are closed where they were opened, all else by the robot.
-/
import TurtleLogo.Robot.Config
import TurtleLogo.Robot.DeviceFile
import TurtleLogo.Robot.Servo
import TurtleLogo.Turtle.Reported

namespace TurtleLogo.Robot

variable {σ : Type}

/-- What a robot opens. -/
inductive Device where
  | channel (b : Blaster)
  | line (l : GpioLine)

namespace Device

def pin : Device → Int
  | .channel b => b.pin
  | .line l => l.pin

def handle? : Device → Option Handle
  | .channel b => some b.handle
  | .line l => l.handle

def close : Device → Action σ Unit
  | .channel b => Action.apart b Blaster.close
  | .line l => Action.apart l GpioLine.close

end Device

/-- Closes devices in their order, up to the first failure. -/
def closeAll : List Device → Action σ Unit
  | [] => pure ()
  | d :: ds => do
    d.close
    closeAll ds

/-- Opens lines in order after those that are open already. -/
def connectAfter (m : Machine) (root : String) (opened : List GpioLine) :
    List Int → Action σ (List GpioLine)
  | [] => pure opened
  | pin :: pins => do
    let line ← Action.cleaning (GpioLine.connect m root pin) fun _ => closeAll (opened.map .line)
    connectAfter m root (opened ++ [line]) pins

/-- Opens lines in order.  A failure closes those opened before it. -/
def connectLines (m : Machine) (root : String) (pins : List Int) : Action σ (List GpioLine) :=
  connectAfter m root [] pins

/-- Opens the lines of a wheel.  If they make no stepper they are closed again. -/
def connectWheel (m : Machine) (root : String) (delay : Quantity) (pins : List Int) :
    Action σ (Stepper GpioLine) := do
  let lines ← connectLines m root pins
  Action.cleaning (Stepper.make standardPattern delay lines) fun _ => closeAll (lines.map .line)

/-- The devices of a robot.  `released` holds once all of them have been closed. -/
structure Wiring where
  blaster : Blaster
  servo : Servo
  left : Stepper GpioLine
  right : Stepper GpioLine
  released : Bool

namespace Wiring

/-- All devices, in the order in which they were opened. -/
def devices (w : Wiring) : List Device :=
  .channel w.blaster :: w.left.lines.map .line ++ w.right.lines.map .line

def pins (w : Wiring) : List Int :=
  w.devices.map Device.pin

/-- Tells that the robot could not be built, and closes the devices that are open. -/
def abandon (devices : List Device) (e : LogoError) : Action σ Unit := do
  Action.note (.robotFailed e)
  closeAll devices

/-- Opens all devices of a robot. -/
def connect (m : Machine) (c : Config) : Action σ Wiring := do
  let blaster ← Action.cleaning (Blaster.connect m c.penServoPin c.blasterPath) (abandon [])
  let servo ← Action.cleaning
    (Action.lift (Servo.make c.minAngle c.maxAngle c.minDuty c.maxDuty)) (abandon [.channel blaster])
  Action.note (.servoReady servo.record)
  let left ← Action.cleaning (connectWheel m c.gpioRoot c.stepperDelay c.leftWheelPins)
    (abandon [.channel blaster])
  let right ← Action.cleaning (connectWheel m c.gpioRoot c.stepperDelay c.rightWheelPins)
    (abandon (.channel blaster :: left.lines.map .line))
  pure ⟨blaster, servo, left, right, false⟩

/-- Acts on the channel of the pen's servo. -/
def onBlaster {α : Type} (x : Action Blaster α) : Action Wiring α := fun s =>
  match x ⟨s.state.blaster, s.journal⟩ with
  | (r, s') => (r, ⟨{ s.state with blaster := s'.state }, s'.journal⟩)

/-- Acts on a wheel. -/
def onWheel {α : Type} (wheel : Side) (x : Action (Stepper GpioLine) α) : Action Wiring α := fun s =>
  match wheel with
  | .left =>
    match x ⟨s.state.left, s.journal⟩ with
    | (r, s') => (r, ⟨{ s.state with left := s'.state }, s'.journal⟩)
  | .right =>
    match x ⟨s.state.right, s.journal⟩ with
    | (r, s') => (r, ⟨{ s.state with right := s'.state }, s'.journal⟩)

/-- Closes lines in their order up to the first failure. -/
def closeLines : List GpioLine → Journal → Reply Unit × List GpioLine × Journal
  | [], j => (.ok (), [], j)
  | l :: ls, j =>
    match GpioLine.close ⟨l, j⟩ with
    | (.ok (), s) =>
      match closeLines ls s.journal with
      | (r, ls, j) => (r, s.state :: ls, j)
    | (.error e, s) => (.error e, s.state :: ls, s.journal)

def closeWheel : Action (Stepper GpioLine) Unit := fun s =>
  match closeLines s.state.lines s.journal with
  | (r, lines, j) => (r, ⟨{ s.state with lines := lines }, j⟩)

/-- Closes all devices up to the first failure, unless all of them have been closed. -/
def release : Action Wiring Unit := do
  let w ← Action.get
  if w.released then pure ()
  else do
    onBlaster Blaster.close
    onWheel .left closeWheel
    onWheel .right closeWheel
    Action.modify fun w => { w with released := true }

/-- The moving parts of the wired robot. -/
def chassis : Chassis Wiring where
  pen degrees := do
    let w ← Action.get
    let duty ← Action.lift (w.servo.duty degrees)
    onBlaster (Blaster.setDuty (.real duty))
  advance wheel direction := onWheel wheel (Stepper.advance GpioLine.switch direction)
  release := release

/-- The wired robot as a turtle, with a turtle that reports. -/
def turtle (c : Config) : Turtle (Wiring × Pose) :=
  Robot.turtle chassis c.calibration kinematic.reported

end Wiring

end TurtleLogo.Robot
