/-
# `TurtleLogo.Robot.Bench` — robots on the test bench

On the bench the servo, the wheels and the devices are stand-ins that write
down what is done to them and fail on schedule.  A wheel may also be a real
stepper on lines that are stand-ins, and the servo a real one whose duty
cycles are written down.  What is written down carries the robot's number.
-/
import TurtleLogo.Robot.Drive
import TurtleLogo.Robot.Servo
import TurtleLogo.Robot.Stepper
import TurtleLogo.Turtle.Faulty

namespace TurtleLogo.Robot

/-- Counts attempts, and knows which of them fail. -/
structure Gauge where
  fails : Schedule
  attempts : Nat := 0

/-- One more attempt: the gauge after it, and whether it fails. -/
def Gauge.attempt (g : Gauge) : Gauge × Bool :=
  ({ g with attempts := g.attempts + 1 }, g.fails g.attempts)

/-- Writes an event, or fails with a device error if it is time to. -/
def Gauge.act (robot : Nat) (message : String) (e : BenchEvent) : Action Gauge Unit := fun s =>
  let (g, failed) := s.state.attempt
  if failed then (.error (Failure.of (.told .device message)), ⟨g, s.journal⟩)
  else (.ok (), ⟨g, .benched robot e :: s.journal⟩)

/-- A line on the bench. -/
structure BenchLine where
  wheel : Side
  index : Nat
  gauge : Gauge

def BenchLine.switch (robot : Nat) : Switch BenchLine := fun on s =>
  let l := s.state
  match Gauge.act robot "line write failed" (.switched l.wheel l.index on) ⟨l.gauge, s.journal⟩ with
  | (r, s') => (r, ⟨{ l with gauge := s'.state }, s'.journal⟩)

def benchLines (wheel : Side) (schedules : List Schedule) : List BenchLine :=
  schedules.mapIdx fun i f => ⟨wheel, i, ⟨f, 0⟩⟩

/-- A servo on the bench, a stand-in or a real one whose duty cycles are written down. -/
structure BenchServo where
  real : Option Servo
  gauge : Gauge

def BenchServo.turn (robot : Nat) (degrees : Quantity) : Action BenchServo Unit := fun s =>
  let b := s.state
  match b.real with
  | none =>
    match Gauge.act robot "servo write failed" (.angled degrees) ⟨b.gauge, s.journal⟩ with
    | (r, s') => (r, ⟨{ b with gauge := s'.state }, s'.journal⟩)
  | some servo =>
    match servo.duty degrees with
    | .error e => (.error e, s)
    | .ok duty =>
      match Gauge.act robot "pwm write failed" (.pulsed duty) ⟨b.gauge, s.journal⟩ with
      | (r, s') => (r, ⟨{ b with gauge := s'.state }, s'.journal⟩)

/-- A wheel on the bench, a stand-in or a real stepper. -/
inductive BenchWheel where
  | standIn (gauge : Gauge)
  | stepper (s : Stepper BenchLine)

def BenchWheel.advance (robot : Nat) (wheel : Side) (direction : Int) : Action BenchWheel Unit := fun s =>
  match s.state with
  | .standIn gauge =>
    match Gauge.act robot "stepper write failed" (.turned wheel direction) ⟨gauge, s.journal⟩ with
    | (r, s') => (r, ⟨.standIn s'.state, s'.journal⟩)
  | .stepper motor =>
    match Stepper.advance (BenchLine.switch robot) direction ⟨motor, s.journal⟩ with
    | (r, s') => (r, ⟨.stepper s'.state, s'.journal⟩)

/-- The phase of a wheel that has one. -/
def BenchWheel.phase? : BenchWheel → Option Nat
  | .standIn _ => none
  | .stepper motor => some motor.phase

/-- How many lines a wheel has, if it has some. -/
def BenchWheel.lineCount? : BenchWheel → Option Nat
  | .standIn _ => none
  | .stepper motor => some motor.lines.length

/-- A device that is to be closed.  Its gauge counts the attempts. -/
structure BenchDevice where
  name : String
  gauge : Gauge

/-- A gauge that has counted nothing yet, for what fails always or never. -/
instance : Coe Bool Gauge := ⟨fun fails => ⟨fun _ => fails, 0⟩⟩

/-- Closes devices in their order up to the first failure. -/
def closeDevices : List BenchDevice → Journal → Reply Unit × List BenchDevice × Journal
  | [], j => (.ok (), [], j)
  | d :: ds, j =>
    let (gauge, failed) := d.gauge.attempt
    let d := { d with gauge := gauge }
    if failed then
      (.error (Failure.of (.told .device ("closing " ++ d.name ++ " failed"))), d :: ds,
        .released d.name :: j)
    else
      match closeDevices ds (.released d.name :: j) with
      | (r, ds, j) => (r, d :: ds, j)

/-- A robot on the bench. -/
structure Bench where
  servo : BenchServo
  left : BenchWheel
  right : BenchWheel
  devices : List BenchDevice

namespace Bench

def pen (robot : Nat) (degrees : Quantity) : Action Bench Unit := fun s =>
  match BenchServo.turn robot degrees ⟨s.state.servo, s.journal⟩ with
  | (r, s') => (r, ⟨{ s.state with servo := s'.state }, s'.journal⟩)

def advance (robot : Nat) (wheel : Side) (direction : Int) : Action Bench Unit := fun s =>
  match wheel with
  | .left =>
    match BenchWheel.advance robot .left direction ⟨s.state.left, s.journal⟩ with
    | (r, s') => (r, ⟨{ s.state with left := s'.state }, s'.journal⟩)
  | .right =>
    match BenchWheel.advance robot .right direction ⟨s.state.right, s.journal⟩ with
    | (r, s') => (r, ⟨{ s.state with right := s'.state }, s'.journal⟩)

/-- Closes the devices.  They are forgotten once all of them are closed. -/
def release : Action Bench Unit := fun s =>
  match closeDevices s.state.devices s.journal with
  | (.ok (), _, j) => (.ok (), ⟨{ s.state with devices := [] }, j⟩)
  | (.error e, devices, j) => (.error e, ⟨{ s.state with devices := devices }, j⟩)

/-- The moving parts of the robot with a given number. -/
def chassis (robot : Nat) : Chassis Bench where
  pen := pen robot
  advance := advance robot
  release := release

end Bench

end TurtleLogo.Robot
