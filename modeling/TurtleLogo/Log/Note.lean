/-
# `TurtleLogo.Log.Note` — what is noted in the log

A note is kept as what it says and worded only when it is shown.
-/
import TurtleLogo.Error
import TurtleLogo.Program.Record

namespace TurtleLogo.Log

open Decimal

/-- How grave a note is. -/
inductive Severity where
  | debug
  | info
  | warning
  | error
  | critical
deriving DecidableEq, Repr

def Severity.word : Severity → String
  | .debug => "DEBUG"
  | .info => "INFO"
  | .warning => "WARNING"
  | .error => "ERROR"
  | .critical => "CRITICAL"

/-- Severities by number, graver ones higher. -/
def Severity.rank : Severity → Nat
  | .debug => 10
  | .info => 20
  | .warning => 30
  | .error => 40
  | .critical => 50

/-- What is noted. -/
inductive Note where
  | welcome
  | usingRobot
  | usingText
  | unreadable (path reason : String)
  | closeFailed (e : LogoError)
  | parsed (count : Nat)
  | programFailed (e : LogoError)
  | running (c : Command)
  | stopIgnored (line : Option Int)
  | pwmReady (pin : Int) (path : String)
  | exportFailed (reason : String) (pin : Int)
  | pinNotOpened (reason : String)
  | stepperReady (lines phases : Nat)
  | servoReady (rendering : String)
  | robotFailed (e : LogoError)

def Note.severity : Note → Severity
  | .welcome | .usingRobot | .usingText | .pwmReady .. | .servoReady _ => .info
  | .parsed _ | .running _ | .stopIgnored _ | .stepperReady .. => .debug
  | .unreadable .. | .closeFailed _ | .programFailed _ | .exportFailed .. | .pinNotOpened _
  | .robotFailed _ => .error

/-- The name of the log that a note goes to. -/
def Note.source : Note → String
  | .welcome | .usingRobot | .usingText | .unreadable .. | .closeFailed _ => "jlogo.cli"
  | .parsed _ | .programFailed _ => "jlogo.core"
  | .running _ | .stopIgnored _ => "jlogo.language.interpreter"
  | .pwmReady .. | .exportFailed .. | .pinNotOpened _ => "jlogo.hardware.devices"
  | .stepperReady .. => "jlogo.hardware.stepper"
  | .servoReady _ | .robotFailed _ => "jlogo.turtles.pi"

/-- The command that makes a pin an output. -/
def exportCommand (pin : Int) : String :=
  "gpio export " ++ intText pin ++ " out"

def Note.message : Note → String
  | .welcome => "Welcome to jlogo!"
  | .usingRobot => "Using pi turtle!"
  | .usingText => "Using text turtle!"
  | .unreadable path reason => "Error reading file " ++ path ++ ", got " ++ reason
  | .closeFailed e => "Failed to close the turtle: " ++ e.text
  | .parsed count => "Parsed " ++ natText count ++ " top-level commands"
  | .programFailed e => "Program failed: " ++ e.text
  | .running c => "line " ++ lineText c.line ++ ": " ++ c.record
  | .stopIgnored line => "line " ++ lineText line ++ ": STOP has no effect"
  | .pwmReady pin path => "PWM on pin " ++ intText pin ++ " via " ++ path
  | .exportFailed reason pin => "Failed to run gpio: " ++ reason ++ " (" ++ exportCommand pin ++ ")"
  | .pinNotOpened reason => "Failed to open gpio pin: " ++ reason
  | .stepperReady lines phases =>
    "Stepper ready: " ++ natText lines ++ " lines, " ++ natText phases ++ " phases"
  | .servoReady rendering => "Servo: " ++ rendering
  | .robotFailed e => "Could not initialise the pi turtle: " ++ e.text

end TurtleLogo.Log
