/-
# `TurtleLogo.Program.Sleep` — pauses that a program asks for

A program gives the length of a pause in milliseconds.  It has to be finite; a
pause that would end before now is none.  A session sleeps by the clock of the
machine, which counts nanoseconds in 63 bits and knows no longer pause.  Where a
pause has to end before the clock runs out, the limit is lower by what the clock
shows already, so it belongs to the clock.  What else runs programs may sleep by
a stopwatch, to which any pause will do.
-/
import TurtleLogo.Action

namespace TurtleLogo

variable {σ : Type}

/-- The least number of nanoseconds that 63 bits do not count. -/
def clockLimit : Float := 9223372036854775808.0

/-- What a program sleeps by. -/
inductive Timer where
  /-- any pause will do -/
  | stopwatch
  /-- a clock, by the least number of nanoseconds that it does not count -/
  | clock (limit : Float := clockLimit)
deriving Repr

/-- Whether a pause of some seconds can be measured. -/
def Timer.measures (seconds : Float) : Timer → Bool
  | .stopwatch => true
  | .clock limit => seconds * 1000000000.0 < limit

/-- The seconds of a pause of some milliseconds; there is no pause before now. -/
def pauseSeconds (millis : Float) : Float :=
  (if millis < 0.0 then 0.0 else millis) / 1000.0

/-- Sleeps for some seconds.  That the timer cannot measure them is a defect. -/
def Timer.sleep (timer : Timer) (seconds : Float) : Action σ Unit :=
  if timer.measures seconds then Action.emit (.slept seconds)
  else Action.fail (.defect .beyondClock)

/-- Sleeps for some milliseconds, which have to be finite. -/
def Timer.sleepFor (timer : Timer) (amount : Quantity) : Action σ Unit := do
  let millis ← Action.lift (calculated amount.toFloat)
  if Decimal.isFinite millis then timer.sleep (pauseSeconds millis)
  else Action.fail (Failure.of (.endlessSleep amount))

end TurtleLogo
