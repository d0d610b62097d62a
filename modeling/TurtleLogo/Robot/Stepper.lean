/-
# `TurtleLogo.Robot.Stepper` — a motor driven phase by phase

A stepper goes through the rows of a pattern in a circle.  With each advance
the row reached is written to its lines, one after the other; a line that
fails ends the advance, and the phase stays where it is by then.
-/
import TurtleLogo.Action

namespace TurtleLogo.Robot

/-- The rows of a pattern, one value for each line. -/
abbrev Pattern := List (List Bool)

/-- The half-step sequence of a motor with four lines; the last row releases every coil. -/
def standardPattern : Pattern :=
  [[false, false, false, true],
   [false, false, true, true],
   [false, false, true, false],
   [false, true, true, false],
   [false, true, false, false],
   [true, true, false, false],
   [true, false, false, false],
   [true, false, false, true],
   [false, false, false, false]]

/-- A stepper on lines of type `ℓ`. -/
structure Stepper (ℓ : Type) where
  pattern : Pattern
  delay : Quantity
  lines : List ℓ
  phase : Nat

/-- Something that can be switched on and off. -/
abbrev Switch (ℓ : Type) := Bool → Action ℓ Unit

namespace Stepper

variable {ℓ : Type}

/-- Why lines and a pattern are no stepper: there are no lines, no rows, or a row of another
length. -/
def fault? (pattern : Pattern) (lines : List ℓ) : Option Cause :=
  if lines.isEmpty then some .noPins
  else if pattern.isEmpty || pattern.any (fun row => row.length != lines.length) then some .badPattern
  else none

/-- A stepper in its first phase. -/
def make {σ : Type} (pattern : Pattern) (delay : Quantity) (lines : List ℓ) :
    Action σ (Stepper ℓ) :=
  match fault? pattern lines with
  | some cause => Action.fail (Failure.of cause)
  | none => do
    Action.note (.stepperReady lines.length pattern.length)
    pure ⟨pattern, delay, lines, 0⟩

/-- The phase that is `direction` further on in the circle. -/
def phaseAfter (s : Stepper ℓ) (direction : Int) : Nat :=
  ((s.phase + direction) % s.pattern.length).toNat

def row (s : Stepper ℓ) : List Bool :=
  (s.pattern[s.phase]?).getD []

/-- Writes a row to lines, in their order, up to the first failure. -/
def writeRow (switch : Switch ℓ) : List Bool → List ℓ → Journal → Reply Unit × List ℓ × Journal
  | value :: row, line :: lines, j =>
    match switch value ⟨line, j⟩ with
    | (.ok (), line) =>
      match writeRow switch row lines line.journal with
      | (r, lines, j) => (r, line.state :: lines, j)
    | (.error e, line) => (.error e, line.state :: lines, line.journal)
  | _, lines, j => (.ok (), lines, j)

/-- Goes on by one phase in a direction. -/
def advance (switch : Switch ℓ) (direction : Int) : Action (Stepper ℓ) Unit := fun scene =>
  let s := { scene.state with phase := scene.state.phaseAfter direction }
  match writeRow switch s.row s.lines scene.journal with
  | (r, lines, j) => (r, ⟨{ s with lines := lines }, j⟩)

/-- Goes on by `n` phases in a direction, with a pause after each. -/
def advances (switch : Switch ℓ) (direction : Int) : Nat → Action (Stepper ℓ) Unit
  | 0 => pure ()
  | n + 1 => do
    advance switch direction
    let s ← Action.get
    Action.pause s.delay
    advances switch direction n

/-- Goes on by some phases, backward if their number is negative. -/
def step (switch : Switch ℓ) (n : Int) : Action (Stepper ℓ) Unit :=
  advances switch (if n < 0 then -1 else 1) n.natAbs

def forward (switch : Switch ℓ) : Action (Stepper ℓ) Unit :=
  step switch 1

def backward (switch : Switch ℓ) : Action (Stepper ℓ) Unit :=
  step switch (-1)

end Stepper

end TurtleLogo.Robot
