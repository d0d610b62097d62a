/-
# `TurtleLogo.Program.Parse` — programs out of text

A text that is no program is answered with the place of the first thing that
does not fit and the line around it, marked by a caret.
-/
import TurtleLogo.Grammar.Machine

namespace TurtleLogo

open Grammar

/-- How far the context of a complaint reaches to either side. -/
def contextReach : Nat := 40

def afterLastNewline (cs : List Char) : List Char :=
  (cs.reverse.takeWhile (· != '\n')).reverse

/-- How wide a text is when every tab reaches to the next multiple of eight.  `width` is what
stands before it, `column` what stands before it since the last line break. -/
def expandedWidth (width column : Nat) : List Char → Nat
  | [] => width
  | c :: cs =>
    if c == '\t' then
      let step := 8 - column % 8
      expandedWidth (width + step) (column + step) cs
    else if c == '\n' || c == '\r' then expandedWidth (width + 1) 0 cs
    else expandedWidth (width + 1) (column + 1) cs

/-- The line around a place, and below it a caret that points there. -/
def contextAt (text : List Char) (offset : Nat) : String :=
  let before := afterLastNewline ((text.take offset).drop (offset - contextReach))
  let after := ((text.drop offset).take contextReach).takeWhile (· != '\n')
  String.ofList
    (before ++ after ++ '\n' :: List.replicate (expandedWidth 0 0 before) ' ' ++ ['^', '\n'])

/-- The error that a complaint about a text is reported as. -/
def Grammar.Complaint.toError (text : List Char) (c : Complaint) : LogoError :=
  { cause := .parse c.what (some c.place.column) (contextAt text c.place.offset)
    line := some c.place.line }

def Program.parse (source : String) : Except Failure Program :=
  let text := source.toList
  match Grammar.parse text with
  | .program p => .ok p
  | .complaint c => .error (.error (c.toError text))
  | .stuck => .error (.defect .stuck)

end TurtleLogo
