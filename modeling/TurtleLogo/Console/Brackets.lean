/-
# `TurtleLogo.Console.Brackets` — open brackets in typed text

At the prompt, input goes on as long as brackets are open.  Brackets are
counted line by line, without those in strings and in comments; a string that
does not end on its line is none.
-/
import TurtleLogo.Text.Lines
import TurtleLogo.Text.Word

namespace TurtleLogo.Console

open Text

/-- What follows a string whose opening quote has been passed, if the string ends. -/
def afterString : List Char → Option (List Char)
  | [] => none
  | ['\\'] => none
  | '\\' :: c :: cs => if c == '\n' then none else afterString cs
  | '"' :: cs => some cs
  | _ :: cs => afterString cs

/-- A line with every string in it made empty. -/
def emptyStrings : Nat → List Char → List Char
  | 0, cs => cs
  | _ + 1, [] => []
  | fuel + 1, c :: cs =>
    if c == '"' then
      match afterString cs with
      | some rest => '"' :: '"' :: emptyStrings fuel rest
      | none => '"' :: emptyStrings fuel cs
    else c :: emptyStrings fuel cs

/-- Whether a text starts with the word `rem` and not with a longer one. -/
def startsRem : List Char → Bool
  | r :: e :: m :: cs =>
    (r == 'r' || r == 'R') && (e == 'e' || e == 'E') && (m == 'm' || m == 'M') &&
      (match cs with
        | [] => true
        | c :: _ => !isWordChar c)
  | _ => false

/-- A line without its comment.  `inWord` tells whether a word character stands before it. -/
def dropComment (inWord : Bool) : List Char → List Char
  | [] => []
  | c :: cs =>
    if c == '#' || (!inWord && startsRem (c :: cs)) then [] else c :: dropComment (isWordChar c) cs

/-- The opening brackets less the closing ones. -/
def balance (cs : List Char) : Int :=
  (cs.count '[' : Int) - (cs.count ']' : Int)

/-- The balance of a line, without its strings and its comment. -/
def lineBalance (line : List Char) : Int :=
  balance (dropComment false (emptyStrings line.length line))

/-- How many brackets a text leaves open. -/
def bracketDepth (cs : List Char) : Int :=
  ((lines cs).map lineBalance).foldr (· + ·) 0

end TurtleLogo.Console
