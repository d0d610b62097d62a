/-
# `TurtleLogo.Proofs.Console.Depth` — what lines leave open adds up

Brackets are counted line by line, so two texts with a line feed between them leave
open what they leave open one by one (`bracketDepth_join`).  A comment, or a quote
that nothing closes, hides no bracket behind the end of its line.

At the prompt all that has been collected is counted again with every line.  A running
count would do: `runCounting` adds the brackets of a line to those of the lines before
it and starts afresh behind what is submitted.  The invariant of its loop is that
the count is that of the collected text, and so it does what the prompt does.
-/
import Mathlib.Algebra.Ring.Int.Defs
import TurtleLogo.Proofs.Console.Partition

namespace TurtleLogo.Console

variable {σ : Type}

/-- Reads lines as the prompt does, but counts the brackets of each line once.  `depth` is what the
collected lines leave open. -/
def runCounting (job : Job σ) (depth : Int) (buffer : String) : List String → Action σ Unit
  | [] => Action.emit (.prompted (promptFor buffer))
  | line :: lines => do
    Action.emit (.prompted (promptFor buffer))
    let depth := depth + bracketDepth line.toList
    let source := buffer ++ line ++ "\n"
    if 0 < depth then runCounting job depth source lines
    else do
      submit job source
      runCounting job 0 "" lines

theorem bracketDepth_typedText (lines : List String) :
    bracketDepth (typedText lines) = (lines.map fun line => bracketDepth line.toList).sum := by
  induction lines with
  | nil => rfl
  | cons line lines ih =>
      have text : typedText (line :: lines) = line.toList ++ '\n' :: typedText lines := by
        simp [typedText]
      rw [text, bracketDepth_join, ih, List.map_cons, List.sum_cons]

theorem bracketDepth_snoc (lines : List String) (line : String) :
    bracketDepth (typedText (lines ++ [line])) =
      bracketDepth (typedText lines) + bracketDepth line.toList := by
  simp [bracketDepth_typedText]

/-- What a running count says of the collected lines is what a count of all of them says. -/
theorem runCounting_eq (job : Job σ) (lines : List String) : ∀ collected : List String,
    runCounting job (bracketDepth (typedText collected)) (submission collected) lines =
      runPrompt job (submission collected) lines := by
  induction lines with
  | nil => exact fun _ => rfl
  | cons line lines ih =>
      intro collected
      rw [runCounting, runPrompt, takeLine, submission_snoc, submission_toList, bracketDepth_snoc]
      refine bind_congr fun _ => ?_
      by_cases more : 0 < bracketDepth (typedText collected) + bracketDepth line.toList
      · rw [if_pos more, if_pos more, pure_bind, ← bracketDepth_snoc]
        exact ih (collected ++ [line])
      · rw [if_neg more, if_neg more, bind_assoc]
        refine bind_congr fun _ => ?_
        rw [pure_bind, ← submission_nil]
        exact ih []

/-- What texts leave open adds up over line feeds, whatever characters they hold.  A line counts
with its own balance, whatever stands in the lines before it; lines that are typed count with the
sum of theirs; and so the prompt does what it would do with a running count. -/
theorem depths_add_up :
    (∀ a b : List Char, bracketDepth (a ++ '\n' :: b) = bracketDepth a + bracketDepth b) ∧
    (∀ a line : List Char, (∀ c ∈ line, inLine c = true) →
      bracketDepth (a ++ '\n' :: line) = bracketDepth a + lineBalance line) ∧
    (∀ lines : List String,
      bracketDepth (typedText lines) = (lines.map fun line => bracketDepth line.toList).sum) ∧
    ∀ (job : Job σ) (lines : List String), runPrompt job "" lines = runCounting job 0 "" lines := by
  refine ⟨bracketDepth_join, ?_, bracketDepth_typedText, ?_⟩
  · intro a line inLine
    rw [bracketDepth_join, bracketDepth_last inLine]
  · intro job lines
    have nothing := runCounting_eq job lines []
    rw [submission_nil] at nothing
    exact nothing.symm

/-- A bracket behind a quote that nothing closes, one in a comment, and a carriage return in front
of the line feed. -/
theorem depths_add_up_over_quote :
    (∀ c ∈ "fd \"]\" ]".toList, inLine c = true) ∧
      bracketDepth "repeat 2 [ \" rem [\r\nfd \"]\" ]".toList =
        1 + lineBalance "fd \"]\" ]".toList ∧
      lineBalance "fd \"]\" ]".toList = -1 := by
  have inline : ∀ c ∈ "fd \"]\" ]".toList, inLine c = true := List.all_eq_true.mp rfl
  have sum := (depths_add_up (σ := Pose)).2.1 "repeat 2 [ \" rem [\r".toList _ inline
  have first : bracketDepth "repeat 2 [ \" rem [\r".toList = 1 := by decide
  rw [first] at sum
  exact ⟨inline, sum, by decide⟩

end TurtleLogo.Console
