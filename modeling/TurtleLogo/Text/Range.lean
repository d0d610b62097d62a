/-
# `TurtleLogo.Text.Range` — sets of code points given by ranges

The character classes of the scanner and of the messages are sets of Unicode
code points.  Each is a list of inclusive ranges in increasing order; every
class spells out its ASCII part by hand and leaves the rest to its list, so
that facts about ASCII never have to look into a table.
-/
namespace TurtleLogo.Text

/-- Whether `n` lies in one of the inclusive ranges of `table`. -/
def inRanges (table : List (Nat × Nat)) (n : Nat) : Bool :=
  table.any fun r => r.1 ≤ n && n ≤ r.2

def isAsciiLetter (c : Char) : Bool :=
  ('a' ≤ c && c ≤ 'z') || ('A' ≤ c && c ≤ 'Z')

def isAsciiDigit (c : Char) : Bool :=
  '0' ≤ c && c ≤ '9'

end TurtleLogo.Text
