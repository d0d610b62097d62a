/-
# `TurtleLogo.Grammar.Scanner` — the terminals as classes of texts

Each terminal takes a lexeme from the front of a text, or none.  Letters of
keywords, of names and of `rem` are matched without regard to case; four
characters outside ASCII have an ASCII letter as their other case and count as
that letter.  The scanner tries only the terminals it is told to accept, so
no blank is needed where two words stand side by side.
-/
import TurtleLogo.Grammar.Terminal
import TurtleLogo.Text.Digit
import TurtleLogo.Text.Word

namespace TurtleLogo.Grammar

open Text

/-- A lexeme and the text behind it. -/
abbrev Cut := List Char × List Char

/-- The characters at the front that satisfy `p`, and the rest. -/
def cutWhile (p : Char → Bool) (cs : List Char) : Cut :=
  (cs.takeWhile p, cs.dropWhile p)

/-- A lexeme made longer at its front. -/
def Cut.push (pre : List Char) (cut : Cut) : Cut :=
  (pre ++ cut.1, cut.2)

/-- The ASCII letter that a character is without regard to case, as a capital. -/
def capital? (c : Char) : Option Char :=
  if isAsciiLetter c then some c.toUpper
  else if c == '\u017f' then some 'S'
  else if c == '\u212a' then some 'K'
  else if c == '\u0130' || c == '\u0131' then some 'I'
  else none

/-- Whether a character is a given capital without regard to case. -/
def isLetter (letter c : Char) : Bool :=
  capital? c == some letter

def startsName (c : Char) : Bool :=
  (capital? c).isSome || c == '_'

/-- The characters that cannot follow `rem` at the start of a comment. -/
def continuesRem (c : Char) : Bool :=
  startsName c || isAsciiDigit c

def isInline (c : Char) : Bool :=
  c != '\r' && c != '\n'

/-- Blanks within a line. -/
def isSpace (c : Char) : Bool :=
  c == ' ' || c == '\t'

/-- The characters of a line end after its first. -/
def isLayout (c : Char) : Bool :=
  isSpace c || !isInline c

/-- Takes a word of given capitals. -/
def cutWord : List Char → List Char → Option Cut
  | [], cs => some ([], cs)
  | letter :: word, c :: cs => if isLetter letter c then (cutWord word cs).map (Cut.push [c]) else none
  | _ :: _, [] => none

/-- Takes the start of a comment: a number sign, or `rem` as a whole word. -/
def cutCommentMark : List Char → Option Cut
  | '#' :: cs => some (['#'], cs)
  | cs =>
    match cutWord ['R', 'E', 'M'] cs with
    | some (word, c :: rest) => if continuesRem c then none else some (word, c :: rest)
    | other => other

/-- Takes a comment, up to the end of its line. -/
def cutComment (cs : List Char) : Option Cut :=
  (cutCommentMark cs).map fun (mark, rest) => (cutWhile isInline rest).push mark

/-- Takes a string behind its opening quote.  A backslash keeps the next character from closing
it, and it does not reach into the next line. -/
def cutStringBody : List Char → Option Cut
  | [] => none
  | ['\\'] => none
  | '\\' :: c :: cs => if c == '\n' then none else (cutStringBody cs).map (Cut.push ['\\', c])
  | '"' :: cs => some (['"'], cs)
  | c :: cs => if c == '\n' then none else (cutStringBody cs).map (Cut.push [c])

def cutString : List Char → Option Cut
  | '"' :: cs => (cutStringBody cs).map (Cut.push ['"'])
  | _ => none

/-- Takes digits, with a point among them if a digit follows it. -/
def cutDigits (cs : List Char) : Option Cut :=
  let whole := cutWhile isDigit cs
  let plain := if whole.1.isEmpty then none else some whole
  match whole.2 with
  | '.' :: rest =>
    let fraction := cutWhile isDigit rest
    if fraction.1.isEmpty then plain else some (fraction.push (whole.1 ++ ['.']))
  | _ => plain

def cutNumber : List Char → Option Cut
  | c :: cs => if c == '-' || c == '+' then (cutDigits cs).map (Cut.push [c]) else cutDigits (c :: cs)
  | [] => none

/-- Takes one character of a class and then all that follow of another. -/
def cutRun (first more : Char → Bool) : List Char → Option Cut
  | c :: cs => if first c then some ((cutWhile more cs).push [c]) else none
  | [] => none

/-- Takes one character of a class. -/
def cutChar (p : Char → Bool) : List Char → Option Cut
  | c :: cs => if p c then some ([c], cs) else none
  | [] => none

/-- Takes a lexeme of a terminal from the front of a text. -/
def Terminal.cut : Terminal → List Char → Option Cut
  | .comment => cutComment
  | .atom .string => cutString
  | .atom .number => cutNumber
  | .atom .ident => cutRun startsName isWordChar
  | .newline => cutRun (fun c => !isInline c) isLayout
  | .blank => cutRun isSpace isSpace
  | .keyword k => cutWord k.spelling.toList
  | .addOp => cutChar fun c => c == '+' || c == '-'
  | .mulOp => cutChar fun c => c == '*' || c == '/'
  | .caret => cutChar (· == '^')
  | .sign s => cutChar (· == s.char)
  | .bracket b => cutChar (· == b.char)

/-- A terminal with the lexeme that it takes. -/
abbrev Match := Terminal × Cut

/-- The first of some terminals that takes a lexeme. -/
def firstMatch (cs : List Char) : List Terminal → Option Match
  | [] => none
  | t :: ts =>
    match t.cut cs with
    | some cut => some (t, cut)
    | none => firstMatch cs ts

/-- Scans with the accepted terminals and blanks. -/
def scan (accepts : Terminal → Bool) (cs : List Char) : Option Match :=
  firstMatch cs (Terminal.all.filter fun t => accepts t || t == .blank)

/-- The keyword that a word is as a whole. -/
def keywordOf? (word : List Char) : Option Keyword :=
  Keyword.all.find? fun k =>
    match cutWord k.spelling.toList word with
    | some (_, []) => true
    | _ => false

/-- Scans without regard to what is accepted, to name what stands at the front of a text.  A name
that is a keyword as a whole counts as that keyword. -/
def scanAny (cs : List Char) : Option Match :=
  match firstMatch cs Terminal.all with
  | some (.atom .ident, cut) =>
    match keywordOf? cut.1 with
    | some k => some (.keyword k, cut)
    | none => some (.atom .ident, cut)
  | other => other

end TurtleLogo.Grammar
