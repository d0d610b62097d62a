/-
# `TurtleLogo.Grammar.Machine` — the parser

The parser keeps a stack of states with items.  It takes one token after the
other, each scanned with the terminals that the topmost state accepts.  Before
a token is pushed, all rules that it completes are reduced.

A run can end in three ways: with a program, with a complaint about the text,
or stuck: a rule's parts are not on the stack, a state has nowhere to go, or
the bound on the number of steps is reached.  The bounds are computed from the
height of the stack and the length of the text.
-/
import TurtleLogo.Error
import TurtleLogo.Grammar.Item
import TurtleLogo.Grammar.Scanner
import TurtleLogo.Grammar.Table

namespace TurtleLogo.Grammar

/-- The states and items on the stack, the topmost first.  Below all of them is the state
`start`. -/
abbrev Stack := List (State × Item)

def Stack.top : Stack → State
  | [] => .start
  | (s, _) :: _ => s

/-- Completes a rule: its parts leave the stack, and its tree is pushed. -/
def reduce (r : Rule) (stack : Stack) : Option Stack :=
  let size := r.rhs.length
  let parts := (stack.take size).reverse.map Prod.snd
  let rest := stack.drop size
  if stack.length < size then none
  else
    match build r parts, goto (Stack.top rest) r.lhs with
    | some item, some s => some ((s, item) :: rest)
    | _, _ => none

/-- Completes rules until the topmost state moves on or refuses what comes next. -/
def settle (next : Option Terminal) : Nat → Stack → Option Stack
  | 0, _ => none
  | fuel + 1, stack =>
    match onNext (Stack.top stack) next with
    | some (.reduce r) =>
      match reduce r stack with
      | some stack => settle next fuel stack
      | none => none
    | _ => some stack

/-- Enough for all rules that one token can complete. -/
def settleFuel (stack : Stack) : Nat :=
  16 * (stack.length + 1)

/-- What the parser complains about, and where. -/
structure Complaint where
  what : Surprise
  place : Position
deriving DecidableEq, Repr

/-- How taking a token ends. -/
inductive Taken where
  | pushed (stack : Stack)
  | refused (s : State)
  | stuck

/-- Takes a token: completes rules, then pushes it. -/
def take (t : Token) (stack : Stack) : Taken :=
  match settle (some t.terminal) (settleFuel stack) stack with
  | none => .stuck
  | some stack =>
    match onTerminal (Stack.top stack) t.terminal with
    | some (.shift s) => .pushed ((s, .token t) :: stack)
    | _ => .refused (Stack.top stack)

/-- How parsing ends. -/
inductive Outcome where
  | program (p : Program)
  | complaint (c : Complaint)
  | stuck

/-- The end of the text: the last rules are completed.  `last` is the place of the last token. -/
def finish (last : Position) (stack : Stack) : Outcome :=
  match settle none (settleFuel stack) stack with
  | none => .stuck
  | some [(.accepted, .commands cs)] => .program cs
  | some stack =>
    if Stack.top stack = .accepted then .stuck else .complaint ⟨.endOfText, last⟩

/-- The complaint about a token that a state does not accept. -/
def refusal (s : State) (t : Token) : Complaint :=
  ⟨.token t.terminal.name t.text s.expected, t.start⟩

/-- The complaint about a text of which a state can scan nothing. -/
def unscanned (s : State) (here : Position) (c : Char) (cs : List Char) : Complaint :=
  match scanAny (c :: cs) with
  | some (t, lexeme, _) => refusal s ⟨t, lexeme, here⟩
  | none => ⟨.character c, here⟩

/-- Parses the text from `here` on. -/
def run : Nat → (last here : Position) → Stack → List Char → Outcome
  | _, last, _, stack, [] => finish last stack
  | 0, _, _, _, _ :: _ => .stuck
  | fuel + 1, last, here, stack, c :: cs =>
    match scan (Stack.top stack).accepts (c :: cs) with
    | none => .complaint (unscanned (Stack.top stack) here c cs)
    | some (.blank, lexeme, rest) => run fuel last (here.after lexeme) stack rest
    | some (t, lexeme, rest) =>
      match take ⟨t, lexeme, here⟩ stack with
      | .pushed stack => run fuel here (here.after lexeme) stack rest
      | .refused s => .complaint (refusal s ⟨t, lexeme, here⟩)
      | .stuck => .stuck

def parse (cs : List Char) : Outcome :=
  run cs.length .first .first [] cs

end TurtleLogo.Grammar
