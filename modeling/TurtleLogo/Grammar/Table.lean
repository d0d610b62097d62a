/-
# `TurtleLogo.Grammar.Table` — the states of the parser and what they do

A state says what has been read of the rules under way.  On a terminal, or at
the end of the text, it moves on to another state or completes a rule.  The
terminals that let a rung of the expression ladder be completed are those of
the rung above and one more, down to single values.
-/
import TurtleLogo.Grammar.Rule

namespace TurtleLogo.Grammar

/-- The states of the parser. -/
inductive State where
  /-- nothing yet -/
  | start
  /-- the first line end -/
  | opened
  /-- lines, after a first line end or not -/
  | listed (lead : Bool)
  /-- a command at the top, the first one or not -/
  | commanded (more : Bool)
  /-- a command at the top and its line end -/
  | ended (more : Bool)
  /-- a keyword -/
  | keyword (k : Keyword)
  /-- a comment -/
  | comment
  /-- a keyword with its operand -/
  | ordered (what : Order) (short : Bool)
  /-- the loop keyword with its count -/
  | counted
  /-- a complete command of some kind -/
  | kind (k : CommandKind)
  /-- a whole program -/
  | accepted
  /-- a value that is one token -/
  | atom (a : Atom)
  /-- an opening parenthesis -/
  | paren
  /-- an opening parenthesis and an expression -/
  | grouped
  /-- a value in parentheses -/
  | closed
  /-- the first operand of a chain -/
  | left (l : Level)
  /-- the first operand of a chain and links behind it -/
  | links (l : Level)
  /-- an operator of a chain, the first one or not -/
  | operator (l : Level) (more : Bool)
  /-- an operator of a chain and its operand -/
  | linked (l : Level) (more : Bool)
  /-- the first sign of a comparison operator -/
  | sign (s : Sign)
  /-- both signs of a comparison operator -/
  | signs (s : Sign)
  /-- a value that may be a base -/
  | based
  /-- a base and the power sign -/
  | caret
  /-- a base and its exponent -/
  | raised
  /-- an opening bracket, with a line end behind it or not -/
  | bracket (lead : Bool)
  /-- commands in brackets -/
  | body (lead : Bool)
  /-- a command in brackets, the first one or not -/
  | inner (more : Bool)
  /-- a command in brackets and its line end -/
  | innerEnded (more : Bool)
  /-- a closing bracket -/
  | bracketed (lead : Bool)
deriving DecidableEq, Repr

/-- What a state does: it moves on, or it completes a rule. -/
inductive Move where
  | shift (s : State)
  | reduce (r : Rule)
deriving DecidableEq, Repr

/-- Terminals that may follow a command. -/
def endsCommand : Terminal → Bool
  | .newline | .bracket .rsqb => true
  | t => t.startsCommand

/-- Terminals that may follow an operand of a command or an expression in parentheses. -/
def endsExpression : Terminal → Bool
  | .bracket .lsqb | .bracket .rpar => true
  | t => endsCommand t

/-- Terminals that may follow what stands on a rung of the ladder. -/
def follows : Rung → Terminal → Bool
  | .chain .comparison, t => endsExpression t
  | .chain .sum, .sign _ => true
  | .chain .sum, t => endsExpression t
  | .chain .product, .sign _ | .chain .product, .addOp => true
  | .chain .product, t => endsExpression t
  | .factor, .sign _ | .factor, .addOp | .factor, .mulOp => true
  | .factor, t => endsExpression t
  | .value, .sign _ | .value, .addOp | .value, .mulOp | .value, .caret => true
  | .value, t => endsExpression t

/-- Completes a rule if a condition holds. -/
def reduceIf (b : Bool) (r : Rule) : Option Move :=
  if b then some (.reduce r) else none

/-- The first token of a command. -/
def shiftCommand : Terminal → Option Move
  | .comment => some (.shift .comment)
  | .keyword k => some (.shift (.keyword k))
  | _ => none

/-- The first token of a value. -/
def shiftValue : Terminal → Option Move
  | .atom a => some (.shift (.atom a))
  | .bracket .lpar => some (.shift .paren)
  | _ => none

/-- An operator of a chain, which is the first one or not. -/
def shiftOperator (l : Level) (more : Bool) : Terminal → Option Move
  | .sign s => if l = .comparison then some (.shift (.sign s)) else none
  | .addOp => if l = .sum then some (.shift (.operator .sum more)) else none
  | .mulOp => if l = .product then some (.shift (.operator .product more)) else none
  | _ => none

/-- The comparison operator that a single sign is. -/
def Sign.alone? : Sign → Option Comparator
  | .bang => none
  | .eq => some .eq
  | .less => some .lt
  | .more => some .gt

/-- The comparison operator that a sign and an equals sign are. -/
def Sign.withEq? : Sign → Option Comparator
  | .bang => some .ne
  | .eq => none
  | .less => some .le
  | .more => some .ge

def onTerminal : State → Terminal → Option Move
  | .start, .newline => some (.shift .opened)
  | .start, t | .opened, t | .listed _, t => shiftCommand t
  | .commanded more, .newline => some (.shift (.ended more))
  | .commanded _, _ => none
  | .ended more, t => reduceIf t.startsCommand (.lines more)
  | .keyword (.order _ _), t | .keyword .loop, t => shiftValue t
  | .keyword (.pen up short), t => reduceIf (endsCommand t) (.pen up short)
  | .keyword .stop, t => reduceIf (endsCommand t) .stop
  | .comment, t => reduceIf (endsCommand t) .comment
  | .ordered what short, t => reduceIf (endsCommand t) (.order what short)
  | .counted, .bracket .lsqb => some (.shift (.bracket false))
  | .counted, _ => none
  | .kind k, t => reduceIf (endsCommand t) (.command k)
  | .accepted, _ => none
  | .atom a, t => reduceIf (follows .value t) (.atom a)
  | .paren, t => shiftValue t
  | .grouped, .bracket .rpar => some (.shift .closed)
  | .grouped, _ => none
  | .closed, t => reduceIf (follows .value t) .group
  | .left l, t => (shiftOperator l false t).or (reduceIf (follows (.chain l) t) (.chain l false))
  | .links l, t => (shiftOperator l true t).or (reduceIf (follows (.chain l) t) (.chain l true))
  | .operator _ _, t => shiftValue t
  | .linked l more, t => reduceIf (follows l.operandRung t) (.link l more)
  | .sign s, .sign .eq => s.withEq?.map fun _ => .shift (.signs s)
  | .sign s, t => if t.startsValue then s.alone?.map fun c => .reduce (.comparator c) else none
  | .signs s, t => if t.startsValue then s.withEq?.map fun c => .reduce (.comparator c) else none
  | .based, .caret => some (.shift .caret)
  | .based, t => reduceIf (follows .factor t) .factor
  | .caret, t => shiftValue t
  | .raised, t => reduceIf (follows .factor t) .power
  | .bracket false, .newline => some (.shift (.bracket true))
  | .bracket _, t => shiftCommand t
  | .body lead, .bracket .rsqb => some (.shift (.bracketed lead))
  | .body _, t => shiftCommand t
  | .inner more, .newline => some (.shift (.innerEnded more))
  | .inner more, t => reduceIf (t.startsCommand || t == .bracket .rsqb) (.body more false)
  | .innerEnded more, t => reduceIf (t.startsCommand || t == .bracket .rsqb) (.body more true)
  | .bracketed lead, t => reduceIf (endsCommand t) (.loop lead)

/-- The rule that a state completes at the end of the text. -/
def onEnd : State → Option Rule
  | .start => some (.program false false)
  | .opened => some (.program true false)
  | .listed lead => some (.program lead true)
  | .ended more => some (.lines more)
  | _ => none

/-- What a state does on the next terminal; `none` is the end of the text. -/
def onNext (s : State) : Option Terminal → Option Move
  | some t => onTerminal s t
  | none => (onEnd s).map .reduce

def State.accepts (s : State) (t : Terminal) : Bool :=
  (onTerminal s t).isSome

/-- The names of the terminals that a state accepts, in order. -/
def State.expected (s : State) : List String :=
  (Terminal.byName.filter s.accepts).map Terminal.name

/-- Where a state goes when a part of an expression behind it is complete and stands on a rung
that the state waits for. -/
def gotoExpression (whole : State) : Nonterminal → Option State
  | .chain .comparison => some whole
  | .chain .sum => some (.left .comparison)
  | .chain .product => some (.left .sum)
  | .factor => some (.left .product)
  | .value => some .based
  | _ => none

/-- Where an operator's state goes when a part of its operand is complete. -/
def gotoOperand (l : Level) (more : Bool) : Nonterminal → Option State
  | .chain .sum => if l = .comparison then some (.linked .comparison more) else none
  | .chain .product =>
    match l with
    | .comparison => some (.left .sum)
    | .sum => some (.linked .sum more)
    | .product => none
  | .factor => if l = .product then some (.linked .product more) else some (.left .product)
  | .value => some .based
  | _ => none

/-- Where a state goes when a command or a part of one is complete. -/
def gotoCommand (whole : State) : Nonterminal → Option State
  | .command => some whole
  | .kind k => some (.kind k)
  | _ => none

/-- Where a state goes when a nonterminal behind it is complete. -/
def goto : State → Nonterminal → Option State
  | .start, .program => some .accepted
  | .start, .lines => some (.listed false)
  | .opened, .lines => some (.listed true)
  | .start, n | .opened, n => gotoCommand (.commanded false) n
  | .listed _, n => gotoCommand (.commanded true) n
  | .keyword (.order what short), n => gotoExpression (.ordered what short) n
  | .keyword .loop, n => gotoExpression .counted n
  | .paren, n => gotoExpression .grouped n
  | .operator l more, n => gotoOperand l more n
  | .left .comparison, .comparator => some (.operator .comparison false)
  | .links .comparison, .comparator => some (.operator .comparison true)
  | .left l, .links m => if l = m then some (.links l) else none
  | .caret, .value => some .raised
  | .bracket lead, .body => some (.body lead)
  | .bracket _, n => gotoCommand (.inner false) n
  | .body _, n => gotoCommand (.inner true) n
  | _, _ => none

end TurtleLogo.Grammar
