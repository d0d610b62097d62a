/-
# `TurtleLogo.Grammar.Rule` — the rules of the grammar

A program is a list of commands, each followed by a line end, after an
optional first line end.  The commands in a loop's brackets need none.  An
expression is a ladder of chains; a run of links grows at its right end, so
that reading goes from left to right.
-/
import TurtleLogo.Grammar.Terminal

namespace TurtleLogo.Grammar

inductive CommandKind where
  | order (what : Order)
  | pen (up : Bool)
  | stop
  | loop
  | comment
deriving DecidableEq, Repr

inductive Nonterminal where
  | program
  | lines
  | command
  | kind (k : CommandKind)
  | body
  | chain (l : Level)
  | links (l : Level)
  | comparator
  | factor
  | value
deriving DecidableEq, Repr

/-- What a rule is made of. -/
inductive Symbol where
  | terminal (t : Terminal)
  | nonterminal (n : Nonterminal)
deriving DecidableEq, Repr

/-- The comparison operators. -/
inductive Comparator where
  | eq
  | ne
  | le
  | ge
  | lt
  | gt
deriving DecidableEq, Repr

def Comparator.operator : Comparator → Operator
  | .eq => .eq
  | .ne => .ne
  | .le => .le
  | .ge => .ge
  | .lt => .lt
  | .gt => .gt

/-- The signs that spell a comparison operator. -/
def Comparator.signs : Comparator → List Sign
  | .eq => [.eq]
  | .ne => [.bang, .eq]
  | .le => [.less, .eq]
  | .ge => [.more, .eq]
  | .lt => [.less]
  | .gt => [.more]

/-- The rules.  A flag tells whether an optional first part is there (`lead`, `linked`,
`ended`), or whether a repetition goes on (`more`). -/
inductive Rule where
  | program (lead listed : Bool)
  | command (k : CommandKind)
  | order (what : Order) (short : Bool)
  | pen (up short : Bool)
  | stop
  | comment
  | loop (lead : Bool)
  | lines (more : Bool)
  | body (more ended : Bool)
  | chain (l : Level) (linked : Bool)
  | link (l : Level) (more : Bool)
  | comparator (c : Comparator)
  | factor
  | power
  | atom (a : Atom)
  | group
deriving DecidableEq, Repr

/-- The nonterminal of a level's operands. -/
def Nonterminal.operandOf : Level → Nonterminal
  | .comparison => .chain .sum
  | .sum => .chain .product
  | .product => .factor

/-- The symbol of a level's operators. -/
def Symbol.operatorOf : Level → Symbol
  | .comparison => .nonterminal .comparator
  | .sum => .terminal .addOp
  | .product => .terminal .mulOp

/-- A symbol that may be left out. -/
def optional (present : Bool) (s : Symbol) : List Symbol :=
  if present then [s] else []

/-- The nonterminal that a rule makes. -/
def Rule.lhs : Rule → Nonterminal
  | .program .. => .program
  | .command _ => .command
  | .order what _ => .kind (.order what)
  | .pen up _ => .kind (.pen up)
  | .stop => .kind .stop
  | .comment => .kind .comment
  | .loop _ => .kind .loop
  | .lines _ => .lines
  | .body .. => .body
  | .chain l _ => .chain l
  | .link l _ => .links l
  | .comparator _ => .comparator
  | .factor | .power => .factor
  | .atom _ | .group => .value

/-- What a rule is made of, from left to right. -/
def Rule.rhs : Rule → List Symbol
  | .program lead listed =>
    optional lead (.terminal .newline) ++ optional listed (.nonterminal .lines)
  | .command k => [.nonterminal (.kind k)]
  | .order what short => [.terminal (.keyword (.order what short)), .nonterminal (.chain .comparison)]
  | .pen up short => [.terminal (.keyword (.pen up short))]
  | .stop => [.terminal (.keyword .stop)]
  | .comment => [.terminal .comment]
  | .loop lead =>
    [.terminal (.keyword .loop), .nonterminal (.chain .comparison), .terminal (.bracket .lsqb)] ++
      optional lead (.terminal .newline) ++ [.nonterminal .body, .terminal (.bracket .rsqb)]
  | .lines more =>
    optional more (.nonterminal .lines) ++ [.nonterminal .command, .terminal .newline]
  | .body more ended =>
    optional more (.nonterminal .body) ++ [.nonterminal .command] ++ optional ended (.terminal .newline)
  | .chain l linked => .nonterminal (.operandOf l) :: optional linked (.nonterminal (.links l))
  | .link l more =>
    optional more (.nonterminal (.links l)) ++ [.operatorOf l, .nonterminal (.operandOf l)]
  | .comparator c => c.signs.map fun s => .terminal (.sign s)
  | .factor => [.nonterminal .value]
  | .power => [.nonterminal .value, .terminal .caret, .nonterminal .value]
  | .atom a => [.terminal (.atom a)]
  | .group =>
    [.terminal (.bracket .lpar), .nonterminal (.chain .comparison), .terminal (.bracket .rpar)]

end TurtleLogo.Grammar
