/-
# `TurtleLogo.Grammar.Terminal` — the words of the language

Keywords are told apart by what they mean: a command with an operand, a pen
command, the stop command or the loop.  Most have a long and a short spelling.
The order of `Terminal.all` is the order in which the scanner tries the
terminals; the names are those of the error messages.
-/
import TurtleLogo.Program.Command

namespace TurtleLogo.Grammar

/-- The keywords. -/
inductive Keyword where
  | order (what : Order) (short : Bool)
  | pen (up : Bool) (short : Bool)
  | stop
  | loop
deriving DecidableEq, Repr

def Keyword.spelling : Keyword → String
  | .order .forward false => "FORWARD"
  | .order .forward true => "FD"
  | .order .backward false => "BACKWARD"
  | .order .backward true => "BK"
  | .order .right false => "RIGHT"
  | .order .right true => "RT"
  | .order .left false => "LEFT"
  | .order .left true => "LT"
  | .order .sleep false => "SLEEP"
  | .order .sleep true => "SP"
  | .pen true false => "PENUP"
  | .pen true true => "PU"
  | .pen false false => "PENDOWN"
  | .pen false true => "PD"
  | .stop => "STOP"
  | .loop => "REPEAT"

/-- The keywords, long spellings first. -/
def Keyword.all : List Keyword :=
  [.order .backward false, .order .forward false, .pen false false, .loop, .pen true false,
   .order .right false, .order .sleep false, .order .left false, .stop,
   .order .backward true, .order .forward true, .order .left true, .pen false true, .pen true true,
   .order .right true, .order .sleep true]

/-- The signs of which comparison operators are made. -/
inductive Sign where
  | bang
  | eq
  | less
  | more
deriving DecidableEq, Repr

def Sign.char : Sign → Char
  | .bang => '!'
  | .eq => '='
  | .less => '<'
  | .more => '>'

/-- Brackets and parentheses. -/
inductive Bracket where
  | lpar
  | rpar
  | lsqb
  | rsqb
deriving DecidableEq, Repr

def Bracket.char : Bracket → Char
  | .lpar => '('
  | .rpar => ')'
  | .lsqb => '['
  | .rsqb => ']'

/-- The terminals that are values on their own. -/
inductive Atom where
  | number
  | string
  | ident
deriving DecidableEq, Repr

inductive Terminal where
  | comment
  | atom (a : Atom)
  | newline
  | blank
  | keyword (k : Keyword)
  | addOp
  | mulOp
  | caret
  | sign (s : Sign)
  | bracket (b : Bracket)
deriving DecidableEq, Repr

/-- The terminals in the order in which the scanner tries them. -/
def Terminal.all : List Terminal :=
  [.comment, .atom .string, .atom .number, .newline, .atom .ident, .blank] ++
    Keyword.all.map .keyword ++
    [.addOp, .mulOp, .sign .bang, .caret, .sign .eq, .sign .less, .bracket .lpar, .bracket .lsqb,
     .sign .more, .bracket .rpar, .bracket .rsqb]

def Terminal.name : Terminal → String
  | .comment => "COMMENT"
  | .atom .number => "NUMBER"
  | .atom .string => "ESCAPED_STRING"
  | .atom .ident => "IDENT"
  | .newline => "_NL"
  | .blank => "WS"
  | .keyword k => k.spelling
  | .addOp => "ADD_OP"
  | .mulOp => "MUL_OP"
  | .caret => "CIRCUMFLEX"
  | .sign .bang => "BANG"
  | .sign .eq => "EQ"
  | .sign .less => "LESS"
  | .sign .more => "MORE"
  | .bracket .lpar => "LPAR"
  | .bracket .rpar => "RPAR"
  | .bracket .lsqb => "LSQB"
  | .bracket .rsqb => "RSQB"

/-- The terminals that a parser can expect, in the order of their names. -/
def Terminal.byName : List Terminal :=
  [.addOp, .keyword (.order .backward false), .sign .bang, .keyword (.order .backward true), .caret,
   .comment, .sign .eq, .atom .string, .keyword (.order .forward true),
   .keyword (.order .forward false), .atom .ident, .keyword (.order .left false), .sign .less,
   .bracket .lpar, .bracket .lsqb, .keyword (.order .left true), .sign .more, .mulOp, .atom .number,
   .keyword (.pen false true), .keyword (.pen false false), .keyword (.pen true false),
   .keyword (.pen true true), .keyword .loop, .keyword (.order .right false), .bracket .rpar,
   .bracket .rsqb, .keyword (.order .right true), .keyword (.order .sleep false),
   .keyword (.order .sleep true), .keyword .stop, .newline]

def Terminal.startsCommand : Terminal → Bool
  | .comment | .keyword _ => true
  | _ => false

def Terminal.startsValue : Terminal → Bool
  | .atom _ | .bracket .lpar => true
  | _ => false

end TurtleLogo.Grammar
