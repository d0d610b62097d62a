/-
# `TurtleLogo.Grammar.Item` — what the parser keeps of what it has read

Beside each state the parser keeps a token or the tree of a completed rule.
Each rule builds its tree from the items of its parts; on items of another
shape it builds none.
-/
import TurtleLogo.Decimal.Reading
import TurtleLogo.Grammar.Rule
import TurtleLogo.Grammar.Token

namespace TurtleLogo.Grammar

/-- A token, or the tree of a completed rule. -/
inductive Item where
  | token (t : Token)
  | expr (e : Expr)
  | links (ls : Links)
  | operator (op : Operator)
  | command (c : Command)
  | commands (cs : List Command)

/-- Replaces every pair of `a` and `b`, from left to right, by `r`. -/
def replacePairs (a b r : Char) : List Char → List Char
  | x :: y :: cs =>
    if x == a && y == b then r :: replacePairs a b r cs else x :: replacePairs a b r (y :: cs)
  | cs => cs

/-- The text that a string's lexeme stands for: without its two quotes, with every escaped quote
replaced and then every escaped backslash. -/
def unquote (lexeme : List Char) : List Char :=
  replacePairs '\\' '\\' '\\' (replacePairs '\\' '"' '"' (lexeme.drop 1).dropLast)

/-- The value of a token that is a value on its own. -/
def atomExpr? : Atom → Token → Option Expr
  | .number, t => (Decimal.readReal? t.lexeme).map .number
  | .string, t => some (.string (String.ofList (unquote t.lexeme)))
  | .ident, t => some (.ident t.text)

/-- The operator of a chain, from a completed comparison operator or from a token. -/
def Item.operator? : Item → Option Operator
  | .operator op => some op
  | .token t => Operator.ofSymbol? t.text
  | _ => none

/-- The tree of a completed rule, from the items of its parts. -/
def build : Rule → List Item → Option Item
  | .program _ false, _ => some (.commands [])
  | .program false true, [.commands cs] => some (.commands cs)
  | .program true true, [.token _, .commands cs] => some (.commands cs)
  | .command _, [.command c] => some (.command c)
  | .order what _, [.token t, .expr e] => some (.command (.order what e (some t.start.line)))
  | .pen up _, [.token t] =>
    some (.command (.gesture (if up then .penUp else .penDown) (some t.start.line)))
  | .stop, [.token t] => some (.command (.gesture .stop (some t.start.line)))
  | .comment, [.token t] => some (.command (.comment t.text (some t.start.line)))
  | .loop false, [.token t, .expr e, .token _, .commands cs, .token _] =>
    some (.command (.loop e cs (some t.start.line)))
  | .loop true, [.token t, .expr e, .token _, .token _, .commands cs, .token _] =>
    some (.command (.loop e cs (some t.start.line)))
  | .lines false, [.command c, .token _] => some (.commands [c])
  | .lines true, [.commands cs, .command c, .token _] => some (.commands (cs ++ [c]))
  | .body false false, [.command c] => some (.commands [c])
  | .body false true, [.command c, .token _] => some (.commands [c])
  | .body true false, [.commands cs, .command c] => some (.commands (cs ++ [c]))
  | .body true true, [.commands cs, .command c, .token _] => some (.commands (cs ++ [c]))
  | .chain l false, [.expr e] => some (.expr (.chain l e .nil))
  | .chain l true, [.expr e, .links ls] => some (.expr (.chain l e ls))
  | .link _ false, [item, .expr e] => item.operator?.map fun op => .links (.cons op e .nil)
  | .link _ true, [.links ls, item, .expr e] => item.operator?.map fun op => .links (ls.snoc op e)
  | .comparator c, _ => some (.operator c.operator)
  | .factor, [.expr e] => some (.expr (.factor e))
  | .power, [.expr b, .token _, .expr x] => some (.expr (.power b x))
  | .atom a, [.token t] => (atomExpr? a t).map .expr
  | .group, [.token _, .expr e, .token _] => some (.expr (.group e))
  | _, _ => none

end TurtleLogo.Grammar
