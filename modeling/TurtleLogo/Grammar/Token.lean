/-
# `TurtleLogo.Grammar.Token` — tokens and their places
-/
import TurtleLogo.Grammar.Terminal

namespace TurtleLogo.Grammar

/-- A place in a text: how many characters stand before it, and its line and column.  Only line
feeds end lines. -/
structure Position where
  offset : Nat
  line : Nat
  column : Nat
deriving DecidableEq, Repr

def Position.first : Position := ⟨0, 1, 1⟩

/-- The place behind a character. -/
def Position.step (p : Position) (c : Char) : Position :=
  if c == '\n' then ⟨p.offset + 1, p.line + 1, 1⟩ else ⟨p.offset + 1, p.line, p.column + 1⟩

/-- The place behind a text. -/
def Position.after (p : Position) (cs : List Char) : Position :=
  cs.foldl Position.step p

/-- A terminal as it occurs in a text. -/
structure Token where
  terminal : Terminal
  lexeme : List Char
  start : Position
deriving DecidableEq, Repr

def Token.text (t : Token) : String :=
  String.ofList t.lexeme

end TurtleLogo.Grammar
