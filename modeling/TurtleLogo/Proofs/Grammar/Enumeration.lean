/-
# `TurtleLogo.Proofs.Grammar.Enumeration` — lists of all terminals, nonterminals and states

The table of the parser is finite, so what holds of all its entries can be
decided once the terminals, the nonterminals and the states are listed.  Each
list comes with the fact that nothing is missing from it.
-/
import TurtleLogo.Grammar.Table

namespace TurtleLogo.Grammar

theorem Keyword.mem_all (k : Keyword) : k ∈ Keyword.all := by
  obtain ⟨_ | _ | _ | _ | _, _ | _⟩ | ⟨_ | _, _ | _⟩ | _ | _ := k <;> decide

theorem Terminal.mem_all (t : Terminal) : t ∈ Terminal.all := by
  cases t with
  | keyword k =>
      have hk := List.mem_map_of_mem (f := Terminal.keyword) k.mem_all
      exact List.mem_append_left _ (List.mem_append_right _ hk)
  | atom a => cases a <;> decide
  | sign s => cases s <;> decide
  | bracket b => cases b <;> decide
  | _ => decide

def CommandKind.all : List CommandKind :=
  [.order .forward, .order .backward, .order .right, .order .left, .order .sleep, .pen false,
   .pen true, .stop, .loop, .comment]

theorem CommandKind.mem_all (k : CommandKind) : k ∈ CommandKind.all := by
  obtain (_ | _ | _ | _ | _) | (_ | _) | _ | _ | _ := k <;> decide

def levels : List Level := [.comparison, .sum, .product]

theorem mem_levels (l : Level) : l ∈ levels := by
  cases l <;> decide

def Nonterminal.all : List Nonterminal :=
  [.program, .lines, .command, .body, .comparator, .factor, .value] ++
    CommandKind.all.map .kind ++ levels.map .chain ++ levels.map .links

theorem Nonterminal.mem_all (n : Nonterminal) : n ∈ Nonterminal.all := by
  cases n with
  | kind k => simp [Nonterminal.all, k.mem_all]
  | chain l => simp [Nonterminal.all, mem_levels l]
  | links l => simp [Nonterminal.all, mem_levels l]
  | _ => decide

/-- The states of which there are two, one for each value of a flag. -/
def State.flagged (b : Bool) : List State :=
  [.listed b, .commanded b, .ended b, .bracket b, .body b, .inner b, .innerEnded b, .bracketed b]

/-- The states in which an operand of a level has been read or is awaited. -/
def State.ofLevel (l : Level) : List State :=
  [.left l, .links l, .operator l false, .operator l true, .linked l false, .linked l true]

/-- The states in which a keyword has its operand. -/
def State.ofOrder (what : Order) : List State :=
  [.ordered what false, .ordered what true]

def State.all : List State :=
  [.start, .opened, .comment, .counted, .accepted, .paren, .grouped, .closed, .based, .caret,
   .raised] ++ State.flagged false ++ State.flagged true ++ Keyword.all.map .keyword ++
    [.forward, .backward, .right, .left, .sleep].flatMap State.ofOrder ++
    CommandKind.all.map .kind ++ [.number, .string, .ident].map .atom ++
    levels.flatMap State.ofLevel ++ [.bang, .eq, .less, .more].map .sign ++
    [.bang, .eq, .less, .more].map .signs

theorem State.mem_all (s : State) : s ∈ State.all := by
  cases s with
  | keyword k => simp [State.all, k.mem_all]
  | kind k => simp [State.all, k.mem_all]
  | ordered what short => cases what <;> cases short <;> decide
  | atom a => cases a <;> decide
  | left l => cases l <;> decide
  | links l => cases l <;> decide
  | operator l more => cases l <;> cases more <;> decide
  | linked l more => cases l <;> cases more <;> decide
  | sign s => cases s <;> decide
  | signs s => cases s <;> decide
  | listed b | commanded b | ended b | bracket b | body b | inner b | innerEnded b | bracketed b =>
      cases b <;> decide
  | _ => decide

end TurtleLogo.Grammar
