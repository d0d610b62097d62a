/-
# `TurtleLogo.Proofs.Grammar.Automaton` — what the states of the parser remember

A state is reached only behind certain symbols.  `State.pending` lists, for
each state, the rules under way that it stands for: what each is going to be
and what has been read of it.  The table respects this reading: `next_pending`
says it of the edges of the automaton and `completed_main` of the completed
rules.  Both are decided over the whole table, as are the ranks by which the
completions that do not shorten the stack are seen to come to an end.
-/
import TurtleLogo.Proofs.Grammar.Enumeration

namespace TurtleLogo.Grammar

/-- Where a state goes on a symbol: on a terminal by moving on, on a nonterminal when it is
complete. -/
def State.next (b : State) : Symbol → Option State
  | .terminal t =>
    match onTerminal b t with
    | some (.shift s) => some s
    | _ => none
  | .nonterminal n => goto b n

/-- A rule under way: the nonterminal that it is going to be, and the symbols read of it. -/
structure Pending where
  aim : Nonterminal
  read : List Symbol
deriving DecidableEq

/-- The nonterminal and the symbols of a rule that is read to its end. -/
def Rule.whole (r : Rule) : Pending := ⟨r.lhs, r.rhs⟩

/-- The start of a loop, up to its bracket and the line end behind that. -/
def loopHead (lead : Bool) : List Symbol :=
  [.terminal (.keyword .loop), .nonterminal (.chain .comparison), .terminal (.bracket .lsqb)] ++
    optional lead (.terminal .newline)

/-- The kind of the commands that a keyword starts. -/
def Keyword.kind : Keyword → CommandKind
  | .order what _ => .order what
  | .pen up _ => .pen up
  | .stop => .stop
  | .loop => .loop

/-- The rules under way in a state, as far as they have been read. -/
def State.pending : State → List Pending
  | .start | .accepted => []
  | .opened => [⟨.program, [.terminal .newline]⟩]
  | .listed lead =>
    [⟨.program, optional lead (.terminal .newline) ++ [.nonterminal .lines]⟩,
     ⟨.lines, [.nonterminal .lines]⟩]
  | .commanded more => [⟨.lines, optional more (.nonterminal .lines) ++ [.nonterminal .command]⟩]
  | .ended more => [(Rule.lines more).whole]
  | .keyword k => [⟨.kind k.kind, [.terminal (.keyword k)]⟩]
  | .comment => [Rule.comment.whole]
  | .ordered what short => [(Rule.order what short).whole]
  | .counted =>
    [⟨.kind .loop, [.terminal (.keyword .loop), .nonterminal (.chain .comparison)]⟩]
  | .kind k => [(Rule.command k).whole]
  | .atom a => [(Rule.atom a).whole]
  | .paren => [⟨.value, [.terminal (.bracket .lpar)]⟩]
  | .grouped => [⟨.value, [.terminal (.bracket .lpar), .nonterminal (.chain .comparison)]⟩]
  | .closed => [Rule.group.whole]
  | .left l => [⟨.chain l, [.nonterminal (.operandOf l)]⟩]
  | .links l => [(Rule.chain l true).whole, ⟨.links l, [.nonterminal (.links l)]⟩]
  | .operator l more => [⟨.links l, optional more (.nonterminal (.links l)) ++ [.operatorOf l]⟩]
  | .linked l more => [(Rule.link l more).whole]
  | .sign s => [⟨.comparator, [.terminal (.sign s)]⟩]
  | .signs s => [⟨.comparator, [.terminal (.sign s), .terminal (.sign .eq)]⟩]
  | .based => [⟨.factor, [.nonterminal .value]⟩]
  | .caret => [⟨.factor, [.nonterminal .value, .terminal .caret]⟩]
  | .raised => [Rule.power.whole]
  | .bracket lead => [⟨.kind .loop, loopHead lead⟩]
  | .body lead =>
    [⟨.kind .loop, loopHead lead ++ [.nonterminal .body]⟩, ⟨.body, [.nonterminal .body]⟩]
  | .inner more => [⟨.body, optional more (.nonterminal .body) ++ [.nonterminal .command]⟩]
  | .innerEnded more => [(Rule.body more true).whole]
  | .bracketed lead => [(Rule.loop lead).whole]

/-- A state expects a rule if it is under way there, or can begin there. -/
def State.Expects (b : State) (k : Pending) : Prop :=
  k ∈ b.pending ∨ k.read = [] ∧ (goto b k.aim).isSome = true

instance (b : State) (k : Pending) : Decidable (b.Expects k) :=
  inferInstanceAs (Decidable (_ ∨ _))

def Symbol.all : List Symbol :=
  Terminal.all.map .terminal ++ Nonterminal.all.map .nonterminal

theorem Symbol.mem_all (X : Symbol) : X ∈ Symbol.all := by
  cases X with
  | terminal t => exact List.mem_append_left _ (List.mem_map_of_mem t.mem_all)
  | nonterminal n => exact List.mem_append_right _ (List.mem_map_of_mem n.mem_all)

/-- What comes next: a terminal or the end of the text. -/
def lookaheads : List (Option Terminal) :=
  none :: Terminal.all.map some

theorem mem_lookaheads (la : Option Terminal) : la ∈ lookaheads := by
  cases la with
  | none => exact List.mem_cons_self
  | some t => exact List.mem_cons_of_mem _ (List.mem_map_of_mem t.mem_all)

/-! ## The table respects the rules under way

The table has some thousand entries, and each of these facts is checked on all of
them at once, by computation.  The lemmas behind the tables state them in the form
in which they are used. -/

/-- What is decided edge by edge: a rule under way behind an edge was under way before it,
without the symbol on the edge; no edge leads back to the start; one leads to the end. -/
theorem next_table {b s : State} {X : Symbol} (h : b.next X = some s) :
    (∀ k ∈ s.pending, k.read.getLast? = some X ∧ b.Expects ⟨k.aim, k.read.dropLast⟩) ∧
      s ≠ .start ∧ (s = .accepted → b = .start ∧ X = .nonterminal .program) := by
  have table : ∀ b ∈ State.all, ∀ X ∈ Symbol.all, ∀ s ∈ b.next X,
      (∀ k ∈ s.pending, k.read.getLast? = some X ∧ b.Expects ⟨k.aim, k.read.dropLast⟩) ∧
      s ≠ .start ∧ (s = .accepted → b = .start ∧ X = .nonterminal .program) := by decide +kernel
  exact table b b.mem_all X X.mem_all s h

theorem next_pending {b s : State} {X : Symbol} {k : Pending} (h : b.next X = some s)
    (hk : k ∈ s.pending) : k.read.getLast? = some X ∧ b.Expects ⟨k.aim, k.read.dropLast⟩ :=
  (next_table h).1 k hk

theorem next_ne_start (b : State) (X : Symbol) : b.next X ≠ some .start :=
  fun h => (next_table h).2.1 rfl

/-- A whole program stands on nothing. -/
theorem next_accepted {b : State} {X : Symbol} (h : b.next X = some .accepted) :
    b = .start ∧ X = .nonterminal .program :=
  (next_table h).2.2 rfl

/-- The rule that a state completes on what comes next, if it completes one. -/
def State.completed (s : State) (la : Option Terminal) : Option Rule :=
  match onNext s la with
  | some (.reduce r) => some r
  | _ => none

theorem completed_eq_some_iff {s : State} {la : Option Terminal} {r : Rule} :
    s.completed la = some r ↔ onNext s la = some (.reduce r) := by
  unfold State.completed
  split
  · next h => simp [h]
  · next h => simpa using h r

/-- The rule under way that a state completes, as far as it has been read. -/
def State.main : State → Option Pending
  | .start => some ⟨.program, []⟩
  | s => s.pending.head?

theorem main_expects {s : State} {k : Pending} (h : s.main = some k) : s.Expects k := by
  unfold State.main at h
  split at h
  · cases h
    exact .inr ⟨rfl, rfl⟩
  · exact .inl (List.mem_of_head? h)

theorem main_nil {s : State} {n : Nonterminal} (h : s.main = some ⟨n, []⟩) :
    s = .start ∧ n = .program := by
  have table : ∀ s ∈ State.all, ∀ k ∈ s.main, k.read = [] → s = .start ∧ k.aim = .program := by
    decide +kernel
  exact table s s.mem_all _ h rfl

/-- A rule that a state completes is its main one, read to its end. -/
theorem completed_main {s : State} {la : Option Terminal} {r : Rule}
    (h : s.completed la = some r) : s.main = some r.whole := by
  have table : ∀ s ∈ State.all, ∀ la ∈ lookaheads, ∀ r ∈ s.completed la,
      s.main = some r.whole := by decide +kernel
  exact table s s.mem_all la (mem_lookaheads la) r h

/-! ## Ranks

Completing a rule of a single part leaves the stack as high as it was.  What goes
down then is the rank of the topmost state: such rules climb the ladder. -/

/-- A bound on how many rules can be completed on top of a state, each of one part so far. -/
def State.rank : State → Nat
  | .start => 11
  | .atom _ | .paren => 9
  | .based => 8
  | .left .product => 7
  | .left .sum => 6
  | .left .comparison | .sign _ | .keyword _ | .comment => 5
  | .kind _ => 4
  | .inner _ | .commanded _ => 3
  | .opened | .listed _ | .operator _ _ => 2
  | .accepted => 0
  | _ => 1

theorem rank_goto_lt {b s s' : State} {n : Nonterminal} {X : Symbol}
    (h : s.main = some ⟨n, [X]⟩) (hb : b.next X = some s) (hs : goto b n = some s') :
    s'.rank < s.rank := by
  have table : ∀ s ∈ State.all, ∀ k ∈ s.main, ∀ X ∈ k.read.head?, k.read = [X] →
      ∀ b ∈ State.all, b.next X = some s → ∀ s' ∈ goto b k.aim, s'.rank < s.rank := by
    decide +kernel
  exact table s s.mem_all _ h X rfl rfl b b.mem_all hb s' hs

theorem rank_le_nine {s : State} (h : s ≠ .start) : s.rank ≤ 9 := by
  unfold State.rank
  split
  · exact absurd rfl h
  all_goals decide

end TurtleLogo.Grammar
