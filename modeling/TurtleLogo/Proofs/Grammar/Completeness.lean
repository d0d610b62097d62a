/-
# `TurtleLogo.Proofs.Grammar.Completeness` — the parser finds every tree

`Parses σ ts τ us` says that the parser goes from the stack `σ` in front of the
tokens `ts` to the stack `τ` in front of `us`, one completed rule or one token
at a time.  By induction on the tree, tokens that spell it lead from any stack
that awaits such a tree to the same stack with the tree on top, provided that
what follows is a terminal that may follow:

    Spells r e ts          a state that awaits rung r moves on with e     (`Spells.parses`)
    SpellsCommand c ts     a state that awaits a command moves on with c  (`SpellsCommand.parses`)
    SpellsProgram p ts     the empty stack ends with p and nothing else   (`SpellsProgram.parses`)

Chains, bodies and lines grow at their right end, so their inductions carry
what is already gathered.
-/
import TurtleLogo.Proofs.Grammar.Stack

namespace TurtleLogo.Grammar

/-- The terminal of the first token; none at the end of the text. -/
def upcoming (ts : List Token) : Option Terminal :=
  ts.head?.map Token.terminal

/-- `Parses σ ts τ us`: the parser goes from `σ` in front of `ts` to `τ` in front of `us`. -/
inductive Parses : Stack → List Token → Stack → List Token → Prop
  | refl {σ : Stack} {ts : List Token} : Parses σ ts σ ts
  | complete {σ τ υ : Stack} {ts us : List Token} {r : Rule} :
      (Stack.top σ).completed (upcoming ts) = some r → reduce r σ = some τ →
      Parses τ ts υ us → Parses σ ts υ us
  | shift {σ τ : Stack} {ts us : List Token} {t : Token} {s : State} :
      (Stack.top σ).next (.terminal t.terminal) = some s →
      Parses ((s, .token t) :: σ) ts τ us → Parses σ (t :: ts) τ us

theorem Parses.trans {σ τ υ : Stack} {ts us vs : List Token} (h : Parses σ ts τ us)
    (h' : Parses τ us υ vs) : Parses σ ts υ vs := by
  induction h with
  | refl => exact h'
  | complete hr hτ _ ih => exact .complete hr hτ (ih h')
  | shift hs _ ih => exact .shift hs (ih h')

theorem Parses.shift_one {σ : Stack} {ts : List Token} {t : Token} {x : Terminal} {s : State}
    (ht : t.Is x) (h : (Stack.top σ).next (.terminal x) = some s) :
    Parses σ (t :: ts) ((s, .token t) :: σ) ts :=
  .shift (ht.1 ▸ h) .refl

/-! ## What comes first and what follows

To complete a rule the parser looks at the next terminal.  So for everything that
can be spelled it has to be known with which terminals it begins, and in front of
which terminals each state completes its rule. -/

/-- `Faces p ts`: there is a first token, and its terminal satisfies `p`. -/
def Faces (p : Terminal → Bool) (ts : List Token) : Prop :=
  ∃ x, upcoming ts = some x ∧ p x = true

theorem Faces.cons {p : Terminal → Bool} {t : Token} {ts : List Token} {x : Terminal}
    (ht : t.Is x) (hp : p x = true) : Faces p (t :: ts) :=
  ⟨x, congrArg some ht.1, hp⟩

theorem Faces.mono {p q : Terminal → Bool} {ts : List Token} (h : Faces p ts)
    (hpq : ∀ x, p x = true → q x = true) : Faces q ts := by
  obtain ⟨x, hx, hp⟩ := h
  exact ⟨x, hx, hpq x hp⟩

theorem Faces.append {p : Terminal → Bool} {ts : List Token} (h : Faces p ts) (us : List Token) :
    Faces p (ts ++ us) := by
  obtain ⟨x, hx, hp⟩ := h
  cases ts with
  | nil => cases hx
  | cons t ts => exact ⟨x, hx, hp⟩

theorem Spells.faces : ∀ {r : Rung} {e : Expr} {ts : List Token}, Spells r e ts →
    Faces Terminal.startsValue ts
  | _, _, _, .number ht _ => .cons ht rfl
  | _, _, _, .string ht => .cons ht rfl
  | _, _, _, .ident ht => .cons ht rfl
  | _, _, _, .group hl _ _ => .cons hl rfl
  | _, _, _, .factor hb => hb.faces
  | _, _, _, .power hb _ _ => hb.faces.append _
  | _, _, _, .chain he _ => he.faces.append _

/-- The terminals with which an operator of a level starts. -/
def opensLink (l : Level) (x : Terminal) : Bool :=
  (shiftOperator l false x).isSome

theorem SpellsOperator.faces {l : Level} {op : Operator} {ts : List Token}
    (h : SpellsOperator l op ts) : Faces (opensLink l) ts := by
  cases h with
  | sum ht _ => exact .cons ht rfl
  | product ht _ => exact .cons ht rfl
  | @comparison c ts hts =>
      cases c <;> cases hts with | cons ht _ => exact .cons ht rfl

theorem SpellsCommand.faces {c : Command} {ts : List Token} (h : SpellsCommand c ts) :
    Faces Terminal.startsCommand ts := by
  cases h with
  | order ht _ | pen ht | stop ht | comment ht | loop ht => exact .cons ht rfl

/-- Behind the operands of a chain stands an operator, or what follows the chain. -/
theorem SpellsLinks.faces {l : Level} {ls : Links} {ts rest : List Token}
    (h : SpellsLinks l ls ts) (hrest : Faces (follows (.chain l)) rest) :
    Faces (follows l.operandRung) (ts ++ rest) := by
  have table : ∀ l ∈ levels, ∀ x ∈ Terminal.all,
      (follows (.chain l) x = true → follows l.operandRung x = true) ∧
      (opensLink l x = true → follows l.operandRung x = true) := by decide +kernel
  cases h with
  | nil => exact hrest.mono fun x => (table l (mem_levels l) x x.mem_all).1
  | cons hop _ _ =>
      exact (hop.faces.append _).append rest |>.mono fun x => (table l (mem_levels l) x x.mem_all).2

/-- Terminals that may follow a command in brackets and its line end. -/
def endsInner (x : Terminal) : Bool :=
  x.startsCommand || x == .bracket .rsqb

/-- The rule that a state completes, and the terminals in front of which it does. -/
def State.closing : State → Option ((Terminal → Bool) × Rule)
  | .atom a => some (follows .value, .atom a)
  | .closed => some (follows .value, .group)
  | .based => some (follows .factor, .factor)
  | .raised => some (follows .factor, .power)
  | .left l => some (follows (.chain l), .chain l false)
  | .links l => some (follows (.chain l), .chain l true)
  | .linked l more => some (follows l.operandRung, .link l more)
  | .sign s => s.alone?.map fun c => (Terminal.startsValue, .comparator c)
  | .signs s => s.withEq?.map fun c => (Terminal.startsValue, .comparator c)
  | .keyword (.pen up short) => some (endsCommand, .pen up short)
  | .keyword .stop => some (endsCommand, .stop)
  | .comment => some (endsCommand, .comment)
  | .ordered what short => some (endsCommand, .order what short)
  | .bracketed lead => some (endsCommand, .loop lead)
  | .kind k => some (endsCommand, .command k)
  | .inner more => some (endsInner, .body more false)
  | .innerEnded more => some (endsInner, .body more true)
  | .ended more => some (Terminal.startsCommand, .lines more)
  | _ => none

theorem completed_of_closing {s : State} {p : Terminal → Bool} {r : Rule} {ts : List Token}
    (hs : s.closing = some (p, r)) (hts : Faces p ts) : s.completed (upcoming ts) = some r := by
  have table : ∀ s ∈ State.all, ∀ x ∈ Terminal.all, ∀ c ∈ s.closing, c.1 x = true →
      s.completed (some x) = some c.2 := by decide +kernel
  obtain ⟨x, hx, hp⟩ := hts
  rw [hx]
  exact table s s.mem_all x x.mem_all (p, r) hs hp

theorem Parses.complete_one {r : Rule} {p : Terminal → Bool} {σ : Stack} {ts : List Token}
    {item : Item} {s : State} (parts : Stack)
    (hclosing : (Stack.top (parts ++ σ)).closing = some (p, r)) (hts : Faces p ts)
    (hlen : parts.length = r.rhs.length)
    (hbuild : build r (parts.reverse.map Prod.snd) = some item)
    (hgoto : goto (Stack.top σ) r.lhs = some s) :
    Parses (parts ++ σ) ts ((s, item) :: σ) ts :=
  .complete (completed_of_closing hclosing hts) (reduce_append parts hlen hbuild hgoto) .refl

/-! ## Expressions

By mutual induction on the tree and on the links of a chain.  A chain has its
first operand on the stack when its links are read, and each link is gathered with
those before it. -/

def Rung.nonterminal : Rung → Nonterminal
  | .chain l => .chain l
  | .factor => .factor
  | .value => .value

theorem operandRung_nonterminal (l : Level) :
    Rung.nonterminal l.operandRung = .operandOf l := by
  cases l <;> rfl

theorem awaits_expression {b s : State} {r : Rung} (h : goto b (Rung.nonterminal r) = some s) :
    (∀ a, b.next (.terminal (.atom a)) = some (.atom a)) ∧
      b.next (.terminal (.bracket .lpar)) = some .paren ∧
      (r = .factor → goto b .value = some .based) ∧
      ∀ l, r = .chain l → goto b (.operandOf l) = some (.left l) := by
  have table : ∀ b ∈ State.all,
      ∀ r ∈ [.factor, .value, .chain .comparison, .chain .sum, .chain .product],
      (goto b (Rung.nonterminal r)).isSome = true →
        (∀ a ∈ [.number, .string, .ident], b.next (.terminal (.atom a)) = some (.atom a)) ∧
        b.next (.terminal (.bracket .lpar)) = some .paren ∧
        (r = .factor → goto b .value = some .based) ∧
        ∀ l ∈ levels, r = .chain l → goto b (.operandOf l) = some (.left l) := by
    decide +kernel
  have hr : r ∈ [.factor, .value, .chain .comparison, .chain .sum, .chain .product] := by
    rcases r with ⟨_ | _ | _⟩ | _ | _ <;> decide
  obtain ⟨hatom, hparen, hfactor, hchain⟩ := table b b.mem_all r hr (by rw [h]; rfl)
  refine ⟨fun a => hatom a (by cases a <;> decide), hparen, hfactor, fun l => ?_⟩
  exact hchain l (mem_levels l)

/-- The stack in front of the next link of a chain, with the links gathered so far. -/
def chainStack (l : Level) (e : Expr) (σ : Stack) : Links → Stack
  | .nil => (.left l, .expr e) :: σ
  | .cons op x rest => (.links l, .links (.cons op x rest)) :: (.left l, .expr e) :: σ

def Links.append : Links → Links → Links
  | .nil, ls => ls
  | .cons op e rest, ls => .cons op e (Links.append rest ls)

theorem snoc_append (op : Operator) (e : Expr) (ls : Links) :
    ∀ acc : Links, Links.append (acc.snoc op e) ls = Links.append acc (.cons op e ls)
  | .nil => rfl
  | .cons o x rest => congrArg (Links.cons o x) (snoc_append op e ls rest)

theorem append_nil : ∀ acc : Links, Links.append acc .nil = acc
  | .nil => rfl
  | .cons o x rest => congrArg (Links.cons o x) (append_nil rest)

def Links.some : Links → Bool
  | .nil => false
  | .cons .. => true

theorem follows_value (x : Terminal) (h : follows .factor x = true) :
    follows .value x = true := by
  have table : ∀ x ∈ Terminal.all, follows .factor x = true → follows .value x = true := by
    decide +kernel
  exact table x x.mem_all h

section Expressions

variable {l : Level} {e : Expr} {σ : Stack} {rest : List Token}

theorem comparator_parses {b : State} {c : Comparator} {os : List Token} (htop : Stack.top σ = b)
    (hsign : ∀ s, b.next (.terminal (.sign s)) = some (.sign s)) {s' : State}
    (hgoto : goto b .comparator = some s')
    (h : List.Forall₂ (fun t s => Token.Is t (.sign s)) os c.signs)
    (hrest : Faces Terminal.startsValue rest) :
    Parses σ (os ++ rest) ((s', .operator c.operator) :: σ) rest := by
  subst htop
  have one : ∀ {s : Sign}, s.alone? = some c → c.signs = [s] →
      Parses σ (os ++ rest) ((s', .operator c.operator) :: σ) rest := by
    intro s hs hc
    rw [hc] at h
    obtain ⟨t, _, ht, hnil, rfl⟩ := List.forall₂_cons_right_iff.mp h
    cases hnil
    have hclosing : (State.sign s).closing = some (Terminal.startsValue, .comparator c) := by
      rw [State.closing, hs]
      rfl
    have hlen : [s].length = (Rule.comparator c).rhs.length := by
      rw [← hc, Rule.rhs, List.length_map]
    refine (Parses.shift_one ht (hsign s)).trans ?_
    exact .complete_one [(.sign s, .token t)] hclosing hrest hlen (by rw [build]) hgoto
  have two : ∀ {s : Sign}, s.withEq? = some c → c.signs = [s, .eq] →
      Parses σ (os ++ rest) ((s', .operator c.operator) :: σ) rest := by
    intro s hs hc
    rw [hc] at h
    obtain ⟨t, _, ht, h', rfl⟩ := List.forall₂_cons_right_iff.mp h
    obtain ⟨u, _, hu, hnil, rfl⟩ := List.forall₂_cons_right_iff.mp h'
    cases hnil
    have heq : (State.sign s).next (.terminal (.sign .eq)) = some (.signs s) := by
      simp [State.next, onTerminal, hs]
    have hclosing : (State.signs s).closing = some (Terminal.startsValue, .comparator c) := by
      rw [State.closing, hs]
      rfl
    have hlen : [s, .eq].length = (Rule.comparator c).rhs.length := by
      rw [← hc, Rule.rhs, List.length_map]
    refine ((Parses.shift_one ht (hsign s)).trans (Parses.shift_one hu heq)).trans ?_
    exact .complete_one [(.signs s, .token u), (.sign s, .token t)] hclosing hrest hlen
      (by rw [build]) hgoto
  cases c with
  | eq | lt | gt => exact one rfl rfl
  | ne | le | ge => exact two rfl rfl

theorem SpellsOperator.parses {op : Operator} {os : List Token} (h : SpellsOperator l op os)
    (acc : Links) (hrest : Faces Terminal.startsValue rest) :
    ∃ item, item.operator? = some op ∧ Parses (chainStack l e σ acc) (os ++ rest)
      ((.operator l (Links.some acc), item) :: chainStack l e σ acc) rest := by
  cases h with
  | @sum t _ ht hop =>
      refine ⟨.token t, hop, .shift_one ht ?_⟩
      cases acc <;> rfl
  | @product t _ ht hop =>
      refine ⟨.token t, hop, .shift_one ht ?_⟩
      cases acc <;> rfl
  | @comparison c os hos =>
      refine ⟨.operator c.operator, rfl, comparator_parses rfl ?_ ?_ hos hrest⟩
      · intro s
        cases acc <;> rfl
      · cases acc <;> rfl

theorem link_parses {op : Operator} {x : Expr} {item : Item} (acc : Links)
    (hop : item.operator? = some op) (hrest : Faces (follows l.operandRung) rest) :
    Parses ((.linked l (Links.some acc), .expr x) :: (.operator l (Links.some acc), item) ::
      chainStack l e σ acc) rest (chainStack l e σ (acc.snoc op x)) rest := by
  have hgoto : goto (.left l) (.links l) = some (.links l) := by cases l <;> rfl
  cases acc with
  | nil =>
      exact .complete_one [(.linked l false, .expr x), (.operator l false, item)] rfl hrest rfl
        (by simp [build, hop]) hgoto
  | cons o y ls =>
      exact .complete_one [(.linked l true, .expr x), (.operator l true, item),
        (.links l, .links (.cons o y ls))] rfl hrest rfl (by simp [build, hop, Links.snoc]) hgoto

theorem chain_parses {s : State} (ls : Links) (hgoto : goto (Stack.top σ) (.chain l) = some s)
    (hrest : Faces (follows (.chain l)) rest) :
    Parses (chainStack l e σ ls) rest ((s, .expr (.chain l e ls)) :: σ) rest := by
  cases ls with
  | nil => exact .complete_one [(.left l, .expr e)] rfl hrest rfl rfl hgoto
  | cons o y ls =>
      exact .complete_one [(.links l, .links (.cons o y ls)), (.left l, .expr e)] rfl hrest rfl rfl
        hgoto

end Expressions

mutual
/-- Tokens that spell an expression lead from a state that awaits it to the expression. -/
theorem Spells.parses : ∀ {r : Rung} {e : Expr} {ts : List Token}, Spells r e ts →
    ∀ {σ : Stack} {rest : List Token} {s : State},
      goto (Stack.top σ) (Rung.nonterminal r) = some s → Faces (follows r) rest →
      Parses σ (ts ++ rest) ((s, .expr e) :: σ) rest
  | _, _, _, @Spells.number t x ht hx, _, _, _, hgoto, hrest => by
      refine (Parses.shift_one ht ((awaits_expression hgoto).1 _)).trans ?_
      exact .complete_one [(.atom .number, .token t)] rfl hrest rfl (by simp [build, atomExpr?, hx])
        hgoto
  | _, _, _, @Spells.string t ht, _, _, _, hgoto, hrest => by
      refine (Parses.shift_one ht ((awaits_expression hgoto).1 _)).trans ?_
      exact .complete_one [(.atom .string, .token t)] rfl hrest rfl rfl hgoto
  | _, _, _, @Spells.ident t ht, _, _, _, hgoto, hrest => by
      refine (Parses.shift_one ht ((awaits_expression hgoto).1 _)).trans ?_
      exact .complete_one [(.atom .ident, .token t)] rfl hrest rfl rfl hgoto
  | _, _, _, @Spells.group lp rp e ts hl he hr, _, rest, _, hgoto, hrest => by
      refine (Parses.shift_one hl (awaits_expression hgoto).2.1).trans ?_
      rw [List.append_eq, List.append_assoc]
      refine (he.parses (s := .grouped) rfl (.cons hr rfl)).trans ?_
      refine (Parses.shift_one (s := .closed) hr rfl).trans ?_
      exact .complete_one [(.closed, .token rp), (.grouped, .expr e), (.paren, .token lp)]
        rfl hrest rfl rfl hgoto
  | _, _, _, @Spells.factor b ts hb, _, _, _, hgoto, hrest => by
      have hvalue := (awaits_expression hgoto).2.2.1 rfl
      refine (hb.parses hvalue (hrest.mono follows_value)).trans ?_
      exact .complete_one [(.based, .expr b)] rfl hrest rfl rfl hgoto
  | _, _, _, @Spells.power b x t ts us hb ht hx, _, _, _, hgoto, hrest => by
      have hvalue := (awaits_expression hgoto).2.2.1 rfl
      rw [List.append_assoc]
      refine (hb.parses hvalue (.cons ht rfl)).trans ?_
      refine (Parses.shift_one (s := .caret) ht rfl).trans ?_
      refine (hx.parses (s := .raised) rfl (hrest.mono follows_value)).trans ?_
      exact .complete_one [(.raised, .expr x), (.caret, .token t), (.based, .expr b)] rfl hrest rfl
        rfl hgoto
  | _, _, _, @Spells.chain l e ls ts us he hls, _, _, _, hgoto, hrest => by
      have hoperand := (awaits_expression hgoto).2.2.2 l rfl
      rw [← operandRung_nonterminal] at hoperand
      rw [List.append_assoc]
      refine (he.parses hoperand (hls.faces hrest)).trans ?_
      exact (hls.parses .nil hrest).trans (chain_parses ls hgoto hrest)

/-- Tokens that spell links gather them behind those of the chain so far. -/
theorem SpellsLinks.parses : ∀ {l : Level} {ls : Links} {ts : List Token}, SpellsLinks l ls ts →
    ∀ {σ : Stack} {rest : List Token} {e : Expr} (acc : Links), Faces (follows (.chain l)) rest →
      Parses (chainStack l e σ acc) (ts ++ rest) (chainStack l e σ (Links.append acc ls)) rest
  | _, _, _, .nil, _, _, _, acc, _ => by
      rw [append_nil]
      exact .refl
  | l, _, _, @SpellsLinks.cons _ op x ls os ts us hop hx hls, _, rest, _, acc, hrest => by
      have hgoto : goto (.operator l (Links.some acc)) (Rung.nonterminal l.operandRung) =
          some (.linked l (Links.some acc)) := by
        cases l <;> rfl
      rw [List.append_assoc, List.append_assoc]
      obtain ⟨item, hitem, hparses⟩ := hop.parses acc (hx.faces.append (us ++ rest))
      refine hparses.trans ?_
      refine Parses.trans (hx.parses hgoto (hls.faces hrest)) ?_
      refine (link_parses acc hitem (hls.faces hrest)).trans ?_
      rw [← snoc_append]
      exact hls.parses (acc.snoc op x) hrest
end

/-! ## Commands

As for chains, the commands in brackets are gathered from the left, so the
induction on a body says from which stack to which it leads, with the commands
gathered so far as a parameter. -/

theorem awaits_command {b s : State} (h : goto b .command = some s) :
    (∀ k, b.next (.terminal (.keyword k)) = some (.keyword k)) ∧
      b.next (.terminal .comment) = some .comment ∧ ∀ k, goto b (.kind k) = some (.kind k) := by
  have table : ∀ b ∈ State.all, (goto b .command).isSome = true →
      (∀ k ∈ Keyword.all, b.next (.terminal (.keyword k)) = some (.keyword k)) ∧
      b.next (.terminal .comment) = some .comment ∧
      ∀ k ∈ CommandKind.all, goto b (.kind k) = some (.kind k) := by decide +kernel
  obtain ⟨hkeyword, hcomment, hkind⟩ := table b b.mem_all (by rw [h]; rfl)
  exact ⟨fun k => hkeyword k k.mem_all, hcomment, fun k => hkind k k.mem_all⟩

theorem follows_operand (x : Terminal) (h : endsCommand x = true) :
    follows (.chain .comparison) x = true := by
  have table : ∀ x ∈ Terminal.all, endsCommand x = true →
      follows (.chain .comparison) x = true := by decide +kernel
  exact table x x.mem_all h

theorem endsInner_of_startsCommand (x : Terminal) (h : x.startsCommand = true) :
    endsInner x = true := by
  simp [endsInner, h]

theorem endsCommand_of_endsInner (x : Terminal) (h : endsInner x = true) :
    endsCommand x = true := by
  have table : ∀ x ∈ Terminal.all, endsInner x = true → endsCommand x = true := by decide +kernel
  exact table x x.mem_all h

theorem SpellsBody.faces {cs : List Command} {ts rest : List Token} (h : SpellsBody cs ts)
    (hrest : Faces endsInner rest) : Faces endsInner (ts ++ rest) := by
  cases h with
  | nil => exact hrest
  | cons hc _ _ => exact (hc.faces.append _).append rest |>.mono endsInner_of_startsCommand

theorem Break.faces {nl rest : List Token} (h : Break nl) (hrest : Faces endsInner rest) :
    Faces endsCommand (nl ++ rest) := by
  cases h with
  | none => exact hrest.mono endsCommand_of_endsInner
  | line ht => exact .cons ht rfl

/-- The stack in front of the next command, with the commands gathered so far in state `s`. -/
def gather (s : State) (σ : Stack) : List Command → Stack
  | [] => σ
  | c :: cs => (s, .commands (c :: cs)) :: σ

section Commands

variable {c : Command} {σ : Stack} {rest : List Token} {s : State}

/-- The parts of a command are completed, first to a command of some kind. -/
theorem command_parses {k : CommandKind} {r : Rule} (parts : Stack)
    (hclosing : (Stack.top (parts ++ σ)).closing = some (endsCommand, r)) (hlhs : r.lhs = .kind k)
    (hlen : parts.length = r.rhs.length)
    (hbuild : build r (parts.reverse.map Prod.snd) = some (.command c))
    (hgoto : goto (Stack.top σ) .command = some s) (hrest : Faces endsCommand rest) :
    Parses (parts ++ σ) rest ((s, .command c) :: σ) rest := by
  have hkind : goto (Stack.top σ) r.lhs = some (.kind k) :=
    hlhs ▸ (awaits_command hgoto).2.2 k
  refine (Parses.complete_one parts hclosing hrest hlen hbuild hkind).trans ?_
  exact .complete_one [(.kind k, .command c)] rfl hrest rfl rfl hgoto

theorem inner_parses {lead : Bool} {nl : List Token} (hσ : Stack.top σ = .bracket lead)
    (acc : List Command) (hnl : Break nl) (hrest : Faces endsInner rest) :
    Parses ((.inner (!acc.isEmpty), .command c) :: gather (.body lead) σ acc) (nl ++ rest)
      (gather (.body lead) σ (acc ++ [c])) rest := by
  have hgoto : goto (Stack.top σ) .body = some (.body lead) := by rw [hσ]; rfl
  cases hnl with
  | none =>
      cases acc with
      | nil => exact .complete_one [(.inner false, .command c)] rfl hrest rfl rfl hgoto
      | cons a acc =>
          exact .complete_one [(.inner true, .command c), (.body lead, .commands (a :: acc))] rfl
            hrest rfl rfl hgoto
  | @line t ht =>
      refine (Parses.shift_one (s := .innerEnded (!acc.isEmpty)) ht rfl).trans ?_
      cases acc with
      | nil =>
          exact .complete_one [(.innerEnded false, .token t), (.inner false, .command c)] rfl hrest
            rfl rfl hgoto
      | cons a acc =>
          exact .complete_one [(.innerEnded true, .token t), (.inner true, .command c),
            (.body lead, .commands (a :: acc))] rfl hrest rfl rfl hgoto

end Commands

mutual
theorem SpellsCommand.parses : ∀ {c : Command} {ts : List Token}, SpellsCommand c ts →
    ∀ {σ : Stack} {rest : List Token} {s : State}, goto (Stack.top σ) .command = some s →
      Faces endsCommand rest → Parses σ (ts ++ rest) ((s, .command c) :: σ) rest
  | _, _, @SpellsCommand.order what short t e ts ht he, _, _, _, hgoto, hrest => by
      refine (Parses.shift_one ht ((awaits_command hgoto).1 _)).trans ?_
      refine (he.parses (s := .ordered what short) rfl (hrest.mono follows_operand)).trans ?_
      exact command_parses [(.ordered what short, .expr e),
        (.keyword (.order what short), .token t)] rfl rfl rfl rfl hgoto hrest
  | _, _, @SpellsCommand.pen up short t ht, _, _, _, hgoto, hrest => by
      refine (Parses.shift_one ht ((awaits_command hgoto).1 _)).trans ?_
      exact command_parses [(.keyword (.pen up short), .token t)] rfl rfl rfl rfl hgoto hrest
  | _, _, @SpellsCommand.stop t ht, _, _, _, hgoto, hrest => by
      refine (Parses.shift_one ht ((awaits_command hgoto).1 _)).trans ?_
      exact command_parses [(.keyword .stop, .token t)] rfl rfl rfl rfl hgoto hrest
  | _, _, @SpellsCommand.comment t ht, _, _, _, hgoto, hrest => by
      refine (Parses.shift_one ht (awaits_command hgoto).2.1).trans ?_
      exact command_parses [(.comment, .token t)] rfl rfl rfl rfl hgoto hrest
  | _, _, @SpellsCommand.loop t lb rb e body ts nl us ht he hlb hnl hbody hne hrb, σ, rest, _,
      hgoto, hrest => by
      obtain ⟨c, cs, rfl⟩ := List.exists_cons_of_ne_nil hne
      refine (Parses.shift_one ht ((awaits_command hgoto).1 _)).trans ?_
      simp only [List.append_eq, List.append_assoc, List.cons_append, List.nil_append]
      refine (he.parses (s := .counted) rfl (.cons hlb rfl)).trans ?_
      refine (Parses.shift_one (s := .bracket false) hlb rfl).trans ?_
      cases hnl with
      | none =>
          refine (hbody.parses false [] rfl (.cons hrb rfl)).trans ?_
          refine (Parses.shift_one (s := .bracketed false) hrb rfl).trans ?_
          exact command_parses [(.bracketed false, .token rb), (.body false, .commands (c :: cs)),
            (.bracket false, .token lb), (.counted, .expr e), (.keyword .loop, .token t)]
            rfl rfl rfl rfl hgoto hrest
      | @line n hn =>
          refine (Parses.shift_one (s := .bracket true) hn rfl).trans ?_
          refine (hbody.parses true [] rfl (.cons hrb rfl)).trans ?_
          refine (Parses.shift_one (s := .bracketed true) hrb rfl).trans ?_
          exact command_parses [(.bracketed true, .token rb), (.body true, .commands (c :: cs)),
            (.bracket true, .token n), (.bracket false, .token lb), (.counted, .expr e),
            (.keyword .loop, .token t)] rfl rfl rfl rfl hgoto hrest

/-- Tokens that spell commands in brackets gather them behind those so far. -/
theorem SpellsBody.parses : ∀ {cs : List Command} {ts : List Token}, SpellsBody cs ts →
    ∀ {σ : Stack} {rest : List Token} (lead : Bool) (acc : List Command),
      Stack.top σ = .bracket lead → Faces endsInner rest →
      Parses (gather (.body lead) σ acc) (ts ++ rest) (gather (.body lead) σ (acc ++ cs)) rest
  | _, _, .nil, _, _, _, acc, _, _ => by
      rw [List.append_nil]
      exact .refl
  | _, _, @SpellsBody.cons c cs ts nl us hc hnl hcs, σ, rest, lead, acc, hσ, hrest => by
      have hgoto : goto (Stack.top (gather (.body lead) σ acc)) .command =
          some (.inner (!acc.isEmpty)) := by
        cases acc with
        | nil =>
            show goto (Stack.top σ) .command = _
            rw [hσ]
            rfl
        | cons a acc => rfl
      have hfollow := hcs.faces hrest
      rw [List.append_assoc, List.append_assoc]
      refine (hc.parses hgoto (hnl.faces hfollow)).trans ?_
      refine (inner_parses hσ acc hnl hfollow).trans ?_
      rw [List.append_cons acc c cs]
      exact hcs.parses lead (acc ++ [c]) hσ hrest
end

/-! ## Programs

The topmost level is like a body, but for the line ends, one behind each command,
and the line end that may come first. -/

/-- The state in front of the first line. -/
def leadState (lead : Bool) : State :=
  if lead then .opened else .start

theorem completed_ended {more : Bool} {ts : List Token}
    (h : ts = [] ∨ Faces Terminal.startsCommand ts) :
    (State.ended more).completed (upcoming ts) = some (.lines more) := by
  rcases h with rfl | h
  · rfl
  · exact completed_of_closing rfl h

/-- Tokens that spell lines gather their commands behind those so far. -/
theorem SpellsLines.parses (lead : Bool) {σ : Stack} (hσ : Stack.top σ = leadState lead)
    {cs : List Command} {ts : List Token} (h : SpellsLines cs ts) : ∀ acc : List Command,
      Parses (gather (.listed lead) σ acc) ts (gather (.listed lead) σ (acc ++ cs)) [] := by
  have hcommand : ∀ acc, goto (Stack.top (gather (.listed lead) σ acc)) .command =
      some (.commanded (!acc.isEmpty)) := by
    intro acc
    cases acc with
    | nil =>
        show goto (Stack.top σ) .command = _
        rw [hσ]
        cases lead <;> rfl
    | cons a acc => rfl
  have hlines : goto (Stack.top σ) .lines = some (.listed lead) := by
    rw [hσ]
    cases lead <;> rfl
  induction h with
  | nil =>
      intro acc
      rw [List.append_nil]
      exact .refl
  | @cons c cs t ts us hc ht hcs ih =>
      intro acc
      refine (hc.parses (hcommand acc) (.cons ht rfl)).trans ?_
      refine (Parses.shift_one (s := .ended (!acc.isEmpty)) ht rfl).trans ?_
      rw [List.append_cons acc c cs]
      refine Parses.trans ?_ (ih (acc ++ [c]))
      have hus : us = [] ∨ Faces Terminal.startsCommand us := by
        cases hcs with
        | nil => exact .inl rfl
        | cons hc' _ _ => exact .inr (hc'.faces.append _)
      refine .complete (completed_ended hus) ?_ .refl
      cases acc with
      | nil =>
          exact reduce_append [(.ended false, .token t), (.commanded false, .command c)] rfl
            rfl hlines
      | cons a acc =>
          exact reduce_append [(.ended true, .token t), (.commanded true, .command c),
            (.listed lead, .commands (a :: acc))] rfl rfl hlines

theorem SpellsProgram.parses {p : Program} {ts : List Token} (h : SpellsProgram p ts) :
    Parses [] ts [(.accepted, .commands p)] [] := by
  obtain ⟨nl, us, hnl, hus, rfl⟩ := h
  cases hnl with
  | none =>
      refine (SpellsLines.parses false rfl hus []).trans ?_
      cases p with
      | nil => exact .complete (r := .program false false) rfl rfl .refl
      | cons c cs => exact .complete (r := .program false true) rfl rfl .refl
  | @line t ht =>
      refine (Parses.shift_one (s := .opened) ht rfl).trans ?_
      refine (SpellsLines.parses true rfl hus []).trans ?_
      cases p with
      | nil => exact .complete (r := .program true false) rfl rfl .refl
      | cons c cs => exact .complete (r := .program true true) rfl rfl .refl

/-! ## Taking the tokens one by one

The parser itself does not take steps of `Parses` but whole tokens: it completes
all rules that a token completes and then pushes it.  Both come to the same, since
completing rules is deterministic. -/

/-- A step in front of a token that is consumed later is a step of taking that token. -/
theorem Parses.take {σ υ : Stack} {t : Token} {ts vs us : List Token} (hσ : Spelled σ vs)
    (h : Parses σ (t :: ts) υ us) (hlen : us.length ≤ ts.length) :
    ∃ τ, Grammar.take t σ = .pushed τ ∧ Parses τ ts υ us := by
  generalize hall : t :: ts = all at h
  induction h with
  | refl =>
      subst hall
      exact absurd hlen (Nat.not_succ_le_self _)
  | @complete σ τ υ _ us r hr hτ hrest ih =>
      subst hall
      have hred : Reduces (some t.terminal) σ τ := .step hr hτ .refl
      obtain ⟨ρ, hρ, hparses⟩ := ih (hσ.of_reduces hred) hlen rfl
      obtain ⟨τ', s, hred', hnext, rfl⟩ := (take_eq_pushed_iff (hσ.of_reduces hred)).mp hρ
      exact ⟨_, (take_eq_pushed_iff hσ).mpr ⟨τ', s, .step hr hτ hred', hnext, rfl⟩, hparses⟩
  | @shift σ τ _ us _ s hs hrest ih =>
      cases hall
      exact ⟨_, (take_eq_pushed_iff hσ).mpr ⟨σ, s, .refl, hs, rfl⟩, hrest⟩

/-- A token that is consumed later is one that the topmost state accepts. -/
theorem Parses.accepts {σ υ : Stack} {t : Token} {ts us : List Token}
    (h : Parses σ (t :: ts) υ us) (hlen : us.length ≤ ts.length) :
    (Stack.top σ).accepts t.terminal = true := by
  cases h with
  | refl => exact absurd hlen (Nat.not_succ_le_self _)
  | complete hr _ _ =>
      have hmove := completed_eq_some_iff.mp hr
      exact Option.isSome_of_mem hmove
  | shift hs _ => exact Option.isSome_of_mem (next_terminal_eq_some_iff.mp hs)

/-- What is done at the end of the text completes rules only. -/
theorem Parses.reduces {σ τ : Stack} {ts us : List Token} (h : Parses σ ts τ us) (hts : ts = []) :
    Reduces none σ τ := by
  induction h with
  | refl => exact .refl
  | complete hr hτ _ ih =>
      subst hts
      exact .step hr hτ (ih rfl)
  | shift _ _ _ => cases hts

end TurtleLogo.Grammar
