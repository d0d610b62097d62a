/-
# `TurtleLogo.Proofs.Grammar.Phrase` — which tokens spell which trees

The grammar as a relation between trees and token lists, by recursion on the
trees and without any mention of the parser:

    Spells r e ts          ts spell the expression e on rung r of the ladder
    SpellsCommand c ts     ts spell the command c, whose line is that of the first token
    SpellsBody cs ts       ts spell commands in brackets, line ends between them or not
    SpellsLines cs ts      ts spell commands with a line end behind each
    SpellsProgram cs ts    the same behind an optional first line end

A token counts only if its text is a lexeme of its terminal.

`Stands X item ts` reads the relation off the parser's stack: the item with
which the symbol `X` is on the stack is the tree that `ts` spell.  The main
statement, `build_stands`, is that completing a rule is always possible and
right: from items that stand for its parts, the rule builds one that stands
for its left-hand side.
-/
import TurtleLogo.Grammar.Item
import TurtleLogo.Proofs.Decimal.Reading
import TurtleLogo.Proofs.Grammar.Lexeme

namespace TurtleLogo.Grammar

/-- `t.Is x`: the token `t` is of terminal `x`, and its text is a lexeme of it. -/
def Token.Is (t : Token) (x : Terminal) : Prop :=
  t.terminal = x ∧ x.Lexeme t.lexeme

/-- The tokens that spell an operator of a level. -/
inductive SpellsOperator : Level → Operator → List Token → Prop
  | sum {t : Token} {op : Operator} : t.Is .addOp → Operator.ofSymbol? t.text = some op →
      SpellsOperator .sum op [t]
  | product {t : Token} {op : Operator} : t.Is .mulOp → Operator.ofSymbol? t.text = some op →
      SpellsOperator .product op [t]
  | comparison {c : Comparator} {ts : List Token} :
      List.Forall₂ (fun t s => Token.Is t (.sign s)) ts c.signs →
      SpellsOperator .comparison c.operator ts

mutual
/-- `Spells r e ts`: the tokens `ts` spell the expression `e` on rung `r`. -/
inductive Spells : Rung → Expr → List Token → Prop
  | number {t : Token} {x : Float} : t.Is (.atom .number) →
      Decimal.readReal? t.lexeme = some x → Spells .value (.number x) [t]
  | string {t : Token} : t.Is (.atom .string) →
      Spells .value (.string (String.ofList (unquote t.lexeme))) [t]
  | ident {t : Token} : t.Is (.atom .ident) → Spells .value (.ident t.text) [t]
  | group {lp rp : Token} {e : Expr} {ts : List Token} : lp.Is (.bracket .lpar) →
      Spells (.chain .comparison) e ts → rp.Is (.bracket .rpar) →
      Spells .value (.group e) (lp :: (ts ++ [rp]))
  | factor {b : Expr} {ts : List Token} : Spells .value b ts → Spells .factor (.factor b) ts
  | power {b x : Expr} {t : Token} {ts us : List Token} : Spells .value b ts → t.Is .caret →
      Spells .value x us → Spells .factor (.power b x) (ts ++ t :: us)
  | chain {l : Level} {e : Expr} {rest : Links} {ts us : List Token} :
      Spells l.operandRung e ts → SpellsLinks l rest us →
      Spells (.chain l) (.chain l e rest) (ts ++ us)

/-- `SpellsLinks l rest ts`: the tokens `ts` spell operators of level `l` with their operands. -/
inductive SpellsLinks : Level → Links → List Token → Prop
  | nil {l : Level} : SpellsLinks l .nil []
  | cons {l : Level} {op : Operator} {e : Expr} {rest : Links} {os ts us : List Token} :
      SpellsOperator l op os → Spells l.operandRung e ts → SpellsLinks l rest us →
      SpellsLinks l (.cons op e rest) (os ++ (ts ++ us))
end

/-- A line end that may be left out. -/
inductive Break : List Token → Prop
  | none : Break []
  | line {t : Token} : t.Is .newline → Break [t]

mutual
/-- `SpellsCommand c ts`: the tokens `ts` spell the command `c`. -/
inductive SpellsCommand : Command → List Token → Prop
  | order {what : Order} {short : Bool} {t : Token} {e : Expr} {ts : List Token} :
      t.Is (.keyword (.order what short)) → Spells (.chain .comparison) e ts →
      SpellsCommand (.order what e (some t.start.line)) (t :: ts)
  | pen {up short : Bool} {t : Token} : t.Is (.keyword (.pen up short)) →
      SpellsCommand (.gesture (if up then .penUp else .penDown) (some t.start.line)) [t]
  | stop {t : Token} : t.Is (.keyword .stop) →
      SpellsCommand (.gesture .stop (some t.start.line)) [t]
  | comment {t : Token} : t.Is .comment → SpellsCommand (.comment t.text (some t.start.line)) [t]
  | loop {t lb rb : Token} {e : Expr} {body : List Command} {ts nl us : List Token} :
      t.Is (.keyword .loop) → Spells (.chain .comparison) e ts → lb.Is (.bracket .lsqb) →
      Break nl → SpellsBody body us → body ≠ [] → rb.Is (.bracket .rsqb) →
      SpellsCommand (.loop e body (some t.start.line)) (t :: (ts ++ lb :: (nl ++ (us ++ [rb]))))

/-- `SpellsBody cs ts`: the tokens `ts` spell the commands `cs` as they stand in brackets. -/
inductive SpellsBody : List Command → List Token → Prop
  | nil : SpellsBody [] []
  | cons {c : Command} {cs : List Command} {ts nl us : List Token} : SpellsCommand c ts →
      Break nl → SpellsBody cs us → SpellsBody (c :: cs) (ts ++ (nl ++ us))
end

/-- `SpellsLines cs ts`: the tokens `ts` spell the commands `cs` as they stand at the top. -/
inductive SpellsLines : List Command → List Token → Prop
  | nil : SpellsLines [] []
  | cons {c : Command} {cs : List Command} {t : Token} {ts us : List Token} :
      SpellsCommand c ts → t.Is .newline → SpellsLines cs us →
      SpellsLines (c :: cs) (ts ++ t :: us)

/-- `SpellsProgram cs ts`: the tokens `ts` spell the program `cs`. -/
def SpellsProgram (cs : Program) (ts : List Token) : Prop :=
  ∃ nl us, Break nl ∧ SpellsLines cs us ∧ ts = nl ++ us

/-! ## Climbing the ladder

A rung is made of the one below it by a chain without links, or by a factor
without a power.  What stands on one rung therefore stands on all those above,
spelled by the same tokens. -/

/-- The rung above a rung.  The topmost is above itself. -/
def Rung.above : Rung → Rung
  | .value => .factor
  | .factor => .chain .product
  | .chain .product => .chain .sum
  | .chain .sum | .chain .comparison => .chain .comparison

/-- What stands on a rung, as it stands alone on the rung above. -/
def Rung.raise : Rung → Expr → Expr
  | .value, e => .factor e
  | .factor, e => .chain .product e .nil
  | .chain .product, e => .chain .sum e .nil
  | .chain .sum, e => .chain .comparison e .nil
  | .chain .comparison, e => e

def Rung.up : Nat → Rung → Rung
  | 0, r => r
  | n + 1, r => Rung.up n (Rung.above r)

/-- What stands on a rung, as it stands alone `n` rungs above. -/
def Rung.climb : Nat → Rung → Expr → Expr
  | 0, _, e => e
  | n + 1, r, e => Rung.climb n (Rung.above r) (Rung.raise r e)

theorem Spells.raise {r : Rung} {e : Expr} {ts : List Token} (h : Spells r e ts) :
    Spells (Rung.above r) (Rung.raise r e) ts := by
  have alone : ∀ {l : Level}, Spells l.operandRung e ts → Spells (.chain l) (.chain l e .nil) ts := by
    intro l he
    have chain := Spells.chain he (.nil (l := l))
    rwa [List.append_nil] at chain
  match r, h with
  | .value, h => exact .factor h
  | .factor, h => exact alone (l := .product) h
  | .chain .product, h => exact alone (l := .sum) h
  | .chain .sum, h => exact alone (l := .comparison) h
  | .chain .comparison, h => exact h

theorem Spells.climb {ts : List Token} : ∀ (n : Nat) {r : Rung} {e : Expr}, Spells r e ts →
    Spells (Rung.up n r) (Rung.climb n r e) ts
  | 0, _, _, h => h
  | n + 1, _, _, h => Spells.climb n h.raise

/-! ## Growing at the right end

The relations take lists apart from the left, as recursion on them goes; the
parser adds to them at the right. -/

theorem SpellsLinks.snoc {l : Level} {op : Operator} {e : Expr} {os us : List Token}
    (hop : SpellsOperator l op os) (he : Spells l.operandRung e us) :
    ∀ {ls : Links} {ts : List Token}, SpellsLinks l ls ts →
      SpellsLinks l (ls.snoc op e) (ts ++ (os ++ us))
  | .nil, _, .nil => by simpa [Links.snoc] using SpellsLinks.cons hop he .nil
  | .cons _ _ _, _, .cons hop' he' hls => by
      simpa [Links.snoc] using SpellsLinks.cons hop' he' (SpellsLinks.snoc hop he hls)

theorem SpellsBody.snoc {c : Command} {us nl : List Token} (hc : SpellsCommand c us)
    (hnl : Break nl) : ∀ {cs : List Command} {ts : List Token}, SpellsBody cs ts →
      SpellsBody (cs ++ [c]) (ts ++ (us ++ nl))
  | [], _, .nil => by simpa using SpellsBody.cons hc hnl .nil
  | _ :: _, _, .cons hc' hnl' hcs => by
      simpa using SpellsBody.cons hc' hnl' (SpellsBody.snoc hc hnl hcs)

theorem SpellsLines.snoc {c : Command} {t : Token} {us : List Token} (hc : SpellsCommand c us)
    (ht : t.Is .newline) {cs : List Command} {ts : List Token} (h : SpellsLines cs ts) :
    SpellsLines (cs ++ [c]) (ts ++ (us ++ [t])) := by
  induction h with
  | nil => simpa using SpellsLines.cons hc ht .nil
  | cons hc' ht' _ ih => simpa using SpellsLines.cons hc' ht' ih

/-! ## Items on the stack

Which trees and lists of trees the items stand for, symbol by symbol, and then
rule by rule that the items of a rule's parts are put together to an item of its
left-hand side. -/

/-- The kind of a command that the grammar knows. -/
def Command.kind? : Command → Option CommandKind
  | .order what _ _ => some (.order what)
  | .gesture .penUp _ => some (.pen true)
  | .gesture .penDown _ => some (.pen false)
  | .gesture .stop _ => some .stop
  | .loop _ _ _ => some .loop
  | .comment _ _ => some .comment
  | _ => none

/-- `Stands X item ts`: the item is what the tokens `ts` spell as a symbol `X`. -/
def Stands : Symbol → Item → List Token → Prop
  | .terminal x, item, ts => ∃ t, item = .token t ∧ ts = [t] ∧ t.Is x
  | .nonterminal (.chain l), item, ts => ∃ e, item = .expr e ∧ Spells (.chain l) e ts
  | .nonterminal .factor, item, ts => ∃ e, item = .expr e ∧ Spells .factor e ts
  | .nonterminal .value, item, ts => ∃ e, item = .expr e ∧ Spells .value e ts
  | .nonterminal (.links l), item, ts => ∃ ls, item = .links ls ∧ SpellsLinks l ls ts
  | .nonterminal .comparator, item, ts =>
      ∃ op, item = .operator op ∧ SpellsOperator .comparison op ts
  | .nonterminal .command, item, ts => ∃ c, item = .command c ∧ SpellsCommand c ts
  | .nonterminal (.kind k), item, ts =>
      ∃ c, item = .command c ∧ SpellsCommand c ts ∧ Command.kind? c = some k
  | .nonterminal .body, item, ts => ∃ cs, item = .commands cs ∧ SpellsBody cs ts ∧ cs ≠ []
  | .nonterminal .lines, item, ts => ∃ cs, item = .commands cs ∧ SpellsLines cs ts
  | .nonterminal .program, item, ts => ∃ cs, item = .commands cs ∧ SpellsProgram cs ts

/-- Items that stand for the symbols of a list, one after the other. -/
def StandAll : List Symbol → List Item → List Token → Prop
  | [], items, ts => items = [] ∧ ts = []
  | x :: xs, items, ts => ∃ item rest us vs, items = item :: rest ∧ ts = us ++ vs ∧
      Stands x item us ∧ StandAll xs rest vs

theorem StandAll.append : ∀ {xs ys : List Symbol} {items items' : List Item} {ts us : List Token},
    StandAll xs items ts → StandAll ys items' us →
      StandAll (xs ++ ys) (items ++ items') (ts ++ us)
  | [], _, _, _, _, _, ⟨rfl, rfl⟩, h' => h'
  | _ :: _, _, _, _, _, _, ⟨item, rest, us, vs, rfl, rfl, hx, hxs⟩, h' =>
      ⟨item, _, us, _, rfl, List.append_assoc _ _ _, hx, StandAll.append hxs h'⟩

theorem StandAll.length_eq : ∀ {xs : List Symbol} {items : List Item} {ts : List Token},
    StandAll xs items ts → items.length = xs.length
  | [], _, _, ⟨rfl, rfl⟩ => rfl
  | _ :: _, _, _, ⟨_, _, _, _, rfl, rfl, _, hxs⟩ => congrArg (· + 1) (StandAll.length_eq hxs)

theorem StandAll.token {x : Terminal} {xs : List Symbol} {items : List Item} {ts : List Token}
    (h : StandAll (.terminal x :: xs) items ts) :
    ∃ t rest us, items = .token t :: rest ∧ ts = t :: us ∧ t.Is x ∧ StandAll xs rest us := by
  obtain ⟨_, rest, _, us, rfl, rfl, ⟨t, rfl, rfl, ht⟩, hxs⟩ := h
  exact ⟨t, rest, us, rfl, rfl, ht, hxs⟩

theorem Stands.operand {l : Level} {item : Item} {ts : List Token}
    (h : Stands (.nonterminal (.operandOf l)) item ts) :
    ∃ e, item = .expr e ∧ Spells l.operandRung e ts := by
  cases l <;> exact h

theorem ofSymbol?_of_lexeme {t : Token} {x : Terminal} (hx : x = .addOp ∨ x = .mulOp)
    (ht : t.Is x) : ∃ op, Operator.ofSymbol? t.text = some op := by
  rcases hx with rfl | rfl
  · obtain ⟨-, c, hl, hc⟩ := ht
    simp only [Bool.or_eq_true, beq_iff_eq] at hc
    rw [Token.text, hl]
    rcases hc with rfl | rfl
    · exact ⟨.add, by decide⟩
    · exact ⟨.sub, by decide⟩
  · obtain ⟨-, c, hl, hc⟩ := ht
    simp only [Bool.or_eq_true, beq_iff_eq] at hc
    rw [Token.text, hl]
    rcases hc with rfl | rfl
    · exact ⟨.mul, by decide⟩
    · exact ⟨.div, by decide⟩

theorem Stands.operator {l : Level} {item : Item} {ts : List Token}
    (h : Stands (.operatorOf l) item ts) :
    ∃ op, item.operator? = some op ∧ SpellsOperator l op ts := by
  cases l with
  | comparison =>
      obtain ⟨op, rfl, hop⟩ := h
      exact ⟨op, rfl, hop⟩
  | sum =>
      obtain ⟨t, rfl, rfl, ht⟩ := h
      obtain ⟨op, hop⟩ := ofSymbol?_of_lexeme (Or.inl rfl) ht
      exact ⟨op, hop, .sum ht hop⟩
  | product =>
      obtain ⟨t, rfl, rfl, ht⟩ := h
      obtain ⟨op, hop⟩ := ofSymbol?_of_lexeme (Or.inr rfl) ht
      exact ⟨op, hop, .product ht hop⟩

theorem StandAll.signs : ∀ {ss : List Sign} {items : List Item} {ts : List Token},
    StandAll (ss.map fun s => .terminal (.sign s)) items ts →
      List.Forall₂ (fun t s => Token.Is t (.sign s)) ts ss
  | [], _, _, ⟨rfl, rfl⟩ => .nil
  | _ :: _, _, _, ⟨_, _, _, _, rfl, rfl, ⟨_, rfl, rfl, ht⟩, hss⟩ => .cons ht (StandAll.signs hss)

/-! ### Completing a rule -/

/-- Items from which rule `r` builds the tree of what they spell. -/
def Completes (r : Rule) (items : List Item) (ts : List Token) : Prop :=
  ∃ item, build r items = some item ∧ Stands (.nonterminal r.lhs) item ts

section Completes

variable {items : List Item} {ts : List Token}

theorem completes_program {lead listed : Bool}
    (h : StandAll (Rule.program lead listed).rhs items ts) :
    Completes (.program lead listed) items ts := by
  cases lead with
  | false =>
      cases listed with
      | false =>
          obtain ⟨rfl, rfl⟩ := h
          exact ⟨_, rfl, _, rfl, [], [], .none, .nil, rfl⟩
      | true =>
          obtain ⟨_, _, us, _, rfl, rfl, ⟨cs, rfl, hl⟩, rfl, rfl⟩ := h
          exact ⟨_, rfl, _, rfl, [], us, .none, hl, List.append_nil us⟩
  | true =>
      obtain ⟨t, _, _, rfl, rfl, ht, h₁⟩ := h.token
      cases listed with
      | false =>
          obtain ⟨rfl, rfl⟩ := h₁
          exact ⟨_, rfl, _, rfl, [t], [], .line ht, .nil, rfl⟩
      | true =>
          obtain ⟨_, _, us, _, rfl, rfl, ⟨cs, rfl, hl⟩, rfl, rfl⟩ := h₁
          rw [List.append_nil]
          exact ⟨_, rfl, _, rfl, [t], us, .line ht, hl, rfl⟩

theorem completes_lines {more : Bool} (h : StandAll (Rule.lines more).rhs items ts) :
    Completes (.lines more) items ts := by
  cases more with
  | false =>
      obtain ⟨_, _, _, _, rfl, rfl, ⟨c, rfl, hc⟩, h₁⟩ := h
      obtain ⟨t, _, _, rfl, rfl, ht, rfl, rfl⟩ := h₁.token
      exact ⟨_, rfl, _, rfl, .cons hc ht .nil⟩
  | true =>
      obtain ⟨_, _, _, _, rfl, rfl, ⟨cs, rfl, hl⟩, h₁⟩ := h
      obtain ⟨_, _, _, _, rfl, rfl, ⟨c, rfl, hc⟩, h₂⟩ := h₁
      obtain ⟨t, _, _, rfl, rfl, ht, rfl, rfl⟩ := h₂.token
      exact ⟨_, rfl, _, rfl, hl.snoc hc ht⟩

theorem completes_body {more ended : Bool} (h : StandAll (Rule.body more ended).rhs items ts) :
    Completes (.body more ended) items ts := by
  cases more with
  | false =>
      obtain ⟨_, _, _, _, rfl, rfl, ⟨c, rfl, hc⟩, h₁⟩ := h
      cases ended with
      | false =>
          obtain ⟨rfl, rfl⟩ := h₁
          exact ⟨_, rfl, _, rfl, by simpa using SpellsBody.cons hc .none .nil, List.cons_ne_nil _ _⟩
      | true =>
          obtain ⟨t, _, _, rfl, rfl, ht, rfl, rfl⟩ := h₁.token
          exact ⟨_, rfl, _, rfl, .cons hc (.line ht) .nil, List.cons_ne_nil _ _⟩
  | true =>
      obtain ⟨_, _, _, _, rfl, rfl, ⟨cs, rfl, hb, _⟩, h₁⟩ := h
      obtain ⟨_, _, _, _, rfl, rfl, ⟨c, rfl, hc⟩, h₂⟩ := h₁
      cases ended with
      | false =>
          obtain ⟨rfl, rfl⟩ := h₂
          exact ⟨_, rfl, _, rfl, hb.snoc hc .none, by simp⟩
      | true =>
          obtain ⟨t, _, _, rfl, rfl, ht, rfl, rfl⟩ := h₂.token
          exact ⟨_, rfl, _, rfl, hb.snoc hc (.line ht), by simp⟩

theorem completes_loop {lead : Bool} (h : StandAll (Rule.loop lead).rhs items ts) :
    Completes (.loop lead) items ts := by
  obtain ⟨t, _, _, rfl, rfl, ht, h₁⟩ := h.token
  obtain ⟨_, _, _, _, rfl, rfl, ⟨e, rfl, he⟩, h₂⟩ := h₁
  obtain ⟨lb, _, _, rfl, rfl, hl, h₃⟩ := h₂.token
  cases lead with
  | false =>
      obtain ⟨_, _, _, _, rfl, rfl, ⟨cs, rfl, hb, hne⟩, h₄⟩ := h₃
      obtain ⟨rb, _, _, rfl, rfl, hr, rfl, rfl⟩ := h₄.token
      exact ⟨_, rfl, _, rfl, .loop ht he hl .none hb hne hr, rfl⟩
  | true =>
      obtain ⟨n, _, _, rfl, rfl, hn, h₄⟩ := h₃.token
      obtain ⟨_, _, _, _, rfl, rfl, ⟨cs, rfl, hb, hne⟩, h₅⟩ := h₄
      obtain ⟨rb, _, _, rfl, rfl, hr, rfl, rfl⟩ := h₅.token
      exact ⟨_, rfl, _, rfl, .loop ht he hl (.line hn) hb hne hr, rfl⟩

theorem completes_chain {l : Level} {linked : Bool}
    (h : StandAll (Rule.chain l linked).rhs items ts) : Completes (.chain l linked) items ts := by
  obtain ⟨_, _, _, _, rfl, rfl, hx, h₁⟩ := h
  obtain ⟨e, rfl, he⟩ := hx.operand
  cases linked with
  | false =>
      obtain ⟨rfl, rfl⟩ := h₁
      exact ⟨_, rfl, _, rfl, .chain he .nil⟩
  | true =>
      obtain ⟨_, _, us, _, rfl, rfl, ⟨ls, rfl, hls⟩, rfl, rfl⟩ := h₁
      rw [List.append_nil]
      exact ⟨_, rfl, _, rfl, .chain he hls⟩

theorem completes_link {l : Level} {more : Bool} (h : StandAll (Rule.link l more).rhs items ts) :
    Completes (.link l more) items ts := by
  cases more with
  | false =>
      obtain ⟨_, _, _, _, rfl, rfl, hop, _, _, _, _, rfl, rfl, hx, rfl, rfl⟩ := h
      obtain ⟨op, hop, hs⟩ := hop.operator
      obtain ⟨e, rfl, he⟩ := hx.operand
      exact ⟨_, by rw [build, hop]; rfl, _, rfl, .cons hs he .nil⟩
  | true =>
      obtain ⟨_, _, _, _, rfl, rfl, ⟨ls, rfl, hls⟩, h₁⟩ := h
      obtain ⟨_, _, _, _, rfl, rfl, hop, _, _, us, _, rfl, rfl, hx, rfl, rfl⟩ := h₁
      obtain ⟨op, hop, hs⟩ := hop.operator
      obtain ⟨e, rfl, he⟩ := hx.operand
      rw [List.append_nil]
      exact ⟨_, by rw [build, hop]; rfl, _, rfl, hls.snoc hs he⟩

theorem completes_atom {a : Atom} (h : StandAll (Rule.atom a).rhs items ts) :
    Completes (.atom a) items ts := by
  obtain ⟨t, _, _, rfl, rfl, ht, rfl, rfl⟩ := h.token
  cases a with
  | number =>
      obtain ⟨x, hx⟩ := Option.isSome_iff_exists.mp (Decimal.isSome_readReal? ht.2)
      exact ⟨.expr (.number x), by simp [build, atomExpr?, hx], _, rfl, .number ht hx⟩
  | string => exact ⟨_, rfl, _, rfl, .string ht⟩
  | ident => exact ⟨_, rfl, _, rfl, .ident ht⟩

/-- Completing a rule is always possible and right. -/
theorem build_stands {r : Rule} (h : StandAll r.rhs items ts) : Completes r items ts := by
  cases r with
  | program lead listed => exact completes_program h
  | lines more => exact completes_lines h
  | body more ended => exact completes_body h
  | loop lead => exact completes_loop h
  | chain l linked => exact completes_chain h
  | link l more => exact completes_link h
  | atom a => exact completes_atom h
  | comparator c => exact ⟨.operator c.operator, rfl, _, rfl, .comparison (StandAll.signs h)⟩
  | command k =>
      obtain ⟨_, _, us, _, rfl, rfl, ⟨c, rfl, hc, _⟩, rfl, rfl⟩ := h
      rw [List.append_nil]
      exact ⟨_, rfl, _, rfl, hc⟩
  | order what short =>
      obtain ⟨t, _, _, rfl, rfl, ht, h₁⟩ := h.token
      obtain ⟨_, _, us, _, rfl, rfl, ⟨e, rfl, he⟩, rfl, rfl⟩ := h₁
      rw [List.append_nil]
      exact ⟨_, rfl, _, rfl, .order ht he, rfl⟩
  | pen up short =>
      obtain ⟨t, _, _, rfl, rfl, ht, rfl, rfl⟩ := h.token
      exact ⟨_, rfl, _, rfl, .pen ht, by cases up <;> rfl⟩
  | stop =>
      obtain ⟨t, _, _, rfl, rfl, ht, rfl, rfl⟩ := h.token
      exact ⟨_, rfl, _, rfl, .stop ht, rfl⟩
  | comment =>
      obtain ⟨t, _, _, rfl, rfl, ht, rfl, rfl⟩ := h.token
      exact ⟨_, rfl, _, rfl, .comment ht, rfl⟩
  | factor =>
      obtain ⟨_, _, us, _, rfl, rfl, ⟨b, rfl, hb⟩, rfl, rfl⟩ := h
      rw [List.append_nil]
      exact ⟨_, rfl, _, rfl, .factor hb⟩
  | power =>
      obtain ⟨_, _, _, _, rfl, rfl, ⟨b, rfl, hb⟩, h₁⟩ := h
      obtain ⟨t, _, _, rfl, rfl, ht, h₂⟩ := h₁.token
      obtain ⟨_, _, us, _, rfl, rfl, ⟨x, rfl, hx⟩, rfl, rfl⟩ := h₂
      rw [List.append_nil]
      exact ⟨_, rfl, _, rfl, .power hb ht hx⟩
  | group =>
      obtain ⟨lp, _, _, rfl, rfl, hl, h₁⟩ := h.token
      obtain ⟨_, _, _, _, rfl, rfl, ⟨e, rfl, he⟩, h₂⟩ := h₁
      obtain ⟨rp, _, _, rfl, rfl, hr, rfl, rfl⟩ := h₂.token
      exact ⟨_, rfl, _, rfl, .group hl he hr⟩

end Completes

end TurtleLogo.Grammar
