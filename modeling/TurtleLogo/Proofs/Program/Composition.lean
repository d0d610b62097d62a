/-
# `TurtleLogo.Proofs.Program.Composition` — operands put together from operands

A text that is an operand may be put in parentheses, and two of them may be
joined by an operator.  The new text is an operand as well, and its value is
told by the values of the parts: the error of the first, or else the error of
the second, or else what the operator makes of the two values.

An operand has been read in front of a line end, and now it stands in front of a
parenthesis (`Operand`).  Nothing changes in how it is cut: no token of an
expression is made longer by a parenthesis, and blanks at its front, which were
one token with the space before it, are a token of their own.  In parentheses it
is a value that can stand anywhere (`Closed`), and a single operator is put
between two such values.
-/
import TurtleLogo.Proofs.Program.Evaluation
import TurtleLogo.Proofs.Program.Printing
import TurtleLogo.Proofs.Program.Splitting

namespace TurtleLogo

open Grammar Text

/-! ## Single operators

The operators of a chain and the sign of a power are treated alike from here on:
both stand between two values, and what they make of them is a function of the two
results. -/

/-- What may stand between two values: an operator of a chain, or the sign of a power. -/
inductive Joint where
  | link (l : Level) (op : Operator) (h : op.level? = some l)
  | power

namespace Joint

def symbol : Joint → String
  | .link _ op _ => op.symbol
  | .power => "^"

/-- What a joint makes of two values, or the error that it tells of their kinds. -/
def apply : Joint → Scalar → Scalar → Reply Scalar
  | .link l op _ => l.apply op
  | .power => Scalar.power

end Joint

/-- What an operation makes of two results: the first error, or what it makes of the two values. -/
def inTurn (operate : Scalar → Scalar → Reply Scalar) : Reply Scalar → Reply Scalar → Reply Scalar
  | .error f, _ => .error f
  | .ok _, .error f => .error f
  | .ok v, .ok w => operate v w

namespace Grammar

open Text

/-! ## Climbing keeps values

A chain without links has the value of its operand, and so has a factor without a
power. -/

theorem Spells.eval_raise {r : Rung} {e : Expr} {ts : List Token} (h : Spells r e ts)
    (env : Environment) : (Rung.raise r e).eval env = e.eval env := by
  have alone : ∀ l, (Expr.chain l e .nil).eval env = e.eval env := by
    intro l
    rw [Expr.eval]
    cases e.eval env with
    | error f => rfl
    | ok v => exact Links.eval.eq_1 env l v
  match r, h with
  | .value, h =>
      show (Expr.factor e).eval env = e.eval env
      rw [Expr.eval, h.onLadder.guardValue]
  | .factor, _ => exact alone .product
  | .chain .product, _ => exact alone .sum
  | .chain .sum, _ => exact alone .comparison
  | .chain .comparison, _ => rfl

theorem Spells.eval_climb {ts : List Token} (env : Environment) : ∀ (n : Nat) {r : Rung} {e : Expr},
    Spells r e ts → (Rung.climb n r e).eval env = e.eval env
  | 0, _, _, _ => rfl
  | n + 1, _, _, h => (Spells.eval_climb env n h.raise).trans (h.eval_raise env)

/-! ## The tokens of an expression

No token of an expression is a comment or a line end, and that is all that has to
be known of them: none is made longer by a parenthesis. -/

theorem Token.Is.plain {t : Token} {x : Terminal} (h : t.Is x) (hblank : x ≠ .blank)
    (hcomment : x ≠ .comment) (hnewline : x ≠ .newline) : Plain t.word := by
  obtain ⟨rfl, hlexeme⟩ := h
  exact ⟨hlexeme, hblank, hcomment, hnewline⟩

theorem SpellsOperator.plain {l : Level} {op : Operator} {ts : List Token}
    (h : SpellsOperator l op ts) : ∀ t ∈ ts, Plain t.word := by
  cases h with
  | sum ht _ => exact List.forall_mem_singleton.mpr (ht.plain nofun nofun nofun)
  | product ht _ => exact List.forall_mem_singleton.mpr (ht.plain nofun nofun nofun)
  | @comparison c _ hsigns =>
      generalize c.signs = signs at hsigns
      induction hsigns with
      | nil => exact nofun
      | cons ht _ ih => exact List.forall_mem_cons.mpr ⟨ht.plain nofun nofun nofun, ih⟩

mutual
theorem Spells.plain : ∀ {r : Rung} {e : Expr} {ts : List Token}, Spells r e ts →
    ∀ t ∈ ts, Plain t.word
  | _, _, _, .number ht _ => List.forall_mem_singleton.mpr (ht.plain nofun nofun nofun)
  | _, _, _, .string ht => List.forall_mem_singleton.mpr (ht.plain nofun nofun nofun)
  | _, _, _, .ident ht => List.forall_mem_singleton.mpr (ht.plain nofun nofun nofun)
  | _, _, _, .group hl he hr => List.forall_mem_cons.mpr ⟨hl.plain nofun nofun nofun,
      List.forall_mem_append.mpr
        ⟨he.plain, List.forall_mem_singleton.mpr (hr.plain nofun nofun nofun)⟩⟩
  | _, _, _, .factor hb => hb.plain
  | _, _, _, .power hb ht hx => List.forall_mem_append.mpr
      ⟨hb.plain, List.forall_mem_cons.mpr ⟨ht.plain nofun nofun nofun, hx.plain⟩⟩
  | _, _, _, .chain he hrest => List.forall_mem_append.mpr ⟨he.plain, hrest.plain⟩

theorem SpellsLinks.plain : ∀ {l : Level} {rest : Links} {ts : List Token}, SpellsLinks l rest ts →
    ∀ t ∈ ts, Plain t.word
  | _, _, _, .nil => nofun
  | _, _, _, .cons hop he hrest => List.forall_mem_append.mpr
      ⟨hop.plain, List.forall_mem_append.mpr ⟨he.plain, hrest.plain⟩⟩
end

theorem continues_rpar {t : Terminal} (h : t ≠ .comment) : t.continues ')' = false := by
  have table : ∀ t ∈ Terminal.all, t ≠ .comment → t.continues ')' = false := by decide +kernel
  exact table t t.mem_all h

/-! ## Texts in front of anything

An expression in parentheses is cut into the same tokens whatever stands behind
it, and so is a name or a sign with a space behind it. -/

/-- `Closed cs Q`: wherever it stands and whatever follows, `cs` is cut into tokens that satisfy
`Q`, blanks left out. -/
def Closed (cs : List Char) (Q : List Token → Prop) : Prop :=
  ∀ (p : Position) (rest : List Char), ∃ us, Lexed p (cs ++ rest) us rest ∧ Q (significant us)

section Closed

variable {cs ds : List Char} {P Q R : List Token → Prop}

theorem Closed.mono (h : Closed cs P) (hPQ : ∀ ts, P ts → Q ts) : Closed cs Q := by
  intro p rest
  obtain ⟨us, hus, hP⟩ := h p rest
  exact ⟨us, hus, hPQ _ hP⟩

theorem Closed.append (h : Closed cs P) (h' : Closed ds Q)
    (join : ∀ ts us, P ts → Q us → R (ts ++ us)) : Closed (cs ++ ds) R := by
  intro p rest
  obtain ⟨us, hus, hP⟩ := h p (ds ++ rest)
  obtain ⟨vs, hvs, hQ⟩ := h' (p.after (spelling us)) rest
  refine ⟨us ++ vs, ?_, ?_⟩
  · rw [List.append_assoc]
    exact hus.trans hvs
  · rw [significant_append]
    exact join _ _ hP hQ

/-- A space in front of what is not blank makes no difference. -/
theorem Closed.spaced (h : Closed cs Q) (hne : cs ≠ []) (front : Stops isSpace cs) :
    Closed (' ' :: cs) Q := by
  intro p rest
  have stops : Stops isSpace (cs ++ rest) := by
    refine Stops.append (r := []) hne ?_
    rwa [List.append_nil]
  have space : ∀ c ∈ [' '], isSpace c = true := List.forall_mem_singleton.mpr rfl
  obtain ⟨bs, hbs, hnone, -, -⟩ := lexed_blanks space stops p
  obtain ⟨us, hus, hQ⟩ := h (p.after (spelling bs)) rest
  refine ⟨bs ++ us, hbs.trans hus, ?_⟩
  rw [significant_append, hnone]
  exact hQ

end Closed

theorem closed_word {x : Terminal} {l : List Char} (hl : x.Lexeme l) (solid : x ≠ .blank)
    (ends : ∀ c, x.continues c = false) :
    Closed l fun ts => ts.map Token.word = [(x, l)] := by
  intro p rest
  refine ⟨[⟨x, l, p⟩], .cons rfl (x.cuts.complete hl fun c _ => ends c) .nil, ?_⟩
  rw [significant_cons [] solid]
  rfl

theorem closed_words {ws : List Word} (plain : ∀ w ∈ ws, Plain w)
    (ends : ∀ w ∈ ws, ∀ c, w.1.continues c = false) :
    Closed (ws.flatMap Prod.snd) fun ts => ts.map Token.word = ws := by
  induction ws with
  | nil => exact fun p rest => ⟨[], .nil, rfl⟩
  | cons w ws ih =>
      obtain ⟨hw, plain⟩ := List.forall_mem_cons.mp plain
      obtain ⟨hends, ends⟩ := List.forall_mem_cons.mp ends
      refine (closed_word hw.lexeme hw.solid hends).append (ih plain ends) fun ts us hts hus => ?_
      rw [List.map_append, hts, hus]
      rfl

/-! ## Operands in parentheses

In parentheses an operand becomes a single value, whatever rung it stood on. -/

/-- `Operand cs e`: in front of a closing parenthesis, wherever that is, `cs` spells the operand
`e`. -/
def Operand (cs : List Char) (e : Expr) : Prop :=
  ∀ (p : Position) (rest : List Char), ∃ us,
    Lexed p (cs ++ ')' :: rest) us (')' :: rest) ∧ Spells (.chain .comparison) e (significant us)

theorem Operand.group {cs : List Char} {e : Expr} (h : Operand cs e) :
    Closed ('(' :: (cs ++ [')'])) (Spells .value (.group e)) := by
  have opening := closed_word (lexeme_bracket .lpar) nofun fun _ => rfl
  have closing := closed_word (lexeme_bracket .rpar) nofun fun _ => rfl
  show Closed (['('] ++ (cs ++ [')'])) _
  refine opening.append (Q := fun ts => ∃ us rp, ts = us ++ [rp] ∧
    Spells (.chain .comparison) e us ∧ rp.Is (.bracket .rpar)) ?_ ?_
  · intro p rest
    obtain ⟨us, hus, he⟩ := h p rest
    obtain ⟨vs, hvs, hword⟩ := closing (p.after (spelling us)) rest
    obtain ⟨rp, hrp, is, -⟩ := is_of_words hword (lexeme_bracket .rpar)
    refine ⟨us ++ vs, ?_, significant us, rp, ?_, he, is⟩
    · rw [List.append_assoc]
      exact hus.trans hvs
    · rw [significant_append, hrp]
  · rintro ts - hts ⟨us, rp, rfl, he, hr⟩
    obtain ⟨lp, rfl, hl, -⟩ := is_of_words hts (lexeme_bracket .lpar)
    exact .group hl he hr

/-! ## A joint between two values

The tree of two values with one operator between them, from the level of the
operator up to the top of the ladder. -/

/-- A chain of two values, as it stands alone at the top of the ladder. -/
theorem Operator.joins {l : Level} {op : Operator} {a b : Expr} {ts os us : List Token}
    (ha : Spells .value a ts) (hop : SpellsOperator l op os) (hb : Spells .value b us) :
    ∃ e, Spells (.chain .comparison) e (ts ++ (os ++ us)) ∧ ∀ env : Environment,
      e.eval env = inTurn (l.apply op) (a.eval env) (b.eval env) := by
  obtain ⟨n, hn⟩ : ∃ n, Rung.up n .value = l.operandRung := by
    cases l with
    | product => exact ⟨1, rfl⟩
    | sum => exact ⟨2, rfl⟩
    | comparison => exact ⟨3, rfl⟩
  have htop : Rung.up 4 (.chain l) = .chain .comparison := by cases l <;> rfl
  have left := ha.climb n
  have right := hb.climb n
  rw [hn] at left right
  have chain := Spells.chain left (.cons hop right .nil)
  rw [List.append_nil] at chain
  refine ⟨_, htop ▸ chain.climb 4, fun env => ?_⟩
  rw [chain.eval_climb env, Expr.eval, ha.eval_climb env]
  cases a.eval env with
  | error f => rfl
  | ok v =>
      show Links.eval env l v _ = inTurn (l.apply op) (.ok v) (b.eval env)
      rw [Links.eval, hb.eval_climb env]
      cases b.eval env with
      | error f => rfl
      | ok w =>
          dsimp only [inTurn]
          cases l.apply op v w with
          | error f => rfl
          | ok u => exact Links.eval.eq_1 env l u

theorem power_joins {a b : Expr} {t : Token} {ts us : List Token}
    (ha : Spells .value a ts) (ht : t.Is .caret) (hb : Spells .value b us) :
    ∃ e, Spells (.chain .comparison) e (ts ++ t :: us) ∧ ∀ env : Environment,
      e.eval env = inTurn Scalar.power (a.eval env) (b.eval env) := by
  have power := Spells.power ha ht hb
  refine ⟨_, power.climb 4, fun env => ?_⟩
  rw [power.eval_climb env, Expr.eval, ha.onLadder.guardValue, hb.onLadder.guardValue]
  cases a.eval env with
  | error f => rfl
  | ok v =>
      cases b.eval env with
      | error f => rfl
      | ok w => rfl

end Grammar

def Joint.words : Joint → List Word
  | .link _ op _ => op.words
  | .power => [(.caret, ['^'])]

theorem Joint.words_text (j : Joint) : j.words.flatMap Prod.snd = j.symbol.toList := by
  have table : ∀ op ∈ Operator.all, op.words.flatMap Prod.snd = op.symbol.toList := by decide
  cases j with
  | power => rfl
  | link l op h =>
      refine table op ?_
      cases op with
      | other _ => exact nomatch h
      | _ => decide

theorem Joint.words_plain (j : Joint) : ∀ w ∈ j.words, Plain w := by
  cases j with
  | link l op h => exact op.words_plain
  | power => exact List.forall_mem_singleton.mpr plain_caret

theorem Joint.words_end (j : Joint) : ∀ w ∈ j.words, ∀ c, w.1.continues c = false := by
  cases j with
  | power => exact List.forall_mem_singleton.mpr fun _ => rfl
  | link l op h =>
      cases op with
      | add | sub | mul | div | eq | lt | gt => exact List.forall_mem_singleton.mpr fun _ => rfl
      | ne | le | ge =>
          exact List.forall_mem_cons.mpr
            ⟨fun _ => rfl, List.forall_mem_singleton.mpr fun _ => rfl⟩
      | other _ => exact nofun

theorem Joint.symbol_front (j : Joint) : j.symbol.toList ≠ [] ∧ Stops isSpace j.symbol.toList := by
  rw [← j.words_text]
  cases j with
  | power => exact ⟨nofun, stops_cons.mpr rfl⟩
  | link l op h =>
      cases op with
      | other _ => exact nomatch h
      | _ => exact ⟨nofun, stops_cons.mpr rfl⟩

theorem Joint.joins (j : Joint) {a b : Expr} {ts os us : List Token} (ha : Spells .value a ts)
    (hj : os.map Token.word = j.words) (hb : Spells .value b us) :
    ∃ e, Spells (.chain .comparison) e (ts ++ (os ++ us)) ∧ ∀ env : Environment,
      e.eval env = inTurn j.apply (a.eval env) (b.eval env) := by
  cases j with
  | link l op h => exact Operator.joins ha (Operator.spells h hj) hb
  | power =>
      obtain ⟨t, rfl, ht, -⟩ := is_of_words hj lexeme_caret
      exact power_joins ha ht hb

/-! ## The operand of a line

The text of an operand is known by what becomes of a line with a command in front
of it.  The command takes a keyword and a space; the rest of the line is the
operand, up to the line end. -/

/-- `IsOperand text e`: behind a keyword and a space, and in front of a line end, the text is an
operand, and `e` is its tree. -/
def IsOperand (text : String) (e : Expr) : Prop :=
  Program.parse ("FD " ++ text ++ "\n") = .ok [.order .forward e (some 1)]

namespace Grammar

theorem SpellsLines.one_line {p : Program} {ts : List Token} {t : Token}
    (h : SpellsLines p (ts ++ [t])) (hts : ∀ u ∈ ts, u.terminal ≠ .newline) :
    ∃ c, p = [c] ∧ SpellsCommand c ts := by
  generalize hus : ts ++ [t] = us at h
  cases h with
  | nil => exact absurd hus (by simp)
  | @cons c cs u us₁ us₂ hc hu hcs =>
      -- the first line end is the last token
      obtain ⟨rfl, rfl⟩ : us₁ = ts ∧ us₂ = [] := by
        rcases List.append_eq_append_iff.mp hus with ⟨vs, rfl, hvs⟩ | ⟨vs, rfl, hvs⟩
        · cases vs with
          | nil => exact ⟨(List.append_nil ts), (List.cons.inj hvs).2.symm⟩
          | cons v vs => simp at hvs
        · cases vs with
          | nil => exact ⟨(List.append_nil us₁).symm, (List.cons.inj hvs).2⟩
          | cons v vs =>
              obtain ⟨rfl, -⟩ := List.cons.inj hvs
              exact absurd hu.1 (hts u (by simp))
      obtain rfl := hcs.eq_nil rfl
      exact ⟨c, rfl, hc⟩

/-- What is read behind a space and in front of a line end is an operand in front of a parenthesis
as well. -/
theorem Lexed.operand {p : Position} {cs : List Char} {us : List Token} {e : Expr}
    (h : Lexed p (' ' :: (cs ++ ['\n'])) us ['\n'])
    (he : Spells (.chain .comparison) e (significant us)) : Operand cs e := by
  cases h with
  | @cons _ _ mid _ b us hp hcut hlexed =>
      obtain ⟨htext, hlexeme⟩ := b.terminal.cuts.sound hcut
      obtain ⟨c, y, hy⟩ := List.exists_cons_of_ne_nil hlexeme.ne_nil
      rw [hy, List.cons_append] at htext
      obtain ⟨rfl, hcs⟩ := List.cons.inj htext
      -- the space and the blanks behind it are one token
      have hblank : b.terminal = .blank := by
        by_contra hblank
        by_cases hnewline : b.terminal = .newline
        · rw [hnewline, hy] at hlexeme
          obtain ⟨d, ds, hd, hbreak, -⟩ := hlexeme
          obtain ⟨rfl, -⟩ := List.cons.inj hd
          exact nomatch hbreak
        · exact nomatch (hy ▸ hlexeme).front hblank hnewline
      have hspaces : ∀ d ∈ y, isSpace d = true := fun d hd =>
        isSpace_of_blank ⟨hblank, hblank ▸ hlexeme⟩ (hy ▸ List.mem_cons_of_mem ' ' hd)
      have hrun : cutRun isSpace isSpace (' ' :: (cs ++ ['\n'])) = some (b.lexeme, mid) := by
        rw [hblank] at hcut
        exact hcut
      have hstops : Stops isSpace mid := cutRun_stops hrun
      rw [significant_cons_blank us hblank] at he
      obtain rfl := hlexed.spelling_append
      rw [← List.append_assoc] at hcs
      obtain rfl := List.append_cancel_right hcs
      have hne : spelling us ≠ [] := by
        intro hnil
        obtain ⟨x, hx, -⟩ := he.faces
        cases us with
        | nil => exact nomatch hx
        | cons u us =>
            exact (hlexed.is u List.mem_cons_self).2.ne_nil (List.append_eq_nil_iff.mp hnil).1
      have hlast : ∀ (rest : List Char), ∀ t ∈ us.getLast?,
          Stops t.terminal.continues (')' :: rest) := by
        intro rest t ht
        refine stops_cons.mpr (continues_rpar fun hcomment => ?_)
        have hmem : t ∈ significant us :=
          List.mem_filter.mpr ⟨List.mem_of_getLast? ht, by simp [hcomment]⟩
        exact (he.plain t hmem).remarkless hcomment
      intro q rest
      obtain ⟨bs, hbs, hnone, -, -⟩ := lexed_blanks hspaces (hstops.append hne) q
      obtain ⟨vs, hvs, -, hlike⟩ := (hlexed.swap (hlast rest)).moved (q.after (spelling bs))
      obtain ⟨f, like, hf⟩ := he.like
        (like_significant (hlike (L := fun _ _ => True) fun _ => trivial))
      obtain rfl := like.eq
      refine ⟨bs ++ vs, ?_, ?_⟩
      · rw [List.append_assoc]
        exact hbs.trans hvs
      · rw [significant_append, hnone]
        exact hf

theorem lexeme_forward : (Terminal.keyword (.order .forward true)).Lexeme ['F', 'D'] :=
  .cons rfl (.cons rfl .nil)

theorem forward_first {u : Token} {cs mid : List Char} (hu : u.terminal.startsCommand = true)
    (hcut : u.terminal.cut ('F' :: 'D' :: ' ' :: cs) = some (u.lexeme, mid)) :
    u.Is (.keyword (.order .forward true)) ∧ mid = ' ' :: cs := by
  have hfollow : ∀ x ∈ Terminal.all, x.startsCommand = true → State.start.scans x = true := by
    decide
  obtain ⟨htext, hlexeme⟩ := u.terminal.cuts.sound hcut
  have hterminal : u.terminal = .keyword (.order .forward true) :=
    lexeme_unique (hfollow _ u.terminal.mem_all hu) rfl hlexeme lexeme_forward htext.symm
  refine ⟨⟨hterminal, hterminal ▸ hlexeme⟩, ?_⟩
  have forward := (Terminal.cuts _).complete (r := ' ' :: cs) lexeme_forward fun _ _ => rfl
  rw [hterminal] at hcut
  exact (Prod.mk.inj (Option.some.inj (hcut.symm.trans forward))).2

theorem SpellsCommand.forward {c : Command} {u : Token} {ts : List Token}
    (h : SpellsCommand c (u :: ts)) (hu : u.Is (.keyword (.order .forward true))) :
    ∃ e, c = .order .forward e (some u.start.line) ∧ Spells (.chain .comparison) e ts := by
  generalize hus : u :: ts = us at h
  cases h with
  | order ht he =>
      obtain ⟨rfl, rfl⟩ := List.cons.inj hus
      obtain ⟨rfl, -⟩ := Keyword.order.inj (Terminal.keyword.inj (ht.1.symm.trans hu.1))
      exact ⟨_, rfl, he⟩
  | pen ht | stop ht | comment ht | loop ht =>
      obtain ⟨rfl, -⟩ := List.cons.inj hus
      exact nomatch ht.1.symm.trans hu.1

/-- A text that has its only line end at its end has it in a token of its own. -/
theorem Read.one_line {a : List Char} {p : Program} {us : List Token} (h : Read (a ++ ['\n']) p us)
    (inline : ∀ c ∈ a, isInline c = true) :
    ∃ us₁ t, us = us₁ ++ [t] ∧ t.Is .newline ∧ t.lexeme = ['\n'] ∧ spelling us₁ = a ∧
      ∀ u ∈ us₁, u.terminal ≠ .newline := by
  obtain ⟨us₁, t, x, rfl, ht, hlexeme, rfl, -⟩ := h.last_line_end (.inl rfl)
  have broken : ∀ {u : Token}, u.Is .newline → ∃ d ds, u.lexeme = d :: ds ∧ isInline d = false := by
    rintro u ⟨-, d, ds, hu, hbreak, -⟩
    exact ⟨d, ds, hu, by simpa using hbreak⟩
  obtain rfl : x = [] := by
    obtain ⟨d, ds, hd, hbreak⟩ := broken ht
    rw [hlexeme] at hd
    cases x with
    | nil => rfl
    | cons c x =>
        obtain ⟨rfl, -⟩ := List.cons.inj hd
        exact absurd (inline c (by simp)) (by simp [hbreak])
  refine ⟨us₁, t, rfl, ht, hlexeme, (List.append_nil _).symm, fun u hu hnewline => ?_⟩
  obtain ⟨d, ds, hd, hbreak⟩ := broken (hnewline ▸ h.lexed.is u (by simp [hu]))
  have hmem : d ∈ spelling us₁ := List.mem_flatMap.mpr ⟨u, hu, by simp [hd]⟩
  exact absurd (inline d (by simp [hmem])) (by simp [hbreak])

theorem Read.operand {cs : List Char} {p : Program} {us : List Token}
    (h : Read ('F' :: 'D' :: ' ' :: (cs ++ ['\n'])) p us) (inline : ∀ c ∈ cs, isInline c = true) :
    ∃ e, p = [.order .forward e (some 1)] ∧ Operand cs e := by
  have inlines : ∀ c ∈ 'F' :: 'D' :: ' ' :: cs, isInline c = true :=
    List.forall_mem_cons.mpr ⟨rfl, List.forall_mem_cons.mpr ⟨rfl,
      List.forall_mem_cons.mpr ⟨rfl, inline⟩⟩⟩
  obtain ⟨_ | ⟨u, us⟩, t, rfl, ht, hlexeme, hspelling, hunbroken⟩ := Read.one_line h inlines
  · exact nomatch hspelling
  cases h.lexed with
  | @cons _ _ mid _ _ _ hstart hcut hlexed =>
      have hblank : u.terminal ≠ .blank := by
        intro hblank
        obtain ⟨hu, hlexeme⟩ := u.terminal.cuts.sound hcut
        obtain ⟨c, l, hl⟩ := List.exists_cons_of_ne_nil hlexeme.ne_nil
        rw [hl] at hu
        obtain ⟨rfl, -⟩ := List.cons.inj hu
        have hspace : isSpace 'F' = true :=
          isSpace_of_blank ⟨hblank, hblank ▸ hlexeme⟩ (hl ▸ List.mem_cons_self)
        exact nomatch hspace
      have hlines : SpellsLines p (u :: significant us ++ [t]) := by
        obtain ⟨nl, ts, hnl, hts, heq⟩ := h.spells
        rw [significant_append, significant_cons us hblank,
          significant_cons [] (by rw [ht.1]; exact nofun)] at heq
        cases hnl with
        | none => exact heq ▸ hts
        | line hu =>
            obtain ⟨rfl, -⟩ := List.cons.inj heq
            exact absurd hu.1 (hunbroken _ List.mem_cons_self)
      have hclean : ∀ v ∈ u :: significant us, v.terminal ≠ .newline := by
        intro v hv
        refine hunbroken v ((List.mem_cons.mp hv).elim (fun hvu => by simp [hvu]) fun hv => ?_)
        exact List.mem_cons_of_mem u (List.mem_filter.mp hv).1
      obtain ⟨c, rfl, hc⟩ := hlines.one_line hclean
      obtain ⟨y, hy, hcommand⟩ := hc.faces
      obtain rfl : u.terminal = y := Option.some.inj hy
      obtain ⟨hforward, rfl⟩ := forward_first hcommand hcut
      obtain ⟨e, rfl, he⟩ := hc.forward hforward
      obtain ⟨mid, hus, hlast⟩ := hlexed.append_inv
      obtain rfl : mid = ['\n'] := by
        rw [hlast.spelling_append]
        simp [spelling, hlexeme]
      exact ⟨e, by rw [hstart]; rfl, hus.operand he⟩

theorem Closed.parse_eq {cs : List Char} {P : Expr → Prop} (hne : cs ≠ [])
    (front : Stops isSpace cs)
    (h : Closed cs fun ts => ∃ e, Spells (.chain .comparison) e ts ∧ P e) :
    ∃ e, parse ('F' :: 'D' :: ' ' :: (cs ++ ['\n'])) = .program [.order .forward e (some 1)] ∧
      P e := by
  obtain ⟨us, hus, e, he, hP⟩ := h.spaced hne front (Position.first.after ['F', 'D']) ['\n']
  let forward : Token := ⟨.keyword (.order .forward true), ['F', 'D'], .first⟩
  let ending : Token :=
    ⟨.newline, ['\n'], (Position.first.after ['F', 'D']).after (spelling us)⟩
  refine ⟨e, parse_eq_program_iff.mpr ⟨forward :: (us ++ [ending]), ?_, ?_⟩, hP⟩
  · exact .cons rfl ((Terminal.cuts _).complete lexeme_forward fun _ _ => rfl)
      (hus.trans (.cons rfl ((Terminal.cuts _).complete lexeme_break (stops_nil _)) .nil))
  · have solid : forward.terminal ≠ .blank := nofun
    have keyword : forward.Is (.keyword (.order .forward true)) := ⟨rfl, lexeme_forward⟩
    have command : SpellsCommand (.order .forward e (some 1)) (forward :: significant us) :=
      .order keyword he
    have line : SpellsLines [.order .forward e (some 1)] (forward :: significant us ++ [ending]) :=
      .cons command ⟨rfl, lexeme_break⟩ .nil
    rw [significant_cons _ solid, significant_append]
    exact ⟨[], _, .none, line, rfl⟩

end Grammar

/-! ## Values of composed operands

What is left is to evaluate the trees that have been put together. -/

theorem isInline_of_unbroken {cs : List Char} (hcr : '\r' ∉ cs) (hlf : '\n' ∉ cs) :
    ∀ c ∈ cs, isInline c = true := by
  intro c hc
  have hne : c ≠ '\r' ∧ c ≠ '\n' := ⟨fun heq => hcr (heq ▸ hc), fun heq => hlf (heq ▸ hc)⟩
  simp [isInline, hne]

/-- An accepted line without line ends inside has an operand. -/
theorem operand_of_parse {text : String} {p : Program} (hcr : '\r' ∉ text.toList)
    (hlf : '\n' ∉ text.toList) (h : Program.parse ("FD " ++ text ++ "\n") = .ok p) :
    ∃ e, p = [.order .forward e (some 1)] ∧ Operand text.toList e := by
  rw [Program.parse_eq_ok_iff, String.toList_append, String.toList_append] at h
  obtain ⟨us, hus, hp⟩ := parse_eq_program_iff.mp h
  exact Read.operand (Read.mk hus hp) (isInline_of_unbroken hcr hlf)

theorem isOperand_of_closed {text : String} {P : Expr → Prop} (hne : text.toList ≠ [])
    (front : Stops isSpace text.toList)
    (h : Closed text.toList fun ts => ∃ e, Spells (.chain .comparison) e ts ∧ P e) :
    ∃ e, IsOperand text e ∧ P e := by
  obtain ⟨e, he, hP⟩ := h.parse_eq hne front
  refine ⟨e, Program.parse_eq_ok_iff.mpr ?_, hP⟩
  rw [String.toList_append, String.toList_append]
  exact he

/-- Operands are composed in their texts as they are in their values.  An operand in parentheses is
an operand with the same value in every environment, error or not; two operands in parentheses with
an operator between them are an operand, whose value is the error of the first, or else the error of
the second, or else what the operator makes of the two values. -/
theorem operands_compose {a b : String} {p q : Program}
    (hcr : '\r' ∉ a.toList ∧ '\r' ∉ b.toList) (hlf : '\n' ∉ a.toList ∧ '\n' ∉ b.toList)
    (ha : Program.parse ("FD " ++ a ++ "\n") = .ok p)
    (hb : Program.parse ("FD " ++ b ++ "\n") = .ok q) :
    ∃ x y, p = [.order .forward x (some 1)] ∧ q = [.order .forward y (some 1)] ∧
      (∃ z, IsOperand ("(" ++ a ++ ")") z ∧ ∀ env : Environment, z.eval env = x.eval env) ∧
      ∀ j : Joint, ∃ z, IsOperand ("(" ++ a ++ ") " ++ j.symbol ++ " (" ++ b ++ ")") z ∧
        ∀ env : Environment, z.eval env = inTurn j.apply (x.eval env) (y.eval env) := by
  obtain ⟨x, rfl, hx⟩ := operand_of_parse hcr.1 hlf.1 ha
  obtain ⟨y, rfl, hy⟩ := operand_of_parse hcr.2 hlf.2 hb
  refine ⟨x, y, rfl, rfl, ?_, fun j => ?_⟩
  · have text : ("(" ++ a ++ ")").toList = '(' :: (a.toList ++ [')']) := by
      rw [String.toList_append, String.toList_append]
      rfl
    refine isOperand_of_closed (text ▸ nofun) (text ▸ stops_cons.mpr rfl) ?_
    rw [text]
    refine hx.group.mono fun ts hts => ⟨_, hts.climb 4, fun env => ?_⟩
    rw [hts.eval_climb env, Expr.eval]
  · have text : ("(" ++ a ++ ") " ++ j.symbol ++ " (" ++ b ++ ")").toList =
        '(' :: (a.toList ++ [')']) ++
          (' ' :: j.symbol.toList ++ ' ' :: '(' :: (b.toList ++ [')'])) := by
      simp [String.toList_append]
    have middle := closed_words j.words_plain j.words_end
    rw [j.words_text] at middle
    refine isOperand_of_closed (text ▸ nofun) (text ▸ stops_cons.mpr rfl) ?_
    rw [text]
    refine hx.group.append ((middle.spaced j.symbol_front.1 j.symbol_front.2).append
      (hy.group.spaced nofun (stops_cons.mpr rfl)) (R := fun ts => ∃ os us, ts = os ++ us ∧
        os.map Token.word = j.words ∧ Spells .value (.group y) us) ?_) ?_
    · exact fun os us hos hus => ⟨os, us, rfl, hos, hus⟩
    · rintro ts - hts ⟨os, us, rfl, hos, hus⟩
      obtain ⟨e, he, heval⟩ := j.joins hts hos hus
      refine ⟨e, he, fun env => ?_⟩
      rw [heval env, Expr.eval, Expr.eval]

/-- Blanks at both ends, a parenthesis in a string, and a name spelled like a keyword. -/
theorem operands_compose_quoted_parenthesis :
    let one := fun e => Expr.chain .sum (.chain .product e .nil) .nil
    let x := Expr.chain .comparison (one (.factor (.ident "n")))
      (.cons .lt (one (.factor (.string ")"))) .nil)
    let y := Expr.chain .comparison (one (.power (.ident "fd") (.group (.chain .comparison
      (one (.factor (.ident "x"))) .nil)))) .nil
    let a := " n<\")\"\t"
    let b := "fd^(x)"
    IsOperand a x ∧ IsOperand b y ∧ '\n' ∉ a.toList ∧
      (∃ z, IsOperand ("(" ++ a ++ ")") z ∧ ∀ env : Environment, z.eval env = x.eval env) ∧
      ∃ z, IsOperand ("(" ++ a ++ ") " ++ "!=" ++ " (" ++ b ++ ")") z ∧
        ∀ env : Environment,
          z.eval env = inTurn (Operator.compare .ne) (x.eval env) (y.eval env) := by
  intro one x y a b
  have hx : IsOperand a x := by
    have text : "FD " ++ a ++ "\n" = "FD  n<\")\"\t\n" := by decide
    rw [IsOperand, text]
    rfl
  have hy : IsOperand b y := by
    have text : "FD " ++ b ++ "\n" = "FD fd^(x)\n" := by decide
    rw [IsOperand, text]
    rfl
  have unbroken : '\n' ∉ a.toList := by decide
  obtain ⟨x', y', ex, ey, grouped, joined⟩ :=
    operands_compose (by decide) ⟨unbroken, by decide⟩ hx hy
  obtain rfl : x = x' := by simpa using ex
  obtain rfl : y = y' := by simpa using ey
  exact ⟨hx, hy, unbroken, grouped, joined (.link .comparison .ne rfl)⟩

end TurtleLogo
