/-
# `TurtleLogo.Proofs.Grammar.Likeness` — like words spell like trees

Two trees of the grammar are alike if they differ in names, in the texts of
comments and in the lines of their commands only.  How these may differ is left
open: `N` relates names and texts, `L` relates lines.

    LikeExpr N r e f           expressions on rung `r`
    LikeCommands N L cs ds     commands, one by one and at every depth
    t.Like N L u               tokens: names and comments by `N`, keywords that start the same
                               kind of command, any two line ends, and other tokens only with
                               the same text

Wherever tokens spell a tree, tokens that are like them one by one spell a like
tree (`SpellsLines.like`, `SpellsProgram.like`).  That is used with the same words
at another place, with the same words in other letters, and in another layout.
-/
import TurtleLogo.Proofs.Grammar.Layout

namespace TurtleLogo

/-! ## Trees that are alike

The relations go by the rungs of the ladder, so that trees that are alike are also
trees that the grammar builds. -/

section Trees

variable (N : String → String → Prop) (L : Option Int → Option Int → Prop)

mutual
/-- Expressions of the grammar that differ in their names. -/
inductive LikeExpr : Rung → Expr → Expr → Prop
  | number (x : Float) : LikeExpr .value (.number x) (.number x)
  | string (s : String) : LikeExpr .value (.string s) (.string s)
  | ident {a b : String} : N a b → LikeExpr .value (.ident a) (.ident b)
  | group {e f : Expr} : LikeExpr (.chain .comparison) e f → LikeExpr .value (.group e) (.group f)
  | factor {b c : Expr} : LikeExpr .value b c → LikeExpr .factor (.factor b) (.factor c)
  | power {b c x y : Expr} : LikeExpr .value b c → LikeExpr .value x y →
      LikeExpr .factor (.power b x) (.power c y)
  | chain {l : Level} {e f : Expr} {rest more : Links} : LikeExpr l.operandRung e f →
      LikeLinks l rest more → LikeExpr (.chain l) (.chain l e rest) (.chain l f more)

/-- Links with the same operators whose operands differ in their names. -/
inductive LikeLinks : Level → Links → Links → Prop
  | nil {l : Level} : LikeLinks l .nil .nil
  | cons {l : Level} (op : Operator) {e f : Expr} {rest more : Links} :
      LikeExpr l.operandRung e f → LikeLinks l rest more →
      LikeLinks l (.cons op e rest) (.cons op f more)
end

mutual
/-- Commands of the grammar that differ in their names, comments and lines. -/
inductive LikeCommand : Command → Command → Prop
  | order (what : Order) {e f : Expr} {l m : Option Int} :
      LikeExpr N (.chain .comparison) e f → L l m →
      LikeCommand (.order what e l) (.order what f m)
  | gesture (what : Gesture) {l m : Option Int} : L l m →
      LikeCommand (.gesture what l) (.gesture what m)
  | loop {e f : Expr} {body other : List Command} {l m : Option Int} :
      LikeExpr N (.chain .comparison) e f → LikeCommands body other → L l m →
      LikeCommand (.loop e body l) (.loop f other m)
  | comment {a b : String} {l m : Option Int} : N a b → L l m →
      LikeCommand (.comment a l) (.comment b m)

/-- Lists of such commands. -/
inductive LikeCommands : List Command → List Command → Prop
  | nil : LikeCommands [] []
  | cons {c d : Command} {cs ds : List Command} : LikeCommand c d → LikeCommands cs ds →
      LikeCommands (c :: cs) (d :: ds)
end

end Trees

theorem LikeCommands.eq_nil {N : String → String → Prop} {L : Option Int → Option Int → Prop}
    {cs ds : List Command} (h : LikeCommands N L cs ds) : ds = [] ↔ cs = [] := by
  cases h with
  | nil => exact ⟨fun _ => rfl, fun _ => rfl⟩
  | cons _ _ => exact ⟨nofun, nofun⟩

theorem LikeCommand.line {N : String → String → Prop} {L : Option Int → Option Int → Prop}
    {c d : Command} (h : LikeCommand N L c d) : L c.line d.line := by
  cases h with
  | order _ _ hl => exact hl
  | gesture _ hl => exact hl
  | loop _ _ hl => exact hl
  | comment _ hl => exact hl

mutual
/-- Expressions with the same names are the same. -/
theorem LikeExpr.eq : ∀ {r : Rung} {e f : Expr}, LikeExpr Eq r e f → f = e
  | _, _, _, .number _ => rfl
  | _, _, _, .string _ => rfl
  | _, _, _, .ident h => by rw [h]
  | _, _, _, .group h => by rw [h.eq]
  | _, _, _, .factor h => by rw [h.eq]
  | _, _, _, .power h h' => by rw [h.eq, h'.eq]
  | _, _, _, .chain h h' => by rw [h.eq, h'.eq]

theorem LikeLinks.eq : ∀ {l : Level} {rest more : Links}, LikeLinks Eq l rest more → more = rest
  | _, _, _, .nil => rfl
  | _, _, _, .cons _ h h' => by rw [h.eq, h'.eq]
end

namespace Grammar

/-! ## Tokens that are alike

Names and comments may be replaced by others that `N` relates to them, keywords by
those that start the same command, line ends by one another.  Everything else says
what it says with its own text. -/

section Tokens

variable (N : String → String → Prop) (L : Option Int → Option Int → Prop)

/-- `Says N w v`: the word `v` says what `w` says, with another name or comment related by `N`,
with another keyword for the same kind of command, or with another line end. -/
def Says (w v : Word) : Prop :=
  match w.1 with
  | .keyword k => ∃ k', v.1 = .keyword k' ∧ k'.kind = k.kind
  | .comment => v.1 = .comment ∧ N (String.ofList w.2) (String.ofList v.2)
  | .atom .ident => v.1 = .atom .ident ∧ N (String.ofList w.2) (String.ofList v.2)
  | .newline => v.1 = .newline
  | _ => v = w

/-- `t.Like N L u`: the token `u` says what `t` says, on a line related by `L`. -/
structure Token.Like (t u : Token) : Prop where
  word : Says N t.word u.word
  lexeme : u.terminal.Lexeme u.lexeme
  line : L (some t.start.line) (some u.start.line)

end Tokens

/-- Terminals whose tokens say what they say with their own text only. -/
def Terminal.isFixed : Terminal → Bool
  | .keyword _ | .comment | .atom .ident | .newline => false
  | _ => true

section Like

variable {N : String → String → Prop} {L : Option Int → Option Int → Prop} {t u : Token}

theorem says_of_eq (refl : ∀ a, N a a) {w v : Word} (h : v = w) : Says N w v := by
  subst h
  unfold Says
  split
  · next k hk => exact ⟨k, hk, rfl⟩
  · next hc => exact ⟨hc, refl _⟩
  · next hi => exact ⟨hi, refl _⟩
  · next hn => exact hn
  · rfl

namespace Token.Like

theorem word_eq (h : t.Like N L u) (ht : t.terminal.isFixed = true) : u.word = t.word := by
  have same := h.word
  unfold Says at same
  split at same
  · next k hk => exact absurd ht (by rw [show t.terminal = .keyword k from hk]; exact nofun)
  · next hc => exact absurd ht (by rw [show t.terminal = .comment from hc]; exact nofun)
  · next hi => exact absurd ht (by rw [show t.terminal = .atom .ident from hi]; exact nofun)
  · next hn => exact absurd ht (by rw [show t.terminal = .newline from hn]; exact nofun)
  · exact same

theorem is (h : t.Like N L u) {x : Terminal} (ht : t.Is x) (hx : x.isFixed = true) :
    u.Is x ∧ u.lexeme = t.lexeme := by
  obtain ⟨hterminal, hlexeme⟩ := Prod.mk.inj (h.word_eq (ht.1 ▸ hx))
  exact ⟨⟨hterminal.trans ht.1, hlexeme ▸ ht.2⟩, hlexeme⟩

theorem keyword (h : t.Like N L u) {k : Keyword} (ht : t.Is (.keyword k)) :
    ∃ k', u.Is (.keyword k') ∧ k'.kind = k.kind := by
  have same := h.word
  simp only [Says, Token.word, ht.1] at same
  obtain ⟨k', hk', hkind⟩ := same
  exact ⟨k', ⟨hk', hk' ▸ h.lexeme⟩, hkind⟩

theorem comment (h : t.Like N L u) (ht : t.Is .comment) : u.Is .comment ∧ N t.text u.text := by
  have same := h.word
  simp only [Says, Token.word, ht.1] at same
  exact ⟨⟨same.1, same.1 ▸ h.lexeme⟩, same.2⟩

theorem ident (h : t.Like N L u) (ht : t.Is (.atom .ident)) :
    u.Is (.atom .ident) ∧ N t.text u.text := by
  have same := h.word
  simp only [Says, Token.word, ht.1] at same
  exact ⟨⟨same.1, same.1 ▸ h.lexeme⟩, same.2⟩

theorem newline (h : t.Like N L u) (ht : t.Is .newline) : u.Is .newline := by
  have same := h.word
  simp only [Says, Token.word, ht.1] at same
  exact ⟨same, same ▸ h.lexeme⟩

theorem blank_iff (h : t.Like N L u) : u.terminal = .blank ↔ t.terminal = .blank := by
  have same := h.word
  unfold Says at same
  split at same
  · next k hk =>
      obtain ⟨k', hk', -⟩ := same
      exact ⟨fun hu => (nomatch hk'.symm.trans hu), fun ht => (nomatch hk.symm.trans ht)⟩
  · next hc => exact ⟨fun hu => (nomatch same.1.symm.trans hu), fun ht => (nomatch hc.symm.trans ht)⟩
  · next hi => exact ⟨fun hu => (nomatch same.1.symm.trans hu), fun ht => (nomatch hi.symm.trans ht)⟩
  · next hn => exact ⟨fun hu => (nomatch same.symm.trans hu), fun ht => (nomatch hn.symm.trans ht)⟩
  · rw [(Prod.mk.inj same).1]

end Token.Like

/-! ## Like tokens spell like trees

By induction on what is spelled.  The like tokens of a phrase are cut where the
phrase is cut, and keywords that mean the same start the same kind of command. -/

theorem forall₂_append_left {α β : Type} {R : α → β → Prop} : ∀ {as as' : List α} {bs : List β},
    List.Forall₂ R (as ++ as') bs →
      ∃ bs₁ bs₂, bs = bs₁ ++ bs₂ ∧ List.Forall₂ R as bs₁ ∧ List.Forall₂ R as' bs₂
  | [], _, bs, h => ⟨[], bs, rfl, .nil, h⟩
  | _ :: _, _, _, .cons hab h => by
      obtain ⟨bs₁, bs₂, rfl, h₁, h₂⟩ := forall₂_append_left h
      exact ⟨_ :: bs₁, bs₂, rfl, .cons hab h₁, h₂⟩

theorem forall₂_singleton_left {α β : Type} {R : α → β → Prop} {a : α} {bs : List β}
    (h : List.Forall₂ R [a] bs) : ∃ b, bs = [b] ∧ R a b := by
  cases h with
  | cons hab h =>
      cases h
      exact ⟨_, rfl, hab⟩

variable {ts us : List Token}

theorem SpellsOperator.like {l : Level} {op : Operator} (h : SpellsOperator l op ts)
    (like : List.Forall₂ (Token.Like N L) ts us) : SpellsOperator l op us := by
  cases h with
  | sum ht hop =>
      obtain ⟨u, rfl, hu⟩ := forall₂_singleton_left like
      obtain ⟨is, hlexeme⟩ := hu.is ht rfl
      refine .sum is ?_
      rw [Token.text, hlexeme]
      exact hop
  | product ht hop =>
      obtain ⟨u, rfl, hu⟩ := forall₂_singleton_left like
      obtain ⟨is, hlexeme⟩ := hu.is ht rfl
      refine .product is ?_
      rw [Token.text, hlexeme]
      exact hop
  | @comparison c _ hsigns =>
      refine .comparison ?_
      generalize c.signs = signs at hsigns
      induction hsigns generalizing us with
      | nil =>
          cases like
          exact .nil
      | cons ht _ ih =>
          cases like with
          | cons hu like => exact .cons (hu.is ht rfl).1 (ih like)

mutual
theorem Spells.like : ∀ {r : Rung} {e : Expr} {ts us : List Token}, Spells r e ts →
    List.Forall₂ (Token.Like N L) ts us → ∃ f, LikeExpr N r e f ∧ Spells r f us
  | _, _, _, _, @Spells.number t x ht hx, like => by
      obtain ⟨u, rfl, hu⟩ := forall₂_singleton_left like
      obtain ⟨is, hlexeme⟩ := hu.is ht rfl
      exact ⟨_, .number x, .number is (hlexeme ▸ hx)⟩
  | _, _, _, _, .string ht, like => by
      obtain ⟨u, rfl, hu⟩ := forall₂_singleton_left like
      obtain ⟨is, hlexeme⟩ := hu.is ht rfl
      rw [← hlexeme]
      exact ⟨_, .string _, .string is⟩
  | _, _, _, _, .ident ht, like => by
      obtain ⟨u, rfl, hu⟩ := forall₂_singleton_left like
      obtain ⟨is, hname⟩ := hu.ident ht
      exact ⟨_, .ident hname, .ident is⟩
  | _, _, _, _, .group hl he hr, like => by
      cases like with
      | cons hlp like =>
          obtain ⟨us, vs, rfl, hus, hvs⟩ := forall₂_append_left like
          obtain ⟨rp, rfl, hrp⟩ := forall₂_singleton_left hvs
          obtain ⟨f, hf, hspells⟩ := he.like hus
          exact ⟨_, .group hf, .group (hlp.is hl rfl).1 hspells (hrp.is hr rfl).1⟩
  | _, _, _, _, .factor hb, like => by
      obtain ⟨f, hf, hspells⟩ := hb.like like
      exact ⟨_, .factor hf, .factor hspells⟩
  | _, _, _, _, .power hb ht hx, like => by
      obtain ⟨us, vs, rfl, hus, hvs⟩ := forall₂_append_left like
      cases hvs with
      | cons hu hvs =>
          obtain ⟨c, hc, hbase⟩ := hb.like hus
          obtain ⟨y, hy, hexponent⟩ := hx.like hvs
          exact ⟨_, .power hc hy, .power hbase (hu.is ht rfl).1 hexponent⟩
  | _, _, _, _, .chain he hrest, like => by
      obtain ⟨us, vs, rfl, hus, hvs⟩ := forall₂_append_left like
      obtain ⟨f, hf, hleft⟩ := he.like hus
      obtain ⟨more, hmore, hlinks⟩ := hrest.like hvs
      exact ⟨_, .chain hf hmore, .chain hleft hlinks⟩

theorem SpellsLinks.like : ∀ {l : Level} {rest : Links} {ts us : List Token},
    SpellsLinks l rest ts → List.Forall₂ (Token.Like N L) ts us →
      ∃ more, LikeLinks N l rest more ∧ SpellsLinks l more us
  | _, _, _, _, .nil, like => by
      cases like
      exact ⟨_, .nil, .nil⟩
  | _, _, _, _, .cons hop he hrest, like => by
      obtain ⟨os, us, rfl, hos, like⟩ := forall₂_append_left like
      obtain ⟨us, vs, rfl, hus, hvs⟩ := forall₂_append_left like
      obtain ⟨f, hf, hoperand⟩ := he.like hus
      obtain ⟨more, hmore, hlinks⟩ := hrest.like hvs
      exact ⟨_, .cons _ hf hmore, .cons (hop.like hos) hoperand hlinks⟩
end

theorem Break.like (h : Break ts) (like : List.Forall₂ (Token.Like N L) ts us) : Break us := by
  cases h with
  | none =>
      cases like
      exact .none
  | line ht =>
      obtain ⟨u, rfl, hu⟩ := forall₂_singleton_left like
      exact .line (hu.newline ht)

/-! ### Keywords of one kind -/

theorem Keyword.eq_order {k : Keyword} {what : Order} (h : k.kind = .order what) :
    ∃ short, k = .order what short := by
  cases k with
  | order other short =>
      obtain rfl := CommandKind.order.inj h
      exact ⟨short, rfl⟩
  | pen up short => exact nomatch h
  | stop => exact nomatch h
  | loop => exact nomatch h

theorem Keyword.eq_pen {k : Keyword} {up : Bool} (h : k.kind = .pen up) :
    ∃ short, k = .pen up short := by
  cases k with
  | order what short => exact nomatch h
  | pen other short =>
      obtain rfl := CommandKind.pen.inj h
      exact ⟨short, rfl⟩
  | stop => exact nomatch h
  | loop => exact nomatch h

theorem Keyword.eq_stop {k : Keyword} (h : k.kind = .stop) : k = .stop := by
  cases k with
  | stop => rfl
  | order what short => exact nomatch h
  | pen up short => exact nomatch h
  | loop => exact nomatch h

theorem Keyword.eq_loop {k : Keyword} (h : k.kind = .loop) : k = .loop := by
  cases k with
  | loop => rfl
  | order what short => exact nomatch h
  | pen up short => exact nomatch h
  | stop => exact nomatch h

/-! ### Commands -/

mutual
theorem SpellsCommand.like : ∀ {c : Command} {ts us : List Token}, SpellsCommand c ts →
    List.Forall₂ (Token.Like N L) ts us → ∃ d, LikeCommand N L c d ∧ SpellsCommand d us
  | _, _, _, .order ht he, like => by
      cases like with
      | cons hu like =>
          obtain ⟨k, is, hkind⟩ := hu.keyword ht
          obtain ⟨short, rfl⟩ := Keyword.eq_order hkind
          obtain ⟨f, hf, hspells⟩ := he.like like
          exact ⟨_, .order _ hf hu.line, .order is hspells⟩
  | _, _, _, .pen ht, like => by
      obtain ⟨u, rfl, hu⟩ := forall₂_singleton_left like
      obtain ⟨k, is, hkind⟩ := hu.keyword ht
      obtain ⟨short, rfl⟩ := Keyword.eq_pen hkind
      exact ⟨_, .gesture _ hu.line, .pen is⟩
  | _, _, _, .stop ht, like => by
      obtain ⟨u, rfl, hu⟩ := forall₂_singleton_left like
      obtain ⟨k, is, hkind⟩ := hu.keyword ht
      obtain rfl := Keyword.eq_stop hkind
      exact ⟨_, .gesture _ hu.line, .stop is⟩
  | _, _, _, .comment ht, like => by
      obtain ⟨u, rfl, hu⟩ := forall₂_singleton_left like
      obtain ⟨is, htext⟩ := hu.comment ht
      exact ⟨_, .comment htext hu.line, .comment is⟩
  | _, _, _, .loop ht he hl hnl hbody hne hr, like => by
      cases like with
      | cons hu like =>
          obtain ⟨k, is, hkind⟩ := hu.keyword ht
          obtain rfl := Keyword.eq_loop hkind
          obtain ⟨ts, us, rfl, hts, bracketed⟩ := forall₂_append_left like
          obtain ⟨f, hf, htimes⟩ := he.like hts
          cases bracketed with
          | cons hlb inner =>
              obtain ⟨nl, us, rfl, hbreak, inner⟩ := forall₂_append_left inner
              obtain ⟨us, vs, rfl, hus, hvs⟩ := forall₂_append_left inner
              obtain ⟨rb, rfl, hrb⟩ := forall₂_singleton_left hvs
              obtain ⟨other, hother, hinner⟩ := hbody.like hus
              exact ⟨_, .loop hf hother hu.line,
                .loop is htimes (hlb.is hl rfl).1 (hnl.like hbreak) hinner
                  (hne ∘ hother.eq_nil.mp) (hrb.is hr rfl).1⟩

theorem SpellsBody.like : ∀ {cs : List Command} {ts us : List Token}, SpellsBody cs ts →
    List.Forall₂ (Token.Like N L) ts us → ∃ ds, LikeCommands N L cs ds ∧ SpellsBody ds us
  | _, _, _, .nil, like => by
      cases like
      exact ⟨_, .nil, .nil⟩
  | _, _, _, .cons hc hnl hcs, like => by
      obtain ⟨ts, us, rfl, hts, like⟩ := forall₂_append_left like
      obtain ⟨nl, us, rfl, hbreak, hus⟩ := forall₂_append_left like
      obtain ⟨d, hd, hfirst⟩ := hc.like hts
      obtain ⟨ds, hds, hothers⟩ := hcs.like hus
      exact ⟨_, .cons hd hds, .cons hfirst (hnl.like hbreak) hothers⟩
end

theorem SpellsLines.like {cs : List Command} (h : SpellsLines cs ts) :
    ∀ {us : List Token}, List.Forall₂ (Token.Like N L) ts us →
      ∃ ds, LikeCommands N L cs ds ∧ SpellsLines ds us := by
  induction h with
  | nil =>
      intro us like
      cases like
      exact ⟨_, .nil, .nil⟩
  | cons hc ht _ ih =>
      intro us like
      obtain ⟨ts, us, rfl, hts, like⟩ := forall₂_append_left like
      cases like with
      | cons hu hus =>
          obtain ⟨d, hd, hfirst⟩ := hc.like hts
          obtain ⟨ds, hds, hothers⟩ := ih hus
          exact ⟨_, .cons hd hds, .cons hfirst (hu.newline ht) hothers⟩

/-- Tokens that are like those of a program spell a like program. -/
theorem SpellsProgram.like {p : Program} (h : SpellsProgram p ts)
    (like : List.Forall₂ (Token.Like N L) ts us) :
    ∃ q, LikeCommands N L p q ∧ SpellsProgram q us := by
  obtain ⟨nl, vs, hnl, hvs, rfl⟩ := h
  obtain ⟨us₁, us₂, rfl, hbreak, hlines⟩ := forall₂_append_left like
  obtain ⟨q, hq, hspells⟩ := hvs.like hlines
  exact ⟨q, hq, us₁, us₂, hnl.like hbreak, hspells, rfl⟩

theorem like_significant (like : List.Forall₂ (Token.Like N L) ts us) :
    List.Forall₂ (Token.Like N L) (significant ts) (significant us) := by
  induction like with
  | nil => exact .nil
  | @cons t u ts us h _ ih =>
      by_cases hblank : t.terminal = .blank
      · rw [significant_cons_blank ts hblank, significant_cons_blank us (h.blank_iff.mpr hblank)]
        exact ih
      · rw [significant_cons ts hblank, significant_cons us (hblank ∘ h.blank_iff.mp)]
        exact .cons h ih

end Like

/-! ## The same words elsewhere

Where a text stands decides only on which lines its tokens are. -/

theorem Position.after_line (p : Position) (cs : List Char) :
    (p.after cs).line = p.line + cs.count '\n' := by
  induction cs generalizing p with
  | nil => rfl
  | cons c cs ih =>
      have first : (p.step c).line = p.line + [c].count '\n' := by
        unfold Position.step
        by_cases hc : c = '\n' <;> simp [hc]
      calc (p.after (c :: cs)).line = (p.step c).line + cs.count '\n' := ih (p.step c)
        _ = p.line + ([c].count '\n' + cs.count '\n') := by rw [first, Nat.add_assoc]
        _ = p.line + (c :: cs).count '\n' := by rw [← List.count_append]; rfl

/-- A text is cut into the same words wherever it stands, and its lines lie as far from each
other. -/
theorem Lexed.moved {p : Position} {cs rest : List Char} {us : List Token}
    (h : Lexed p cs us rest) : ∀ q : Position,
      ∃ vs, Lexed q cs vs rest ∧ vs.map Token.word = us.map Token.word ∧
        ∀ {L : Option Int → Option Int → Prop},
          (∀ n : Nat, L (some ↑(p.line + n)) (some ↑(q.line + n))) →
            List.Forall₂ (Token.Like Eq L) us vs := by
  induction h with
  | nil => exact fun q => ⟨[], .nil, rfl, fun _ => .nil⟩
  | @cons p cs mid rest t us hp hcut _ ih =>
      intro q
      obtain ⟨vs, hvs, hwords, hlike⟩ := ih (q.after t.lexeme)
      refine ⟨⟨t.terminal, t.lexeme, q⟩ :: vs, .cons rfl hcut hvs, ?_, fun hL => .cons ?_ (hlike ?_)⟩
      · rw [List.map_cons, hwords]
        rfl
      · exact ⟨says_of_eq (fun _ => rfl) rfl, (t.terminal.cuts.sound hcut).2, hp ▸ hL 0⟩
      · intro n
        rw [Position.after_line, Position.after_line, Nat.add_assoc, Nat.add_assoc]
        exact hL (t.lexeme.count '\n' + n)

end Grammar

end TurtleLogo
