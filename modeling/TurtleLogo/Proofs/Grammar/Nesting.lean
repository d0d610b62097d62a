/-
# `TurtleLogo.Proofs.Grammar.Nesting` — brackets and line ends among tokens

Outside brackets a line end stands only behind a command.  So the tokens of a
program can be cut in two at every line end up to which the square brackets are
balanced, and nowhere are more of them closed than opened.

    depth ts         the square brackets that the tokens `ts` leave open
    depthAt us n     the same up to the place `n` in the text of `us`
    Keeps k ts       behind `k` open brackets, `ts` close none that is not open, and have line
                     ends only where one is open
    Balanced k ts    `ts` leave nothing open, and keep to it behind `k` or more open brackets
-/
import TurtleLogo.Proofs.Grammar.Layout

namespace TurtleLogo.Grammar

/-! ## Brackets among tokens

Square brackets come in pairs around the body of a loop, and within expressions
there are neither square brackets nor line ends. -/

/-- How many square brackets a token opens, less those that it closes. -/
def Token.nesting (t : Token) : Int :=
  match t.terminal with
  | .bracket .lsqb => 1
  | .bracket .rsqb => -1
  | _ => 0

/-- The square brackets that tokens leave open. -/
def depth (ts : List Token) : Int :=
  (ts.map Token.nesting).foldr (· + ·) 0

@[simp] theorem depth_nil : depth [] = 0 := rfl

@[simp] theorem depth_cons (t : Token) (ts : List Token) : depth (t :: ts) = t.nesting + depth ts :=
  rfl

@[simp] theorem depth_append (ts us : List Token) : depth (ts ++ us) = depth ts + depth us := by
  induction ts with
  | nil => rw [List.nil_append, depth_nil, Int.zero_add]
  | cons t ts ih => rw [List.cons_append, depth_cons, depth_cons, ih, Int.add_assoc]

theorem Token.Is.nesting_lsqb {t : Token} (h : t.Is (.bracket .lsqb)) : t.nesting = 1 := by
  rw [Token.nesting, h.1]

theorem Token.Is.nesting_rsqb {t : Token} (h : t.Is (.bracket .rsqb)) : t.nesting = -1 := by
  rw [Token.nesting, h.1]

theorem Token.nesting_eq_zero {t : Token} (hl : t.terminal ≠ .bracket .lsqb)
    (hr : t.terminal ≠ .bracket .rsqb) : t.nesting = 0 := by
  unfold Token.nesting
  split
  · next heq => exact absurd heq hl
  · next heq => exact absurd heq hr
  · rfl

/-- Tokens that are neither square brackets nor line ends. -/
def Token.IsFlat (t : Token) : Prop :=
  t.terminal ≠ .bracket .lsqb ∧ t.terminal ≠ .bracket .rsqb ∧ t.terminal ≠ .newline

theorem Token.IsFlat.nesting {t : Token} (h : t.IsFlat) : t.nesting = 0 :=
  Token.nesting_eq_zero h.1 h.2.1

theorem Token.Is.nesting_newline {t : Token} (h : t.Is .newline) : t.nesting = 0 := by
  rw [Token.nesting, h.1]

/-- `Keeps k ts`: behind `k` open brackets, the tokens `ts` close none that is not open, and have
line ends only where a bracket is open. -/
def Keeps (k : Int) : List Token → Prop
  | [] => True
  | t :: ts => 0 ≤ k + t.nesting ∧ (t.terminal = .newline → 0 < k) ∧ Keeps (k + t.nesting) ts

theorem keeps_append {ts us : List Token} : ∀ {k : Int},
    Keeps k (ts ++ us) ↔ Keeps k ts ∧ Keeps (k + depth ts) us := by
  induction ts with
  | nil =>
      intro k
      simp [Keeps]
  | cons t ts ih =>
      intro k
      rw [List.cons_append, Keeps, Keeps, ih, depth_cons, Int.add_assoc]
      simp only [and_assoc]

/-- `Balanced k ts`: the tokens `ts` close all that they open, and keep to it behind `k` or more
open brackets. -/
def Balanced (k : Int) (ts : List Token) : Prop :=
  depth ts = 0 ∧ ∀ {n : Int}, k ≤ n → Keeps n ts

namespace Balanced

variable {k : Int} {ts us : List Token} {t : Token}

theorem nil : Balanced k [] :=
  ⟨rfl, fun _ => trivial⟩

theorem append (h : Balanced k ts) (h' : Balanced k us) : Balanced k (ts ++ us) := by
  refine ⟨?_, fun hn => ?_⟩
  · rw [depth_append, h.1, h'.1, Int.add_zero]
  · rw [keeps_append, h.1, Int.add_zero]
    exact ⟨h.2 hn, h'.2 hn⟩

theorem mono (h : Balanced k ts) {l : Int} (hl : k ≤ l) : Balanced l ts :=
  ⟨h.1, fun hn => h.2 (Int.le_trans hl hn)⟩

theorem flat (h : t.IsFlat) : Balanced 0 [t] := by
  refine ⟨?_, fun {n} hn => ⟨?_, fun hline => absurd hline h.2.2, trivial⟩⟩
  · rw [depth_cons, h.nesting]
    rfl
  · rwa [h.nesting, Int.add_zero]

theorem cons (h : t.IsFlat) (h' : Balanced 0 ts) : Balanced 0 (t :: ts) :=
  (flat h).append h'

theorem line (h : t.Is .newline) : Balanced 1 [t] := by
  refine ⟨?_, fun {n} hn => ⟨?_, fun _ => by omega, trivial⟩⟩
  · rw [depth_cons, h.nesting_newline]
    rfl
  · rw [h.nesting_newline]
    omega

theorem bracketed {lb rb : Token} (hl : lb.Is (.bracket .lsqb)) (h : Balanced 1 ts)
    (hr : rb.Is (.bracket .rsqb)) : Balanced 0 (lb :: (ts ++ [rb])) := by
  refine ⟨?_, fun {n} hn => ?_⟩
  · rw [depth_cons, depth_append, h.1, depth_cons, hl.nesting_lsqb, hr.nesting_rsqb]
    rfl
  · rw [Keeps, keeps_append, h.1, Int.add_zero, hl.nesting_lsqb]
    refine ⟨by omega, fun hline => ?_, h.2 (by omega), ?_, fun hline => ?_, trivial⟩
    · rw [hl.1] at hline
      exact nomatch hline
    · rw [hr.nesting_rsqb]
      omega
    · rw [hr.1] at hline
      exact nomatch hline

end Balanced

theorem Token.Is.isFlat {t : Token} {x : Terminal} (h : t.Is x)
    (hx : x ≠ .bracket .lsqb ∧ x ≠ .bracket .rsqb ∧ x ≠ .newline) : t.IsFlat := by
  rw [Token.IsFlat, h.1]
  exact hx

theorem SpellsOperator.balanced {l : Level} {op : Operator} {ts : List Token}
    (h : SpellsOperator l op ts) : Balanced 0 ts := by
  cases h with
  | sum ht _ => exact .flat (ht.isFlat (by simp))
  | product ht _ => exact .flat (ht.isFlat (by simp))
  | @comparison c _ hsigns =>
      generalize c.signs = signs at hsigns
      induction hsigns with
      | nil => exact .nil
      | cons ht _ ih => exact .cons (ht.isFlat (by simp)) ih

mutual
theorem Spells.balanced : ∀ {r : Rung} {e : Expr} {ts : List Token}, Spells r e ts → Balanced 0 ts
  | _, _, _, .number ht _ => .flat (ht.isFlat (by simp))
  | _, _, _, .string ht => .flat (ht.isFlat (by simp))
  | _, _, _, .ident ht => .flat (ht.isFlat (by simp))
  | _, _, _, .group hl he hr =>
      .cons (hl.isFlat (by simp)) (he.balanced.append (.flat (hr.isFlat (by simp))))
  | _, _, _, .factor hb => hb.balanced
  | _, _, _, .power hb ht hx => hb.balanced.append (.cons (ht.isFlat (by simp)) hx.balanced)
  | _, _, _, .chain he hrest => he.balanced.append hrest.balanced

theorem SpellsLinks.balanced : ∀ {l : Level} {rest : Links} {ts : List Token},
    SpellsLinks l rest ts → Balanced 0 ts
  | _, _, _, .nil => .nil
  | _, _, _, .cons hop he hrest => hop.balanced.append (he.balanced.append hrest.balanced)
end

theorem Break.balanced {ts : List Token} (h : Break ts) : Balanced 1 ts := by
  cases h with
  | none => exact .nil
  | line ht => exact .line ht

mutual
theorem SpellsCommand.balanced : ∀ {c : Command} {ts : List Token}, SpellsCommand c ts →
    Balanced 0 ts
  | _, _, .order ht he => .cons (ht.isFlat (by simp)) he.balanced
  | _, _, .pen ht => .flat (ht.isFlat (by simp))
  | _, _, .stop ht => .flat (ht.isFlat (by simp))
  | _, _, .comment ht => .flat (ht.isFlat (by simp))
  | _, _, .loop ht he hl hnl hbody _ hr => by
      have inner := hnl.balanced.append hbody.balanced
      have whole := he.balanced.append (Balanced.bracketed hl inner hr)
      rw [List.append_assoc] at whole
      exact .cons (ht.isFlat (by simp)) whole

theorem SpellsBody.balanced : ∀ {cs : List Command} {ts : List Token}, SpellsBody cs ts →
    Balanced 1 ts
  | _, _, .nil => .nil
  | _, _, .cons hc hnl hcs =>
      (hc.balanced.mono (by decide)).append (hnl.balanced.append hcs.balanced)
end

/-! ## Cutting at a line end

A line end at depth zero does not stand in any body, so it is one of those behind
the commands at the top, and the commands before it and behind it are spelled by
the tokens before it and behind it. -/

/-- Where no bracket is open, a line end stands behind a whole command. -/
theorem SpellsLines.cut {p : Program} {ts : List Token} (h : SpellsLines p ts) :
    ∀ {before behind : List Token} {t : Token}, ts = before ++ t :: behind → t.terminal = .newline →
      0 ≤ depth before ∧ (depth before = 0 → ∃ p₁ p₂, p = p₁ ++ p₂ ∧
        (∀ u : Token, u.Is .newline → SpellsLines p₁ (before ++ [u])) ∧ SpellsLines p₂ behind) := by
  induction h with
  | nil =>
      intro before behind t hts
      exact absurd hts.symm (by simp)
  | @cons c cs m ts us hc hm hcs ih =>
      intro before behind t hts ht
      -- the line end is that behind the first command, a later one, or one within the command
      have here : before = ts → 0 ≤ depth before ∧ (m :: us = t :: behind → ∃ p₁ p₂, c :: cs = p₁ ++ p₂ ∧
          (∀ u : Token, u.Is .newline → SpellsLines p₁ (before ++ [u])) ∧ SpellsLines p₂ behind) := by
        rintro rfl
        refine ⟨Int.le_of_eq hc.balanced.1.symm, fun heq => ?_⟩
        obtain ⟨rfl, rfl⟩ := List.cons.inj heq
        exact ⟨[c], cs, rfl, fun u hu => .cons hc hu .nil, hcs⟩
      rcases List.append_eq_append_iff.mp hts with ⟨mid, hbefore, hmid⟩ | ⟨mid, hwithin, hmid⟩
      · cases mid with
        | nil =>
            obtain ⟨hnonneg, hcut⟩ := here (by rw [hbefore, List.append_nil])
            exact ⟨hnonneg, fun _ => hcut hmid⟩
        | cons m' mid =>
            obtain ⟨rfl, hus⟩ := List.cons.inj hmid
            obtain ⟨hnonneg, hcut⟩ := ih hus ht
            have hdepth : depth before = depth mid := by
              rw [hbefore, depth_append, depth_cons, hc.balanced.1, hm.nesting_newline, Int.zero_add,
                Int.zero_add]
            refine ⟨hdepth ▸ hnonneg, fun hzero => ?_⟩
            obtain ⟨p₁, p₂, rfl, hp₁, hp₂⟩ := hcut (hdepth ▸ hzero)
            refine ⟨c :: p₁, p₂, rfl, fun u hu => ?_, hp₂⟩
            rw [hbefore, List.append_assoc]
            exact .cons hc hm (hp₁ u hu)
      · cases mid with
        | nil =>
            obtain ⟨hnonneg, hcut⟩ := here (by rw [hwithin, List.append_nil])
            exact ⟨hnonneg, fun _ => hcut hmid.symm⟩
        | cons t' mid =>
            obtain ⟨rfl, -⟩ := List.cons.inj hmid
            have keeps := hc.balanced.2 (Int.le_refl 0)
            rw [hwithin, keeps_append] at keeps
            have inside := keeps.2.2.1 ht
            exact ⟨by omega, fun hzero => by omega⟩

theorem SpellsProgram.cut {p : Program} {before behind : List Token} {t : Token}
    (h : SpellsProgram p (before ++ t :: behind)) (ht : t.terminal = .newline) :
    0 ≤ depth before ∧ (depth before = 0 → ∃ p₁ p₂, p = p₁ ++ p₂ ∧
      (∀ u : Token, u.Is .newline → SpellsProgram p₁ (before ++ [u])) ∧ SpellsLines p₂ behind) := by
  obtain ⟨nl, us, hnl, hus, hts⟩ := h
  cases hnl with
  | none =>
      obtain ⟨hnonneg, hcut⟩ := hus.cut hts.symm ht
      refine ⟨hnonneg, fun hzero => ?_⟩
      obtain ⟨p₁, p₂, rfl, hp₁, hp₂⟩ := hcut hzero
      exact ⟨p₁, p₂, rfl, fun u hu => ⟨[], _, .none, hp₁ u hu, rfl⟩, hp₂⟩
  | @line m hm =>
      cases before with
      | nil =>
          obtain ⟨-, rfl⟩ := List.cons.inj hts
          exact ⟨Int.le_refl 0, fun _ => ⟨[], p, rfl, fun u hu => ⟨[u], [], .line hu, .nil, rfl⟩, hus⟩⟩
      | cons m' before =>
          obtain ⟨rfl, hrest⟩ := List.cons.inj hts
          obtain ⟨hnonneg, hcut⟩ := hus.cut hrest.symm ht
          rw [depth_cons, hm.nesting_newline, Int.zero_add]
          refine ⟨hnonneg, fun hzero => ?_⟩
          obtain ⟨p₁, p₂, rfl, hp₁, hp₂⟩ := hcut hzero
          exact ⟨p₁, p₂, rfl, fun u hu => ⟨[m'], _, .line hm, hp₁ u hu, rfl⟩, hp₂⟩

theorem SpellsLines.depth_eq_zero {p : Program} {ts : List Token} (h : SpellsLines p ts) :
    depth ts = 0 := by
  induction h with
  | nil => rfl
  | cons hc ht _ ih => rw [depth_append, depth_cons, hc.balanced.1, ht.nesting_newline, ih]; rfl

theorem SpellsProgram.depth_eq_zero {p : Program} {ts : List Token} (h : SpellsProgram p ts) :
    depth ts = 0 := by
  obtain ⟨nl, us, hnl, hus, rfl⟩ := h
  rw [depth_append, hnl.balanced.1, hus.depth_eq_zero]
  rfl

/-! ## Places in a text

From tokens to characters: how deep a character stands is told by the tokens that
have come to their end before it. -/

/-- The square brackets that tokens leave open up to a place in their text, where those count that
end there or before. -/
def depthAt : List Token → Nat → Int
  | [], _ => 0
  | t :: ts, n =>
    if n < t.lexeme.length then 0 else t.nesting + depthAt ts (n - t.lexeme.length)

theorem depthAt_append (us vs : List Token) (n : Nat) :
    depthAt (us ++ vs) ((spelling us).length + n) = depth us + depthAt vs n := by
  induction us with
  | nil => simp [spelling]
  | cons t us ih =>
      have hlength : (spelling (t :: us)).length = t.lexeme.length + (spelling us).length :=
        List.length_append
      rw [List.cons_append, depthAt, if_neg (by omega), depth_cons, Int.add_assoc, ← ih]
      congr 2
      omega

/-- Tokens that are no brackets make no difference but for their length. -/
theorem depthAt_level {us : List Token} (h : ∀ t ∈ us, t.nesting = 0) (vs : List Token) : ∀ n : Nat,
    depthAt (us ++ vs) n =
      if n < (spelling us).length then 0 else depthAt vs (n - (spelling us).length) := by
  induction us with
  | nil =>
      intro n
      simp [spelling]
  | cons t us ih =>
      intro n
      obtain ⟨ht, hus⟩ := List.forall_mem_cons.mp h
      have hlength : (spelling (t :: us)).length = t.lexeme.length + (spelling us).length :=
        List.length_append
      rw [List.cons_append, depthAt, ht, Int.zero_add, ih hus, hlength]
      by_cases hn : n < t.lexeme.length
      · rw [if_pos hn, if_pos (by omega)]
      · rw [if_neg hn, Nat.sub_sub]
        by_cases hn' : n - t.lexeme.length < (spelling us).length
        · rw [if_pos hn', if_pos (by omega)]
        · rw [if_neg hn', if_neg (by omega)]

theorem depthAt_of_words : ∀ {us vs : List Token}, vs.map Token.word = us.map Token.word →
    ∀ n : Nat, depthAt vs n = depthAt us n
  | [], vs, h, n => by
      obtain rfl := List.map_eq_nil_iff.mp h
      rfl
  | u :: us, vs, h, n => by
      obtain ⟨v, vs, rfl, hv, hvs⟩ := List.map_eq_cons_iff.mp h
      obtain ⟨hterminal, hlexeme⟩ := Prod.mk.inj hv
      rw [depthAt, depthAt, hlexeme, Token.nesting, hterminal, depthAt_of_words hvs]
      rfl

theorem spelling_split {c : Char} {b : List Char} : ∀ {us : List Token} {a : List Char},
    spelling us = a ++ c :: b →
      ∃ us₁ t us₂ x y, us = us₁ ++ t :: us₂ ∧ t.lexeme = x ++ c :: y ∧ a = spelling us₁ ++ x ∧
        b = y ++ spelling us₂
  | [], a, h => absurd h.symm (by simp [spelling])
  | t :: us, a, h => by
      have later : ∀ a' : List Char, a = t.lexeme ++ a' → spelling us = a' ++ c :: b →
          ∃ us₁ u us₂ x y, t :: us = us₁ ++ u :: us₂ ∧ u.lexeme = x ++ c :: y ∧
            a = spelling us₁ ++ x ∧ b = y ++ spelling us₂ := by
        intro a' ha hus
        obtain ⟨us₁, u, us₂, x, y, rfl, hu, ha', hb⟩ := spelling_split hus
        refine ⟨t :: us₁, u, us₂, x, y, rfl, hu, ?_, hb⟩
        rw [ha, ha', ← List.append_assoc]
        rfl
      have hspelling : t.lexeme ++ spelling us = a ++ c :: b := h
      rcases List.append_eq_append_iff.mp hspelling with ⟨a', ha, hus⟩ | ⟨mid, ht, hmid⟩
      · exact later a' ha hus
      · cases mid with
        | nil => exact later [] (by rw [ht, List.append_nil, List.append_nil]) hmid.symm
        | cons d y =>
            obtain ⟨rfl, hb⟩ := List.cons.inj hmid
            exact ⟨[], t, us, a, y, rfl, ht, rfl, hb⟩

theorem depth_significant (us : List Token) : depth (significant us) = depth us := by
  induction us with
  | nil => rfl
  | cons t us ih =>
      by_cases ht : t.terminal = .blank
      · have hnesting : t.nesting = 0 := by rw [Token.nesting, ht]
        rw [significant_cons_blank us ht, depth_cons, hnesting, Int.zero_add, ih]
      · rw [significant_cons us ht, depth_cons, depth_cons, ih]

end TurtleLogo.Grammar
