/-
# `TurtleLogo.Proofs.Program.Lines` — the lines of commands

A command of a parsed program is on the line on which its first token stands, at
whatever depth, and lines are counted by line feeds.

    preorder cs        the commands cs and all in their bodies, a loop before its body
    openers ts         the tokens with which commands begin: keywords and comments
    Opens ts c t       side by side in ts stand tokens that spell c, the first of them t

No other token of a command is an opener, so that the openers of a text are, in
their order, the first tokens of its commands in preorder (`SpellsProgram.opened`).
From one token to the next the line never goes back.
-/
import TurtleLogo.Proofs.Grammar.Likeness
import TurtleLogo.Proofs.Grammar.Sentence
import TurtleLogo.Proofs.Grammar.Viable

namespace TurtleLogo

mutual
/-- The commands in the body of a loop, at every depth. -/
def Command.inner : Command → List Command
  | .loop _ body _ => preorder body
  | _ => []

/-- Commands with all that stand in their bodies, a loop before its body. -/
def preorder : List Command → List Command
  | [] => []
  | c :: cs => c :: (c.inner ++ preorder cs)
end

namespace Grammar

/-! ## First tokens

Keywords and comments are the only tokens with which a command can begin, and they
stand nowhere else.  So the first tokens of all commands, in preorder, can be
found without the tree. -/

/-- The tokens with which commands begin. -/
def openers (ts : List Token) : List Token :=
  ts.filter fun t => t.terminal.startsCommand

theorem openers_append (ts us : List Token) : openers (ts ++ us) = openers ts ++ openers us :=
  List.filter_append ts us

theorem openers_cons (t : Token) (us : List Token) : openers (t :: us) = openers [t] ++ openers us :=
  openers_append [t] us

theorem openers_significant (us : List Token) : openers (significant us) = openers us := by
  rw [openers, significant, List.filter_filter]
  congr 1
  funext t
  cases t.terminal <;> rfl

theorem Token.Is.openers_eq {t : Token} {x : Terminal} (h : t.Is x) :
    openers [t] = if x.startsCommand then [t] else [] := by
  rw [openers, List.filter_cons, h.1]
  rfl

theorem Break.openers_eq {nl : List Token} (h : Break nl) : openers nl = [] := by
  cases h with
  | none => rfl
  | line ht => rw [ht.openers_eq]; rfl

theorem SpellsOperator.openers_eq {l : Level} {op : Operator} {ts : List Token}
    (h : SpellsOperator l op ts) : openers ts = [] := by
  cases h with
  | sum ht _ | product ht _ => rw [ht.openers_eq]; rfl
  | @comparison c ts hts =>
      generalize c.signs = signs at hts
      induction hts with
      | nil => rfl
      | cons ht _ ih =>
          rw [openers_cons, ht.openers_eq, ih]
          rfl

mutual
/-- No command begins within an expression. -/
theorem Spells.openers_eq : ∀ {r : Rung} {e : Expr} {ts : List Token}, Spells r e ts →
    openers ts = []
  | _, _, _, .number ht _ | _, _, _, .string ht | _, _, _, .ident ht => by
      rw [ht.openers_eq]
      rfl
  | _, _, _, .group hl he hr => by
      rw [openers_cons, openers_append, hl.openers_eq, he.openers_eq, hr.openers_eq]
      rfl
  | _, _, _, .factor hb => hb.openers_eq
  | _, _, _, .power hb ht hx => by
      rw [openers_append, openers_cons, hb.openers_eq, ht.openers_eq, hx.openers_eq]
      rfl
  | _, _, _, .chain he hls => by
      rw [openers_append, he.openers_eq, hls.openers_eq]
      rfl

theorem SpellsLinks.openers_eq : ∀ {l : Level} {ls : Links} {ts : List Token},
    SpellsLinks l ls ts → openers ts = []
  | _, _, _, .nil => rfl
  | _, _, _, .cons hop he hls => by
      rw [openers_append, openers_append, hop.openers_eq, he.openers_eq, hls.openers_eq]
      rfl
end

/-- `Opens ts c t`: side by side in `ts` stand tokens that spell `c`, the first of which is `t`. -/
def Opens (ts : List Token) (c : Command) (t : Token) : Prop :=
  ∃ us, SpellsCommand c (t :: us) ∧ t :: us <:+: ts

theorem Opens.self {c : Command} {t : Token} {us : List Token} (h : SpellsCommand c (t :: us)) :
    Opens (t :: us) c t :=
  ⟨us, h, List.infix_rfl⟩

theorem forall₂_opens {ts ts' us : List Token} {cs : List Command}
    (h : List.Forall₂ (Opens ts) cs us) (hts : ts <:+: ts') : List.Forall₂ (Opens ts') cs us :=
  h.imp fun _ _ ⟨vs, hc, hvs⟩ => ⟨vs, hc, hvs.trans hts⟩

theorem SpellsCommand.line_eq {c : Command} {t : Token} {us : List Token}
    (h : SpellsCommand c (t :: us)) : c.line = some (t.start.line : Int) := by
  generalize hts : t :: us = ts at h
  cases h with
  | order _ _ | pen _ | stop _ | comment _ | loop _ _ _ _ _ _ _ =>
      obtain ⟨rfl, -⟩ := List.cons.inj hts
      rfl

mutual
/-- The openers of a command's tokens are the first tokens of it and of all in its body. -/
theorem SpellsCommand.opened : ∀ {c : Command} {ts : List Token}, SpellsCommand c ts →
    List.Forall₂ (Opens ts) (c :: c.inner) (openers ts)
  | _, _, .order ht he => by
      rw [openers_cons, ht.openers_eq, he.openers_eq]
      exact .cons (.self (.order ht he)) .nil
  | _, _, .pen ht => by
      rw [ht.openers_eq]
      exact .cons (.self (.pen ht)) .nil
  | _, _, .stop ht => by
      rw [ht.openers_eq]
      exact .cons (.self (.stop ht)) .nil
  | _, _, .comment ht => by
      rw [ht.openers_eq]
      exact .cons (.self (.comment ht)) .nil
  | _, _, @SpellsCommand.loop t lb rb e body ts nl us ht he hlb hnl hbody hne hrb => by
      have inside : openers (t :: (ts ++ lb :: (nl ++ (us ++ [rb])))) = t :: openers us := by
        rw [openers_cons, openers_append, openers_cons lb, openers_append, openers_append,
          ht.openers_eq, he.openers_eq, hlb.openers_eq, hnl.openers_eq, hrb.openers_eq]
        exact congrArg (t :: ·) (List.append_nil _)
      rw [inside]
      refine .cons (.self (.loop ht he hlb hnl hbody hne hrb)) (forall₂_opens hbody.opened ?_)
      exact ⟨t :: (ts ++ lb :: nl), [rb], by simp⟩

theorem SpellsBody.opened : ∀ {cs : List Command} {ts : List Token}, SpellsBody cs ts →
    List.Forall₂ (Opens ts) (preorder cs) (openers ts)
  | _, _, .nil => .nil
  | _, _, @SpellsBody.cons c cs ts nl us hc hnl hcs => by
      rw [openers_append, openers_append, hnl.openers_eq]
      refine List.rel_append (forall₂_opens hc.opened (List.prefix_append ..).isInfix) ?_
      exact forall₂_opens hcs.opened ⟨ts ++ nl, [], by simp⟩
end

theorem SpellsLines.opened {cs : List Command} {ts : List Token} (h : SpellsLines cs ts) :
    List.Forall₂ (Opens ts) (preorder cs) (openers ts) := by
  induction h with
  | nil => exact .nil
  | @cons c cs t ts us hc ht _ ih =>
      rw [openers_append, openers_cons, ht.openers_eq]
      refine List.rel_append (forall₂_opens hc.opened (List.prefix_append ..).isInfix) ?_
      exact forall₂_opens ih ⟨ts ++ [t], [], by simp⟩

theorem SpellsProgram.opened {p : Program} {ts : List Token} (h : SpellsProgram p ts) :
    List.Forall₂ (Opens ts) (preorder p) (openers ts) := by
  obtain ⟨nl, us, hnl, hus, rfl⟩ := h
  rw [openers_append, hnl.openers_eq]
  exact forall₂_opens hus.opened (List.suffix_append ..).isInfix

/-! ## Places

A token knows its line from counting the line feeds before it. -/

section Places

variable {p : Position} {cs rest : List Char} {us : List Token}

/-- A token stands where its place says. -/
theorem Lexed.placed (h : Lexed p cs us rest) : ∀ t ∈ us, ∃ before behind,
    cs = before ++ (t.lexeme ++ behind) ∧ t.start = p.after before := by
  induction h with
  | nil => exact nofun
  | @cons p cs mid rest t us hp hcut _ ih =>
      obtain ⟨rfl, -⟩ := t.terminal.cuts.sound hcut
      intro u hu
      rcases List.mem_cons.mp hu with rfl | hu
      · exact ⟨[], mid, rfl, hp⟩
      · obtain ⟨before, behind, rfl, hplace⟩ := ih u hu
        refine ⟨t.lexeme ++ before, behind, (List.append_assoc ..).symm, ?_⟩
        rw [hplace, Position.after_append]

/-- Later tokens stand on later lines or on the same one. -/
theorem Lexed.lines_pairwise (h : Lexed p cs us rest) :
    us.Pairwise fun t u => t.start.line ≤ u.start.line := by
  induction h with
  | nil => exact .nil
  | @cons p cs mid rest t us hp _ hlexed ih =>
      refine .cons (fun u hu => ?_) ih
      obtain ⟨before, -, -, hplace⟩ := hlexed.placed u hu
      rw [hplace, Position.after_line, Position.after_line, hp]
      omega

end Places

/-- `Begins cs c t`: in the text `cs` stand tokens that spell `c`; the first of them, `t`, stands where
its place says, and the line of `c` is one more than there are line feeds before it. -/
structure Begins (cs : List Char) (c : Command) (t : Token) : Prop where
  spelled : Opens (significant (consumed cs)) c t
  placed : t.lexeme <+: cs.drop t.start.offset
  line : c.line = some (1 + ((cs.take t.start.offset).count '\n' : Int))

theorem begins_of_opens {cs : List Char} {c : Command} {t : Token}
    (hlexed : Lexed .first cs (consumed cs) []) (h : Opens (significant (consumed cs)) c t) :
    Begins cs c t := by
  obtain ⟨us, hc, hwithin⟩ := h
  have ht : t ∈ consumed cs := (List.mem_filter.mp (hwithin.subset List.mem_cons_self)).1
  obtain ⟨before, behind, heq, hplace⟩ := hlexed.placed t ht
  rw [Position.first_after] at hplace
  have hline := hc.line_eq
  rw [hplace] at hline
  refine ⟨⟨us, hc, hwithin⟩, ?_, ?_⟩
  · rw [hplace, heq, List.drop_left]
    exact List.prefix_append ..
  · rw [hplace, heq, List.take_left, hline]
    rfl

end Grammar

open Grammar

/-- The lines of commands are exact.  In preorder the commands of a parsed program, at every depth,
begin with the openers of the text one after the other, and each is on the line on which its first
token stands.  So from one command to the next the line never goes back, and none is outside the
text. -/
theorem command_lines_exact {source : String} {p : Program} (h : Program.parse source = .ok p) :
    List.Forall₂ (Begins source.toList) (preorder p) (openers (consumed source.toList)) ∧
      ∃ lines : List Nat,
        (preorder p).map Command.line = lines.map (fun n : Nat => some (n : Int)) ∧
        lines.Pairwise (· ≤ ·) ∧ ∀ n ∈ lines, 1 ≤ n ∧ n ≤ 1 + source.toList.count '\n' := by
  obtain ⟨hlexed, hspells⟩ := consumed_spells (Program.parse_eq_ok_iff.mp h)
  have begins : List.Forall₂ (Begins source.toList) (preorder p)
      (openers (consumed source.toList)) := by
    have opened := hspells.opened
    rw [openers_significant] at opened
    exact opened.imp fun _ _ => begins_of_opens hlexed
  refine ⟨begins, (openers (consumed source.toList)).map fun t => t.start.line, ?_, ?_, ?_⟩
  · rw [List.map_map, ← List.forall₂_eq_eq_eq, List.forall₂_map_left_iff, List.forall₂_map_right_iff]
    exact begins.imp fun _ _ hb => hb.spelled.choose_spec.1.line_eq
  · exact List.pairwise_map.mpr (hlexed.lines_pairwise.sublist List.filter_sublist)
  · intro n hn
    obtain ⟨t, ht, rfl⟩ := List.mem_map.mp hn
    obtain ⟨before, behind, heq, hplace⟩ := hlexed.placed t (List.mem_filter.mp ht).1
    rw [hplace, Position.after_line, heq, List.count_append]
    exact ⟨Nat.le_add_right _ _, Nat.add_le_add_left (Nat.le_add_right _ _) _⟩

def spreadLoop : String :=
  "\r\n\n REPEAT \"\r\" [\n\r\n pu # a\n\n stop] \rrem\n"

/-- The lines of the loop, of the three commands in its body and of the comment behind it. -/
theorem command_lines_exact_spread :
    ∃ p, Program.parse spreadLoop = .ok p ∧
      List.Forall₂ (Begins spreadLoop.toList) (preorder p)
        (openers (consumed spreadLoop.toList)) ∧
      (preorder p).map Command.line = [some 3, some 5, some 5, some 7, some 7] := by
  have parsed : Program.parse spreadLoop = .ok
      [.loop (.chain .comparison (.chain .sum (.chain .product (.factor (.string "\r")) .nil) .nil)
        .nil) [.gesture .penUp (some 5), .comment "# a" (some 5), .gesture .stop (some 7)] (some 3),
        .comment "rem" (some 7)] := rfl
  exact ⟨_, parsed, (command_lines_exact parsed).1, rfl⟩

end TurtleLogo
