/-
# `TurtleLogo.Proofs.Grammar.Reading` — parsing as cutting a text into tokens that spell a tree

`Lexed p cs us rest` says that the tokens `us`, blanks among them, are cut off
the front of `cs` one after the other and leave `rest`.  It does not mention the
parser's states: in every state at most one terminal can be scanned, so which
terminals are tried decides only whether the parser goes on.

    run_reads           how a run ends, from any stack that spells what was read before
    parse_eq_program_iff
                        a text is parsed as a program if and only if it is cut into tokens
                        that, without the blanks, spell the program

In particular no run is ever stuck.
-/
import TurtleLogo.Proofs.Grammar.Completeness
import TurtleLogo.Proofs.Grammar.Scanning

namespace TurtleLogo.Grammar

/-- The text of some tokens. -/
def spelling (us : List Token) : List Char :=
  us.flatMap Token.lexeme

/-- The tokens that the parser takes: all but the blanks. -/
def significant (us : List Token) : List Token :=
  us.filter fun t => t.terminal != .blank

/-- `Lexed p cs us rest`: the tokens `us` are cut off `cs`, which stands at `p`, and leave
`rest`. -/
inductive Lexed : Position → List Char → List Token → List Char → Prop
  | nil {p : Position} {cs : List Char} : Lexed p cs [] cs
  | cons {p : Position} {cs mid rest : List Char} {t : Token} {us : List Token} :
      t.start = p → t.terminal.cut cs = some (t.lexeme, mid) →
      Lexed (p.after t.lexeme) mid us rest → Lexed p cs (t :: us) rest

section Lexed

variable {p : Position} {cs rest : List Char} {us : List Token}

theorem Lexed.spelling_append (h : Lexed p cs us rest) : cs = spelling us ++ rest := by
  induction h with
  | nil => rfl
  | @cons p cs mid rest t us _ hcut _ ih =>
      obtain ⟨rfl, -⟩ := t.terminal.cuts.sound hcut
      rw [ih]
      exact (List.append_assoc t.lexeme (spelling us) rest).symm

theorem Position.after_append (p : Position) (cs ds : List Char) :
    p.after (cs ++ ds) = (p.after cs).after ds :=
  List.foldl_append

theorem Lexed.trans {ds : List Char} {vs : List Token} (h : Lexed p cs us rest)
    (h' : Lexed (p.after (spelling us)) rest vs ds) : Lexed p cs (us ++ vs) ds := by
  induction h with
  | nil => exact h'
  | @cons p cs mid rest t us hp hcut _ ih =>
      refine .cons hp hcut (ih ?_)
      rw [← Position.after_append]
      exact h'

theorem Lexed.is (h : Lexed p cs us rest) : ∀ t ∈ us, t.Is t.terminal := by
  induction h with
  | nil => exact fun t ht => nomatch ht
  | @cons p cs mid rest t us _ hcut _ ih =>
      intro u hu
      rcases List.mem_cons.mp hu with rfl | hu
      · exact ⟨rfl, (u.terminal.cuts.sound hcut).2⟩
      · exact ih u hu

end Lexed

theorem significant_cons_blank {t : Token} (us : List Token) (ht : t.terminal = .blank) :
    significant (t :: us) = significant us := by
  simp [significant, ht]

theorem significant_cons {t : Token} (us : List Token) (ht : t.terminal ≠ .blank) :
    significant (t :: us) = t :: significant us := by
  simp [significant, ht]

/-! ## How a run ends

The induction is on the length of the text.  A run goes on as long as there is a
token that its state accepts; where there is none, or where the text ends, it has
an outcome, and the stack at that point spells what has been read. -/

/-- The tokens that a run consumes, blanks among them. -/
def consumedBy : Nat → Position → Stack → List Char → List Token
  | 0, _, _, _ | _, _, _, [] => []
  | fuel + 1, here, σ, c :: cs =>
    match scan (Stack.top σ).accepts (c :: cs) with
    | none => []
    | some (.blank, lexeme, rest) =>
      ⟨.blank, lexeme, here⟩ :: consumedBy fuel (here.after lexeme) σ rest
    | some (t, lexeme, rest) =>
      match take ⟨t, lexeme, here⟩ σ with
      | .pushed τ => ⟨t, lexeme, here⟩ :: consumedBy fuel (here.after lexeme) τ rest
      | _ => []

/-- The tokens that the parser consumes of a whole text, blanks among them. -/
def consumed (cs : List Char) : List Token :=
  consumedBy cs.length .first [] cs

/-- `Ending ts here rest outcome`: the ways in which parsing ends, behind tokens `ts` at the place
`here` in front of `rest`. -/
inductive Ending (ts : List Token) (here : Position) : List Char → Outcome → Prop
  | program {p : Program} : SpellsProgram p ts → Ending ts here [] (.program p)
  | unfinished {last : Position} : Ending ts here [] (.complaint ⟨.endOfText, last⟩)
  | surprise {c : Complaint} {rest : List Char} : c.what ≠ .endOfText → c.place = here →
      rest ≠ [] → Ending ts here rest (.complaint c)

theorem unscanned_place (s : State) (here : Position) (c : Char) (cs : List Char) :
    (unscanned s here c cs).what ≠ .endOfText ∧ (unscanned s here c cs).place = here := by
  unfold unscanned
  split
  · exact ⟨nofun, rfl⟩
  · exact ⟨nofun, rfl⟩

theorem finish_ends {σ : Stack} {ts : List Token} (h : Spelled σ ts) (last here : Position) :
    Ending ts here [] (finish last σ) := by
  rcases h.finish last with ⟨p, hp, hspells⟩ | hend
  · rw [hp]
    exact .program hspells
  · rw [hend]
    exact .unfinished

theorem run_nil (fuel : Nat) (last here : Position) (σ : Stack) :
    run fuel last here σ [] = finish last σ := by
  rw [run]

theorem consumedBy_nil (fuel : Nat) (here : Position) (σ : Stack) :
    consumedBy fuel here σ [] = [] := by
  cases fuel <;> rfl

section Steps

variable {fuel : Nat} {last here : Position} {σ τ : Stack} {c : Char} {cs rest lexeme : List Char}

theorem run_unscanned (h : scan (Stack.top σ).accepts (c :: cs) = none) :
    run (fuel + 1) last here σ (c :: cs) = .complaint (unscanned (Stack.top σ) here c cs) := by
  rw [run, h]

theorem run_blank (h : scan (Stack.top σ).accepts (c :: cs) = some (.blank, lexeme, rest)) :
    run (fuel + 1) last here σ (c :: cs) = run fuel last (here.after lexeme) σ rest := by
  rw [run, h]

/-- What a run does with a token other than blanks hangs on how the token is taken. -/
theorem run_token {t : Terminal} (h : scan (Stack.top σ).accepts (c :: cs) = some (t, lexeme, rest))
    (ht : t ≠ .blank) : run (fuel + 1) last here σ (c :: cs) =
      match take ⟨t, lexeme, here⟩ σ with
      | .pushed τ => run fuel here (here.after lexeme) τ rest
      | .refused s => .complaint (refusal s ⟨t, lexeme, here⟩)
      | .stuck => .stuck := by
  rw [run, h]
  cases t with
  | blank => exact absurd rfl ht
  | _ => rfl

theorem consumedBy_unscanned (h : scan (Stack.top σ).accepts (c :: cs) = none) :
    consumedBy (fuel + 1) here σ (c :: cs) = [] := by
  rw [consumedBy, h]

theorem consumedBy_blank (h : scan (Stack.top σ).accepts (c :: cs) = some (.blank, lexeme, rest)) :
    consumedBy (fuel + 1) here σ (c :: cs) =
      ⟨.blank, lexeme, here⟩ :: consumedBy fuel (here.after lexeme) σ rest := by
  rw [consumedBy, h]

theorem consumedBy_token {t : Terminal}
    (h : scan (Stack.top σ).accepts (c :: cs) = some (t, lexeme, rest)) (ht : t ≠ .blank) :
    consumedBy (fuel + 1) here σ (c :: cs) =
      match take ⟨t, lexeme, here⟩ σ with
      | .pushed τ => ⟨t, lexeme, here⟩ :: consumedBy fuel (here.after lexeme) τ rest
      | _ => [] := by
  rw [consumedBy, h]
  cases t with
  | blank => exact absurd rfl ht
  | _ => rfl

end Steps

theorem cut_length_lt {t : Terminal} {cs l r : List Char} (h : t.cut cs = some (l, r)) :
    r.length < cs.length := by
  obtain ⟨rfl, hl⟩ := t.cuts.sound h
  have hne := List.length_pos_iff.mpr hl.ne_nil
  rw [List.length_append]
  omega

/-- `Reads ts here cs us outcome`: behind the tokens `ts`, the tokens `us` are read off `cs`, and
parsing ends with the outcome. -/
def Reads (ts : List Token) (here : Position) (cs : List Char) (us : List Token)
    (outcome : Outcome) : Prop :=
  ∃ rest τ, Lexed here cs us rest ∧ Spelled τ (ts ++ significant us) ∧ Stack.Fresh τ ∧
    Ending (ts ++ significant us) (here.after (spelling us)) rest outcome

theorem Reads.of_ending {σ : Stack} {ts : List Token} {here : Position} {cs : List Char}
    {outcome : Outcome} (hσ : Spelled σ ts) (hfresh : Stack.Fresh σ)
    (h : Ending ts here cs outcome) : Reads ts here cs [] outcome := by
  have hnil : ts ++ significant [] = ts := List.append_nil ts
  exact ⟨cs, σ, .nil, hnil.symm ▸ hσ, hfresh, hnil.symm ▸ h⟩

theorem Reads.cons {ts us : List Token} {t : Token} {cs mid : List Char} {outcome : Outcome}
    (hcut : t.terminal.cut cs = some (t.lexeme, mid))
    (h : Reads (ts ++ significant [t]) (t.start.after t.lexeme) mid us outcome) :
    Reads ts t.start cs (t :: us) outcome := by
  obtain ⟨rest, τ, hlexed, hτ, hfresh, hend⟩ := h
  have hts : ts ++ significant [t] ++ significant us = ts ++ significant (t :: us) := by
    rw [List.append_assoc, significant, significant, ← List.filter_append]
    rfl
  rw [hts] at hτ hend
  rw [← Position.after_append] at hend
  exact ⟨rest, τ, .cons rfl hcut hlexed, hτ, hfresh, hend⟩

/-- A run reads tokens up to its end or up to the first thing that does not fit. -/
theorem run_reads {fuel : Nat} : ∀ (last here : Position) {σ : Stack} {cs : List Char}
    {ts : List Token}, Spelled σ ts → Stack.Fresh σ → cs.length ≤ fuel →
      Reads ts here cs (consumedBy fuel here σ cs) (run fuel last here σ cs) := by
  induction fuel with
  | zero =>
      intro last here σ cs ts hσ hfresh hlen
      obtain rfl := List.length_eq_zero_iff.mp (Nat.le_zero.mp hlen)
      exact .of_ending hσ hfresh (finish_ends hσ last here)
  | succ fuel ih =>
      intro last here σ cs ts hσ hfresh hlen
      cases cs with
      | nil =>
          rw [run_nil, consumedBy_nil]
          exact .of_ending hσ hfresh (finish_ends hσ last here)
      | cons c cs =>
          cases hscan : scan (Stack.top σ).accepts (c :: cs) with
          | none =>
              obtain ⟨hwhat, hplace⟩ := unscanned_place (Stack.top σ) here c cs
              rw [run_unscanned hscan, consumedBy_unscanned hscan]
              exact .of_ending hσ hfresh (.surprise hwhat hplace (List.cons_ne_nil c cs))
          | some m =>
              obtain ⟨x, lexeme, rest⟩ := m
              obtain ⟨-, hcut⟩ := scan_eq_some_iff.mp hscan
              have hshort : rest.length ≤ fuel := by
                have := cut_length_lt hcut
                omega
              by_cases hx : x = .blank
              · subst hx
                rw [run_blank hscan, consumedBy_blank hscan]
                have hts : Spelled σ (ts ++ significant [⟨.blank, lexeme, here⟩]) := by
                  rw [significant_cons_blank [] rfl]
                  simpa [significant] using hσ
                exact Reads.cons (t := ⟨.blank, lexeme, here⟩) hcut
                  (ih last (here.after lexeme) hts hfresh hshort)
              · rw [run_token hscan hx, consumedBy_token hscan hx]
                rcases hσ.take ⟨x, lexeme, here⟩ with ⟨υ, hpush⟩ | ⟨s, hrefused⟩
                · have hυ : Spelled υ (ts ++ significant [⟨x, lexeme, here⟩]) := by
                    rw [significant_cons [] hx]
                    exact hσ.of_pushed ⟨rfl, (x.cuts.sound hcut).2⟩ hpush
                  rw [hpush]
                  exact Reads.cons (t := ⟨x, lexeme, here⟩) hcut
                    (ih here (here.after lexeme) hυ (hσ.fresh_of_pushed hpush) hshort)
                · rw [hrefused]
                  exact .of_ending hσ hfresh (.surprise nofun rfl (List.cons_ne_nil c cs))

theorem parse_reads (cs : List Char) : Reads [] .first cs (consumed cs) (parse cs) :=
  run_reads .first .first .nil fresh_nil (Nat.le_refl cs.length)

/-! ## Which texts are programs

From left to right by what is known of the end of a run; from right to left since
the parser finds every tree. -/

/-- A run along tokens that the parser can take to the end finds the program. -/
theorem run_of_lexed {p : Program} {here : Position} {cs rest : List Char} {us : List Token}
    (h : Lexed here cs us rest) (hrest : rest = []) :
    ∀ {fuel : Nat} (last : Position) {σ : Stack} {ts : List Token}, Spelled σ ts →
      cs.length ≤ fuel → Parses σ (significant us) [(.accepted, .commands p)] [] →
      run fuel last here σ cs = .program p := by
  induction h with
  | nil =>
      intro fuel last σ ts hσ _ hparses
      subst hrest
      rw [run_nil]
      exact (finish_eq_program_iff hσ).mpr (hparses.reduces rfl)
  | @cons here cs mid rest t us hstart hcut hlexed ih =>
      intro fuel last σ ts hσ hlen hparses
      have hshort := cut_length_lt hcut
      match fuel, cs, hlen with
      | fuel, [], _ => simp at hshort
      | 0, _ :: _, hlen => simp at hlen
      | fuel + 1, c :: cs, hlen =>
          have htries : ∀ {x}, t.terminal = x → (Stack.top σ).tries x = true →
              scan (Stack.top σ).accepts (c :: cs) = some (x, t.lexeme, mid) := by
            rintro x rfl hx
            exact scan_eq_some_iff.mpr ⟨hx, hcut⟩
          by_cases ht : t.terminal = .blank
          · rw [significant_cons_blank us ht] at hparses
            rw [run_blank (htries ht (by simp [State.tries]))]
            exact ih hrest last hσ (by omega) hparses
          · rw [significant_cons us ht] at hparses
            have haccepts := hparses.accepts (Nat.zero_le _)
            obtain ⟨τ, hpush, hparses'⟩ := hparses.take hσ (Nat.zero_le _)
            rw [run_token (htries rfl (by simp [State.tries, haccepts])) ht]
            subst hstart
            rw [hpush]
            have hτ := hσ.of_pushed ⟨rfl, (t.terminal.cuts.sound hcut).2⟩ hpush
            exact ih hrest t.start hτ (by omega) hparses'

theorem consumed_spells {cs : List Char} {p : Program} (h : parse cs = .program p) :
    Lexed .first cs (consumed cs) [] ∧ SpellsProgram p (significant (consumed cs)) := by
  obtain ⟨rest, τ, hlexed, -, -, hend⟩ := parse_reads cs
  rw [h] at hend
  cases hend with
  | program hp => exact ⟨hlexed, hp⟩

/-- A text is parsed as a program if and only if it is cut into tokens that, without the blanks,
spell the program. -/
theorem parse_eq_program_iff {cs : List Char} {p : Program} : parse cs = .program p ↔
    ∃ us, Lexed .first cs us [] ∧ SpellsProgram p (significant us) := by
  constructor
  · intro h
    exact ⟨consumed cs, consumed_spells h⟩
  · rintro ⟨us, hlexed, hp⟩
    exact run_of_lexed hlexed rfl .first .nil (Nat.le_refl cs.length) hp.parses

end TurtleLogo.Grammar
