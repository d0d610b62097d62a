/-
# `TurtleLogo.Proofs.Grammar.Stack` — what the stack of the parser holds

`Spelled σ ts` says that the stack `σ` is a path through the automaton, each
item of which stands for the symbol on its edge, and that `ts` are the tokens
that the items spell from the bottom to the top.  The parser starts with
`Spelled [] []`, and each of its steps keeps the invariant:

    completing a rule      same tokens, lower height            (`Spelled.complete`)
    settling               same tokens, no rule left to complete (`settle_eq_some_iff`)
    taking a token         one more token, or a refusal          (`Spelled.take`)
    the end of the text    a program that the tokens spell, or a complaint (`Spelled.finish`)

In particular no step is ever stuck: the parts of a rule are always on the
stack, there is always somewhere to go, and the bound of `settle` suffices.
-/
import TurtleLogo.Grammar.Machine
import TurtleLogo.Proofs.Grammar.Automaton
import TurtleLogo.Proofs.Grammar.Phrase

namespace TurtleLogo.Grammar

/-- `Spelled σ ts`: the stack is a path of the automaton that spells `ts`. -/
inductive Spelled : Stack → List Token → Prop
  | nil : Spelled [] []
  | push {σ : Stack} {ts us : List Token} {s : State} {X : Symbol} {item : Item} :
      Spelled σ ts → (Stack.top σ).next X = some s → Stands X item us →
      Spelled ((s, item) :: σ) (ts ++ us)

theorem Spelled.eq_nil {σ : Stack} {ts : List Token} (h : Spelled σ ts)
    (htop : Stack.top σ = .start) : σ = [] := by
  cases h with
  | nil => rfl
  | @push σ _ _ s X _ _ hedge _ =>
      have hs : s = .start := htop
      exact absurd (hs ▸ hedge) (next_ne_start _ X)

/-- What is read of an expected rule lies on top of the stack, and below it a state that awaits
the rule's nonterminal. -/
theorem Spelled.parts {σ : Stack} {ts : List Token} (h : Spelled σ ts) :
    ∀ {k : Pending}, (Stack.top σ).Expects k → ∃ parts rest us vs, σ = parts ++ rest ∧
      ts = us ++ vs ∧ Spelled rest us ∧ StandAll k.read (parts.reverse.map Prod.snd) vs ∧
      (goto (Stack.top rest) k.aim).isSome = true := by
  induction h with
  | nil =>
      rintro ⟨aim, read⟩ (hk | ⟨hread, hgoto⟩)
      · cases hk
      · cases hread
        exact ⟨[], [], [], [], rfl, rfl, .nil, ⟨rfl, rfl⟩, hgoto⟩
  | @push σ ts us s X item hσ hedge hitem ih =>
      rintro ⟨aim, read⟩ (hk | ⟨hread, hgoto⟩)
      · -- the topmost item is the last symbol read; the rest lies below it
        obtain ⟨hlast, hexp⟩ := next_pending hedge hk
        obtain ⟨parts, rest, vs, ws, rfl, rfl, hrest, hparts, hgoto⟩ := ih hexp
        refine ⟨(s, item) :: parts, rest, vs, ws ++ us, rfl, List.append_assoc _ _ _, hrest, ?_,
          hgoto⟩
        have hread : read = read.dropLast ++ [X] :=
          (List.dropLast_append_getLast? X hlast).symm
        have hone : StandAll [X] [item] us :=
          ⟨item, [], us, [], rfl, (List.append_nil us).symm, hitem, rfl, rfl⟩
        rw [hread]
        simpa using hparts.append hone
      · cases hread
        exact ⟨[], _, _, [], rfl, (List.append_nil _).symm, .push hσ hedge hitem, ⟨rfl, rfl⟩, hgoto⟩

/-! ## Completing a rule

The rule that a state completes has been read to its end, so its parts lie on top
of the stack, and the state below them awaits its nonterminal.  The height goes
down with every completed rule, by the parts that are taken away or by the rank of
the state. -/

/-- What each completed rule lowers. -/
def Stack.height (σ : Stack) : Nat :=
  10 * σ.length + (Stack.top σ).rank

theorem Stack.height_lt_fuel (σ : Stack) : Stack.height σ < settleFuel σ := by
  unfold Stack.height settleFuel
  by_cases htop : Stack.top σ = .start
  · rw [htop]
    show 10 * σ.length + 11 < 16 * (σ.length + 1)
    omega
  · have hrank := rank_le_nine htop
    omega

theorem Spelled.edge_of_single {σ : Stack} {ts : List Token} {e : State × Item}
    {n : Nonterminal} {X : Symbol} (h : Spelled (e :: σ) ts) (hmain : e.1.main = some ⟨n, [X]⟩) :
    (Stack.top σ).next X = some e.1 := by
  cases h with
  | push hσ hedge hitem =>
      rcases main_expects hmain with hk | ⟨hread, -⟩
      · obtain ⟨hlast, -⟩ := next_pending hedge hk
        rw [List.getLast?_singleton, Option.some.injEq] at hlast
        exact hlast ▸ hedge
      · cases hread

/-- The stack gets lower where the main rule of its topmost state is completed. -/
theorem Spelled.height_lt {parts rest : Stack} {ts : List Token} {k : Pending} {s : State}
    (h : Spelled (parts ++ rest) ts) (hmain : (Stack.top (parts ++ rest)).main = some k)
    (hlen : parts.length = k.read.length) (hs : goto (Stack.top rest) k.aim = some s)
    (item : Item) : Stack.height ((s, item) :: rest) < Stack.height (parts ++ rest) := by
  obtain ⟨n, read⟩ := k
  have hedge : (Stack.top rest).next (.nonterminal n) = some s := hs
  unfold Stack.height
  match parts, read, hlen with
  | [], [], _ =>
      obtain ⟨hstart, rfl⟩ := main_nil hmain
      have hs' : s = .accepted := by
        rw [show Stack.top rest = .start from hstart] at hs
        exact (Option.some.inj hs).symm
      rw [hs', hstart]
      show 10 * (rest.length + 1) + 0 < 10 * rest.length + 11
      omega
  | [(s₀, item₀)], [X], _ =>
      have hlt : s.rank < s₀.rank := rank_goto_lt hmain (h.edge_of_single hmain) hs
      show 10 * (rest.length + 1) + s.rank < 10 * (rest.length + 1) + s₀.rank
      omega
  | e :: e' :: parts, _ :: _ :: _, _ =>
      have hrank : s.rank ≤ 9 :=
        rank_le_nine fun hstart => next_ne_start _ _ (hstart ▸ hedge)
      show 10 * (rest.length + 1) + s.rank < _
      simp only [List.length_append, List.length_cons]
      omega

theorem reduce_append {r : Rule} {σ : Stack} {item : Item} {s : State} (parts : Stack)
    (hlen : parts.length = r.rhs.length)
    (hbuild : build r (parts.reverse.map Prod.snd) = some item)
    (hgoto : goto (Stack.top σ) r.lhs = some s) :
    reduce r (parts ++ σ) = some ((s, item) :: σ) := by
  simp only [reduce, ← hlen, List.take_left, List.drop_left, hbuild, hgoto]
  simp

/-- The main rule of the topmost state is completed when the parts that it still lacks are there:
they go with the parts on the stack, and there is somewhere to go. -/
theorem Spelled.fill {σ : Stack} {ts us : List Token} {k : Pending} {r : Rule}
    {lacking : List Symbol} {items : List Item} (h : Spelled σ ts)
    (hmain : (Stack.top σ).main = some k) (hr : r.whole = ⟨k.aim, k.read ++ lacking⟩)
    (hitems : StandAll lacking items us) :
    ∃ parts rest item s, σ = parts ++ rest ∧ parts.length = k.read.length ∧
      build r (parts.reverse.map Prod.snd ++ items) = some item ∧
      goto (Stack.top rest) k.aim = some s ∧ Spelled ((s, item) :: rest) (ts ++ us) ∧
      Stack.height ((s, item) :: rest) < Stack.height σ := by
  obtain ⟨hlhs, hrhs⟩ := Pending.mk.inj hr
  obtain ⟨parts, rest, vs, ws, rfl, rfl, hrest, hparts, hgoto⟩ := h.parts (main_expects hmain)
  obtain ⟨s, hs⟩ := Option.isSome_iff_exists.mp hgoto
  have hall := hparts.append hitems
  rw [← hrhs] at hall
  obtain ⟨item, hbuild, hitem⟩ := build_stands hall
  have hlen : parts.length = k.read.length := by simpa using hparts.length_eq
  have hedge : (Stack.top rest).next (.nonterminal r.lhs) = some s := hlhs ▸ hs
  refine ⟨parts, rest, item, s, rfl, hlen, hbuild, hs, ?_, h.height_lt hmain hlen hs item⟩
  rw [List.append_assoc]
  exact .push hrest hedge hitem

/-- A rule that is completed finds its parts and has somewhere to go; the tokens stay the same. -/
theorem Spelled.complete {σ : Stack} {ts : List Token} {la : Option Terminal} {r : Rule}
    (h : Spelled σ ts) (hr : (Stack.top σ).completed la = some r) :
    ∃ τ, reduce r σ = some τ ∧ Spelled τ ts ∧ Stack.height τ < Stack.height σ := by
  have hwhole : r.whole = ⟨r.whole.aim, r.whole.read ++ []⟩ := by rw [List.append_nil]
  obtain ⟨parts, rest, item, s, rfl, hlen, hbuild, hs, hspelled, hheight⟩ :=
    h.fill (completed_main hr) hwhole ⟨rfl, rfl⟩
  rw [List.append_nil] at hbuild hspelled
  exact ⟨_, reduce_append parts hlen hbuild hs, hspelled, hheight⟩

/-! ## Settling

Settling is bounded by fuel in the definition.  The height of the stack is below
it, so the bound is never met and settling is the closure of completing rules. -/

/-- `Reduces la σ τ`: completing rules on what comes next leads from `σ` to `τ`. -/
inductive Reduces (la : Option Terminal) : Stack → Stack → Prop
  | refl {σ : Stack} : Reduces la σ σ
  | step {σ τ υ : Stack} {r : Rule} : (Stack.top σ).completed la = some r →
      reduce r σ = some τ → Reduces la τ υ → Reduces la σ υ

section Settling

variable {la : Option Terminal} {σ τ υ : Stack} {ts : List Token}

theorem Spelled.of_reduces (h : Spelled σ ts) (hred : Reduces la σ τ) : Spelled τ ts := by
  induction hred with
  | refl => exact h
  | step hr hτ _ ih =>
      obtain ⟨τ', hτ', hsp, -⟩ := h.complete hr
      exact ih (Option.some.inj (hτ ▸ hτ') ▸ hsp)

theorem Spelled.settles (h : Spelled σ ts) (la : Option Terminal) :
    ∃ τ, Reduces la σ τ ∧ (Stack.top τ).completed la = none := by
  induction hn : Stack.height σ using Nat.strongRecOn generalizing σ with
  | ind n ih =>
      cases hr : (Stack.top σ).completed la with
      | none => exact ⟨σ, .refl, hr⟩
      | some r =>
          obtain ⟨υ, hυ, hsp, hlt⟩ := h.complete hr
          obtain ⟨τ, hred, hnone⟩ := ih (Stack.height υ) (hn ▸ hlt) hsp rfl
          exact ⟨τ, .step hr hυ hred, hnone⟩

theorem settle_of_none (hr : (Stack.top σ).completed la = none) (fuel : Nat) :
    settle la (fuel + 1) σ = some σ := by
  unfold State.completed at hr
  unfold settle
  split
  · next r hmove =>
      rw [hmove] at hr
      cases hr
  · rfl

theorem settle_of_some {r : Rule} (hr : (Stack.top σ).completed la = some r)
    (hτ : reduce r σ = some τ) (fuel : Nat) : settle la (fuel + 1) σ = settle la fuel τ := by
  rw [settle, completed_eq_some_iff.mp hr]
  simp only [hτ]

/-- With enough fuel, settling completes rules for as long as there are any. -/
theorem settle_eq_some_of_lt (h : Spelled σ ts) :
    ∀ {fuel : Nat}, Stack.height σ < fuel →
      (settle la fuel σ = some τ ↔ Reduces la σ τ ∧ (Stack.top τ).completed la = none) := by
  intro fuel
  induction fuel generalizing σ with
  | zero => intro hlt; omega
  | succ fuel ih =>
      intro hlt
      cases hr : (Stack.top σ).completed la with
      | none =>
          rw [settle_of_none hr, Option.some.injEq]
          constructor
          · rintro rfl
            exact ⟨.refl, hr⟩
          · rintro ⟨hred, -⟩
            cases hred with
            | refl => rfl
            | step hr' _ _ =>
                rw [hr] at hr'
                cases hr'
      | some r =>
          obtain ⟨υ, hυ, hsp, hheight⟩ := h.complete hr
          rw [settle_of_some hr hυ, ih hsp (by omega)]
          constructor
          · rintro ⟨hred, hnone⟩
            exact ⟨.step hr hυ hred, hnone⟩
          · rintro ⟨hred, hnone⟩
            cases hred with
            | refl =>
                rw [hr] at hnone
                cases hnone
            | step hr' hυ' hred =>
                rw [hr, Option.some.injEq] at hr'
                rw [← hr', hυ, Option.some.injEq] at hυ'
                exact ⟨hυ' ▸ hred, hnone⟩

theorem settle_eq_some_iff (h : Spelled σ ts) : settle la (settleFuel σ) σ = some τ ↔
    Reduces la σ τ ∧ (Stack.top τ).completed la = none :=
  settle_eq_some_of_lt h (Stack.height_lt_fuel σ)

end Settling

/-! ## Taking a token

When no more rules are completed, the token is pushed if the topmost state has an
edge for it, and otherwise it is refused, with the terminals that would have been
accepted. -/

section Taking

variable {t : Token} {σ τ υ : Stack} {ts : List Token}

theorem next_terminal_eq_some_iff {b s : State} {x : Terminal} :
    b.next (.terminal x) = some s ↔ onTerminal b x = some (.shift s) := by
  simp only [State.next]
  split
  · next h => simp [h]
  · next h => simpa using h s

theorem completed_none_of_next {b s : State} {x : Terminal} (h : b.next (.terminal x) = some s) :
    b.completed (some x) = none := by
  unfold State.completed onNext
  simp only [next_terminal_eq_some_iff.mp h]

/-- A token is pushed on what is left when all rules that it completes are completed. -/
theorem take_eq_pushed_iff (h : Spelled σ ts) : take t σ = .pushed υ ↔
    ∃ τ s, Reduces (some t.terminal) σ τ ∧ (Stack.top τ).next (.terminal t.terminal) = some s ∧
      υ = (s, .token t) :: τ := by
  obtain ⟨τ, hred, hnone⟩ := h.settles (some t.terminal)
  unfold take
  rw [(settle_eq_some_iff h).mpr ⟨hred, hnone⟩]
  constructor
  · intro heq
    dsimp only at heq
    split at heq
    · next s hmove =>
        rw [Taken.pushed.injEq] at heq
        exact ⟨τ, s, hred, next_terminal_eq_some_iff.mpr hmove, heq.symm⟩
    · cases heq
  · rintro ⟨τ', s, hred', hnext, rfl⟩
    have hτ := (settle_eq_some_iff h).mpr ⟨hred', completed_none_of_next hnext⟩
    rw [(settle_eq_some_iff h).mpr ⟨hred, hnone⟩, Option.some.injEq] at hτ
    subst hτ
    dsimp only
    rw [next_terminal_eq_some_iff.mp hnext]

/-- Taking a token pushes it and keeps the invariant, or refuses it. -/
theorem Spelled.take (h : Spelled σ ts) (t : Token) :
    (∃ υ, Grammar.take t σ = .pushed υ) ∨ ∃ s, Grammar.take t σ = .refused s := by
  obtain ⟨τ, hτ⟩ := h.settles (some t.terminal)
  unfold Grammar.take
  rw [(settle_eq_some_iff h).mpr hτ]
  dsimp only
  split
  · next s _ => exact .inl ⟨_, rfl⟩
  · exact .inr ⟨_, rfl⟩

theorem Spelled.of_pushed (h : Spelled σ ts) (ht : t.Is t.terminal)
    (hpush : Grammar.take t σ = .pushed υ) : Spelled υ (ts ++ [t]) := by
  obtain ⟨τ, s, hred, hnext, rfl⟩ := (take_eq_pushed_iff h).mp hpush
  exact .push (h.of_reduces hred) hnext ⟨t, rfl, rfl, ht⟩

/-- The topmost item is a token: no rule has been completed since it was taken. -/
def Stack.Fresh (σ : Stack) : Prop :=
  ∀ e ∈ σ.head?, ∃ t, e.2 = Item.token t

theorem fresh_nil : Stack.Fresh [] :=
  fun _ he => nomatch he

theorem Spelled.fresh_of_pushed (h : Spelled σ ts) (hpush : Grammar.take t σ = .pushed υ) :
    Stack.Fresh υ := by
  obtain ⟨τ, s, -, -, rfl⟩ := (take_eq_pushed_iff h).mp hpush
  intro e he
  obtain rfl := Option.some.inj he
  exact ⟨t, rfl⟩

/-! ## The end of the text

Only one state completes the program itself, and below it there is nothing. -/

/-- A stack with a whole program on top holds nothing else. -/
theorem Spelled.accepted (h : Spelled σ ts) (htop : Stack.top σ = .accepted) :
    ∃ p, σ = [(.accepted, .commands p)] ∧ SpellsProgram p ts := by
  cases h with
  | nil => cases htop
  | @push σ ts us s X item hσ hedge hitem =>
      have hs : s = .accepted := htop
      subst hs
      obtain ⟨hstart, rfl⟩ := next_accepted hedge
      obtain rfl := hσ.eq_nil hstart
      cases hσ
      obtain ⟨p, rfl, hp⟩ := hitem
      exact ⟨p, rfl, by simpa using hp⟩

theorem finish_eq_program_iff (h : Spelled σ ts) {last : Position} {p : Program} :
    finish last σ = .program p ↔ Reduces none σ [(.accepted, .commands p)] := by
  obtain ⟨τ, hred, hnone⟩ := h.settles none
  unfold finish
  rw [(settle_eq_some_iff h).mpr ⟨hred, hnone⟩]
  constructor
  · intro heq
    split at heq
    · cases heq
    · next hτ =>
        rw [Outcome.program.injEq] at heq
        subst heq
        exact Option.some.inj hτ ▸ hred
    · split at heq <;> cases heq
  · intro hred'
    have hτ := (settle_eq_some_iff h).mpr ⟨hred', rfl⟩
    rw [(settle_eq_some_iff h).mpr ⟨hred, hnone⟩, Option.some.injEq] at hτ
    subst hτ
    rfl

/-- At the end there is a program that the tokens spell, or more text is missed. -/
theorem Spelled.finish (h : Spelled σ ts) (last : Position) :
    (∃ p, Grammar.finish last σ = .program p ∧ SpellsProgram p ts) ∨
      Grammar.finish last σ = .complaint ⟨.endOfText, last⟩ := by
  obtain ⟨τ, hred, hnone⟩ := h.settles none
  by_cases htop : Stack.top τ = .accepted
  · obtain ⟨p, rfl, hp⟩ := (h.of_reduces hred).accepted htop
    exact .inl ⟨p, (finish_eq_program_iff h).mpr hred, hp⟩
  · right
    unfold Grammar.finish
    rw [(settle_eq_some_iff h).mpr ⟨hred, hnone⟩]
    split
    · next heq => cases heq
    · next heq =>
        rw [Option.some.inj heq] at htop
        exact absurd rfl htop
    · next heq => rw [← Option.some.inj heq, if_neg htop]

end Taking

end TurtleLogo.Grammar
