/-
# `TurtleLogo.Proofs.Grammar.Termination` — parsing comes to an end

The parser, one small step after the other and without a bound on their number:

    between    blanks are left out or a token is scanned, until the text is at its end
    before     a token has been scanned; rules are completed, then it is pushed or refused
    atEnd      the text is at its end; rules are completed, then there is a program or not
    ended      the outcome is there

`Configuration.step` has no answer where a rule is to be completed whose parts are not on the
stack or whose nonterminal leads nowhere from the state below them.  The steps keep
`Configuration.Sound`: a stack that spells what has been read.  From such a stack there always
is a next step, and it lowers `Configuration.weight` (`Configuration.Sound.advances`).

The weight is not the length of what is left to read, since completing a rule reads nothing.
Nor is it the size of the stack, since a rung of the ladder leaves the size alone and the empty
program makes it larger.  It counts the height of the stack, in which every entry weighs more than
any topmost state, and for each character enough to pay for pushing a token.

The outcome of a configuration is what `run` makes of it with just enough steps.  No
step changes it, so the end of the steps is what `parse` answers (`Configuration.Sound.ends`).
-/
import TurtleLogo.Program.Parse
import TurtleLogo.Proofs.Grammar.Reading

namespace TurtleLogo.Grammar

/-! ## One step

A step answers nothing when parsing has ended, and also when a rule could not be
completed.  That the second never happens is a theorem about the stack, not a
matter of the definition. -/

/-- Where the parser is in its work. -/
inductive Configuration where
  /-- between two tokens; `last` is the place of the last one -/
  | between (last here : Position) (σ : Stack) (cs : List Char)
  /-- a token is to be pushed, and behind it there is more text -/
  | before (t : Token) (σ : Stack) (cs : List Char)
  /-- nothing is left of the text -/
  | atEnd (last : Position) (σ : Stack)
  /-- parsing has ended -/
  | ended (o : Outcome)

/-- The next step.  There is none when parsing has ended or cannot go on. -/
def Configuration.step : Configuration → Option Configuration
  | .between last _ σ [] => some (.atEnd last σ)
  | .between last here σ (c :: cs) =>
    match scan (Stack.top σ).accepts (c :: cs) with
    | none => some (.ended (.complaint (unscanned (Stack.top σ) here c cs)))
    | some (.blank, lexeme, rest) => some (.between last (here.after lexeme) σ rest)
    | some (t, lexeme, rest) => some (.before ⟨t, lexeme, here⟩ σ rest)
  | .before t σ cs =>
    match onTerminal (Stack.top σ) t.terminal with
    | some (.shift s) => some (.between t.start (t.start.after t.lexeme) ((s, .token t) :: σ) cs)
    | some (.reduce r) => (reduce r σ).map fun τ => .before t τ cs
    | none => some (.ended (.complaint (refusal (Stack.top σ) t)))
  | .atEnd last σ =>
    match onEnd (Stack.top σ), σ with
    | some r, σ => (reduce r σ).map fun τ => .atEnd last τ
    | none, [(.accepted, .commands p)] => some (.ended (.program p))
    | none, σ =>
      if Stack.top σ = .accepted then none else some (.ended (.complaint ⟨.endOfText, last⟩))
  | .ended _ => none

/-- The stack of a configuration, as long as there is one. -/
def Configuration.stack? : Configuration → Option Stack
  | .between _ _ σ _ => some σ
  | .before _ σ _ => some σ
  | .atEnd _ σ => some σ
  | .ended _ => none

def Configuration.start (cs : List Char) : Configuration :=
  .between .first .first [] cs

/-- `σ.Supplies r`: the parts of the rule are on the stack, its tree can be built of them, and the
state below them has somewhere to go. -/
structure Stack.Supplies (σ : Stack) (r : Rule) : Prop where
  parts : r.rhs.length ≤ σ.length
  tree : (build r ((σ.take r.rhs.length).reverse.map Prod.snd)).isSome = true
  goes : (goto (Stack.top (σ.drop r.rhs.length)) r.lhs).isSome = true

/-- A rule can be completed only where it finds all that it needs. -/
theorem supplies_of_reduce {r : Rule} {σ τ : Stack} (h : reduce r σ = some τ) : σ.Supplies r := by
  simp only [reduce] at h
  split at h
  · cases h
  · next hsize =>
      split at h
      · next item s htree hgoes =>
          exact ⟨Nat.not_lt.mp hsize, Option.isSome_of_eq_some htree,
            Option.isSome_of_eq_some hgoes⟩
      · cases h

/-! ## Counting steps

A run of steps with its length.  Where each step lowers a measure, the length is
bounded by it; the same argument bounds the rules that can be completed in a row,
whatever comes next. -/

/-- `Times r n a b`: `n` steps of `r` lead from `a` to `b`. -/
inductive Times {α : Type} (r : α → α → Prop) : Nat → α → α → Prop
  | zero {a : α} : Times r 0 a a
  | next {n : Nat} {a b c : α} : r a b → Times r n b c → Times r (n + 1) a c

/-- Where every step keeps an invariant and lowers a measure, there are no more steps than the
measure allows. -/
theorem Times.keeps {α : Type} {r : α → α → Prop} {I : α → Prop} {m : α → Nat}
    (step : ∀ a b, I a → r a b → I b ∧ m b < m a) {n : Nat} {a b : α} (h : Times r n a b)
    (ha : I a) : I b ∧ n + m b ≤ m a := by
  induction h with
  | zero => exact ⟨ha, by omega⟩
  | @next n a b c hab _ ih =>
      obtain ⟨hb, hlt⟩ := step a b ha hab
      obtain ⟨hc, hle⟩ := ih hb
      exact ⟨hc, by omega⟩

/-- One rule is completed, in front of anything. -/
def Completion (σ τ : Stack) : Prop :=
  ∃ la r, (Stack.top σ).completed la = some r ∧ reduce r σ = some τ

theorem Stack.height_le (σ : Stack) : Stack.height σ ≤ 10 * σ.length + 11 := by
  unfold Stack.height
  by_cases htop : Stack.top σ = .start
  · rw [htop]
    exact Nat.le_refl _
  · have hrank := rank_le_nine htop
    omega

/-- Even if anything may come next, and something else behind every completed rule, only so many
rules can be completed. -/
theorem Spelled.completions_le {σ τ : Stack} {ts : List Token} {n : Nat} (h : Spelled σ ts)
    (hn : Times Completion n σ τ) : n ≤ 10 * σ.length + 11 := by
  have lower : ∀ σ τ, Spelled σ ts → Completion σ τ →
      Spelled τ ts ∧ Stack.height τ < Stack.height σ := by
    rintro σ τ hσ ⟨la, r, hr, hτ⟩
    obtain ⟨τ', hτ', hspelled, hlt⟩ := hσ.complete hr
    obtain rfl := Option.some.inj (hτ.symm.trans hτ')
    exact ⟨hspelled, hlt⟩
  have hle := (hn.keeps lower h).2
  have hheight := Stack.height_le σ
  omega

/-! ## What steps keep

One lemma for each kind of configuration.  A step keeps that the stack spells what
has been read, lowers the weight, and comes to the same in the end. -/

/-- The stack spells what has been read, and a token that has been scanned is a lexeme. -/
def Configuration.Sound : Configuration → Prop
  | .between _ _ σ _ => ∃ ts, Spelled σ ts
  | .before t σ _ => t.Is t.terminal ∧ ∃ ts, Spelled σ ts
  | .atEnd _ σ => ∃ ts, Spelled σ ts
  | .ended o => o ≠ .stuck

/-- What every step lowers. -/
def Configuration.weight : Configuration → Nat
  | .between _ _ σ cs => 21 * cs.length + Stack.height σ + 2
  | .before _ σ cs => 21 * cs.length + Stack.height σ + 22
  | .atEnd _ σ => Stack.height σ + 1
  | .ended _ => 0

/-- What a configuration comes to. -/
def Configuration.outcome : Configuration → Outcome
  | .between last here σ cs => run cs.length last here σ cs
  | .before t σ cs =>
    match take t σ with
    | .pushed τ => run cs.length t.start (t.start.after t.lexeme) τ cs
    | .refused s => .complaint (refusal s t)
    | .stuck => .stuck
  | .atEnd last σ => finish last σ
  | .ended o => o

/-- `Advances c d`: the step from `c` leads to `d`, which is sound, lighter and comes to the same. -/
structure Advances (c d : Configuration) : Prop where
  step : c.step = some d
  sound : d.Sound
  lighter : d.weight < c.weight
  same : d.outcome = c.outcome

theorem run_enough : ∀ {fuel fuel' : Nat} {last here : Position} {σ : Stack} {cs : List Char},
    cs.length ≤ fuel → cs.length ≤ fuel' → run fuel last here σ cs = run fuel' last here σ cs := by
  intro fuel
  induction fuel with
  | zero =>
      intro fuel' last here σ cs hlen _
      obtain rfl := List.length_eq_zero_iff.mp (Nat.le_zero.mp hlen)
      rw [run_nil, run_nil]
  | succ fuel ih =>
      intro fuel' last here σ cs hlen hlen'
      cases cs with
      | nil => rw [run_nil, run_nil]
      | cons c cs =>
          obtain ⟨fuel', rfl⟩ : ∃ n, fuel' = n + 1 :=
            ⟨fuel' - 1, by simp only [List.length_cons] at hlen'; omega⟩
          cases hscan : scan (Stack.top σ).accepts (c :: cs) with
          | none => rw [run_unscanned hscan, run_unscanned hscan]
          | some m =>
              obtain ⟨x, lexeme, rest⟩ := m
              have hshort := cut_length_lt (scan_eq_some_iff.mp hscan).2
              have hrest : rest.length ≤ fuel := by omega
              have hrest' : rest.length ≤ fuel' := by omega
              by_cases hx : x = .blank
              · subst hx
                rw [run_blank hscan, run_blank hscan, ih hrest hrest']
              · rw [run_token hscan hx, run_token hscan hx]
                cases take ⟨x, lexeme, here⟩ σ with
                | pushed τ => exact ih hrest hrest'
                | refused s => rfl
                | stuck => rfl

section Steps

variable {σ τ : Stack} {ts : List Token} {r : Rule} {last here : Position}

/-- Completing a rule does not change where settling leads. -/
theorem settle_completed {la : Option Terminal} (h : Spelled σ ts)
    (hr : (Stack.top σ).completed la = some r) (hτ : reduce r σ = some τ)
    (hspelled : Spelled τ ts) :
    settle la (settleFuel τ) τ = settle la (settleFuel σ) σ := by
  obtain ⟨υ, hred, hnone⟩ := hspelled.settles la
  rw [(settle_eq_some_iff hspelled).mpr ⟨hred, hnone⟩,
    (settle_eq_some_iff h).mpr ⟨.step hr hτ hred, hnone⟩]

theorem settle_settled {la : Option Terminal} (h : Spelled σ ts)
    (hnone : (Stack.top σ).completed la = none) : settle la (settleFuel σ) σ = some σ :=
  (settle_eq_some_iff h).mpr ⟨.refl, hnone⟩

/-- Pushing a token makes the stack higher by no more than a character pays for. -/
theorem height_push_le {s : State} {X : Symbol} (hnext : (Stack.top σ).next X = some s)
    (item : Item) : Stack.height ((s, item) :: σ) ≤ Stack.height σ + 19 := by
  have hrank : s.rank ≤ 9 := rank_le_nine fun hstart => next_ne_start _ X (hstart ▸ hnext)
  show 10 * (σ.length + 1) + s.rank ≤ 10 * σ.length + (Stack.top σ).rank + 19
  omega

theorem advances_between (h : Spelled σ ts) (cs : List Char) :
    ∃ d, Advances (.between last here σ cs) d := by
  cases cs with
  | nil => exact ⟨.atEnd last σ, rfl, ⟨ts, h⟩, by simp [Configuration.weight], (run_nil ..).symm⟩
  | cons c cs =>
      cases hscan : scan (Stack.top σ).accepts (c :: cs) with
      | none =>
          refine ⟨.ended (.complaint (unscanned (Stack.top σ) here c cs)), ?_, nofun, ?_, ?_⟩
          · simp only [Configuration.step, hscan]
          · simp [Configuration.weight]
          · exact (run_unscanned hscan).symm
      | some m =>
          obtain ⟨x, lexeme, rest⟩ := m
          have hcut := (scan_eq_some_iff.mp hscan).2
          have hshort := cut_length_lt hcut
          have hrest : rest.length ≤ cs.length := by
            simp only [List.length_cons] at hshort
            omega
          by_cases hx : x = .blank
          · subst hx
            refine ⟨.between last (here.after lexeme) σ rest, ?_, ⟨ts, h⟩, ?_, ?_⟩
            · simp only [Configuration.step, hscan]
            · simp only [Configuration.weight]
              omega
            · exact (run_enough (Nat.le_refl _) hrest).trans (run_blank hscan).symm
          · have token : Token.Is ⟨x, lexeme, here⟩ x := ⟨rfl, (x.cuts.sound hcut).2⟩
            refine ⟨.before ⟨x, lexeme, here⟩ σ rest, ?_, ⟨token, ts, h⟩, ?_, ?_⟩
            · simp only [Configuration.step, hscan]
            · simp only [Configuration.weight]
              omega
            · refine Eq.trans ?_ (run_token hscan hx).symm
              simp only [Configuration.outcome]
              cases take ⟨x, lexeme, here⟩ σ with
              | pushed τ => exact run_enough (Nat.le_refl _) hrest
              | refused s => rfl
              | stuck => rfl

theorem advances_before (h : Spelled σ ts) {t : Token} (ht : t.Is t.terminal)
    (cs : List Char) : ∃ d, Advances (.before t σ cs) d := by
  cases hmove : onTerminal (Stack.top σ) t.terminal with
  | none =>
      have hnone : (Stack.top σ).completed (some t.terminal) = none := by
        simp [State.completed, onNext, hmove]
      refine ⟨.ended (.complaint (refusal (Stack.top σ) t)), ?_, nofun, ?_, ?_⟩
      · simp only [Configuration.step, hmove]
      · simp [Configuration.weight]
      · simp only [Configuration.outcome, take, settle_settled h hnone, hmove]
  | some move =>
      cases move with
      | shift s =>
          have hnext := next_terminal_eq_some_iff.mpr hmove
          have hpush : take t σ = .pushed ((s, .token t) :: σ) :=
            (take_eq_pushed_iff h).mpr ⟨σ, s, .refl, hnext, rfl⟩
          refine ⟨.between t.start (t.start.after t.lexeme) ((s, .token t) :: σ) cs, ?_,
            ⟨ts ++ [t], h.of_pushed ht hpush⟩, ?_, ?_⟩
          · simp only [Configuration.step, hmove]
          · have hheight := height_push_le hnext (.token t)
            simp only [Configuration.weight]
            omega
          · simp only [Configuration.outcome, hpush]
      | reduce r =>
          have hr : (Stack.top σ).completed (some t.terminal) = some r :=
            completed_eq_some_iff.mpr hmove
          obtain ⟨τ, hτ, hspelled, hlt⟩ := h.complete hr
          refine ⟨.before t τ cs, ?_, ⟨ht, ts, hspelled⟩, ?_, ?_⟩
          · simp only [Configuration.step, hmove, hτ, Option.map_some]
          · simp only [Configuration.weight]
            omega
          · simp only [Configuration.outcome, take, settle_completed h hr hτ hspelled]

theorem advances_atEnd (h : Spelled σ ts) : ∃ d, Advances (.atEnd last σ) d := by
  cases hend : onEnd (Stack.top σ) with
  | some r =>
      have hr : (Stack.top σ).completed none = some r := by
        simp [State.completed, onNext, hend]
      obtain ⟨τ, hτ, hspelled, hlt⟩ := h.complete hr
      refine ⟨.atEnd last τ, ?_, ⟨ts, hspelled⟩, ?_, ?_⟩
      · simp only [Configuration.step, hend, hτ, Option.map_some]
      · simp only [Configuration.weight]
        omega
      · simp only [Configuration.outcome, finish, settle_completed h hr hτ hspelled]
  | none =>
      have hnone : (Stack.top σ).completed none = none := by
        simp [State.completed, onNext, hend]
      by_cases htop : Stack.top σ = .accepted
      · obtain ⟨p, rfl, -⟩ := h.accepted htop
        refine ⟨.ended (.program p), rfl, nofun, by simp [Configuration.weight], ?_⟩
        simp only [Configuration.outcome, finish, settle_settled h hnone]
      · -- a stack that holds a whole program is the case above
        have hstack : ∀ p, σ ≠ [(.accepted, .commands p)] := by
          rintro p rfl
          exact htop rfl
        refine ⟨.ended (.complaint ⟨.endOfText, last⟩), ?_, nofun, ?_, ?_⟩
        · simp only [Configuration.step, hend]
          exact if_neg htop
        · simp [Configuration.weight]
        · simp only [Configuration.outcome, finish, settle_settled h hnone]
          exact (if_neg htop).symm

end Steps

/-- Where parsing has not ended, it goes on. -/
theorem Configuration.Sound.advances {c : Configuration} (h : c.Sound) :
    (∃ o, c = .ended o) ∨ ∃ d, Advances c d := by
  cases c with
  | between last here σ cs =>
      obtain ⟨ts, hσ⟩ := h
      exact .inr (advances_between hσ cs)
  | before t σ cs =>
      obtain ⟨ht, ts, hσ⟩ := h
      exact .inr (advances_before hσ ht cs)
  | atEnd last σ =>
      obtain ⟨ts, hσ⟩ := h
      exact .inr (advances_atEnd hσ)
  | ended o => exact .inl ⟨o, rfl⟩

/-! ## All steps

From one step to all of them by induction on their number, and from there to the
outcome of `parse`, which is that of the last configuration. -/

/-- One step of parsing. -/
def Configuration.Goes (c d : Configuration) : Prop :=
  c.step = some d

/-- A step is the only one there is. -/
theorem Configuration.Sound.goes {c d : Configuration} (h : c.Sound) (hstep : c.Goes d) :
    Advances c d := by
  rcases h.advances with ⟨o, rfl⟩ | ⟨d', hd'⟩
  · exact nomatch hstep
  · obtain rfl := Option.some.inj (hstep.symm.trans hd'.step)
    exact hd'

/-- From a sound configuration, parsing ends with what it comes to. -/
theorem Configuration.Sound.ends {c : Configuration} (h : c.Sound) :
    ∃ n, Times Configuration.Goes n c (.ended c.outcome) := by
  induction hw : c.weight using Nat.strongRecOn generalizing c with
  | ind w ih =>
      rcases h.advances with ⟨o, rfl⟩ | ⟨d, hd⟩
      · exact ⟨0, .zero⟩
      · obtain ⟨n, hn⟩ := ih d.weight (hw ▸ hd.lighter) hd.sound rfl
        rw [hd.same] at hn
        exact ⟨n + 1, .next hd.step hn⟩

/-- However many steps have been taken, what is reached is sound and comes to the same, and the
weight pays for the steps. -/
theorem Configuration.Sound.reaches {c d : Configuration} {n : Nat} (h : c.Sound)
    (hn : Times Configuration.Goes n c d) :
    (d.Sound ∧ d.outcome = c.outcome) ∧ n + d.weight ≤ c.weight := by
  refine hn.keeps (I := fun d => d.Sound ∧ d.outcome = c.outcome) ?_ ⟨h, rfl⟩
  rintro a b ⟨ha, hsame⟩ hab
  have hb := ha.goes hab
  exact ⟨⟨hb.sound, hb.same.trans hsame⟩, hb.lighter⟩

theorem Configuration.Sound.spelled {c : Configuration} (h : c.Sound) {σ : Stack}
    (hσ : c.stack? = some σ) : ∃ ts, Spelled σ ts := by
  cases c with
  | between last here τ cs =>
      obtain rfl := Option.some.inj hσ
      exact h
  | before t τ cs =>
      obtain rfl := Option.some.inj hσ
      exact h.2
  | atEnd last τ =>
      obtain rfl := Option.some.inj hσ
      exact h
  | ended o => exact nomatch hσ

theorem Configuration.start_sound (cs : List Char) : (Configuration.start cs).Sound :=
  ⟨[], .nil⟩

theorem Configuration.Sound.outcome_ne_stuck {c : Configuration} (h : c.Sound) :
    c.outcome ≠ .stuck := by
  obtain ⟨n, hn⟩ := h.ends
  exact (h.reaches hn).1.1

/-- The stack on the way holds what each rule needs that its topmost state completes. -/
theorem Configuration.Sound.supplies {c : Configuration} (h : c.Sound) {σ : Stack}
    (hσ : c.stack? = some σ) {la : Option Terminal} {r : Rule}
    (hr : (Stack.top σ).completed la = some r) : σ.Supplies r := by
  obtain ⟨ts, hspelled⟩ := h.spelled hσ
  obtain ⟨τ, hτ, -, -⟩ := hspelled.complete hr
  exact supplies_of_reduce hτ

end TurtleLogo.Grammar

namespace TurtleLogo

open Grammar

/-- What parsing a text answers, by what its steps come to. -/
theorem Program.parse_of_outcome {source : String} {o : Outcome}
    (h : Grammar.parse source.toList = o) (ho : o ≠ .stuck) :
    (∃ p, o = .program p ∧ Program.parse source = .ok p) ∨
      ∃ c, o = .complaint c ∧ Program.parse source = .error (.error (c.toError source.toList)) := by
  cases o with
  | program p => exact .inl ⟨p, rfl, by simp only [Program.parse, h]⟩
  | complaint c => exact .inr ⟨c, rfl, by simp only [Program.parse, h]⟩
  | stuck => exact absurd rfl ho

/-- Parsing ends, for every text, with a program or an error, after at most 21 steps a character
and 13 more.

However far it has come, it has either ended, with the outcome of `Grammar.parse`, or it can go on.
The stack it has come to holds the parts of every rule that its topmost state completes, in front
of anything, and the state below them leads somewhere.  Nor can rules be completed for ever on that
stack, not even if what comes next were another thing each time. -/
theorem parsing_ends (source : String) :
    let start := Configuration.start source.toList
    (∃ n o, n ≤ 21 * source.length + 13 ∧ Times Configuration.Goes n start (.ended o) ∧
      ((∃ p, o = .program p ∧ Program.parse source = .ok p) ∨
        ∃ c, o = .complaint c ∧
          Program.parse source = .error (.error (c.toError source.toList)))) ∧
    ∀ n c, Times Configuration.Goes n start c →
      n ≤ 21 * source.length + 13 ∧
      (c = .ended (Grammar.parse source.toList) ∨ ∃ d, c.step = some d) ∧
      ∀ σ, c.stack? = some σ →
        (∀ la r, (Stack.top σ).completed la = some r → σ.Supplies r) ∧
        ∀ m τ, Times Completion m σ τ → m ≤ 10 * σ.length + 11 := by
  intro start
  have hstart : start.Sound := Configuration.start_sound source.toList
  have houtcome : start.outcome = Grammar.parse source.toList := rfl
  have hweight : start.weight = 21 * source.length + 13 := by
    rw [← String.length_toList]
    rfl
  have bound : ∀ {n c}, Times Configuration.Goes n start c → n ≤ 21 * source.length + 13 := by
    intro n c hn
    have hle := (hstart.reaches hn).2
    omega
  constructor
  · obtain ⟨n, hn⟩ := hstart.ends
    exact ⟨n, start.outcome, bound hn, hn,
      Program.parse_of_outcome houtcome.symm hstart.outcome_ne_stuck⟩
  · intro n c hn
    obtain ⟨⟨hsound, hsame⟩, -⟩ := hstart.reaches hn
    refine ⟨bound hn, ?_, fun σ hσ => ⟨fun la r hr => hsound.supplies hσ hr, fun m τ hm => ?_⟩⟩
    · rcases hsound.advances with ⟨o, rfl⟩ | ⟨d, hd⟩
      · exact .inl (congrArg Configuration.ended (hsame.trans houtcome))
      · exact .inr ⟨d, hd.step⟩
    · obtain ⟨ts, hspelled⟩ := hsound.spelled hσ
      exact hspelled.completions_le hm

/-- A parenthesis that the line end does not close: in front of it, the number is still completed. -/
theorem parsing_ends_unclosed :
    ∃ n c σ r, Times Configuration.Goes n (Configuration.start "fd (1\n".toList) c ∧
      c.stack? = some σ ∧ (Stack.top σ).completed (some .newline) = some r ∧ σ.Supplies r ∧
      ∀ m τ, Times Completion m σ τ → m ≤ 41 := by
  have steps : ∃ c σ, Times Configuration.Goes 8 (Configuration.start "fd (1\n".toList) c ∧
      c.stack? = some σ ∧ σ.length = 3 ∧
      (Stack.top σ).completed (some .newline) = some (.atom .number) :=
    ⟨_, _, .next rfl (.next rfl (.next rfl (.next rfl (.next rfl (.next rfl (.next rfl
      (.next rfl .zero))))))), rfl, rfl, rfl⟩
  obtain ⟨c, σ, run, hσ, hlen, hr⟩ := steps
  obtain ⟨supplies, bound⟩ := ((parsing_ends "fd (1\n").2 8 c run).2.2 σ hσ
  refine ⟨8, c, σ, .atom .number, run, hσ, hr, supplies _ _ hr, fun m τ hm => ?_⟩
  have hle := bound m τ hm
  rwa [hlen] at hle

end TurtleLogo
