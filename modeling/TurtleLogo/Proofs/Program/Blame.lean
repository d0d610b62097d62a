/-
# `TurtleLogo.Proofs.Program.Blame` — the line on which an error is put

An error is raised by one command, begun in the course of a run: by its operand,
by what it asks of the turtle or of the timer, or by the count of a loop.  That
command stands in the body of a loop, which is in one of its rounds, and that loop
may stand in another one.

    Reaches cs s outer c s'   a run of `cs` from `s` comes to begin `c` in the scene `s'`, inside
                              the loops `outer`, the nearest first
    Raises c s e s'           `c`, begun in `s`, raises the error `e` itself

Nothing is said here of lines.  While the error is on its way out of the loops, each
of the commands it passes offers its line, and the first line offered stays.  So a
run fails by an error just when it reaches a command that raises one, and the line
is the error's own, or that of the command, or that of the nearest loop around it
that has one (`runAll_eq_error_iff`).  Commands that come from a text all have a line.
-/
import TurtleLogo.Proofs.Action
import TurtleLogo.Proofs.Grammar.Sentence
import TurtleLogo.Proofs.Program.Script
import TurtleLogo.Turtle.Faulty

namespace TurtleLogo

variable {σ : Type}

/-! ## Errors and lines

A line is put on an error only once, so that the first one that is offered stays. -/

theorem LogoError.at?_eq (e : LogoError) (line : Option Int) :
    e.at? line = ⟨e.cause, e.line.or line⟩ := by
  obtain ⟨cause, own⟩ := e
  cases own <;> rfl

theorem Failure.at?_eq_error_iff {f : Failure} {line : Option Int} {e' : LogoError} :
    f.at? line = .error e' ↔ ∃ e, f = .error e ∧ e' = ⟨e.cause, e.line.or line⟩ := by
  cases f with
  | error e => simp [Failure.at?, LogoError.at?_eq, eq_comm]
  | defect d => simp [Failure.at?]
  | unfinished => simp [Failure.at?]

/-! ## Commands that raise an error

The relations follow a run to the place where an error comes up, and they count
the rounds that were completed before. -/

/-- The scene in which a command is announced. -/
def Scene.announce (s : Scene σ) (c : Command) : Scene σ :=
  s.write (.noted (.running c))

section Runs

variable (t : Turtle σ) (timer : Timer) (env : Environment) (fuel : Nat)

/-- `Raises t timer env c s e s'`: the command `c`, begun in the scene `s`, raises the error `e`,
and not a command in its body. -/
inductive Raises : Command → Scene σ → LogoError → Scene σ → Prop
  | operand {what : Order} {operand : Expr} {line : Option Int} {s : Scene σ} {e : LogoError} :
      operand.evalNumber env what.operandName = .error (.error e) →
      Raises (.order what operand line) s e (s.announce (.order what operand line))
  | order {what : Order} {operand : Expr} {line : Option Int} {amount : Quantity}
      {s s' : Scene σ} {e : LogoError} : operand.evalNumber env what.operandName = .ok amount →
      what.run t timer amount (s.announce (.order what operand line)) = (.error (.error e), s') →
      Raises (.order what operand line) s e s'
  | gesture {what : Gesture} {line : Option Int} {s s' : Scene σ} {e : LogoError} :
      what.run t line (s.announce (.gesture what line)) = (.error (.error e), s') →
      Raises (.gesture what line) s e s'
  | count {times : Expr} {body : List Command} {line : Option Int} {s : Scene σ} {e : LogoError} :
      times.evalNumber env "REPEAT count" = .error (.error e) →
      Raises (.loop times body line) s e (s.announce (.loop times body line))

/-- `Rounds x n s s'`: the action `x` succeeds `n` times in a row, from `s` to `s'`. -/
inductive Rounds (x : Action σ Unit) : Nat → Scene σ → Scene σ → Prop
  | zero {s : Scene σ} : Rounds x 0 s s
  | succ {n : Nat} {s s₁ s' : Scene σ} : x s = (.ok (), s₁) → Rounds x n s₁ s' →
      Rounds x (n + 1) s s'

/-- `Loops t timer env fuel times body line s n s'`: the loop, begun in the scene `s`, is through
with `n` rounds in `s'`, and begins another one. -/
structure Loops (times : Expr) (body : List Command) (line : Option Int) (s : Scene σ) (n : Nat)
    (s' : Scene σ) : Prop where
  count : ∃ limit, times.evalNumber env "REPEAT count" = .ok limit ∧ ∀ i ≤ n, below limit i
  bounded : n < fuel
  rounds : Rounds (runAll t timer env fuel body) n (s.announce (.loop times body line)) s'

/-- `Reaches t timer env fuel cs s outer c s'`: a run of the commands `cs` from the scene `s` comes
to begin the command `c` in `s'`, inside the loops `outer`, of which the nearest is the first. -/
inductive Reaches : List Command → Scene σ → List Command → Command → Scene σ → Prop
  | here {before after : List Command} {c : Command} {s s₁ : Scene σ} :
      runAll t timer env fuel before s = (.ok (), s₁) →
      Reaches (before ++ c :: after) s [] c s₁
  | within {before after body outer : List Command} {times : Expr} {line : Option Int} {n : Nat}
      {c : Command} {s s₁ s₂ s₃ : Scene σ} : runAll t timer env fuel before s = (.ok (), s₁) →
      Loops t timer env fuel times body line s₁ n s₂ → Reaches body s₂ outer c s₃ →
      Reaches (before ++ .loop times body line :: after) s (outer ++ [.loop times body line]) c s₃

variable {t timer env fuel}

/-! ## One command, one loop, one list

Each form of the program fails in one way: an action by itself, a loop in its
first round that fails, a list with its first command that does. -/

theorem repeatBelow_eq_error_iff {limit : Quantity} {x : Action σ Unit} {e : LogoError}
    {s' : Scene σ} : ∀ {fuel k : Nat} {s : Scene σ},
      repeatBelow limit x fuel (counter k) s = (.error (.error e), s') ↔
        ∃ n s₁, n < fuel ∧ (∀ i ≤ n, below limit (k + i)) ∧ Rounds x n s s₁ ∧
          x s₁ = (.error (.error e), s')
  | 0, k, s => by
      rw [repeatBelow]
      constructor
      · intro h
        split at h
        · cases h
        · cases h
      · rintro ⟨n, _, hn, -⟩
        exact absurd hn (Nat.not_lt_zero n)
  | fuel + 1, k, s => by
      have next : counter k + 1.0 = counter (k + 1) := rfl
      have shift : ∀ i, k + (i + 1) = k + 1 + i := fun i => by omega
      rw [repeatBelow, next]
      constructor
      · intro h
        split at h
        · next go =>
            -- this round fails, or it succeeds and a later one fails
            rcases Action.bind_eq_error_iff.mp h with h | ⟨_, s₁, h₁, h⟩
            · refine ⟨0, s, Nat.succ_pos fuel, fun i hi => ?_, .zero, h⟩
              obtain rfl := Nat.le_zero.mp hi
              exact go
            · obtain ⟨n, s₂, hn, hbelow, hrounds, hx⟩ := repeatBelow_eq_error_iff.mp h
              refine ⟨n + 1, s₂, Nat.succ_lt_succ hn, fun i hi => ?_, .succ h₁ hrounds, hx⟩
              cases i with
              | zero => exact go
              | succ i =>
                  rw [shift]
                  exact hbelow i (Nat.le_of_succ_le_succ hi)
        · cases h
      · rintro ⟨n, s₁, hn, hbelow, hrounds, hx⟩
        have go : (Quantity.real (counter k)).lt limit = true := hbelow 0 (Nat.zero_le n)
        rw [if_pos go, Action.bind_eq_error_iff]
        cases hrounds with
        | zero => exact .inl hx
        | @succ n _ s₂ _ h₁ hrounds =>
            refine .inr ⟨(), s₂, h₁, repeatBelow_eq_error_iff.mpr ?_⟩
            refine ⟨n, s₁, Nat.lt_of_succ_lt_succ hn, fun i hi => ?_, hrounds, hx⟩
            rw [← shift]
            exact hbelow (i + 1) (Nat.succ_le_succ hi)

/-- A command fails by an error that it raises, or by one that leaves its body. -/
theorem Command.run_eq_error_iff {c : Command} {s s' : Scene σ} {e : LogoError} :
    c.run t timer env fuel s = (.error (.error e), s') ↔
      Raises t timer env c s e s' ∨
        ∃ times body line n s₁, c = .loop times body line ∧
          Loops t timer env fuel times body line s n s₁ ∧
          runAll t timer env fuel body s₁ = (.error (.error e), s') := by
  constructor
  · intro h
    cases c with
    | order what operand line =>
        rw [Command.run] at h
        cases hamount : operand.evalNumber env what.operandName with
        | error f =>
            rw [hamount] at h
            cases h
            exact .inl (.operand hamount)
        | ok amount =>
            rw [hamount] at h
            exact .inl (.order hamount h)
    | gesture what line =>
        rw [Command.run] at h
        exact .inl (.gesture h)
    | loop times body line =>
        rw [Command.run] at h
        cases hlimit : times.evalNumber env "REPEAT count" with
        | error f =>
            rw [hlimit] at h
            cases h
            exact .inl (.count hlimit)
        | ok limit =>
            rw [hlimit] at h
            obtain ⟨n, s₁, hn, hbelow, hrounds, hbody⟩ := repeatBelow_eq_error_iff (k := 0).mp h
            simp only [Nat.zero_add] at hbelow
            exact .inr ⟨times, body, line, n, s₁, rfl, ⟨⟨limit, hlimit, hbelow⟩, hn, hrounds⟩, hbody⟩
    | comment text line => exact nomatch h
    | unknown line => exact nomatch h
    | stray typeName rendering => exact nomatch h
  · rintro (h | ⟨times, body, line, n, s₁, rfl, hloops, hbody⟩)
    · cases h with
      | operand hamount =>
          rw [Command.run, hamount]
          rfl
      | order hamount hrun =>
          rw [Command.run, hamount]
          exact hrun
      | gesture hrun =>
          rw [Command.run]
          exact hrun
      | count hlimit =>
          rw [Command.run, hlimit]
          rfl
    · obtain ⟨⟨limit, hlimit, hbelow⟩, hn, hrounds⟩ := hloops
      rw [Command.run, hlimit]
      refine (repeatBelow_eq_error_iff (k := 0)).mpr ⟨n, s₁, hn, fun i hi => ?_, hrounds, hbody⟩
      rw [Nat.zero_add]
      exact hbelow i hi

theorem runAll_eq_error_split {f : Failure} {s' : Scene σ} {cs : List Command} {s : Scene σ} :
    runAll t timer env fuel cs s = (.error f, s') ↔
      ∃ before c after s₁ g, cs = before ++ c :: after ∧
        runAll t timer env fuel before s = (.ok (), s₁) ∧
        c.run t timer env fuel s₁ = (.error g, s') ∧ g.at? c.line = f := by
  induction cs generalizing s with
  | nil =>
      constructor
      · intro h
        exact nomatch h
      · rintro ⟨before, c, after, _, _, hcs, -⟩
        exact absurd hcs.symm (List.append_ne_nil_of_right_ne_nil before (List.cons_ne_nil c after))
  | cons d cs ih =>
      rw [runAll, Action.bind_eq_error_iff, Action.mapFailure_eq_error_iff]
      constructor
      · rintro (⟨g, hd, hg⟩ | ⟨_, s₁, hd, hcs⟩)
        · exact ⟨[], d, cs, s, g, rfl, rfl, hd, hg⟩
        · obtain ⟨before, c, after, s₂, g, rfl, hbefore, hc, hg⟩ := ih.mp hcs
          refine ⟨d :: before, c, after, s₂, g, rfl, ?_, hc, hg⟩
          rw [runAll, Action.bind_of_ok hd]
          exact hbefore
      · rintro ⟨before, c, after, s₂, g, hcs, hbefore, hc, hg⟩
        cases before with
        | nil =>
            obtain ⟨rfl, rfl⟩ := List.cons.inj hcs
            cases hbefore
            exact .inl ⟨g, hc, hg⟩
        | cons d' before =>
            obtain ⟨rfl, rfl⟩ := List.cons.inj hcs
            rw [runAll] at hbefore
            obtain ⟨_, s₁, hd, hbefore⟩ := Action.bind_eq_ok hbefore
            exact .inr ⟨(), s₁, hd, ih.mpr ⟨before, c, after, s₂, g, rfl, hbefore, hc, hg⟩⟩

/-! ## Whole runs

By induction on the size of the tree, since a loop is left by the failure of a
command in its body.  In the other direction the induction is on how a command is
reached. -/

/-- The line of the nearest command that has one. -/
def nearestLine (c : Command) (outer : List Command) : Option Int :=
  c.line.or (outer.findSome? Command.line)

theorem nearestLine_append (c d : Command) (outer : List Command) :
    nearestLine c (outer ++ [d]) = (nearestLine c outer).or d.line := by
  rw [nearestLine, nearestLine, List.findSome?_append, Option.or_assoc]
  cases hd : d.line <;> simp [List.findSome?, hd]

/-- A command that is reached and raises an error ends the run by it. -/
theorem Reaches.runAll_eq {cs outer : List Command} {c : Command} {s s₁ s' : Scene σ}
    {e : LogoError} (hreach : Reaches t timer env fuel cs s outer c s₁)
    (hraise : Raises t timer env c s₁ e s') : runAll t timer env fuel cs s =
      (.error (.error ⟨e.cause, e.line.or (nearestLine c outer)⟩), s') := by
  induction hreach with
  | @here before after c s s₁ hbefore =>
      have hc : c.run t timer env fuel s₁ = (.error (.error e), s') :=
        Command.run_eq_error_iff.mpr (.inl hraise)
      refine runAll_eq_error_split.mpr ⟨_, _, _, _, _, rfl, hbefore, hc, ?_⟩
      rw [Failure.at?, LogoError.at?_eq, nearestLine, List.findSome?_nil, Option.or_none]
  | @within before after body outer times line n c s s₁ s₂ s₃ hbefore hloops _ ih =>
      have hloop := Command.run_eq_error_iff.mpr
        (.inr ⟨times, body, line, n, s₂, rfl, hloops, ih hraise⟩)
      refine runAll_eq_error_split.mpr ⟨_, _, _, _, _, rfl, hbefore, hloop, ?_⟩
      rw [Failure.at?, LogoError.at?_eq, nearestLine_append, Option.or_assoc]

theorem sizeOf_body_lt (times : Expr) (body : List Command) (line : Option Int)
    (before after : List Command) :
    sizeOf body < sizeOf (before ++ Command.loop times body line :: after) := by
  have inner : sizeOf body < sizeOf (Command.loop times body line) := by
    rw [Command.loop.sizeOf_spec]
    omega
  exact Nat.lt_trans inner (List.sizeOf_lt_of_mem (List.mem_append_right before List.mem_cons_self))

/-- A run that ends by an error has reached a command that raises one.  The command stands in the
body of a loop that fails, and so on inwards. -/
theorem runAll_blames {cs : List Command} {s s' : Scene σ} {e' : LogoError}
    (h : runAll t timer env fuel cs s = (.error (.error e'), s')) :
    ∃ outer c s₁ e, Reaches t timer env fuel cs s outer c s₁ ∧ Raises t timer env c s₁ e s' := by
  obtain ⟨before, c, after, s₁, g, rfl, hbefore, hc, hg⟩ := runAll_eq_error_split.mp h
  obtain ⟨e, rfl, -⟩ := Failure.at?_eq_error_iff.mp hg
  rcases Command.run_eq_error_iff.mp hc with hraise | ⟨times, body, line, n, s₂, rfl, hloops, hbody⟩
  · exact ⟨[], c, s₁, e, .here hbefore, hraise⟩
  · -- the body runs under the same handlers, so the search goes on in there
    obtain ⟨outer, c, s₃, e, hreach, hraise⟩ := runAll_blames hbody
    exact ⟨_, c, s₃, e, .within hbefore hloops hreach, hraise⟩
termination_by sizeOf cs
decreasing_by
  subst_vars
  exact sizeOf_body_lt times body line before after

/-- A run fails by an error just when it reaches a command that raises one. -/
theorem runAll_eq_error_iff {cs : List Command} {s s' : Scene σ} {e' : LogoError} :
    runAll t timer env fuel cs s = (.error (.error e'), s') ↔
      ∃ outer c s₁ e, Reaches t timer env fuel cs s outer c s₁ ∧ Raises t timer env c s₁ e s' ∧
        e' = ⟨e.cause, e.line.or (nearestLine c outer)⟩ := by
  constructor
  · intro h
    obtain ⟨outer, c, s₁, e, hreach, hraise⟩ := runAll_blames h
    rw [hreach.runAll_eq hraise] at h
    cases h
    exact ⟨outer, c, s₁, e, hreach, hraise, rfl⟩
  · rintro ⟨outer, c, s₁, e, hreach, hraise, rfl⟩
    exact hreach.runAll_eq hraise

end Runs

/-! ## Programs from a text

Commands that are spelled have lines, at every depth, and those that are reached
are spelled. -/

namespace Grammar

theorem SpellsCommand.has_line {c : Command} {ts : List Token} (h : SpellsCommand c ts) :
    ∃ n, c.line = some n := by
  cases h with
  | order _ _ => exact ⟨_, rfl⟩
  | pen _ => exact ⟨_, rfl⟩
  | stop _ => exact ⟨_, rfl⟩
  | comment _ => exact ⟨_, rfl⟩
  | loop _ _ _ _ _ _ _ => exact ⟨_, rfl⟩

theorem SpellsBody.spells_mem {cs : List Command} {ts : List Token} (h : SpellsBody cs ts) :
    ∀ c ∈ cs, ∃ us, SpellsCommand c us := by
  induction cs generalizing ts with
  | nil => exact List.forall_mem_nil _
  | cons c cs ih =>
      cases h with
      | cons hc _ hcs => exact List.forall_mem_cons.mpr ⟨⟨_, hc⟩, ih hcs⟩

theorem SpellsProgram.spells_mem {p : Program} {ts : List Token} (h : SpellsProgram p ts) :
    ∀ c ∈ p, ∃ us, SpellsCommand c us := by
  obtain ⟨_, us, -, hlines, -⟩ := h
  induction hlines with
  | nil => exact nofun
  | cons hc _ _ ih => exact List.forall_mem_cons.mpr ⟨⟨_, hc⟩, ih⟩

end Grammar

open Grammar

theorem Reaches.spelled {t : Turtle σ} {timer : Timer} {env : Environment} {fuel : Nat}
    {cs outer : List Command} {c : Command} {s s₁ : Scene σ}
    (h : Reaches t timer env fuel cs s outer c s₁) :
    (∀ d ∈ cs, ∃ ts, SpellsCommand d ts) → ∃ ts, SpellsCommand c ts := by
  induction h with
  | @here before after c s s₁ _ =>
      intro spelled
      exact spelled c (List.mem_append_right before List.mem_cons_self)
  | @within before after body outer times line n c s s₁ s₂ s₃ _ _ _ ih =>
      intro spelled
      obtain ⟨ts, hloop⟩ := spelled _ (List.mem_append_right before List.mem_cons_self)
      cases hloop with
      | loop _ _ _ _ hbody _ _ => exact ih hbody.spells_mem

/-- An error points at the command that raised it.  A run of commands fails by an error just when it
reaches a command that raises one, in whatever round of whatever loops; it stays as it was raised
but for its line, which is the first one known of its own, the command's and those of the loops
around it, from the nearest on.  In a program that comes from a text, an error raised without a line
gets that of the command. -/
theorem error_points_at_innermost_command {vars : List (String × Given)} {env : Environment}
    (wraps : Environment.ofGiven vars = .ok env) (t : Turtle σ) (timer : Timer) (fuel : Nat)
    (p : Program) (s : Scene σ) :
    (∀ e' s', p.run t timer vars fuel s = (.error (.error e'), s') ↔
      ∃ outer c s₁ e, Reaches t timer env fuel p s outer c s₁ ∧ Raises t timer env c s₁ e s' ∧
        e' = ⟨e.cause, e.line.or (c.line.or (outer.findSome? Command.line))⟩) ∧
    ∀ text, Program.parse text = .ok p → ∀ outer c s₁ e s',
      Reaches t timer env fuel p s outer c s₁ → Raises t timer env c s₁ e s' → e.line = none →
        ∃ n, c.line = some n ∧
          p.run t timer vars fuel s = (.error (.error ⟨e.cause, some n⟩), s') := by
  rw [Program.run_of_wrapped wraps]
  refine ⟨fun e' s' => runAll_eq_error_iff, ?_⟩
  intro text parsed outer c s₁ e s' hreach hraise hnone
  obtain ⟨-, hspells⟩ := consumed_spells (Program.parse_eq_ok_iff.mp parsed)
  obtain ⟨ts, hc⟩ := hreach.spelled hspells.spells_mem
  obtain ⟨n, hn⟩ := hc.has_line
  refine ⟨n, hn, ?_⟩
  rw [hreach.runAll_eq hraise, nearestLine, hnone, hn]
  rfl

/-- A loop whose second round fails, because the turtle does not move twice.  If the command in its
body has no line, the error is on the line of the loop. -/
theorem error_points_at_innermost_command_second_round :
    let one := fun name => Expr.chain .comparison (.chain .sum (.chain .product
      (.factor (.ident name)) .nil) .nil) .nil
    let p : Option Int → Program := fun line =>
      [.loop (one "n") [.order .forward (one "x") line] (some 1)]
    let vars := [("N", Given.scalar (.number (.whole 2))), ("x", .scalar (.number (.whole 5)))]
    let t := faulty { move := Schedule.after 1 }
    let s : Scene Faulty := ⟨{}, []⟩
    Environment.ofGiven vars = .ok [("n", .number (.whole 2)), ("x", .number (.whole 5))] ∧
      Program.parse "REPEAT n [\nFD x]\n" = .ok (p (some 2)) ∧
      (∃ s', (p (some 2)).run t .clock vars 3 s =
        (.error (.error ⟨.told .turtle "move failed", some 2⟩), s')) ∧
      ∃ s', (p none).run t .clock vars 3 s =
        (.error (.error ⟨.told .turtle "move failed", some 1⟩), s') := by
  intro one p vars t s
  let env : Environment := [("n", .number (.whole 2)), ("x", .number (.whole 5))]
  have wraps : Environment.ofGiven vars = .ok env := rfl
  have parsed : Program.parse "REPEAT n [\nFD x]\n" = .ok (p (some 2)) := rfl
  have reach : ∀ line, ∃ s₁ s', Reaches t .clock env 3 (p line) s (p line)
      (.order .forward (one "x") line) s₁ ∧ Raises t .clock env (.order .forward (one "x") line) s₁
        (.of (.told .turtle "move failed")) s' := by
    intro line
    have below_two : ∀ i ≤ 1, (Quantity.real (counter i)).lt (.whole 2) = true := by decide +kernel
    have nothing : ∀ s, runAll t .clock env 3 [] s = (.ok (), s) := fun _ => rfl
    exact ⟨_, _, .within (nothing s) ⟨⟨.whole 2, rfl, below_two⟩, by decide, .succ rfl .zero⟩
      (.here (nothing _)), .order rfl rfl⟩
  have points := fun line => error_points_at_innermost_command wraps t .clock 3 (p line) s
  refine ⟨wraps, parsed, ?_, ?_⟩
  · obtain ⟨s₁, s', hreach, hraise⟩ := reach (some 2)
    obtain ⟨n, hn, failed⟩ := (points (some 2)).2 _ parsed _ _ _ _ _ hreach hraise rfl
    cases hn
    exact ⟨s', failed⟩
  · obtain ⟨s₁, s', hreach, hraise⟩ := reach none
    exact ⟨s', ((points none).1 _ _).mpr ⟨_, _, _, _, hreach, hraise, rfl⟩⟩

end TurtleLogo
