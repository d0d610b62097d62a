/-
# `TurtleLogo.Proofs.Program.Script` — what a program asks for, as a list

Nothing that a turtle answers and nothing that a program has done so far has a
bearing on what it does next, as long as no call fails.  So all that a program
asks for can be written down beforehand, from the tree and the environment
alone: a *script*, which is a flat list of deeds and the way in which it ends.
A loop is its body's script over and over, as often as its counter is below
the count.

A run goes through the script from the front, to its end or to the first call
that fails (`Obeys`).  The turtle may be any: it acts behind a screen, on a
journal of its own, and only its answers are written to the journal of the
run.  What composes is `Follows`, by which an action goes by a script from
every scene.
-/
import Mathlib.Order.Lattice.Nat
import TurtleLogo.Program.Run
import TurtleLogo.Turtle.Observed

namespace TurtleLogo

variable {σ α : Type}

/-- Of two lines on which a failure is put, the first one counts if it is known. -/
theorem Failure.at?_at? (f : Failure) (inner outer : Option Int) :
    (f.at? inner).at? outer = f.at? (inner.or outer) := by
  cases f with
  | error e =>
      obtain ⟨cause, line⟩ := e
      cases line <;> cases inner <;> rfl
  | defect d => rfl
  | unfinished => rfl

theorem Failure.at?_none (f : Failure) : f.at? none = f := by
  cases f with
  | error e =>
      obtain ⟨cause, line⟩ := e
      cases line <;> rfl
  | defect d => rfl
  | unfinished => rfl

/-! ## Deeds and scripts

A script composes as runs do: a script that fails is not continued, and a repeated
one fails in its first round or never. -/

/-- What a program asks of the world: something of its turtle, or a sleep. -/
inductive Deed where
  | call (c : Call)
  | sleep (seconds : Float)

/-- Deeds in their order, each with the line on which its failure would be put, and the ending
once all of them are done. -/
structure Script where
  deeds : List (Deed × Option Int)
  ending : Reply Unit

namespace Script

def empty : Script := ⟨[], .ok ()⟩

def one (d : Deed) : Script := ⟨[(d, none)], .ok ()⟩

/-- Nothing to do but to fail. -/
def fail (f : Failure) : Script := ⟨[], .error f⟩

/-- One script and, unless it ends with a failure, another. -/
def append (a b : Script) : Script :=
  match a.ending with
  | .ok _ => ⟨a.deeds ++ b.deeds, b.ending⟩
  | .error f => ⟨a.deeds, .error f⟩

/-- A script some number of times. -/
def times (a : Script) : Nat → Script
  | 0 => empty
  | n + 1 => a.append (a.times n)

/-- A script whose failures without a line are put on a line. -/
def on (line : Option Int) (a : Script) : Script :=
  ⟨a.deeds.map fun d => (d.1, d.2.or line), a.ending.mapError (Failure.at? · line)⟩

theorem append_of_ok {a : Script} (h : a.ending = .ok ()) (b : Script) :
    a.append b = ⟨a.deeds ++ b.deeds, b.ending⟩ := by
  simp only [append, h]

theorem append_of_error {a : Script} {f : Failure} (h : a.ending = .error f) (b : Script) :
    a.append b = a := by
  cases a with
  | mk deeds ending =>
      cases h
      rfl

theorem ok_of_on_ok {a : Script} {line : Option Int} (h : (a.on line).ending = .ok ()) :
    a.ending = .ok () := by
  cases hend : a.ending with
  | ok _ => rfl
  | error f =>
      simp only [on, hend, Except.mapError] at h
      exact nomatch h

theorem times_ending_of_ok {a : Script} (h : a.ending = .ok ()) (n : Nat) :
    (a.times n).ending = .ok () := by
  induction n with
  | zero => rfl
  | succ n ih => rw [times, append_of_ok h, ih]

/-- A repeated script that fails does so the first time, and then that time is all there is. -/
theorem times_of_error {a : Script} {n : Nat} {f : Failure} (h : (a.times n).ending = .error f) :
    0 < n ∧ a.times n = a := by
  cases n with
  | zero => exact nomatch h
  | succ n =>
      refine ⟨Nat.succ_pos n, ?_⟩
      cases hend : a.ending with
      | ok _ =>
          rw [times_ending_of_ok hend] at h
          exact nomatch h
      | error g => exact append_of_error hend _

end Script

/-! ## The script of a program

Only the tree and the environment are looked at.  A count that its counter never
reaches would make an endless script, which `HaltsAll` excludes; it is asked only
of loops that the script comes to. -/

/-- The counter of a loop after some rounds. -/
def counter : Nat → Float
  | 0 => 0.0
  | k + 1 => counter k + 1.0

/-- Whether the counter of a loop is still below the limit after some rounds. -/
def below (limit : Quantity) (k : Nat) : Prop :=
  (Quantity.real (counter k)).lt limit = true

instance (limit : Quantity) (k : Nat) : Decidable (below limit k) :=
  inferInstanceAs (Decidable (_ = true))

/-- How many of the successive values of the counter are below a limit, if not all of them are. -/
noncomputable def rounds (limit : Quantity) : Nat :=
  sInf {k | ¬ below limit k}

def Timer.script (timer : Timer) (amount : Quantity) : Script :=
  match calculated amount.toFloat with
  | .error f => .fail f
  | .ok millis =>
    if ¬ Decimal.isFinite millis then .fail (Failure.of (.endlessSleep amount))
    else if timer.measures (pauseSeconds millis) then .one (.sleep (pauseSeconds millis))
    else .fail (.defect .beyondClock)

def Order.script (timer : Timer) (amount : Quantity) : Order → Script
  | .forward => .one (.call (.move amount))
  | .backward => .one (.call (.move amount.neg))
  | .right => .one (.call (.rotate amount))
  | .left => .one (.call (.rotate amount.neg))
  | .sleep => timer.script amount

def Gesture.script : Gesture → Script
  | .penUp => .one (.call (.penUp true))
  | .penDown => .one (.call (.penUp false))
  | .stop => .empty

mutual
noncomputable def Command.script (timer : Timer) (env : Environment) : Command → Script
  | .order what operand _ =>
    match operand.evalNumber env what.operandName with
    | .ok amount => what.script timer amount
    | .error f => .fail f
  | .gesture what _ => what.script
  | .loop times body _ =>
    match times.evalNumber env "REPEAT count" with
    | .ok limit => (scriptAll timer env body).times (rounds limit)
    | .error f => .fail f
  | .comment .. => .empty
  | .unknown line => .fail (.defect (.unsupportedCommand (Command.unknown line).record))
  | .stray typeName _ => .fail (.defect (.lacking typeName "line"))

noncomputable def scriptAll (timer : Timer) (env : Environment) : List Command → Script
  | [] => .empty
  | c :: cs => ((c.script timer env).on c.line).append (scriptAll timer env cs)
end

mutual
/-- Every loop that the script of a command comes to has a count that its counter reaches. -/
def Command.Halts (timer : Timer) (env : Environment) : Command → Prop
  | .loop times body _ =>
    ∀ limit, times.evalNumber env "REPEAT count" = .ok limit →
      (∃ k, ¬ below limit k) ∧ (below limit 0 → HaltsAll timer env body)
  | _ => True

/-- Every loop that the script of commands in order comes to has a count that its counter
reaches. -/
def HaltsAll (timer : Timer) (env : Environment) : List Command → Prop
  | [] => True
  | c :: cs =>
    c.Halts timer env ∧ ((c.script timer env).ending = .ok () → HaltsAll timer env cs)
end

/-- Up to its rounds the counter is below the limit, and after them it is not. -/
theorem rounds_spec {limit : Quantity} (h : ∃ k, ¬ below limit k) :
    (∀ k < rounds limit, below limit k) ∧ ¬ below limit (rounds limit) := by
  refine ⟨fun k hk => ?_, Nat.sInf_mem h⟩
  exact not_not.1 (Nat.notMem_of_lt_sInf hk)

theorem rounds_eq {limit : Quantity} {n : Nat} (h : ∀ k < n, below limit k) (hn : ¬ below limit n) :
    rounds limit = n := by
  obtain ⟨before, after⟩ := rounds_spec ⟨n, hn⟩
  refine Nat.le_antisymm (Nat.sInf_le hn) (Nat.le_of_not_lt fun earlier => ?_)
  exact after (h _ earlier)

/-! ## What a run shows of its deeds

A turtle acts on a scene of its own, so its journal is out of sight of the run.
What becomes of each call is noted in the run's own journal, and that is what is
compared with the script. -/

/-- An action on a scene of its own, out of sight of the run. -/
def Action.screened (x : Action σ α) : Action (Scene σ) α := fun s =>
  match x s.state with
  | (r, inner) => (r, { s with state := inner })

/-- The turtle that acts as another does, on a scene of its own. -/
def Turtle.screened (t : Turtle σ) : Turtle (Scene σ) where
  move steps := (t.move steps).screened
  rotate degrees := (t.rotate degrees).screened
  penUp up := (t.penUp up).screened
  pose s := t.pose s.state
  close := t.close.screened

/-- The deed that an event shows, with what became of it. -/
def Event.deed? : Event → Option (Deed × Reply Unit)
  | .answered call answer _ => some (.call call, answer.map fun _ => ())
  | .slept seconds => some (.sleep seconds, .ok ())
  | _ => none

/-- The deeds of a journal, in the order in which they happened. -/
def issued (j : Journal) : List (Deed × Reply Unit) :=
  j.events.filterMap Event.deed?

theorem issued_append (later earlier : Journal) :
    issued (later ++ earlier) = issued earlier ++ issued later := by
  simp [issued, Journal.events]

/-- What comes of a run: its result, and the deeds done with what became of each. -/
structure Trial where
  result : Reply Unit
  done : List (Deed × Reply Unit)

def Trial.asked (r : Trial) : List Deed :=
  r.done.map Prod.fst

/-- What comes of a run on a turtle that starts in some scene of its own. -/
def Turtle.trial (t : Turtle σ) (timer : Timer) (vars : List (String × Given)) (fuel : Nat)
    (p : Program) (s : Scene σ) : Trial :=
  match p.run t.screened.observed timer vars fuel ⟨s, []⟩ with
  | (result, after) => ⟨result, issued after.journal⟩

/-- Deeds that all succeed. -/
def succeeding (deeds : List (Deed × Option Int)) : List (Deed × Reply Unit) :=
  deeds.map fun d => (d.1, .ok ())

/-- How deeds and a result can come of a script: all of it is done, or all up to the first call
that fails, and then that failure is the result. -/
inductive Obeys (script : Script) : List (Deed × Reply Unit) → Reply Unit → Prop where
  | whole : Obeys script (succeeding script.deeds) script.ending
  | cut {before behind : List (Deed × Option Int)} {call : Call} {line : Option Int} {f : Failure}
      (split : script.deeds = before ++ (.call call, line) :: behind) :
      Obeys script (succeeding before ++ [(.call call, .error f)]) (.error (f.at? line))

namespace Obeys

variable {a b : Script} {done more : List (Deed × Reply Unit)} {result : Reply Unit} {f : Failure}

theorem of_ok (h : Obeys a done (.ok ())) : done = succeeding a.deeds ∧ a.ending = .ok () := by
  generalize hr : (Except.ok () : Reply Unit) = r at h
  cases h with
  | whole => exact ⟨rfl, rfl⟩
  | cut _ => exact nomatch hr

theorem is_initial (h : Obeys a done result) :
    done.map Prod.fst <+: a.deeds.map Prod.fst := by
  cases h with
  | whole => simp [succeeding, Function.comp_def]
  | @cut before behind call line f split =>
      refine ⟨behind.map Prod.fst, ?_⟩
      simp [succeeding, split, Function.comp_def]

theorem append_ok (h : Obeys a done (.ok ())) (h' : Obeys b more result) :
    Obeys (a.append b) (done ++ more) result := by
  obtain ⟨rfl, hend⟩ := h.of_ok
  rw [Script.append_of_ok hend]
  cases h' with
  | whole =>
      have key : Obeys ⟨a.deeds ++ b.deeds, b.ending⟩ (succeeding (a.deeds ++ b.deeds)) b.ending :=
        whole
      simpa only [succeeding, List.map_append] using key
  | @cut before behind call line f split =>
      have key : a.deeds ++ b.deeds = (a.deeds ++ before) ++ (.call call, line) :: behind := by
        rw [split, List.append_assoc]
      have parts : succeeding (a.deeds ++ before) = succeeding a.deeds ++ succeeding before :=
        List.map_append
      rw [← List.append_assoc, ← parts]
      exact cut key

theorem append_error (h : Obeys a done (.error f)) : Obeys (a.append b) done (.error f) := by
  cases hend : a.ending with
  | error g =>
      rw [Script.append_of_error hend]
      exact h
  | ok _ =>
      rw [Script.append_of_ok hend]
      generalize hr : (Except.error f : Reply Unit) = r at h ⊢
      cases h with
      | whole =>
          rw [hend] at hr
          exact nomatch hr
      | @cut before behind call line g split =>
          have key : a.deeds ++ b.deeds = before ++ (.call call, line) :: (behind ++ b.deeds) := by
            rw [split, List.append_assoc, List.cons_append]
          exact cut key

/-- Putting failures on a line puts those of the calls there, too. -/
theorem on (line : Option Int) (h : Obeys a done result) :
    Obeys (a.on line) done (result.mapError (Failure.at? · line)) := by
  cases h with
  | whole =>
      have same : succeeding (a.on line).deeds = succeeding a.deeds := by
        simp [succeeding, Script.on]
      rw [← same]
      exact whole
  | @cut before behind call inner f split =>
      have key : (a.on line).deeds = before.map (fun d => (d.1, d.2.or line)) ++
          (.call call, inner.or line) :: behind.map (fun d => (d.1, d.2.or line)) := by
        simp [Script.on, split]
      have same : succeeding (before.map fun d => (d.1, d.2.or line)) = succeeding before := by
        simp [succeeding]
      have twice : (f.at? inner).at? line = f.at? (inner.or line) := Failure.at?_at? f inner line
      have cutThere := cut (f := f) key
      rw [same, ← twice] at cutThere
      exact cutThere

end Obeys

/-! ## Actions that go by a script

From every scene an action adds the deeds of its script, up to the first one that
fails.  This composes along the ways in which actions are put together. -/

/-- From every scene, an action adds to the journal what shows that it goes by a script. -/
def Follows (x : Action σ Unit) (script : Script) : Prop :=
  ∀ s, ∃ added, (x s).2.journal = added ++ s.journal ∧ Obeys script (issued added) (x s).1

namespace Follows

variable {x y : Action σ Unit} {a b : Script}

theorem pure : Follows (Pure.pure () : Action σ Unit) .empty :=
  fun _ => ⟨[], rfl, .whole⟩

theorem note (n : Log.Note) : Follows (Action.note n : Action σ Unit) .empty :=
  fun _ => ⟨[.noted n], rfl, .whole⟩

theorem fail (f : Failure) : Follows (Action.fail f : Action σ Unit) (.fail f) :=
  fun _ => ⟨[], rfl, .whole⟩

theorem slept (seconds : Float) :
    Follows (Action.emit (.slept seconds) : Action σ Unit) (.one (.sleep seconds)) :=
  fun _ => ⟨[.slept seconds], rfl, .whole⟩

theorem seq (hx : Follows x a) (hy : a.ending = .ok () → Follows y b) :
    Follows (do x; y) (a.append b) := by
  intro s
  obtain ⟨added, hj, ho⟩ := hx s
  rcases hr : x s with ⟨r, s'⟩
  rw [hr] at hj ho
  cases r with
  | ok u =>
      obtain ⟨later, hj', ho'⟩ := hy ho.of_ok.2 s'
      have run : (do x; y : Action σ Unit) s = y s' := by
        simp only [bind, Action.bind, hr]
      refine ⟨later ++ added, ?_, ?_⟩
      · rw [run, hj', hj, List.append_assoc]
      · rw [run, issued_append]
        exact ho.append_ok ho'
  | error f =>
      have run : (do x; y : Action σ Unit) s = (.error f, s') := by
        simp only [bind, Action.bind, hr]
      rw [run]
      exact ⟨added, hj, ho.append_error⟩

theorem lift {r : Reply α} {f : α → Action σ Unit} {script : Script}
    (hok : ∀ v, r = .ok v → Follows (f v) script)
    (herror : ∀ g, r = .error g → script = .fail g) : Follows (Action.lift r >>= f) script := by
  cases r with
  | ok v => exact hok v rfl
  | error g =>
      rw [herror g rfl]
      exact fail g

theorem mapFailure (line : Option Int) (h : Follows x a) :
    Follows (Action.mapFailure (Failure.at? · line) x) (a.on line) := by
  intro s
  obtain ⟨added, hj, ho⟩ := h s
  rcases hr : x s with ⟨r, s'⟩
  rw [hr] at hj ho
  have run : Action.mapFailure (Failure.at? · line) x s =
      (r.mapError (Failure.at? · line), s') := by
    cases r with
    | ok _ => simp only [Action.mapFailure, hr, Except.mapError]
    | error f => simp only [Action.mapFailure, hr, Except.mapError]
  rw [run]
  exact ⟨added, hj, ho.on line⟩

/-- Whatever a screened turtle is asked is one deed, done or failed. -/
theorem asked (t : Turtle σ) (call : Call) (answer : α → Answer) (x : Action σ α) :
    Follows (do let _ ← t.screened.noting call answer x.screened; Pure.pure ())
      (.one (.call call)) := by
  intro s
  rcases hr : x s.state with ⟨r, inner⟩
  let e : Event := .answered call (r.map answer) (t.pose inner.state)
  have run : (do let _ ← t.screened.noting call answer x.screened; Pure.pure ()) s =
      (r.map fun _ => (), ⟨inner, e :: s.journal⟩) := by
    cases r with
    | ok v => simp only [bind, Action.bind, Turtle.noting, Action.screened, hr]; rfl
    | error f => simp only [bind, Action.bind, Turtle.noting, Action.screened, hr]; rfl
  rw [run]
  refine ⟨[e], rfl, ?_⟩
  cases r with
  | ok v => exact .whole
  | error f =>
      have cutThere : Obeys (.one (.call call)) (succeeding [] ++ [(.call call, .error f)])
          (.error (f.at? none)) := .cut rfl
      rw [Failure.at?_none] at cutThere
      exact cutThere

/-- A loop whose counter stays below the limit for `n` more rounds goes through its body's script
that many times. -/
theorem repeatBelow {limit : Quantity} {n : Nat} (hx : 0 < n → Follows x a) :
    ∀ {k fuel : Nat}, n ≤ fuel → (∀ i < n, below limit (k + i)) → ¬ below limit (k + n) →
      Follows (repeatBelow limit x fuel (counter k)) (a.times n) := by
  induction n with
  | zero =>
      intro k fuel _ _ hstop
      have stop : ¬ (Quantity.real (counter k)).lt limit = true := hstop
      cases fuel with
      | zero =>
          rw [TurtleLogo.repeatBelow, if_neg stop]
          exact pure
      | succ fuel =>
          rw [TurtleLogo.repeatBelow, if_neg stop]
          exact pure
  | succ n ih =>
      intro k fuel hfuel hgo hstop
      obtain ⟨fuel, rfl⟩ : ∃ m, fuel = m + 1 := ⟨fuel - 1, by omega⟩
      have go : (Quantity.real (counter k)).lt limit = true := hgo 0 (Nat.succ_pos n)
      rw [TurtleLogo.repeatBelow, if_pos go]
      refine seq (hx (Nat.succ_pos n)) fun _ => ?_
      show Follows (TurtleLogo.repeatBelow limit x fuel (counter (k + 1))) (a.times n)
      have shift : ∀ i, k + 1 + i = k + (i + 1) := fun i => by omega
      refine ih (fun _ => hx (Nat.succ_pos n)) (Nat.le_of_succ_le_succ hfuel) (fun i hi => ?_) ?_
      · rw [shift]
        exact hgo (i + 1) (Nat.succ_lt_succ hi)
      · rw [shift]
        exact hstop

/-- A loop goes through its body's script as often as its counter is below the limit. -/
theorem loop {limit : Quantity} {fuel : Nat} (reached : ∃ k, ¬ below limit k)
    (hx : 0 < rounds limit → Follows x a) (hfuel : rounds limit ≤ fuel) :
    Follows (TurtleLogo.repeatBelow limit x fuel 0.0) (a.times (rounds limit)) := by
  obtain ⟨go, stop⟩ := rounds_spec reached
  refine repeatBelow (k := 0) hx hfuel (fun i hi => ?_) ?_
  · rw [Nat.zero_add]
    exact go i hi
  · rw [Nat.zero_add]
    exact stop

end Follows

/-! ## Commands

By mutual induction on the tree, for all numbers of rounds that are enough.  The
bound is the largest of those that the parts ask for. -/

theorem Timer.sleepFor_follows (timer : Timer) (amount : Quantity) :
    Follows (timer.sleepFor amount : Action σ Unit) (timer.script amount) := by
  unfold Timer.sleepFor
  refine Follows.lift (fun millis hm => ?_) (fun f hf => ?_)
  · rw [Timer.script, hm]
    dsimp only
    by_cases finite : Decimal.isFinite millis = true
    · rw [if_pos finite, if_neg (not_not.2 finite), Timer.sleep]
      by_cases short : timer.measures (pauseSeconds millis) = true
      · rw [if_pos short, if_pos short]
        exact Follows.slept _
      · rw [if_neg short, if_neg short]
        exact Follows.fail _
    · rw [if_neg finite, if_pos finite]
      exact Follows.fail _
  · rw [Timer.script, hf]

theorem Order.run_follows (t : Turtle σ) (timer : Timer) (amount : Quantity) (what : Order) :
    Follows (what.run t.screened.observed timer amount) (what.script timer amount) := by
  cases what with
  | forward => exact Follows.asked t _ _ (t.move amount)
  | backward => exact Follows.asked t _ _ (t.move amount.neg)
  | right => exact Follows.asked t _ _ (t.rotate amount)
  | left => exact Follows.asked t _ _ (t.rotate amount.neg)
  | sleep => exact timer.sleepFor_follows amount

theorem Gesture.run_follows (t : Turtle σ) (line : Option Int) (what : Gesture) :
    Follows (what.run t.screened.observed line) what.script := by
  cases what with
  | penUp => exact Follows.asked t _ _ (t.penUp true)
  | penDown => exact Follows.asked t _ _ (t.penUp false)
  | stop => exact Follows.note _

theorem Follows.after_note {x : Action σ Unit} {a : Script} (n : Log.Note) (h : Follows x a) :
    Follows (do Action.note n; x) a :=
  (Follows.note n).seq fun _ => h

mutual
theorem Command.run_follows (timer : Timer) (env : Environment) :
    ∀ c : Command, c.Halts timer env → ∃ bound, ∀ fuel ≥ bound,
      ∀ {σ : Type} (t : Turtle σ),
      Follows (c.run t.screened.observed timer env fuel) (c.script timer env)
  | .order what operand line, _ => by
      refine ⟨0, fun fuel _ σ t => ?_⟩
      rw [Command.run, Command.script]
      refine Follows.after_note _ (Follows.lift (fun amount h => ?_) (fun f h => ?_))
      · rw [h]
        exact what.run_follows t timer amount
      · rw [h]
  | .gesture what line, _ => by
      refine ⟨0, fun fuel _ σ t => ?_⟩
      rw [Command.run, Command.script]
      exact Follows.after_note _ (what.run_follows t line)
  | .loop times body line, halts => by
      cases count : times.evalNumber env "REPEAT count" with
      | error f =>
          refine ⟨0, fun fuel _ σ t => ?_⟩
          rw [Command.run, Command.script, count]
          exact Follows.after_note _ (Follows.fail f)
      | ok limit =>
          rw [Command.Halts] at halts
          obtain ⟨reached, bodyHalts⟩ := halts limit count
          -- A body that is never run need not halt, and asks for no fuel.
          by_cases go : below limit 0
          · obtain ⟨bound, follows⟩ := runAll_follows timer env body (bodyHalts go)
            refine ⟨max bound (rounds limit), fun fuel hfuel σ t => ?_⟩
            rw [Command.run, Command.script, count]
            have forRounds : rounds limit ≤ fuel := le_of_max_le_right hfuel
            refine Follows.after_note _ (Follows.loop reached (fun _ => ?_) forRounds)
            exact follows fuel (le_of_max_le_left hfuel) t
          · have noRounds : rounds limit = 0 := Nat.sInf_eq_zero.2 (.inl go)
            refine ⟨0, fun fuel _ σ t => ?_⟩
            rw [Command.run, Command.script, count]
            refine Follows.after_note _ (Follows.loop reached (fun rounded => ?_) (by omega))
            omega
  | .comment text line, _ => by
      refine ⟨0, fun fuel _ σ t => ?_⟩
      rw [Command.run, Command.script]
      exact Follows.note _
  | .unknown line, _ => by
      refine ⟨0, fun fuel _ σ t => ?_⟩
      rw [Command.run, Command.script]
      exact Follows.after_note _ (Follows.fail _)
  | .stray typeName rendering, _ => by
      refine ⟨0, fun fuel _ σ t => ?_⟩
      rw [Command.run, Command.script]
      exact Follows.fail _

theorem runAll_follows (timer : Timer) (env : Environment) :
    ∀ cs : List Command, HaltsAll timer env cs → ∃ bound, ∀ fuel ≥ bound,
      ∀ {σ : Type} (t : Turtle σ),
      Follows (runAll t.screened.observed timer env fuel cs) (scriptAll timer env cs)
  | [], _ => by
      refine ⟨0, fun fuel _ σ t => ?_⟩
      rw [runAll, scriptAll]
      exact Follows.pure
  | c :: cs, halts => by
      rw [HaltsAll] at halts
      obtain ⟨first, first_follows⟩ := c.run_follows timer env halts.1
      by_cases goesOn : (c.script timer env).ending = .ok ()
      · obtain ⟨rest, rest_follows⟩ := runAll_follows timer env cs (halts.2 goesOn)
        refine ⟨max first rest, fun fuel hfuel σ t => ?_⟩
        rw [runAll, scriptAll]
        have head := (first_follows fuel (le_of_max_le_left hfuel) t).mapFailure c.line
        exact head.seq fun _ => rest_follows fuel (le_of_max_le_right hfuel) t
      · refine ⟨first, fun fuel hfuel σ t => ?_⟩
        rw [runAll, scriptAll]
        have head := (first_follows fuel hfuel t).mapFailure c.line
        exact head.seq fun ok => absurd (Script.ok_of_on_ok ok) goesOn
end

/-! ## Programs

Wrapping the variables comes first, and then the run is that of a list of
commands. -/

/-- Variables that can be used make no other difference to a program than their environment. -/
theorem Program.run_of_wrapped {vars : List (String × Given)} {env : Environment}
    (wraps : Environment.ofGiven vars = .ok env) (t : Turtle σ) (timer : Timer) (fuel : Nat)
    (p : Program) : p.run t timer vars fuel = runAll t timer env fuel p := by
  cases p with
  | nil => rw [Program.run, runAll]; rfl
  | cons c cs =>
      rw [Program.run, wraps]
      rfl

theorem Turtle.trial_obeys {vars : List (String × Given)} {env : Environment} {timer : Timer}
    {p : Program} (wraps : Environment.ofGiven vars = .ok env) (halts : HaltsAll timer env p) :
    ∃ bound, ∀ fuel ≥ bound, ∀ {σ : Type} (t : Turtle σ) (s : Scene σ),
      Obeys (scriptAll timer env p) (t.trial timer vars fuel p s).done
        (t.trial timer vars fuel p s).result := by
  obtain ⟨bound, follows⟩ := runAll_follows timer env p halts
  refine ⟨bound, fun fuel hfuel σ t s => ?_⟩
  obtain ⟨added, hj, ho⟩ := follows fuel hfuel t ⟨s, []⟩
  rw [List.append_nil] at hj
  rw [← hj, ← Program.run_of_wrapped wraps] at ho
  exact ho

/-- A run of a program goes through its script from the front, on whatever turtle, to the end or
to the first call that fails; so of two turtles one is asked for what the other is asked first.
And a loop whose script fails does so in its first round. -/
theorem run_follows_script {vars : List (String × Given)} {env : Environment} {timer : Timer}
    {p : Program} (wraps : Environment.ofGiven vars = .ok env) (halts : HaltsAll timer env p) :
    (∃ bound, ∀ fuel ≥ bound,
      (∀ {σ : Type} (t : Turtle σ) (s : Scene σ),
        Obeys (scriptAll timer env p) (t.trial timer vars fuel p s).done
          (t.trial timer vars fuel p s).result) ∧
      (∀ {σ τ : Type} (t : Turtle σ) (u : Turtle τ) (s : Scene σ) (r : Scene τ),
        (t.trial timer vars fuel p s).asked <+: (u.trial timer vars fuel p r).asked ∨
          (u.trial timer vars fuel p r).asked <+: (t.trial timer vars fuel p s).asked)) ∧
    ∀ {times : Expr} {body : List Command} {line : Option Int} {limit : Quantity} {f : Failure},
      times.evalNumber env "REPEAT count" = .ok limit →
      ((Command.loop times body line).script timer env).ending = .error f →
        0 < rounds limit ∧
          (Command.loop times body line).script timer env = scriptAll timer env body := by
  obtain ⟨bound, obeys⟩ := Turtle.trial_obeys wraps halts
  refine ⟨⟨bound, fun fuel hfuel => ⟨fun t s => obeys fuel hfuel t s, fun t u s r => ?_⟩⟩, ?_⟩
  · have one := (obeys fuel hfuel t s).is_initial
    have other := (obeys fuel hfuel u r).is_initial
    exact List.prefix_or_prefix_of_prefix one other
  · intro times body line limit f count failing
    rw [Command.script, count] at failing ⊢
    exact Script.times_of_error failing

/-- A program that goes back twice and then comes to a loop whose count is a string. -/
def countedByString : Program :=
  [.loop (.ident "n") [.order .backward (.ident "size") (some 2)] (some 1), .gesture .stop (some 3),
    .loop (.string "x") [.gesture .penDown (some 5)] (some 4), .gesture .penUp (some 6)]

theorem run_follows_script_counted_by_string :
    let vars : List (String × Given) :=
      [("Size", .scalar (.number (.whole 8))), ("N", .scalar (.number (.whole 2)))]
    let env : Environment := [("size", .number (.whole 8)), ("n", .number (.whole 2))]
    Environment.ofGiven vars = .ok env ∧ HaltsAll .clock env countedByString ∧
      rounds (.whole 2) = 2 ∧
      ∃ bound, ∀ fuel ≥ bound, ∀ {σ : Type} (t : Turtle σ) (s : Scene σ),
        let r := t.trial .clock vars fuel countedByString s
        Obeys
          ⟨[(.call (.move (.whole (-8))), some 2), (.call (.move (.whole (-8))), some 2)],
            .error (.error ⟨.notANumber "REPEAT count" .string, some 4⟩)⟩ r.done r.result := by
  intro vars env
  have wraps : Environment.ofGiven vars = .ok env := rfl
  have twice : rounds (.whole 2) = 2 := by
    refine rounds_eq (fun k hk => ?_) (by decide +kernel)
    match k, hk with
    | 0, _ => decide +kernel
    | 1, _ => decide +kernel
  have halts : HaltsAll .clock env countedByString := by
    refine ⟨?_, fun _ => ⟨trivial, fun _ => ⟨?_, ?_⟩⟩⟩
    · intro limit count
      cases count
      exact ⟨⟨2, by decide +kernel⟩, fun _ => ⟨trivial, fun _ => trivial⟩⟩
    · intro limit count
      exact nomatch count
    · intro ending
      exact nomatch ending
  have loop : scriptAll .clock env countedByString =
      (((scriptAll .clock env [.order .backward (.ident "size") (some 2)]).times
          (rounds (.whole 2))).on (some 1)).append
        (scriptAll .clock env countedByString.tail) := rfl
  rw [twice] at loop
  obtain ⟨⟨bound, obeys⟩, _⟩ := run_follows_script wraps halts
  refine ⟨wraps, halts, twice, bound, fun fuel hfuel _ t s => ?_⟩
  have follows := (obeys fuel hfuel).1 t s
  rw [loop] at follows
  exact follows

end TurtleLogo
