/-
# `TurtleLogo.Proofs.Robot.Stepping` — steppers whose lines may fail

A failing line ends an advance in the middle of a row: the phase has gone on by then,
and the lines behind the failing one are as they were.  So what a stepper has been
through is a list of *attempts*, each of which counts for the phase, and of which
those that are part of a longer move are followed by a pause if they complete:

    Wrote switch row lines j r lines' j'  the row is written to the lines up to the first failure
    Tried switch a m j m' j'              the stepper m makes the attempt a
    Course switch as m j m' j'            it makes the attempts as, one after the other
    use.Makes o                           what is asked for comes to the attempts and the reply of o

A use of a stepper is a course (`Use.run_makes`), and so is a whole history of uses
(`each_makes`); phases and pauses are then counted along courses.
-/
import Mathlib.Data.List.Forall2
import TurtleLogo.Proofs.Robot.Steering

namespace TurtleLogo.Robot.Stepper

variable {ℓ σ : Type} {switch : Switch ℓ}

/-! ## Attempts

An attempt counts for the phase from the moment it begins; whether it completes is
a matter of its lines. -/

/-- An attempt to advance: its direction, the phase reached, what came of it, and whether a pause
followed. -/
structure Attempt where
  direction : Int
  phase : Nat
  reply : Reply Unit
  rested : Bool

/-- `Wrote switch row lines j r lines' j'`: the lines are switched once each, in order, to their
values in the row, either all of them or up to the first one that fails.  The lines behind that one
are not touched. -/
inductive Wrote (switch : Switch ℓ) :
    List Bool → List ℓ → Journal → Reply Unit → List ℓ → Journal → Prop
  | all {row : List Bool} {lines lines' : List ℓ} {j j' : Journal} :
      Switched switch row lines j lines' j' → Wrote switch row lines j (.ok ()) lines' j'
  | upTo {before after : List Bool} {value : Bool} {front front' behind : List ℓ} {line line' : ℓ}
      {j j₁ j' : Journal} {e : Failure} : Switched switch before front j front' j₁ →
      switch value ⟨line, j₁⟩ = (.error e, ⟨line', j'⟩) →
      Wrote switch (before ++ value :: after) (front ++ line :: behind) j (.error e)
        (front' ++ line' :: behind) j'

/-- `Tried switch a m j m' j'`: the stepper `m` goes on as far as the attempt `a` says, and writes the
row of the phase reached to its lines. -/
structure Tried (switch : Switch ℓ) (a : Attempt) (m : Stepper ℓ) (j : Journal) (m' : Stepper ℓ)
    (j' : Journal) : Prop where
  turned : Turned m a.direction m'
  phase : m'.phase = a.phase
  delay : m'.delay = m.delay
  written : ∃ row, m.pattern[a.phase]? = some row ∧ Wrote switch row m.lines j a.reply m'.lines j'

/-- The journal after an attempt and the pause that may follow. -/
def Attempt.rest (a : Attempt) (delay : Quantity) (j : Journal) : Journal :=
  if a.rested then .paused delay :: j else j

/-- `Course switch as m j m' j'`: the stepper `m` makes the attempts `as`, one after the other. -/
inductive Course (switch : Switch ℓ) :
    List Attempt → Stepper ℓ → Journal → Stepper ℓ → Journal → Prop
  | nil {m : Stepper ℓ} {j : Journal} : Course switch [] m j m j
  | cons {a : Attempt} {as : List Attempt} {m m₁ m' : Stepper ℓ} {j j₁ j' : Journal} :
      Tried switch a m j m₁ j₁ → Course switch as m₁ (a.rest m₁.delay j₁) m' j' →
      Course switch (a :: as) m j m' j'

theorem Course.append {as bs : List Attempt} {m m₁ m' : Stepper ℓ} {j j₁ j' : Journal}
    (h : Course switch as m j m₁ j₁) (h' : Course switch bs m₁ j₁ m' j') :
    Course switch (as ++ bs) m j m' j' := by
  induction h with
  | nil => exact h'
  | cons tried _ ih => exact .cons tried (ih h')

/-- A course can be stopped after any of its attempts. -/
theorem Course.split {as bs : List Attempt} {m m' : Stepper ℓ} {j j' : Journal}
    (h : Course switch (as ++ bs) m j m' j') :
    ∃ m₁ j₁, Course switch as m j m₁ j₁ ∧ Course switch bs m₁ j₁ m' j' := by
  induction as generalizing m j with
  | nil => exact ⟨m, j, .nil, h⟩
  | cons a as ih =>
      cases h with
      | cons tried course =>
          obtain ⟨m₁, j₁, first, second⟩ := ih course
          exact ⟨m₁, j₁, .cons tried first, second⟩

/-! ## Phases along a course

The phase is a sum modulo the length of the pattern, so it can be told at every
attempt by the directions up to it. -/

theorem Wrote.length_eq {row : List Bool} {lines lines' : List ℓ} {j j' : Journal} {r : Reply Unit}
    (h : Wrote switch row lines j r lines' j') : lines'.length = lines.length := by
  cases h with
  | all done => exact done.length_eq
  | upTo done _ => rw [List.length_append, List.length_append, done.length_eq, List.length_cons,
      List.length_cons]

theorem Tried.sound {a : Attempt} {m m' : Stepper ℓ} {j j' : Journal}
    (h : Tried switch a m j m' j') (sound : m.Sound) : m'.Sound where
  phase := by
    obtain ⟨row, hrow, -⟩ := h.written
    rw [h.turned.pattern, h.phase]
    exact (List.getElem?_eq_some_iff.mp hrow).1
  rows := by
    obtain ⟨row, -, written⟩ := h.written
    rw [h.turned.pattern, written.length_eq]
    exact sound.rows

def total (as : List Attempt) : Int :=
  (as.map Attempt.direction).sum

/-- The attempts count for the phase, whether they complete or not. -/
theorem Course.turned {as : List Attempt} {m m' : Stepper ℓ} {j j' : Journal}
    (h : Course switch as m j m' j') : m.Sound → m'.Sound ∧ Turned m (total as) m' := by
  induction h with
  | nil =>
      intro sound
      exact ⟨sound, .zero sound⟩
  | cons tried _ ih =>
      intro sound
      obtain ⟨sound', turned⟩ := ih (tried.sound sound)
      exact ⟨sound', tried.turned.trans turned⟩

/-- The phase that an attempt reaches is the sum of all directions up to and including its own. -/
theorem Course.phase {as before after : List Attempt} {a : Attempt} {m m' : Stepper ℓ}
    {j j' : Journal} (h : Course switch as m j m' j') (sound : m.Sound)
    (has : as = before ++ a :: after) :
    a.phase < m.pattern.length ∧
      (a.phase : Int) = (m.phase + total (before ++ [a])) % m.pattern.length := by
  rw [has, List.append_cons] at h
  obtain ⟨m₁, j₁, course, -⟩ := h.split
  obtain ⟨sound₁, turned⟩ := course.turned sound
  have reached : m₁.phase = a.phase := by
    obtain ⟨m₂, j₂, -, last⟩ := course.split
    cases last with
    | cons tried rest =>
        cases rest
        exact tried.phase
  rw [← reached, ← turned.pattern]
  exact ⟨sound₁.phase, turned.pattern ▸ turned.phase⟩

/-! ## Pauses along a course

Lines that do not pause themselves leave the pauses of the stepper as the only
ones, and each is behind an attempt that completed. -/

/-- What writes no pause to the journal. -/
abbrev Restless {α τ : Type} (x : Action τ α) : Prop :=
  x.Leaves fun s => pauses s.journal

theorem Wrote.pauses_eq (restless : ∀ on, Restless (switch on)) {row : List Bool}
    {lines lines' : List ℓ} {j j' : Journal} {r : Reply Unit}
    (h : Wrote switch row lines j r lines' j') : pauses j' = pauses j := by
  have one : ∀ {value : Bool} {line : ℓ} {j : Journal} {r : Reply Unit} {s' : Scene ℓ},
      switch value ⟨line, j⟩ = (r, s') → pauses s'.journal = pauses j := by
    intro value line j r s' hswitch
    have left : pauses (switch value ⟨line, j⟩).2.journal = pauses j := restless value ⟨line, j⟩
    rw [hswitch] at left
    exact left
  have many : ∀ {row : List Bool} {lines lines' : List ℓ} {j j' : Journal},
      Switched switch row lines j lines' j' → pauses j' = pauses j := by
    intro row lines lines' j j' hs
    induction hs with
    | nil => rfl
    | cons hswitch _ ih => exact ih.trans (one hswitch)
  cases h with
  | all done => exact many done
  | upTo done failed => exact (one failed).trans (many done)

/-- There are as many pauses as attempts that are followed by one. -/
theorem Course.pauses_eq (restless : ∀ on, Restless (switch on)) {as : List Attempt}
    {m m' : Stepper ℓ} {j j' : Journal} (h : Course switch as m j m' j') :
    pauses j' = List.replicate (as.countP Attempt.rested) m.delay ++ pauses j := by
  induction h with
  | nil => rfl
  | @cons a as m m₁ m' j j₁ j' tried _ ih =>
      obtain ⟨row, -, written⟩ := tried.written
      have before := written.pauses_eq restless
      rw [ih, tried.delay, Attempt.rest]
      cases hrested : a.rested with
      | true =>
          have paused : pauses (.paused m.delay :: j₁) = m.delay :: pauses j := by
            rw [← before]
            rfl
          rw [List.countP_cons_of_pos hrested, if_pos rfl, paused, List.replicate_succ',
            List.append_assoc]
          rfl
      | false =>
          rw [List.countP_cons_of_neg (by rw [hrested]; exact Bool.false_ne_true),
            if_neg Bool.false_ne_true, before]

/-! ## What the uses of a stepper come to

A use is a number of attempts in one direction.  The recursion of the stepper
gives the attempts one by one, and the first that fails is the last. -/

inductive Use where
  | step (n : Int)
  | one (direction : Int)
  | forward
  | backward

structure Outcome where
  attempts : List Attempt
  reply : Reply Unit

/-- `Stepped d n o`: there are `n` attempts in the direction `d`, all of which complete, or fewer of
them and then one that fails, which is the last.  Those that complete are followed by a pause. -/
structure Stepped (d : Int) (n : Nat) (o : Outcome) : Prop where
  alike : ∀ a ∈ o.attempts, a.direction = d ∧ a.rested = a.reply.isOk
  ends : (o.attempts.length = n ∧ o.reply = .ok () ∧ ∀ a ∈ o.attempts, a.reply = .ok ()) ∨
    ∃ before last e, o.attempts = before ++ [last] ∧ before.length < n ∧ o.reply = .error e ∧
      last.reply = .error e ∧ ∀ a ∈ before, a.reply = .ok ()

namespace Use

def run (switch : Switch ℓ) : Use → Action (Stepper ℓ) Unit
  | .step n => Stepper.step switch n
  | .one direction => Stepper.advance switch direction
  | .forward => Stepper.forward switch
  | .backward => Stepper.backward switch

/-- `use.Makes o`: what is asked for comes to the attempts and the reply of `o`. -/
def Makes : Use → Outcome → Prop
  | .step n, o => Stepped (if n < 0 then -1 else 1) n.natAbs o
  | .one d, o => ∃ phase, o.attempts = [⟨d, phase, o.reply, false⟩]
  | .forward, o => Stepped 1 1 o
  | .backward, o => Stepped (-1) 1 o

end Use

theorem stepped_zero (d : Int) : Stepped d 0 ⟨[], .ok ()⟩ where
  alike := List.forall_mem_nil _
  ends := .inl ⟨rfl, rfl, List.forall_mem_nil _⟩

/-- An attempt fails, and none follows. -/
theorem stepped_of_failed (d : Int) (n phase : Nat) (e : Failure) :
    Stepped d (n + 1) ⟨[⟨d, phase, .error e, false⟩], .error e⟩ where
  alike := List.forall_mem_singleton.mpr ⟨rfl, rfl⟩
  ends := .inr ⟨[], _, e, rfl, Nat.succ_pos n, rfl, rfl, List.forall_mem_nil _⟩

/-- An attempt completes, and the others follow. -/
theorem Stepped.next {d : Int} {n : Nat} {o : Outcome} (h : Stepped d n o) (phase : Nat) :
    Stepped d (n + 1) ⟨⟨d, phase, .ok (), true⟩ :: o.attempts, o.reply⟩ where
  alike := List.forall_mem_cons.mpr ⟨⟨rfl, rfl⟩, h.alike⟩
  ends := by
    rcases h.ends with ⟨hlength, hreply, hall⟩ | ⟨before, last, e, has, hlength, hreply, hlast, hall⟩
    · exact .inl ⟨congrArg (· + 1) hlength, hreply, List.forall_mem_cons.mpr ⟨rfl, hall⟩⟩
    · refine .inr ⟨_ :: before, last, e, congrArg (_ :: ·) has, ?_, hreply, hlast,
        List.forall_mem_cons.mpr ⟨rfl, hall⟩⟩
      exact Nat.succ_lt_succ hlength

/-- A row that is as long as the lines are many is written up to the first failure. -/
theorem writeRow_wrote : ∀ {row : List Bool} {lines lines' : List ℓ} {j j' : Journal}
    {r : Reply Unit}, row.length = lines.length → writeRow switch row lines j = (r, lines', j') →
      Wrote switch row lines j r lines' j'
  | _, _, _, _, _, .ok (), hlength, h => .all (switched_of_writeRow hlength h)
  | [], [], _, _, _, .error e, _, h => nomatch h
  | [], _ :: _, _, _, _, .error _, hlength, _ => nomatch hlength
  | _ :: _, [], _, _, _, .error _, hlength, _ => nomatch hlength
  | value :: row, line :: lines, lines', j, j', .error e, hlength, h => by
      rw [writeRow] at h
      rcases hline : switch value ⟨line, j⟩ with ⟨f | _, line₁⟩
      · rw [hline] at h
        cases h
        exact .upTo .nil hline
      · rcases hrow : writeRow switch row lines line₁.journal with ⟨r, lines₁, j₁⟩
        rw [hline] at h
        simp only [hrow] at h
        cases h
        cases writeRow_wrote (Nat.succ.inj hlength) hrow with
        | upTo done failed => exact .upTo (.cons hline done) failed

theorem advance_tried {d : Int} {m m' : Stepper ℓ} {j j' : Journal} {r : Reply Unit}
    (sound : m.Sound) (h : advance switch d ⟨m, j⟩ = (r, ⟨m', j'⟩)) (rested : Bool) :
    Tried switch ⟨d, m'.phase, r, rested⟩ m j m' j' := by
  obtain ⟨row, hrow, hlength, run⟩ := advance_eq switch sound d j
  rcases hwrite : writeRow switch row m.lines j with ⟨r₁, lines, j₁⟩
  rw [run, hwrite] at h
  cases h
  refine ⟨⟨rfl, phaseAfter_eq sound d⟩, rfl, rfl, row, hrow, writeRow_wrote hlength hwrite⟩

theorem advances_makes {d : Int} : ∀ {n : Nat} {m : Stepper ℓ} {j : Journal}, m.Sound →
    ∃ as, Course switch as m j (advances switch d n ⟨m, j⟩).2.state
        (advances switch d n ⟨m, j⟩).2.journal ∧
      Stepped d n ⟨as, (advances switch d n ⟨m, j⟩).1⟩
  | 0, m, j, _ => ⟨[], .nil, stepped_zero d⟩
  | n + 1, m, j, sound => by
      rcases hfirst : advance switch d ⟨m, j⟩ with ⟨e | _, m₁, j₁⟩
      · have run : advances switch d (n + 1) ⟨m, j⟩ = (.error e, ⟨m₁, j₁⟩) :=
          Action.bind_of_error hfirst _
        rw [run]
        exact ⟨_, .cons (advance_tried sound hfirst false) .nil, stepped_of_failed d n m₁.phase e⟩
      · have run : advances switch d (n + 1) ⟨m, j⟩ =
            advances switch d n ⟨m₁, .paused m₁.delay :: j₁⟩ := Action.bind_of_ok hfirst _
        have tried := advance_tried sound hfirst true
        obtain ⟨as, course, stepped⟩ :=
          advances_makes (j := .paused m₁.delay :: j₁) (tried.sound sound)
        rw [run]
        exact ⟨_, .cons tried course, stepped.next m₁.phase⟩

variable (switch) in
/-- What is asked of a stepper, it does in attempts. -/
theorem Use.run_makes (use : Use) {m : Stepper ℓ} (sound : m.Sound) (j : Journal) :
    ∃ as, Course switch as m j (use.run switch ⟨m, j⟩).2.state (use.run switch ⟨m, j⟩).2.journal ∧
      use.Makes ⟨as, (use.run switch ⟨m, j⟩).1⟩ := by
  cases use with
  | step n => exact advances_makes sound
  | one d =>
      have tried := advance_tried sound (rfl : advance switch d ⟨m, j⟩ = _) false
      exact ⟨_, .cons tried .nil, _, rfl⟩
  | forward => exact advances_makes sound
  | backward => exact advances_makes sound

variable (switch) in
/-- So it does with everything that it is asked for, whatever comes of it. -/
theorem each_makes : ∀ (uses : List Use) {m : Stepper ℓ} (_ : m.Sound) (j : Journal),
    let run := Action.each (uses.map (Use.run switch)) ⟨m, j⟩
    ∃ outs : List Outcome, List.Forall₂ Use.Makes uses outs ∧ run.1 = outs.map Outcome.reply ∧
      Course switch (outs.flatMap Outcome.attempts) m j run.2.state run.2.journal
  | [], m, _, j => ⟨[], .nil, rfl, .nil⟩
  | use :: uses, m, sound, j => by
      obtain ⟨as, course, makes⟩ := use.run_makes switch sound j
      obtain ⟨outs, all, replies, courses⟩ := each_makes uses (course.turned sound).1
        (use.run switch ⟨m, j⟩).2.journal
      refine ⟨⟨as, (use.run switch ⟨m, j⟩).1⟩ :: outs, .cons makes all, ?_, ?_⟩
      · exact congrArg (_ :: ·) replies
      · rw [List.flatMap_cons]
        exact course.append courses

/-- The phase of a stepper counts its attempts.  Whatever is asked of a stepper that could be made,
and whichever lines fail, it does in attempts: as many as it is asked for and in that direction,
unless one fails, after which none follows.  Each attempt writes the row of the phase that it reaches
to the lines, in order and once each, up to the first one that fails.  At all times the phase is one
of the pattern and the sum of the directions of all attempts so far, modulo the length of the
pattern.  If the lines themselves do not pause, then there are as many pauses as completed attempts
that are part of a move. -/
theorem phase_counts_attempts (switch : Switch ℓ) {pattern : Pattern} {delay : Quantity}
    {lines : List ℓ} {m : Stepper ℓ} {s s' : Scene σ}
    (made : make pattern delay lines s = (.ok m, s')) (uses : List Use) (j : Journal) :
    let run := Action.each (uses.map (Use.run switch)) ⟨m, j⟩
    ∃ outs : List Outcome, List.Forall₂ Use.Makes uses outs ∧ run.1 = outs.map Outcome.reply ∧
      let as := outs.flatMap Outcome.attempts
      Course switch as m j run.2.state run.2.journal ∧
      (∀ before a after, as = before ++ a :: after → a.phase < pattern.length ∧
        (a.phase : Int) = total (before ++ [a]) % pattern.length) ∧
      run.2.state.phase < pattern.length ∧
      (run.2.state.phase : Int) = total as % pattern.length ∧
      ((∀ on, Restless (switch on)) →
        pauses run.2.journal = List.replicate (as.countP Attempt.rested) delay ++ pauses j) := by
  intro run
  have sound := make_sound made
  obtain ⟨-, rfl⟩ := make_eq_ok made
  obtain ⟨outs, makes, replies, course⟩ := each_makes switch uses sound j
  obtain ⟨sound', turned⟩ := course.turned sound
  refine ⟨outs, makes, replies, course, fun before a after has => ?_, ?_, ?_, ?_⟩
  · have reached := course.phase sound has
    rwa [Int.natCast_zero, Int.zero_add] at reached
  · have bound := sound'.phase
    rwa [turned.pattern] at bound
  · have phase := turned.phase
    rwa [Int.natCast_zero, Int.zero_add] at phase
  · exact fun restless => course.pauses_eq restless

theorem benchLine_restless (robot : Nat) (on : Bool) : Restless (BenchLine.switch robot on) := by
  intro s
  simp only [BenchLine.switch, Gauge.act]
  split
  · rfl
  · rfl

/-- The second of four lines can be switched twice. -/
def limping : Stepper BenchLine :=
  ⟨standardPattern, .real 0.002,
    benchLines .left [Schedule.never, Schedule.after 2, Schedule.never, Schedule.never], 0⟩

def limpingUses : List Use :=
  [.step 2, .one (-5), .step (-3), .backward]

def limpingRun : List (Reply Unit) × Scene (Stepper BenchLine) :=
  Action.each (limpingUses.map (Use.run (BenchLine.switch 0))) ⟨limping, []⟩

/-- Two attempts complete, and the other three count for the phase all the same. -/
theorem phase_counts_attempts_limping :
    limpingRun.1.map Except.isOk = [true, false, false, false] ∧
    limpingRun.2.state.phase = 4 ∧ (pauses limpingRun.2.journal).length = 2 ∧
    ∃ outs : List Outcome, List.Forall₂ Use.Makes limpingUses outs ∧
      limpingRun.1 = outs.map Outcome.reply ∧
      (4 : Int) = total (outs.flatMap Outcome.attempts) % 9 ∧
      (outs.flatMap Outcome.attempts).countP Attempt.rested = 2 := by
  have made : make standardPattern limping.delay limping.lines ⟨(), []⟩ =
      (.ok limping, ⟨(), [.noted (.stepperReady 4 9)]⟩) := rfl
  have counted := phase_counts_attempts (BenchLine.switch 0) made limpingUses []
  rw [← limpingRun] at counted
  obtain ⟨outs, makes, replies, -, -, -, phase, rests⟩ := counted
  have reached : limpingRun.2.state.phase = 4 := by decide +kernel
  have paused : (pauses limpingRun.2.journal).length = 2 := by decide +kernel
  rw [reached] at phase
  rw [rests (benchLine_restless 0), List.length_append, List.length_replicate] at paused
  refine ⟨by decide +kernel, reached, by decide +kernel, outs, makes, replies, phase, paused⟩

end TurtleLogo.Robot.Stepper
