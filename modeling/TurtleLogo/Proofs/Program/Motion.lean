/-
# `TurtleLogo.Proofs.Program.Motion` — where a program leaves the turtle

A program that succeeds leaves the bare turtle where the calls it has made leave
it, and these are the calls that the screened and observed turtle writes down.
The two runs are followed side by side:

    Recorded x y    the run `y` ends as `x` does, in the same pose, and if they succeed this
                    is the pose after the calls that `y` has written down

What the calls leave is then a matter of three histories that know nothing of
each other.
-/
import TurtleLogo.Program.Parse
import TurtleLogo.Proofs.Program.Tracking
import TurtleLogo.Proofs.Turtle.History

namespace TurtleLogo

variable {α : Type}

def Deed.calls (deeds : List Deed) : List Call :=
  deeds.filterMap fun
    | .call c => some c
    | .sleep _ => none

/-- The calls of a journal, in the order in which they were made. -/
def madeCalls (j : Journal) : List Call :=
  Deed.calls ((issued j).map Prod.fst)

theorem madeCalls_append (later earlier : Journal) :
    madeCalls (later ++ earlier) = madeCalls earlier ++ madeCalls later := by
  simp [madeCalls, Deed.calls, issued_append]

theorem madeCalls_of_deedless {e : Event} (h : e.deed? = none) : madeCalls [e] = [] := by
  simp [madeCalls, Deed.calls, issued, Journal.events, h]

/-- `Recorded x y`: the bare turtle does `x` and the screened and observed one `y`; they end alike, in
the same pose, and if they succeed this is the pose after the calls that `y` has written down. -/
def Recorded (x : Action Pose α) (y : Action (Scene Pose) α) : Prop :=
  ∀ (s : Scene Pose) (inner j : Journal), ∃ added,
    y ⟨⟨s.state, inner⟩, j⟩ = ((x s).1, ⟨⟨(x s).2.state, inner⟩, added ++ j⟩) ∧
    ∀ a, (x s).1 = .ok a →
      (∀ c ∈ madeCalls added, c.InReals) ∧ (x s).2.state = replay (madeCalls added) s.state

namespace Recorded

theorem pure (a : α) : Recorded (Pure.pure a) (Pure.pure a) :=
  fun _ _ _ => ⟨[], rfl, fun _ _ => ⟨List.forall_mem_nil _, rfl⟩⟩

theorem fail (f : Failure) : Recorded (Action.fail f : Action Pose α) (Action.fail f) :=
  fun _ _ _ => ⟨[], rfl, fun _ h => nomatch h⟩

theorem emit {e : Event} (h : e.deed? = none ∨ ∃ seconds, e = .slept seconds) :
    Recorded (Action.emit e) (Action.emit e) := by
  have uncalled : madeCalls [e] = [] := by
    rcases h with h | ⟨seconds, rfl⟩
    · exact madeCalls_of_deedless h
    · rfl
  refine fun _ _ _ => ⟨[e], rfl, fun _ _ => ?_⟩
  rw [uncalled]
  exact ⟨List.forall_mem_nil _, rfl⟩

theorem bind {β : Type} {x : Action Pose α} {y : Action (Scene Pose) α} {f : α → Action Pose β}
    {g : α → Action (Scene Pose) β} (hx : Recorded x y) (hf : ∀ a, Recorded (f a) (g a)) :
    Recorded (x >>= f) (y >>= g) := by
  intro s inner j
  obtain ⟨added, run, made⟩ := hx s inner j
  rcases hr : x s with ⟨_ | a, mid⟩
  · rw [hr] at run
    rw [Action.bind_of_error hr, Action.bind_of_error run]
    exact ⟨added, rfl, fun _ h => nomatch h⟩
  · rw [hr] at run made
    obtain ⟨reals, pose⟩ := made a rfl
    obtain ⟨later, run', made'⟩ := hf a mid inner (added ++ j)
    rw [Action.bind_of_ok hr, Action.bind_of_ok run]
    refine ⟨later ++ added, by rw [run', List.append_assoc], fun b hb => ?_⟩
    obtain ⟨reals', pose'⟩ := made' b hb
    rw [madeCalls_append, replay_append, ← pose]
    exact ⟨List.forall_mem_append.mpr ⟨reals, reals'⟩, pose'⟩

theorem lift_bind {r : Reply α} {β : Type} {f : α → Action Pose β} {g : α → Action (Scene Pose) β}
    (h : ∀ a, Recorded (f a) (g a)) : Recorded (Action.lift r >>= f) (Action.lift r >>= g) := by
  cases r with
  | ok a => exact h a
  | error e => exact fail e

theorem mapFailure {x : Action Pose α} {y : Action (Scene Pose) α} (h : Recorded x y)
    (k : Failure → Failure) : Recorded (Action.mapFailure k x) (Action.mapFailure k y) := by
  intro s inner j
  obtain ⟨added, run, made⟩ := h s inner j
  refine ⟨added, ?_⟩
  rcases hr : x s with ⟨_ | a, after⟩ <;> rw [hr] at run made <;>
    simp only [Action.mapFailure, hr, run, true_and]
  · intro _ hb
    cases hb
  · exact fun _ _ => made a rfl

theorem repeatBelow {x : Action Pose Unit} {y : Action (Scene Pose) Unit} (h : Recorded x y)
    (limit : Quantity) (fuel : Nat) : ∀ counter : Float,
      Recorded (repeatBelow limit x fuel counter) (repeatBelow limit y fuel counter) := by
  induction fuel with
  | zero =>
      intro counter
      rw [TurtleLogo.repeatBelow, TurtleLogo.repeatBelow]
      split
      · exact fail _
      · exact pure ()
  | succ fuel ih =>
      intro counter
      rw [TurtleLogo.repeatBelow, TurtleLogo.repeatBelow]
      split
      · exact h.bind fun _ => ih (counter + 1.0)
      · exact pure ()

/-- What the bare turtle is asked for is written down as the call that it is. -/
theorem asked (c : Call) (answer : α → Answer) (reply : Pose → Reply α) {x : Action Pose α}
    (run : ∀ s, x s = (reply s.state, ⟨c.effect s.state, s.journal⟩))
    (reals : ∀ p a, reply p = .ok a → c.InReals) :
    Recorded (do let _ ← x; Pure.pure ())
      (do let _ ← kinematic.screened.noting c answer x.screened; Pure.pure ()) := by
  refine bind (fun s inner j => ?_) fun _ => pure ()
  let e : Event := .answered c ((reply s.state).map answer) (c.effect s.state)
  have made : madeCalls [e] = [c] := rfl
  refine ⟨[e], ?_, fun a ha => ?_⟩
  · simp only [Turtle.noting, Action.screened, run]
    rfl
  · rw [run] at ha ⊢
    rw [made]
    exact ⟨List.forall_mem_singleton.mpr (reals _ a ha), rfl⟩

/-- So is a step by an amount, which fails if there is no real number for it. -/
theorem stepped (c : Call) (answer : α → Answer) {q : Quantity} (next : Float → Pose → Pose)
    (result : Pose → α) (effect : ∀ p, c.effect p = match q.toFloat with
      | .ok x => next x p
      | .error _ => p) (reals : q.InReals → c.InReals) :
    let step : Action Pose α := fun s =>
      match calculated q.toFloat with
      | .error e => (.error e, s)
      | .ok x => (.ok (result (next x s.state)), ⟨next x s.state, s.journal⟩)
    Recorded (do let _ ← step; Pure.pure ())
      (do let _ ← kinematic.screened.noting c answer step.screened; Pure.pure ()) := by
  intro step
  cases h : q.toFloat with
  | ok x =>
      refine asked c answer (fun p => .ok (result (next x p))) (fun s => ?_) fun _ _ _ => reals ⟨x, h⟩
      simp only [step, h, effect]
      rfl
  | error fault =>
      refine asked c answer (fun _ => .error (.defect (.arithmetic fault))) (fun s => ?_)
        fun _ _ ha => ?_
      · simp only [step, h, effect]
        rfl
      · cases ha

end Recorded

/-! ## Commands

One lemma for each command, and then the two runs are followed along the tree. -/

theorem kinematic_move_recorded (steps : Quantity) :
    Recorded (do let _ ← kinematic.move steps; pure ())
      (do let _ ← kinematic.screened.observed.move steps; pure ()) :=
  .stepped (.move steps) _ (fun x p => p.moved x) (fun p => (p.x, p.y)) (fun _ => rfl) id

theorem kinematic_rotate_recorded (degrees : Quantity) :
    Recorded (do let _ ← kinematic.rotate degrees; pure ())
      (do let _ ← kinematic.screened.observed.rotate degrees; pure ()) :=
  .stepped (.rotate degrees) _ (fun x p => p.rotated x) Pose.heading (fun _ => rfl) id

theorem kinematic_penUp_recorded (up : Bool) :
    Recorded (do let _ ← kinematic.penUp up; pure ())
      (do let _ ← kinematic.screened.observed.penUp up; pure ()) :=
  .asked (.penUp up) _ (fun _ => .ok up) (fun _ => rfl) fun _ _ _ => trivial

theorem Timer.sleepFor_recorded (timer : Timer) (amount : Quantity) :
    Recorded (timer.sleepFor amount) (timer.sleepFor amount) := by
  unfold Timer.sleepFor
  refine .lift_bind fun millis => ?_
  split
  · rw [Timer.sleep, Timer.sleep]
    split
    · exact .emit (.inr ⟨_, rfl⟩)
    · exact .fail _
  · exact .fail _

section Runs

variable (timer : Timer) (env : Environment) (fuel : Nat)

theorem Order.run_recorded (amount : Quantity) (what : Order) :
    Recorded (what.run kinematic timer amount)
      (what.run kinematic.screened.observed timer amount) := by
  cases what with
  | forward => exact kinematic_move_recorded amount
  | backward => exact kinematic_move_recorded amount.neg
  | right => exact kinematic_rotate_recorded amount
  | left => exact kinematic_rotate_recorded amount.neg
  | sleep => exact timer.sleepFor_recorded amount

theorem Gesture.run_recorded (line : Option Int) (what : Gesture) :
    Recorded (what.run kinematic line) (what.run kinematic.screened.observed line) := by
  cases what with
  | penUp => exact kinematic_penUp_recorded true
  | penDown => exact kinematic_penUp_recorded false
  | stop => exact .emit (.inl rfl)

theorem Recorded.after_note (n : Log.Note) {x : Action Pose Unit} {y : Action (Scene Pose) Unit}
    (h : Recorded x y) : Recorded (do Action.note n; x) (do Action.note n; y) :=
  (Recorded.emit (.inl rfl)).bind fun _ => h

mutual
theorem Command.run_recorded : ∀ c : Command,
    Recorded (c.run kinematic timer env fuel) (c.run kinematic.screened.observed timer env fuel)
  | .order what operand line => by
      rw [Command.run, Command.run]
      exact .after_note _ (.lift_bind fun amount => what.run_recorded timer amount)
  | .gesture what line => by
      rw [Command.run, Command.run]
      exact .after_note _ (what.run_recorded line)
  | .loop times body line => by
      rw [Command.run, Command.run]
      exact .after_note _ (.lift_bind fun limit => (runAll_recorded body).repeatBelow limit fuel 0.0)
  | .comment text line => by
      rw [Command.run, Command.run]
      exact .emit (.inl rfl)
  | .unknown line => by
      rw [Command.run, Command.run]
      exact .after_note _ (.fail _)
  | .stray typeName rendering => by
      rw [Command.run, Command.run]
      exact .fail _

theorem runAll_recorded : ∀ cs : List Command,
    Recorded (runAll kinematic timer env fuel cs)
      (runAll kinematic.screened.observed timer env fuel cs)
  | [] => by
      rw [runAll, runAll]
      exact .pure ()
  | c :: cs => by
      rw [runAll, runAll]
      exact ((Command.run_recorded c).mapFailure _).bind fun _ => runAll_recorded cs
end

theorem Program.run_recorded (vars : List (String × Given)) (p : Program) :
    Recorded (p.run kinematic timer vars fuel)
      (p.run kinematic.screened.observed timer vars fuel) := by
  rw [Program.run, Program.run]
  split
  · exact .pure ()
  · exact .lift_bind fun env => runAll_recorded timer env fuel p

end Runs

/-! ## What a program leaves

What is known of calls in a row holds of the calls of a program. -/

/-- A program that succeeds leaves a new turtle in a pose put together from three histories.  Its
heading is that of the rotations alone, each kept within a full turn; its pen is as it was set last;
and its position is that of one move from the origin, the last one, at the heading that the
rotations before it give.  So the calls leave the same pose without any but the last move and the
last setting of the pen, and with settings of the pen elsewhere among the motions. -/
theorem pose_of_three_histories {p : Program} {timer : Timer} {vars : List (String × Given)}
    {fuel : Nat} {j : Journal} {s : Scene Pose}
    (h : p.run kinematic timer vars fuel ⟨Pose.home, j⟩ = (.ok (), s)) :
    let run := kinematic.trial timer vars fuel p ⟨Pose.home, []⟩
    let calls := Deed.calls run.asked
    (run.result = .ok () ∧ kinematic.left timer vars fuel p ⟨Pose.home, []⟩ = ⟨s.state, []⟩ ∧
      ∀ c ∈ calls, c.InReals) ∧
    s.state.heading = turned 0.0 (turns calls) ∧
    s.state.penUp = (settings calls).getLast?.getD false ∧
    ((∀ c ∈ calls, c.isMove = false) → s.state.x = 0.0 ∧ s.state.y = 0.0) ∧
    (∀ earlier steps later, calls = earlier ++ .move steps :: later →
      (∀ c ∈ later, c.isMove = false) → ∃ x, steps.toFloat = .ok x ∧
        let start : Pose := { Pose.home with heading := turned 0.0 (turns earlier) }
        s.state.x = (start.moved x).x ∧ s.state.y = (start.moved x).y) ∧
    (∀ calls', Relation.ReflTransGen Eases calls calls' → ∀ k,
      (kinematic.serve calls' ⟨Pose.home, k⟩).2 = ⟨s.state, k⟩) ∧
    Relation.ReflTransGen Eases calls (lastOnly Call.isPen (lastOnly Call.isMove calls)) := by
  intro run calls
  obtain ⟨added, twin, made⟩ := Program.run_recorded timer fuel vars p ⟨Pose.home, j⟩ [] []
  rw [h] at twin made
  rw [List.append_nil] at twin
  obtain ⟨reals, pose⟩ := made () rfl
  obtain ⟨state, j'⟩ := s
  obtain rfl : state = replay (madeCalls added) Pose.home := pose
  have trial : run = ⟨.ok (), issued added⟩ := by
    simp only [run, Turtle.trial, twin]
  have same : calls = madeCalls added := by
    simp only [calls, trial]
    rfl
  rw [same]
  refine ⟨⟨by rw [trial], by rw [Turtle.left, twin], reals⟩, replay_heading _ _,
    replay_penUp _ _, ?_, ?_, ?_, eases_lasting _⟩
  · exact fun still => replay_position_of_still still _
  · intro earlier steps later split still
    rw [split] at reals ⊢
    obtain ⟨x, hx⟩ : (Call.move steps).InReals := reals _ (by simp)
    exact ⟨x, hx, replay_position hx still _⟩
  · intro calls' eases k
    rw [kinematic_serve_snd, replay_eq_of_eases eases reals]

def windingProgram : Program :=
  match Program.parse "REPEAT 2 [FD 3 RT 100 PU]\nLT 45\nBK 2\nPD\nRT 215.5\n" with
  | .ok p => p
  | .error _ => []

def windingCalls : List Call :=
  Deed.calls (kinematic.trial .clock [] 2 windingProgram ⟨Pose.home, []⟩).asked

theorem pose_of_three_histories_winding :
    let start : Pose := { Pose.home with heading := 155.0 }
    ∃ s, windingProgram.run kinematic .clock [] 2 ⟨Pose.home, []⟩ = (.ok (), s) ∧
      windingCalls =
        [.move (.real 3.0), .rotate (.real 100.0), .penUp true,
          .move (.real 3.0), .rotate (.real 100.0), .penUp true,
          .rotate (.real (-45.0)), .move (.real (-2.0)), .penUp false, .rotate (.real 215.5)] ∧
      s.state.heading = 10.5 ∧ s.state.penUp = false ∧
      s.state.x = (start.moved (-2.0)).x ∧ s.state.y = (start.moved (-2.0)).y ∧
      (kinematic.serve (lastOnly Call.isPen (lastOnly Call.isMove windingCalls))
        ⟨Pose.home, []⟩).2 = ⟨s.state, []⟩ := by
  intro start
  obtain ⟨s, run⟩ : ∃ s, windingProgram.run kinematic .clock [] 2 ⟨Pose.home, []⟩ = (.ok (), s) := by
    have succeeds : (windingProgram.run kinematic .clock [] 2 ⟨Pose.home, []⟩).1.isOk = true := by
      decide +kernel
    rcases hr : windingProgram.run kinematic .clock [] 2 ⟨Pose.home, []⟩ with ⟨_ | _, s⟩
    · rw [hr] at succeeds
      exact nomatch succeeds
    · exact ⟨s, rfl⟩
  obtain ⟨-, heading, pen, -, position, eases, lasting⟩ := pose_of_three_histories run
  have split : windingCalls =
      windingCalls.take 7 ++ .move (.real (-2.0)) :: windingCalls.drop 8 := by
    decide +kernel
  obtain ⟨x, hx, there⟩ := position _ _ _ split (by decide +kernel)
  cases hx
  have facing : turned 0.0 (turns (windingCalls.take 7)) = 155.0 := by decide +kernel
  rw [facing] at there
  refine ⟨s, run, by decide +kernel, ?_, ?_, there.1, there.2, eases _ lasting []⟩
  · rw [heading]
    decide +kernel
  · rw [pen]
    decide +kernel

end TurtleLogo
