/-
# `TurtleLogo.Proofs.Robot.LockStep` — how far a drive gets

To move or to rotate, a robot goes through a plan: left wheel, right wheel, pause, as
often as there are phases.  Any turn of a wheel may fail, and that ends the drive; so
what is done of the plan is the part before the first turn that fails, and the turtle
that the robot takes along is asked just when that part is all of it.

    beats delay l r n          the plan of n rounds in the directions l and r
    Went c bs s s'             the chassis c does the beats bs, each of them with success
    Drove c plan s log r s'    it does the beats `log` of the plan, all of them or those
                               before the first turn that fails
    Carried c t call plan s log r s'
                               the robot on it does so, and then the turtle t is asked if
                               nothing has failed

The wheels may be any, and so may the turtle: nothing is known of a turn but whether it
fails.  What is done of a plan is determined by that (`Drove.log_unique`).
-/
import TurtleLogo.Proofs.Robot.Steering

namespace TurtleLogo.Robot

variable {η σ : Type}

/-! ## Plans

A plan is a flat list of turns and pauses, so that to stop anywhere in it is to
take a part from its front. -/

/-- What a drive does at a time: it turns a wheel by one phase, or pauses. -/
inductive Beat where
  | turn (wheel : Side) (direction : Int)
  | rest (seconds : Quantity)

namespace Beat

def isTurnOf (wheel : Side) : Beat → Bool
  | .turn side _ => side = wheel
  | .rest _ => false

def isRest : Beat → Bool
  | .turn .. => false
  | .rest _ => true

end Beat

/-- The plan of a drive: in each round the left wheel, the right wheel and a pause. -/
def beats (delay : Quantity) (left right : Int) (n : Nat) : List Beat :=
  (List.replicate n [.turn .left left, .turn .right right, .rest delay]).flatten

theorem beats_succ (delay : Quantity) (left right : Int) (n : Nat) :
    beats delay left right (n + 1) =
      .turn .left left :: .turn .right right :: .rest delay :: beats delay left right n := by
  rw [beats, List.replicate_succ, List.flatten_cons]
  rfl

/-- If a drive stops anywhere but before a pause, the left wheel has been turned as often as the right
one or once more, and there have been as many pauses as turns of the right one. -/
theorem counts_of_beats {delay : Quantity} {left right : Int} : ∀ {n : Nat} {log behind : List Beat},
    beats delay left right n = log ++ behind → (∀ seconds bs, behind ≠ .rest seconds :: bs) →
      (log.countP (Beat.isTurnOf .left) = log.countP (Beat.isTurnOf .right) ∨
        log.countP (Beat.isTurnOf .left) = log.countP (Beat.isTurnOf .right) + 1) ∧
      log.countP Beat.isRest = log.countP (Beat.isTurnOf .right)
  | _, [], _, _, _ => ⟨.inl rfl, rfl⟩
  | 0, _ :: _, _, h, _ => nomatch h
  | n + 1, [_], _, h, _ => by
      rw [beats_succ] at h
      obtain ⟨rfl, -⟩ := List.cons.inj h
      exact ⟨.inr rfl, rfl⟩
  | n + 1, [_, _], _, h, stops => by
      rw [beats_succ] at h
      obtain ⟨-, h⟩ := List.cons.inj h
      obtain ⟨-, h⟩ := List.cons.inj h
      exact absurd h.symm (stops _ _)
  | n + 1, _ :: _ :: _ :: log, behind, h, stops => by
      simp only [beats_succ, List.cons_append, List.cons.injEq] at h
      obtain ⟨rfl, rfl, rfl, h⟩ := h
      obtain ⟨turns, rests⟩ := counts_of_beats h stops
      simp only [List.countP_cons, Beat.isTurnOf, Beat.isRest]
      refine ⟨?_, ?_⟩
      · simpa using turns
      · simpa using rests

/-! ## Drives

A drive is followed beat by beat.  Only turns can fail, so it never stops in front
of a pause. -/

/-- `Went c bs s s'`: the chassis `c` does the beats `bs`, one after the other, and each turn of a
wheel succeeds. -/
inductive Went (c : Chassis η) : List Beat → Scene η → Scene η → Prop
  | nil {s : Scene η} : Went c [] s s
  | turn {wheel : Side} {d : Int} {bs : List Beat} {s s₁ s' : Scene η} :
      c.advance wheel d s = (.ok (), s₁) → Went c bs s₁ s' → Went c (.turn wheel d :: bs) s s'
  | rest {seconds : Quantity} {bs : List Beat} {s s' : Scene η} :
      Went c bs (s.write (.paused seconds)) s' → Went c (.rest seconds :: bs) s s'

/-- `Drove c plan s log r s'`: of the plan, the chassis `c` does the beats `log`, which is all of it,
or all before the first turn that fails. -/
inductive Drove (c : Chassis η) (plan : List Beat) (s : Scene η) :
    List Beat → Reply Unit → Scene η → Prop
  | whole {s' : Scene η} : Went c plan s s' → Drove c plan s plan (.ok ()) s'
  | cut {log behind : List Beat} {wheel : Side} {d : Int} {f : Failure} {e s' : Scene η} :
      plan = log ++ .turn wheel d :: behind → Went c log s e →
      c.advance wheel d e = (.error f, s') → Drove c plan s log (.error f) s'

section Drives

variable {c : Chassis η} {plan log : List Beat} {wheel : Side} {d : Int} {s s₁ s' : Scene η}
  {r : Reply Unit}

/-- A drive does not stop before a pause. -/
theorem Drove.split (h : Drove c plan s log r s') :
    ∃ behind, plan = log ++ behind ∧ ∀ seconds bs, behind ≠ .rest seconds :: bs := by
  cases h with
  | whole _ => exact ⟨[], (List.append_nil _).symm, nofun⟩
  | cut split _ _ => exact ⟨_, split, nofun⟩

theorem Drove.turn (hturn : c.advance wheel d s = (.ok (), s₁)) (h : Drove c plan s₁ log r s') :
    Drove c (.turn wheel d :: plan) s (.turn wheel d :: log) r s' := by
  cases h with
  | whole went => exact .whole (.turn hturn went)
  | cut split went failed => exact .cut (congrArg (_ :: ·) split) (.turn hturn went) failed

theorem Drove.rest {seconds : Quantity} (h : Drove c plan (s.write (.paused seconds)) log r s') :
    Drove c (.rest seconds :: plan) s (.rest seconds :: log) r s' := by
  cases h with
  | whole went => exact .whole (.rest went)
  | cut split went failed => exact .cut (congrArg (_ :: ·) split) (.rest went) failed

theorem Drove.fail {f : Failure} (hturn : c.advance wheel d s = (.error f, s')) :
    Drove c (.turn wheel d :: plan) s [] (.error f) s' :=
  .cut rfl .nil hturn

theorem drive_drove (c : Chassis η) (delay : Quantity) (left right : Int) : ∀ (n : Nat) (s : Scene η),
    ∃ log, Drove c (beats delay left right n) s log (drive c delay left right n s).1
      (drive c delay left right n s).2
  | 0, s => ⟨[], .whole .nil⟩
  | n + 1, s => by
      rw [beats_succ, drive]
      rcases hleft : c.advance .left left s with ⟨f | _, s₁⟩
      · rw [Action.bind_of_error hleft]
        exact ⟨_, .fail hleft⟩
      · rw [Action.bind_of_ok hleft]
        rcases hright : c.advance .right right s₁ with ⟨f | _, s₂⟩
        · rw [Action.bind_of_error hright]
          exact ⟨_, .turn hleft (.fail hright)⟩
        · rw [Action.bind_of_ok hright]
          obtain ⟨log, drove⟩ := drive_drove c delay left right n (s₂.write (.paused delay))
          exact ⟨_, .turn hleft (.turn hright (.rest drove))⟩

/-- The beats done before a turn that fails lead nowhere beyond it. -/
theorem Went.not_beyond {behind : List Beat} {f : Failure} {e e' : Scene η}
    (h : Went c log s e) (failed : c.advance wheel d e = (.error f, e')) :
    ¬ Went c (log ++ .turn wheel d :: behind) s s' := by
  induction h with
  | nil =>
      intro beyond
      cases beyond with
      | turn done _ => exact nomatch failed.symm.trans done
  | turn hturn _ ih =>
      intro beyond
      cases beyond with
      | turn hturn' rest =>
          cases hturn.symm.trans hturn'
          exact ih failed rest
  | rest _ ih =>
      intro beyond
      cases beyond with
      | rest rest => exact ih failed rest

/-- What is done of a plan hangs on nothing but which turns fail. -/
theorem Drove.log_unique {log' : List Beat} {r' : Reply Unit} {s'' : Scene η}
    (h : Drove c plan s log r s') (h' : Drove c plan s log' r' s'') : log' = log := by
  cases h with
  | whole went =>
      cases h' with
      | whole _ => rfl
      | cut split went' failed => exact absurd (split ▸ went) (went'.not_beyond failed)
  | cut split went failed =>
      cases h' with
      | whole went' => exact absurd (split ▸ went') (went.not_beyond failed)
      | cut split' went' failed' =>
          rcases List.append_eq_append_iff.mp (split.symm.trans split') with
            ⟨more, hlog, hmore⟩ | ⟨more, hlog, hmore⟩
          · cases more with
            | nil => exact hlog.trans (List.append_nil _)
            | cons b more =>
                obtain ⟨rfl, -⟩ := List.cons.inj hmore
                exact absurd (hlog ▸ went') (went.not_beyond failed)
          · cases more with
            | nil => exact (hlog.trans (List.append_nil _)).symm
            | cons b more =>
                obtain ⟨rfl, -⟩ := List.cons.inj hmore
                exact absurd (hlog ▸ went) (went'.not_beyond failed')

end Drives

/-! ## Motions

The number of phases is calculated before anything is done.  Only when the drive
has come to its end is the turtle asked. -/

/-- `Carried c t call plan s log r s'`: of the plan for a call, the robot on the chassis `c` does the
beats `log`.  If that is all of it, then the turtle `t` that it takes along is asked the same, once;
else the turtle is as it was. -/
inductive Carried (c : Chassis η) (t : Turtle σ) (call : Call) (plan : List Beat)
    (s : Scene (η × σ)) : List Beat → Reply Answer → Scene (η × σ) → Prop
  | whole {e : Scene η} {r : Reply Answer} {s' : Scene σ} :
      Drove c plan ⟨s.state.1, s.journal⟩ plan (.ok ()) e →
      t.answer call ⟨s.state.2, e.journal⟩ = (r, s') →
      Carried c t call plan s plan r ⟨(e.state, s'.state), s'.journal⟩
  | cut {log : List Beat} {f : Failure} {e : Scene η} :
      Drove c plan ⟨s.state.1, s.journal⟩ log (.error f) e →
      Carried c t call plan s log (.error f) ⟨(e.state, s.state.2), e.journal⟩

theorem Carried.drove {c : Chassis η} {t : Turtle σ} {call : Call} {plan log : List Beat}
    {s s' : Scene (η × σ)} {r : Reply Answer} (h : Carried c t call plan s log r s') :
    ∃ r e, Drove c plan ⟨s.state.1, s.journal⟩ log r e := by
  cases h with
  | whole drove _ => exact ⟨_, _, drove⟩
  | cut drove => exact ⟨_, _, drove⟩

theorem Drove.carried {c : Chassis η} {k : Calibration} (t : Turtle σ) {call : Call}
    {plan log : List Beat} {s : Scene (η × σ)}
    (h : Drove c plan ⟨s.state.1, s.journal⟩ log (prepare c k call ⟨s.state.1, s.journal⟩).1
      (prepare c k call ⟨s.state.1, s.journal⟩).2) :
    let run := (turtle c k t).answer call s
    Carried c t call plan s log run.1 run.2 := by
  rcases hx : prepare c k call ⟨s.state.1, s.journal⟩ with ⟨f | _, e⟩
  · rw [hx] at h
    rw [turtle_answer_of_error hx]
    exact .cut h
  · rw [hx] at h
    rw [turtle_answer_of_ok hx]
    obtain rfl : plan = log := by
      cases h with
      | whole _ => rfl
    exact .whole h rfl

/-- There is no number of phases for an amount whose product with the scale is not finite. -/
theorem signedPhases_of_not_finite {amount scale : Quantity} {x : Float}
    (product : amount.abs.mul scale = .ok (.real x)) (h : Decimal.isFinite x = false) :
    signedPhases amount scale = .error (Failure.of (.undrivable amount)) := by
  have none : (amount.abs.mul scale).bind Quantity.ceil? = .ok none := by
    rw [product]
    simp only [Except.bind, Quantity.ceil?, Quantity.value]
    unfold Decimal.isFinite at h
    cases hx : Decimal.parts x with
    | finite d =>
        rw [hx] at h
        cases h
    | infinite _ => rfl
    | notANumber => rfl
  rw [signedPhases, none]
  rfl

theorem prepare_of_error {c : Chassis η} {k : Calibration} {m : Motion} {f : Failure}
    (h : signedPhases m.amount (m.scale k) = .error f) : prepare c k m.call = Action.fail f := by
  rw [prepare_motion, phases_eq, h]
  rfl

theorem prepare_of_ok {c : Chassis η} {k : Calibration} {m : Motion} {d n : Int}
    (h : signedPhases m.amount (m.scale k) = .ok (d, n)) :
    prepare c k m.call = drive c k.delay d (m.sense * d) n.toNat := by
  rw [prepare_motion, phases_eq, h]
  rfl

/-- A robot drives in lock step, up to the first turn of a wheel that fails.  Whatever its wheels and
the turtle that it takes along: if there is no finite number of phases for a motion, then nothing is
done at all.  Else it goes through the plan for the direction and the number of phases, which holds
no rounds if that number is below zero, and what is done of the plan is one and only one part from
its front: all of it, and then the turtle is asked, once and for the same motion, or else all before
the first turn that fails, and then the turtle is as it was.  So the left wheel has been turned as
often as the right one or once more, and there have been as many pauses as turns of the right one. -/
theorem motion_in_lock_step (c : Chassis η) (k : Calibration) (t : Turtle σ) (m : Motion)
    (s : Scene (η × σ)) :
    let run := (turtle c k t).answer m.call s
    (∀ f, signedPhases m.amount (m.scale k) = .error f → run = (.error f, s)) ∧
    (∀ x, m.amount.abs.mul (m.scale k) = .ok (.real x) → Decimal.isFinite x = false →
      run = (.error (Failure.of (.undrivable m.amount)), s)) ∧
    ∀ d n, signedPhases m.amount (m.scale k) = .ok (d, n) →
      let plan := beats k.delay d (m.sense * d) n.toNat
      ∃ log, Carried c t m.call plan s log run.1 run.2 ∧ log <+: plan ∧
        (∀ log', Carried c t m.call plan s log' run.1 run.2 → log' = log) ∧
        (log.countP (Beat.isTurnOf .left) = log.countP (Beat.isTurnOf .right) ∨
          log.countP (Beat.isTurnOf .left) = log.countP (Beat.isTurnOf .right) + 1) ∧
        log.countP Beat.isRest = log.countP (Beat.isTurnOf .right) := by
  intro run
  have nothing : ∀ f, signedPhases m.amount (m.scale k) = .error f → run = (.error f, s) := by
    intro f h
    have refused : prepare c k m.call ⟨s.state.1, s.journal⟩ = (.error f, ⟨s.state.1, s.journal⟩) := by
      rw [prepare_of_error h, Action.fail]
    exact turtle_answer_of_error refused
  refine ⟨nothing, fun x product h => nothing _ (signedPhases_of_not_finite product h), ?_⟩
  intro d n h plan
  obtain ⟨log, drove⟩ := drive_drove c k.delay d (m.sense * d) n.toNat ⟨s.state.1, s.journal⟩
  rw [← prepare_of_ok h] at drove
  have carried : Carried c t m.call plan s log run.1 run.2 := drove.carried t
  obtain ⟨behind, split, stops⟩ := drove.split
  refine ⟨log, carried, ⟨behind, split.symm⟩, fun log' carried' => ?_, counts_of_beats split stops⟩
  obtain ⟨_, _, drove'⟩ := carried'.drove
  exact drove.log_unique drove'

/-- A robot on the bench whose right wheel can be turned three times. -/
def limpingBench : Bench :=
  ⟨⟨none, ⟨Schedule.never, 0⟩⟩, .stepper (benchStepper .left standardPattern 4),
    .standIn ⟨Schedule.after 3, 0⟩, []⟩

def limpingTurn (degrees : Quantity) : Reply Answer × Scene (Bench × Pose) :=
  (turtle (Bench.chassis 0) (unlikeMeasures 1.0 0.5) kinematic).answer (.rotate degrees)
    ⟨(limpingBench, Pose.home), []⟩

theorem motion_in_lock_step_limping :
    signedPhases (.real (-9.0)) (.real 0.5) = .ok (-1, 5) ∧
      (limpingTurn (.real (-9.0))).1.isOk = false ∧
      (pauses (limpingTurn (.real (-9.0))).2.journal).length = 3 ∧
      ∃ log, Carried (Bench.chassis 0) kinematic (.rotate (.real (-9.0)))
          (beats (.real 0.002) (-1) 1 5) ⟨(limpingBench, Pose.home), []⟩ log
          (limpingTurn (.real (-9.0))).1 (limpingTurn (.real (-9.0))).2 ∧
        log.countP Beat.isRest = log.countP (Beat.isTurnOf .right) := by
  have counted : signedPhases (.real (-9.0)) (.real 0.5) = .ok (-1, 5) := by
    have found : (signedPhases (.real (-9.0)) (.real 0.5)).toOption = some (-1, 5) := by
      decide +kernel
    cases h : signedPhases (.real (-9.0)) (.real 0.5) with
    | error f =>
        rw [h] at found
        exact nomatch found
    | ok p =>
        rw [h] at found
        exact congrArg Except.ok (Option.some.inj found)
  obtain ⟨log, carried, -, -, -, rests⟩ := (motion_in_lock_step (Bench.chassis 0)
    (unlikeMeasures 1.0 0.5) kinematic (.rotate (.real (-9.0)))
    ⟨(limpingBench, Pose.home), []⟩).2.2 (-1) 5 counted
  exact ⟨counted, by decide +kernel, by decide +kernel, log, carried, rests⟩

end TurtleLogo.Robot
