/-
# `TurtleLogo.Proofs.Turtle.History` — what remains of a history of calls

The bare turtle adds to its heading, sets its pen, and sets its position from
the origin along its heading.  So its pose after any calls is put together from
histories of their own:

    heading     the rotations, added up within a full turn
    pen         the last setting
    position    the last move, at the heading that the rotations before it give

Hence calls may be left out or change places (`Eases`): a move before another
one, a setting of the pen before another one, and a setting of the pen next to
a motion.
-/
import Mathlib.Logic.Relation
import TurtleLogo.Proofs.Turtle.Report

namespace TurtleLogo

/-! ## The effect of calls

A move changes the position, a rotation the heading and a setting of the pen the
pen, and each leaves the rest as it was.  Calls in a row are replayed one after
the other. -/

def Call.isMove : Call → Bool
  | .move _ => true
  | _ => false

def Call.isPen : Call → Bool
  | .penUp _ => true
  | _ => false

/-- The pose of a bare turtle after a call.  An amount that there is no real number for changes
nothing. -/
def Call.effect : Call → Pose → Pose
  | .move steps, p =>
    match steps.toFloat with
    | .ok x => p.moved x
    | .error _ => p
  | .rotate degrees, p =>
    match degrees.toFloat with
    | .ok x => p.rotated x
    | .error _ => p
  | .penUp up, p => p.withPen up

section Frames

variable (q : Quantity) (p : Pose)

theorem effect_move_heading : ((Call.move q).effect p).heading = p.heading := by
  rw [Call.effect]
  split <;> rfl

theorem effect_move_penUp : ((Call.move q).effect p).penUp = p.penUp := by
  rw [Call.effect]
  split <;> rfl

theorem effect_rotate_position :
    ((Call.rotate q).effect p).x = p.x ∧ ((Call.rotate q).effect p).y = p.y := by
  rw [Call.effect]
  split <;> exact ⟨rfl, rfl⟩

theorem effect_rotate_penUp : ((Call.rotate q).effect p).penUp = p.penUp := by
  rw [Call.effect]
  split <;> rfl

end Frames

theorem effect_withPen {c : Call} (h : c.isPen = false) (up : Bool) (p : Pose) :
    c.effect (p.withPen up) = (c.effect p).withPen up := by
  cases c with
  | move steps | rotate degrees =>
      rw [Call.effect, Call.effect]
      split <;> rfl
  | penUp up => exact nomatch h

theorem effect_comm {b c : Call} (h : b.isPen ≠ c.isPen) (p : Pose) :
    c.effect (b.effect p) = b.effect (c.effect p) := by
  cases b with
  | penUp up => exact effect_withPen (Bool.eq_false_iff.mpr h.symm) up p
  | move steps | rotate degrees =>
      cases c with
      | penUp up => exact (effect_withPen rfl up p).symm
      | move _ | rotate _ => exact absurd rfl h

/-- The pose of a bare turtle after calls. -/
def replay (calls : List Call) (p : Pose) : Pose :=
  calls.foldl (fun p c => c.effect p) p

theorem replay_cons (c : Call) (cs : List Call) (p : Pose) :
    replay (c :: cs) p = replay cs (c.effect p) := rfl

theorem replay_append (cs ds : List Call) (p : Pose) :
    replay (cs ++ ds) p = replay ds (replay cs p) :=
  List.foldl_append

theorem kinematic_answer_snd (c : Call) (s : Scene Pose) :
    (kinematic.answer c s).2 = ⟨c.effect s.state, s.journal⟩ := by
  cases c with
  | move amount | rotate amount =>
      cases h : amount.toFloat <;>
        simp [Turtle.answer, kinematic, Bind.bind, Action.bind, calculated, h, Call.effect,
          Except.mapError, Pure.pure, Action.pure]
  | penUp up => rfl

theorem kinematic_serve_snd (calls : List Call) (s : Scene Pose) :
    (kinematic.serve calls s).2 = ⟨replay calls s.state, s.journal⟩ := by
  induction calls generalizing s with
  | nil => rfl
  | cons c cs ih => rw [Turtle.serve_cons, ih, kinematic_answer_snd, replay_cons]

/-! ## Three histories

Each part of the pose is told by its own calls, but for the position, for which
the heading at the last move is needed as well. -/

/-- The degrees of the rotations among calls. -/
def turns (calls : List Call) : List Float :=
  calls.filterMap fun
    | .rotate degrees => degrees.toFloat.toOption
    | _ => none

/-- The settings of the pen among calls. -/
def settings (calls : List Call) : List Bool :=
  calls.filterMap fun
    | .penUp up => some up
    | _ => none

/-- A heading after rotations, each of them kept within a full turn. -/
def turned (heading : Float) (degrees : List Float) : Float :=
  degrees.foldl (fun h x => Decimal.wrap (h + x) fullTurn) heading

theorem replay_heading (calls : List Call) (p : Pose) :
    (replay calls p).heading = turned p.heading (turns calls) := by
  induction calls generalizing p with
  | nil => rfl
  | cons c cs ih =>
      rw [replay_cons, ih]
      cases c with
      | move steps => exact congrArg (turned · (turns cs)) (effect_move_heading steps p)
      | rotate degrees =>
          cases h : degrees.toFloat with
          | ok x =>
              simp only [Call.effect, h, turns, List.filterMap_cons, Except.toOption]
              rfl
          | error _ => simp only [Call.effect, h, turns, List.filterMap_cons, Except.toOption]
      | penUp up => rfl

theorem replay_penUp (calls : List Call) (p : Pose) :
    (replay calls p).penUp = (settings calls).getLast?.getD p.penUp := by
  induction calls generalizing p with
  | nil => rfl
  | cons c cs ih =>
      rw [replay_cons, ih]
      cases c with
      | move steps => exact congrArg (settings cs).getLast?.getD (effect_move_penUp steps p)
      | rotate degrees => exact congrArg (settings cs).getLast?.getD (effect_rotate_penUp degrees p)
      | penUp up =>
          have last : settings (.penUp up :: cs) = up :: settings cs := rfl
          rw [last, List.getLast?_cons]
          rfl

theorem replay_position_of_still {calls : List Call} (h : ∀ c ∈ calls, c.isMove = false) (p : Pose) :
    (replay calls p).x = p.x ∧ (replay calls p).y = p.y := by
  induction calls generalizing p with
  | nil => exact ⟨rfl, rfl⟩
  | cons c cs ih =>
      obtain ⟨hc, hcs⟩ := List.forall_mem_cons.mp h
      have still : (c.effect p).x = p.x ∧ (c.effect p).y = p.y := by
        cases c with
        | move steps => exact nomatch hc
        | rotate degrees => exact effect_rotate_position degrees p
        | penUp up => exact ⟨rfl, rfl⟩
      rw [replay_cons, (ih hcs _).1, (ih hcs _).2]
      exact still

/-- The last move goes from the origin along the heading that the rotations before it give. -/
theorem replay_position {earlier later : List Call} {steps : Quantity} {x : Float}
    (hx : steps.toFloat = .ok x) (still : ∀ c ∈ later, c.isMove = false) (p : Pose) :
    let start : Pose := { Pose.home with heading := turned p.heading (turns earlier) }
    (replay (earlier ++ .move steps :: later) p).x = (start.moved x).x ∧
      (replay (earlier ++ .move steps :: later) p).y = (start.moved x).y := by
  intro start
  have there : (Call.move steps).effect (replay earlier p) = (replay earlier p).moved x := by
    simp only [Call.effect, hx]
  have heading : start.heading = (replay earlier p).heading := (replay_heading earlier p).symm
  rw [replay_append, replay_cons, there, (replay_position_of_still still _).1,
    (replay_position_of_still still _).2]
  simp only [Pose.moved, heading, and_self]

/-! ## Calls that leave no trace

What a later call overwrites may be left out, and calls about different parts may
change places. -/

theorem replay_eq_of_move {calls : List Call} (reals : ∀ c ∈ calls, c.InReals)
    (h : calls.any Call.isMove = true) {p q : Pose} (heading : p.heading = q.heading)
    (pen : p.penUp = q.penUp) : replay calls p = replay calls q := by
  induction calls generalizing p q with
  | nil => exact nomatch h
  | cons c cs ih =>
      obtain ⟨hc, hcs⟩ := List.forall_mem_cons.mp reals
      rw [replay_cons, replay_cons]
      cases c with
      | move steps =>
          obtain ⟨x, hx⟩ := hc
          have same : (Call.move steps).effect p = (Call.move steps).effect q := by
            simp only [Call.effect, hx, Pose.moved, heading, pen]
          rw [same]
      | rotate degrees =>
          obtain ⟨x, hx⟩ := hc
          refine ih hcs h ?_ ?_
          · simp only [Call.effect, hx, Pose.rotated, heading]
          · rw [effect_rotate_penUp, effect_rotate_penUp, pen]
      | penUp up => exact ih hcs h heading rfl

theorem replay_eq_of_pen {calls : List Call} (h : calls.any Call.isPen = true) {p q : Pose}
    (same : p.withPen false = q.withPen false) : replay calls p = replay calls q := by
  induction calls generalizing p q with
  | nil => exact nomatch h
  | cons c cs ih =>
      rw [replay_cons, replay_cons]
      cases c with
      | move amount | rotate amount =>
          refine ih h ?_
          rw [← effect_withPen rfl, ← effect_withPen rfl, same]
      | penUp up =>
          have set : (p.withPen false).withPen up = (q.withPen false).withPen up := by rw [same]
          exact congrArg (replay cs) set

/-- `Eases cs ds`: of the calls `cs` one that leaves no trace is left out in `ds`, or a setting of the
pen and a motion next to it have changed places. -/
inductive Eases : List Call → List Call → Prop where
  | move (earlier : List Call) {later : List Call} {steps : Quantity} : later.any Call.isMove = true →
      Eases (earlier ++ .move steps :: later) (earlier ++ later)
  | pen (earlier : List Call) {later : List Call} {up : Bool} : later.any Call.isPen = true →
      Eases (earlier ++ .penUp up :: later) (earlier ++ later)
  | swap (earlier : List Call) {later : List Call} {b c : Call} : b.isPen ≠ c.isPen →
      Eases (earlier ++ b :: c :: later) (earlier ++ c :: b :: later)

theorem Eases.subset {cs ds : List Call} (h : Eases cs ds) : ds ⊆ cs := by
  cases h with
  | move _ _ => exact List.append_subset.mpr ⟨List.subset_append_left _ _, by simp⟩
  | pen _ _ => exact List.append_subset.mpr ⟨List.subset_append_left _ _, by simp⟩
  | swap _ _ =>
      intro d hd
      simp only [List.mem_append, List.mem_cons] at hd ⊢
      tauto

theorem Eases.replay_eq {cs ds : List Call} (h : Eases cs ds) (reals : ∀ c ∈ cs, c.InReals)
    (p : Pose) : replay ds p = replay cs p := by
  cases h with
  | @move _ later _ followed =>
      rw [replay_append, replay_append, replay_cons]
      have realsLater : ∀ c ∈ later, c.InReals := fun c hc => reals c (by simp [hc])
      exact replay_eq_of_move realsLater followed (effect_move_heading _ _).symm
        (effect_move_penUp _ _).symm
  | pen _ followed =>
      rw [replay_append, replay_append, replay_cons]
      exact replay_eq_of_pen followed rfl
  | swap _ differ =>
      rw [replay_append, replay_append, replay_cons, replay_cons, replay_cons, replay_cons,
        effect_comm differ]

theorem replay_eq_of_eases {cs ds : List Call} (h : Relation.ReflTransGen Eases cs ds)
    (reals : ∀ c ∈ cs, c.InReals) (p : Pose) : replay ds p = replay cs p := by
  have kept : (∀ c ∈ ds, c.InReals) ∧ replay ds p = replay cs p := by
    induction h with
    | refl => exact ⟨reals, rfl⟩
    | tail _ step ih =>
        exact ⟨fun c hc => ih.1 c (step.subset hc), (step.replay_eq ih.1 p).trans ih.2⟩
  exact kept.2

/-! ## The last of its kind

Leaving out is repeated until of the moves and of the settings of the pen one is
left. -/

/-- Calls without those of a kind that another of that kind follows. -/
def lastOnly (kind : Call → Bool) : List Call → List Call
  | [] => []
  | c :: cs => if kind c && cs.any kind then lastOnly kind cs else c :: lastOnly kind cs

theorem Eases.cons {cs ds : List Call} (c : Call) (h : Eases cs ds) : Eases (c :: cs) (c :: ds) := by
  cases h with
  | move earlier followed => exact .move (c :: earlier) followed
  | pen earlier followed => exact .pen (c :: earlier) followed
  | swap earlier differ => exact .swap (c :: earlier) differ

theorem eases_lastOnly {kind : Call → Bool}
    (drop : ∀ {c : Call} {cs : List Call}, kind c = true → cs.any kind = true → Eases (c :: cs) cs)
    (calls : List Call) : Relation.ReflTransGen Eases calls (lastOnly kind calls) := by
  induction calls with
  | nil => exact .refl
  | cons c cs ih =>
      rw [lastOnly]
      split
      · next h =>
          rw [Bool.and_eq_true] at h
          exact .head (drop h.1 h.2) ih
      · exact ih.lift (c :: ·) fun _ _ => Eases.cons c

/-- Of the moves and of the settings of the pen only the last ones are needed. -/
theorem eases_lasting (calls : List Call) :
    Relation.ReflTransGen Eases calls (lastOnly Call.isPen (lastOnly Call.isMove calls)) := by
  refine (eases_lastOnly (fun {c cs} hc hcs => ?_) calls).trans
    (eases_lastOnly (fun {c cs} hc hcs => ?_) (lastOnly Call.isMove calls))
  · cases c with
    | move steps => exact .move [] hcs
    | rotate degrees => exact nomatch hc
    | penUp up => exact nomatch hc
  · cases c with
    | move steps => exact nomatch hc
    | rotate degrees => exact nomatch hc
    | penUp up => exact .pen [] hcs

end TurtleLogo
