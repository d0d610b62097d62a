/-
# `TurtleLogo.Proofs.Robot.Steering` — where the wheels are after a run

A robot whose wheels are steppers turns them phase by phase, both the same way to
move and opposite ways to rotate.  So the phase of a wheel is the sum of all turns,
modulo the length of its pattern, whatever mixture of moves and rotations they
come from.

    Advanced switch d m j m' j'     the stepper m goes on by d phases, and each of its lines is
                                    switched once, to its value in the row of the phase reached
    Driven switch ... n ws j ws' j' both wheels do so n times, in lock step
    Steered switch k t ms ns ...    a robot goes through the motions ms, with the counts ns

The last one is the run as a whole: one step of it is a motion that succeeds
(`turtle_steers`), a run is made of these (`serve_steers`), and what they add up to is
read off it (`Steered.turned`).  A count is below zero if the scale is, and then the
wheels stand still.
-/
import Mathlib.Algebra.Ring.Int.Defs
import TurtleLogo.Proofs.Robot.Handles
import TurtleLogo.Proofs.Turtle.Decoration

namespace TurtleLogo.Robot

variable {ℓ η σ : Type}

/-! ## Counting phases

A drive through a number of phases below zero is none at all, and yet its number
is below zero.  Adding up such numbers would go wrong, so both are kept: the count
as calculated and the rounds as driven. -/

/-- The direction of an amount and the number of phases for it, which is below zero if the scale
is. -/
def signedPhases (amount scale : Quantity) : Reply (Int × Int) :=
  match calculated ((amount.abs.mul scale).bind Quantity.ceil?) with
  | .ok (some count) => .ok (if amount.isNegative then -1 else 1, count)
  | .ok none => .error (Failure.of (.undrivable amount))
  | .error e => .error e

theorem phases_eq (amount scale : Quantity) :
    phases amount scale = (signedPhases amount scale).map fun p => (p.1, p.2.toNat) := by
  unfold phases signedPhases
  rcases calculated ((amount.abs.mul scale).bind Quantity.ceil?) with e | (_ | count)
  · rfl
  · rfl
  · rfl

theorem phases_eq_ok {amount scale : Quantity} {d : Int} {n : Nat}
    (h : phases amount scale = .ok (d, n)) :
    ∃ c, signedPhases amount scale = .ok (d, c) ∧ n = c.toNat := by
  rw [phases_eq] at h
  cases hsigned : signedPhases amount scale with
  | error e =>
      rw [hsigned] at h
      exact nomatch h
  | ok p =>
      rw [hsigned] at h
      cases h
      exact ⟨p.2, rfl, rfl⟩

inductive Motion where
  | move (steps : Quantity)
  | rotate (degrees : Quantity)

namespace Motion

def call : Motion → Call
  | .move steps => .move steps
  | .rotate degrees => .rotate degrees

def amount : Motion → Quantity
  | .move steps => steps
  | .rotate degrees => degrees

def scale (k : Calibration) : Motion → Quantity
  | .move _ => k.moveScale
  | .rotate _ => k.rotateScale

/-- Whether the right wheel goes with the left one or against it. -/
def sense : Motion → Int
  | .move _ => 1
  | .rotate _ => -1

end Motion

theorem prepare_motion (c : Chassis η) (k : Calibration) (m : Motion) :
    prepare c k m.call = (do
      let (direction, count) ← Action.lift (phases m.amount (m.scale k))
      drive c k.delay direction (m.sense * direction) count) := by
  cases m with
  | move steps =>
      simp only [Motion.sense, Int.one_mul]
      rfl
  | rotate degrees =>
      simp only [Motion.sense, Int.neg_one_mul]
      rfl

/-! ## One stepper

An advance that succeeds goes on by one phase and has written the row of the phase
reached to all lines. -/

/-- `Switched switch row lines j lines' j'`: each of the lines is switched once, in order, to its
value in the row. -/
inductive Switched (switch : Switch ℓ) :
    List Bool → List ℓ → Journal → List ℓ → Journal → Prop
  | nil {j : Journal} : Switched switch [] [] j [] j
  | cons {value : Bool} {row : List Bool} {line line' : ℓ} {lines lines' : List ℓ}
      {j j₁ j' : Journal} : switch value ⟨line, j⟩ = (.ok (), ⟨line', j₁⟩) →
      Switched switch row lines j₁ lines' j' →
      Switched switch (value :: row) (line :: lines) j (line' :: lines') j'

/-- `Turned m d m'`: the stepper `m'` is `m` some `d` phases further on. -/
structure Turned (m : Stepper ℓ) (d : Int) (m' : Stepper ℓ) : Prop where
  pattern : m'.pattern = m.pattern
  phase : (m'.phase : Int) = (m.phase + d) % m.pattern.length

/-- `Advanced switch d m j m' j'`: the stepper `m` goes on by `d` phases, and each of its lines is
switched once, to its value in the row of the phase reached. -/
structure Advanced (switch : Switch ℓ) (d : Int) (m : Stepper ℓ) (j : Journal) (m' : Stepper ℓ)
    (j' : Journal) : Prop where
  turned : Turned m d m'
  written : ∃ row, m.pattern[m'.phase]? = some row ∧ Switched switch row m.lines j m'.lines j'

/-- Steppers whose phase is one of their pattern, which has a value for each line. -/
structure Stepper.Sound (m : Stepper ℓ) : Prop where
  phase : m.phase < m.pattern.length
  rows : ∀ row ∈ m.pattern, row.length = m.lines.length

theorem Stepper.make_sound {pattern : Pattern} {delay : Quantity} {lines : List ℓ} {s s' : Scene σ}
    {m : Stepper ℓ} (h : Stepper.make pattern delay lines s = (.ok m, s')) : m.Sound := by
  obtain ⟨hfault, rfl⟩ := Stepper.make_eq_ok h
  simp only [Stepper.fault?, Bool.or_eq_true, List.isEmpty_iff, List.any_eq_true, bne_iff_ne]
    at hfault
  split at hfault
  · cases hfault
  · split at hfault
    · cases hfault
    · next hpattern =>
        obtain ⟨hne, hrows⟩ := not_or.mp hpattern
        refine ⟨List.length_pos_iff.mpr hne, fun row hrow => ?_⟩
        exact Decidable.not_not.mp fun hlength => hrows ⟨row, hrow, hlength⟩

theorem Turned.zero {m : Stepper ℓ} (h : m.Sound) : Turned m 0 m where
  pattern := rfl
  phase := by
    have := h.phase
    rw [Int.add_zero, Int.emod_eq_of_lt (by omega) (by omega)]

theorem Turned.trans {m m₁ m' : Stepper ℓ} {a b : Int} (h : Turned m a m₁) (h' : Turned m₁ b m') :
    Turned m (a + b) m' where
  pattern := h'.pattern.trans h.pattern
  phase := by
    rw [h'.phase, h.phase, h.pattern, Int.emod_add_emod, Int.add_assoc]

theorem Switched.length_eq {switch : Switch ℓ} {row : List Bool} {lines lines' : List ℓ}
    {j j' : Journal} (h : Switched switch row lines j lines' j') :
    lines'.length = lines.length := by
  induction h with
  | nil => rfl
  | cons _ _ ih => rw [List.length_cons, List.length_cons, ih]

theorem switched_of_writeRow {switch : Switch ℓ} : ∀ {row : List Bool} {lines lines' : List ℓ}
    {j j' : Journal}, row.length = lines.length →
      Stepper.writeRow switch row lines j = (.ok (), lines', j') →
      Switched switch row lines j lines' j'
  | [], [], _, _, _, _, h => by
      cases h
      exact .nil
  | [], _ :: _, _, _, _, hlength, _ => by cases hlength
  | _ :: _, [], _, _, _, hlength, _ => by cases hlength
  | value :: row, line :: lines, lines', j, j', hlength, h => by
      rw [Stepper.writeRow] at h
      rcases hline : switch value ⟨line, j⟩ with ⟨_ | _, line₁⟩
      · rw [hline] at h
        cases h
      · rcases hrow : Stepper.writeRow switch row lines line₁.journal with ⟨r, lines₁, j₁⟩
        rw [hline] at h
        simp only [hrow] at h
        cases h
        exact .cons hline (switched_of_writeRow (Nat.succ.inj hlength) hrow)

theorem Advanced.sound {switch : Switch ℓ} {d : Int} {m m' : Stepper ℓ} {j j' : Journal}
    (h : Advanced switch d m j m' j') (hm : m.Sound) : m'.Sound where
  phase := by
    have hpos : (0 : Int) < m.pattern.length := by
      have := hm.phase
      omega
    have := Int.emod_lt_of_pos (m.phase + d) hpos
    have := h.turned.phase
    rw [h.turned.pattern]
    omega
  rows := by
    obtain ⟨row, -, hrow⟩ := h.written
    rw [h.turned.pattern, hrow.length_eq]
    exact hm.rows

theorem Stepper.phaseAfter_eq {m : Stepper ℓ} (hm : m.Sound) (d : Int) :
    (m.phaseAfter d : Int) = (m.phase + d) % m.pattern.length := by
  have hpos := hm.phase
  exact Int.toNat_of_nonneg (Int.emod_nonneg _ (by omega))

theorem Stepper.advance_eq (switch : Switch ℓ) {m : Stepper ℓ} (hm : m.Sound) (d : Int)
    (j : Journal) : ∃ row, m.pattern[m.phaseAfter d]? = some row ∧ row.length = m.lines.length ∧
      Stepper.advance switch d ⟨m, j⟩ = ((Stepper.writeRow switch row m.lines j).1,
        ⟨{ m with phase := m.phaseAfter d, lines := (Stepper.writeRow switch row m.lines j).2.1 },
          (Stepper.writeRow switch row m.lines j).2.2⟩) := by
  have hlt : m.phaseAfter d < m.pattern.length := by
    have hpos := hm.phase
    have := Int.emod_lt_of_pos (m.phase + d) (b := m.pattern.length) (by omega)
    rw [Stepper.phaseAfter]
    omega
  obtain ⟨row, hrow⟩ : ∃ row, m.pattern[m.phaseAfter d]? = some row :=
    ⟨_, List.getElem?_eq_getElem hlt⟩
  refine ⟨row, hrow, hm.rows row (List.mem_of_getElem? hrow), ?_⟩
  simp only [Stepper.advance, Stepper.row, hrow, Option.getD_some]

/-- A stepper that advances goes on by one turn and writes the row of the phase reached. -/
theorem Stepper.advance_eq_ok {switch : Switch ℓ} {d : Int} {m m' : Stepper ℓ} {j j' : Journal}
    (hm : m.Sound) (h : Stepper.advance switch d ⟨m, j⟩ = (.ok (), ⟨m', j'⟩)) :
    Advanced switch d m j m' j' := by
  obtain ⟨row, hrow, hlength, run⟩ := Stepper.advance_eq switch hm d j
  rcases hwrite : Stepper.writeRow switch row m.lines j with ⟨r, lines, j₁⟩
  rw [run, hwrite] at h
  cases h
  exact ⟨⟨rfl, Stepper.phaseAfter_eq hm d⟩, row, hrow, switched_of_writeRow hlength hwrite⟩

/-! ## Two wheels in lock step

Where a chassis keeps its steppers does not matter, as long as to advance a wheel
is to advance its stepper.  This is so on the bench and on the pins. -/

/-- The steppers of a robot. -/
structure Wheels (ℓ : Type) where
  left : Stepper ℓ
  right : Stepper ℓ

namespace Wheels

def on (ws : Wheels ℓ) : Side → Stepper ℓ
  | .left => ws.left
  | .right => ws.right

def put (ws : Wheels ℓ) (m : Stepper ℓ) : Side → Wheels ℓ
  | .left => { ws with left := m }
  | .right => { ws with right := m }

/-- Wheels that are sound steppers. -/
structure Sound (ws : Wheels ℓ) : Prop where
  left : ws.left.Sound
  right : ws.right.Sound

/-- `ws.Turned a b ws'`: the left wheel is `a` phases and the right one `b` phases further on. -/
structure Turned (ws : Wheels ℓ) (a b : Int) (ws' : Wheels ℓ) : Prop where
  left : Robot.Turned ws.left a ws'.left
  right : Robot.Turned ws.right b ws'.right

theorem Turned.trans {ws ws₁ ws' : Wheels ℓ} {a b a' b' : Int} (h : ws.Turned a b ws₁)
    (h' : ws₁.Turned a' b' ws') : ws.Turned (a + a') (b + b') ws' :=
  ⟨h.left.trans h'.left, h.right.trans h'.right⟩

theorem Turned.zero {ws : Wheels ℓ} (h : ws.Sound) : ws.Turned 0 0 ws :=
  ⟨.zero h.left, .zero h.right⟩

end Wheels

/-- `Driven switch delay left right n ws j ws' j'`: `n` times the left wheel advances, then the
right one, and then there is a pause. -/
inductive Driven (switch : Switch ℓ) (delay : Quantity) (left right : Int) :
    Nat → Wheels ℓ → Journal → Wheels ℓ → Journal → Prop
  | zero {ws : Wheels ℓ} {j : Journal} : Driven switch delay left right 0 ws j ws j
  | succ {n : Nat} {ws ws' : Wheels ℓ} {l r : Stepper ℓ} {j j₁ j₂ j' : Journal} :
      Advanced switch left ws.left j l j₁ → Advanced switch right ws.right j₁ r j₂ →
      Driven switch delay left right n ⟨l, r⟩ (.paused delay :: j₂) ws' j' →
      Driven switch delay left right (n + 1) ws j ws' j'

theorem Driven.turned {switch : Switch ℓ} {delay : Quantity} {left right : Int} {n : Nat}
    {ws ws' : Wheels ℓ} {j j' : Journal} (h : Driven switch delay left right n ws j ws' j') :
    ws.Sound → ws'.Sound ∧ ws.Turned (left * n) (right * n) ws' := by
  induction h with
  | zero =>
      intro sound
      simp only [Int.natCast_zero, Int.mul_zero]
      exact ⟨sound, .zero sound⟩
  | @succ n ws ws' l r j j₁ j₂ j' hl hr _ ih =>
      intro sound
      obtain ⟨sound', turned⟩ := ih ⟨hl.sound sound.left, hr.sound sound.right⟩
      have once : ws.Turned left right ⟨l, r⟩ := ⟨hl.turned, hr.turned⟩
      have all := once.trans turned
      have count : ∀ d : Int, d + d * n = d * (n + 1 : Nat) := by
        intro d
        rw [Int.natCast_succ, Int.mul_add, Int.mul_one, Int.add_comm]
      rw [count, count] at all
      exact ⟨sound', all⟩

/-- How a chassis has steppers for wheels: where they are found in its states, and that to advance
a wheel is to advance its stepper and nothing else. -/
structure Steppers (c : Chassis η) (switch : Switch ℓ) where
  wheels : η → Option (Wheels ℓ)
  advance : ∀ {side : Side} {d : Int} {s s' : Scene η} {ws : Wheels ℓ},
    wheels s.state = some ws → c.advance side d s = (.ok (), s') →
      ∃ m, Stepper.advance switch d ⟨ws.on side, s.journal⟩ = (.ok (), ⟨m, s'.journal⟩) ∧
        wheels s'.state = some (ws.put m side)

/-- The wheels of a robot on the bench, if both of them are steppers. -/
def Bench.wheels? (b : Bench) : Option (Wheels BenchLine) :=
  match b.left, b.right with
  | .stepper l, .stepper r => some ⟨l, r⟩
  | _, _ => none

theorem Bench.wheels?_eq_some {b : Bench} {ws : Wheels BenchLine} (h : b.wheels? = some ws) :
    b.left = .stepper ws.left ∧ b.right = .stepper ws.right := by
  unfold Bench.wheels? at h
  split at h
  · next hl hr =>
      cases h
      exact ⟨hl, hr⟩
  · exact nomatch h

theorem BenchWheel.advance_stepper {robot : Nat} {side : Side} {d : Int} {m : Stepper BenchLine}
    {j : Journal} {r : Reply Unit} {s' : Scene BenchWheel}
    (h : BenchWheel.advance robot side d ⟨.stepper m, j⟩ = (r, s')) :
    ∃ m', Stepper.advance (BenchLine.switch robot) d ⟨m, j⟩ = (r, ⟨m', s'.journal⟩) ∧
      s'.state = .stepper m' := by
  simp only [BenchWheel.advance] at h
  cases h
  exact ⟨_, rfl, rfl⟩

/-- A robot on the bench has steppers for wheels, unless one is a stand-in. -/
def Bench.steppers (robot : Nat) : Steppers (Bench.chassis robot) (BenchLine.switch robot) where
  wheels := Bench.wheels?
  advance := by
    intro side d s s' ws hws h
    obtain ⟨hleft, hright⟩ := Bench.wheels?_eq_some hws
    cases side with
    | left =>
        obtain ⟨_, hwheel, hs'⟩ := eq_of_on_part (BenchWheel.advance robot .left d) Bench.left
          (fun b x => { b with left := x }) h
        rw [hleft] at hwheel
        obtain ⟨m, hm, rfl⟩ := BenchWheel.advance_stepper hwheel
        refine ⟨m, hm, ?_⟩
        rw [hs', Bench.wheels?, hright]
        rfl
    | right =>
        obtain ⟨_, hwheel, hs'⟩ := eq_of_on_part (BenchWheel.advance robot .right d) Bench.right
          (fun b x => { b with right := x }) h
        rw [hright] at hwheel
        obtain ⟨m, hm, rfl⟩ := BenchWheel.advance_stepper hwheel
        refine ⟨m, hm, ?_⟩
        rw [hs', Bench.wheels?, hleft]
        rfl

/-- The wired robot has steppers for wheels. -/
def Wiring.steppers : Steppers Wiring.chassis GpioLine.switch where
  wheels w := some ⟨w.left, w.right⟩
  advance := by
    intro side d s s' ws hws h
    cases hws
    cases side with
    | left =>
        obtain ⟨m, hm, hs'⟩ := eq_of_on_part (Stepper.advance GpioLine.switch d) Wiring.left
          (fun w m => { w with left := m }) h
        exact ⟨m, hm, congrArg (fun w : Wiring => some (Wheels.mk w.left w.right)) hs'⟩
    | right =>
        obtain ⟨m, hm, hs'⟩ := eq_of_on_part (Stepper.advance GpioLine.switch d) Wiring.right
          (fun w m => { w with right := m }) h
        exact ⟨m, hm, congrArg (fun w : Wiring => some (Wheels.mk w.left w.right)) hs'⟩

/-- A drive that succeeds has turned the wheels in lock step. -/
theorem drive_steers {c : Chassis η} {switch : Switch ℓ} (w : Steppers c switch) {delay : Quantity}
    {left right : Int} : ∀ {n : Nat} {s s' : Scene η} {ws : Wheels ℓ}, ws.Sound →
      w.wheels s.state = some ws → drive c delay left right n s = (.ok (), s') →
      ∃ ws', w.wheels s'.state = some ws' ∧
        Driven switch delay left right n ws s.journal ws' s'.journal
  | 0, s, s', ws, _, hws, h => by
      cases h
      exact ⟨ws, hws, .zero⟩
  | n + 1, s, s', ws, sound, hws, h => by
      rw [drive] at h
      obtain ⟨_, s₁, hleft, h⟩ := Action.bind_eq_ok h
      obtain ⟨_, s₂, hright, h⟩ := Action.bind_eq_ok h
      obtain ⟨_, s₃, hpause, h⟩ := Action.bind_eq_ok h
      cases hpause
      obtain ⟨l, hl, hws₁⟩ := w.advance hws hleft
      obtain ⟨r, hr, hws₂⟩ := w.advance hws₁ hright
      have left : Advanced switch left ws.left s.journal l s₁.journal :=
        Stepper.advance_eq_ok sound.left hl
      have right : Advanced switch right ws.right s₁.journal r s₂.journal :=
        Stepper.advance_eq_ok sound.right hr
      have sound₂ : Wheels.Sound ⟨l, r⟩ := ⟨left.sound sound.left, right.sound sound.right⟩
      have hws₃ : w.wheels (s₂.write (.paused delay)).state = some ⟨l, r⟩ := hws₂
      obtain ⟨ws', hws', driven⟩ := drive_steers w sound₂ hws₃ h
      exact ⟨ws', hws', .succ left right driven⟩

/-! ## Motions

A run of motions that succeed, one after the other, and what their counts add up
to on either side. -/

/-- `Steered switch k t ms ns ws s ws' s'`: a robot with the wheels `ws` that takes the turtle `t`
along, in the scene `s`, goes through the motions `ms`, whose directions and counts are `ns`. -/
inductive Steered (switch : Switch ℓ) (k : Calibration) (t : Turtle σ) :
    List Motion → List (Int × Int) → Wheels ℓ → Scene σ → Wheels ℓ → Scene σ → Prop
  | nil {ws : Wheels ℓ} {s : Scene σ} : Steered switch k t [] [] ws s ws s
  | cons {m : Motion} {ms : List Motion} {d n : Int} {ns : List (Int × Int)} {j : Journal}
      {a : Answer} {ws ws₁ ws' : Wheels ℓ} {s s₁ s' : Scene σ} :
      signedPhases m.amount (m.scale k) = .ok (d, n) →
      Driven switch k.delay d (m.sense * d) n.toNat ws s.journal ws₁ j →
      t.answer m.call ⟨s.state, j⟩ = (.ok a, s₁) →
      Steered switch k t ms ns ws₁ s₁ ws' s' →
      Steered switch k t (m :: ms) ((d, n) :: ns) ws s ws' s'

/-- A motion that succeeds has turned the wheels by its count, and then the turtle was asked. -/
theorem turtle_steers {c : Chassis η} {switch : Switch ℓ} (w : Steppers c switch)
    {k : Calibration} {t : Turtle σ} {m : Motion} {s s' : Scene (η × σ)} {a : Answer}
    {ws : Wheels ℓ} (sound : ws.Sound) (hws : w.wheels s.state.1 = some ws)
    (h : (turtle c k t).answer m.call s = (.ok a, s')) :
    ∃ d n ws₁ j, signedPhases m.amount (m.scale k) = .ok (d, n) ∧
      w.wheels s'.state.1 = some ws₁ ∧
      Driven switch k.delay d (m.sense * d) n.toNat ws s.journal ws₁ j ∧
      t.answer m.call ⟨s.state.2, j⟩ = (.ok a, ⟨s'.state.2, s'.journal⟩) := by
  rw [turtle_answer] at h
  -- the hardware acts on the first part of the state, and then the turtle on the second
  obtain ⟨_, s₁, hfirst, hsecond⟩ := Action.bind_eq_ok h
  obtain ⟨e₁, hprepare, hs₁⟩ := eq_of_on_part (prepare c k m.call) Prod.fst
    (fun x e => (e, x.2)) hfirst
  obtain ⟨x₁, hanswer, hs'⟩ := eq_of_on_part (t.answer m.call) Prod.snd
    (fun x y => (x.1, y)) hsecond
  rw [prepare_motion] at hprepare
  obtain ⟨⟨d, n⟩, s₂, hlift, hdrive⟩ := Action.bind_eq_ok hprepare
  obtain ⟨hphases, rfl⟩ := Prod.mk.inj hlift
  obtain ⟨count, hcount, rfl⟩ := phases_eq_ok hphases
  obtain ⟨ws₁, hws₁, driven⟩ := drive_steers w sound hws hdrive
  rw [hs₁] at hanswer hs'
  refine ⟨d, count, ws₁, s₁.journal, hcount, ?_, driven, ?_⟩
  · rw [hs']
    exact hws₁
  · rw [hs']
    exact hanswer

/-- Motions that all succeed steer the wheels. -/
theorem serve_steers {c : Chassis η} {switch : Switch ℓ} (w : Steppers c switch) {k : Calibration}
    {t : Turtle σ} {ms : List Motion} : ∀ {s : Scene (η × σ)} {ws : Wheels ℓ}, ws.Sound →
      w.wheels s.state.1 = some ws →
      (∀ r ∈ ((turtle c k t).serve (ms.map Motion.call) s).1, ∃ a, r.2 = .ok a) →
      let s' := ((turtle c k t).serve (ms.map Motion.call) s).2
      ∃ ns ws', w.wheels s'.state.1 = some ws' ∧
        Steered switch k t ms ns ws ⟨s.state.2, s.journal⟩ ws' ⟨s'.state.2, s'.journal⟩ := by
  induction ms with
  | nil =>
      intro s ws _ hws _
      exact ⟨[], ws, hws, .nil⟩
  | cons m ms ih =>
      intro s ws sound hws done
      rw [List.map_cons, Turtle.serve_cons] at done ⊢
      obtain ⟨⟨a, first⟩, rest⟩ := List.forall_mem_cons.mp done
      rcases hanswer : (turtle c k t).answer m.call s with ⟨r, s₁⟩
      rw [hanswer] at first rest
      cases first
      obtain ⟨d, n, ws₁, j, hcount, hws₁, driven, asked⟩ := turtle_steers w sound hws hanswer
      obtain ⟨ns, ws', hws', steered⟩ := ih (driven.turned sound).1 hws₁ rest
      exact ⟨(d, n) :: ns, ws', hws', .cons hcount driven asked steered⟩

/-- By how many phases the left wheel turns for a direction and a count. -/
def turn (n : Int × Int) : Int :=
  n.1 * max n.2 0

theorem turn_neg (d n : Int) : turn (-d, n) = -turn (d, n) :=
  Int.neg_mul d (max n 0)

/-- Over a whole run the turns of the wheels add up. -/
theorem Steered.turned {switch : Switch ℓ} {k : Calibration} {t : Turtle σ} {ms : List Motion}
    {ns : List (Int × Int)} {ws ws' : Wheels ℓ} {s s' : Scene σ}
    (h : Steered switch k t ms ns ws s ws' s') : ws.Sound →
      ws.Turned (ns.map turn).sum (List.zipWith (fun m n => m.sense * turn n) ms ns).sum ws' := by
  induction h with
  | nil => exact fun sound => .zero sound
  | @cons m ms d n ns j a ws ws₁ ws' s s₁ s' _ driven _ _ ih =>
      intro sound
      obtain ⟨sound₁, first⟩ := driven.turned sound
      -- a count below zero is driven as none
      have left : d * (n.toNat : Int) = turn (d, n) := by
        rw [turn, Int.toNat_eq_max]
      have right : m.sense * d * (n.toNat : Int) = m.sense * turn (d, n) := by
        rw [Int.mul_assoc, left]
      rw [left, right] at first
      exact first.trans (ih sound₁)

theorem Steered.counts {switch : Switch ℓ} {k : Calibration} {t : Turtle σ} {ms : List Motion}
    {ns : List (Int × Int)} {ws ws' : Wheels ℓ} {s s' : Scene σ}
    (h : Steered switch k t ms ns ws s ws' s') :
    ms.map (fun m => signedPhases m.amount (m.scale k)) = ns.map .ok := by
  induction h with
  | nil => rfl
  | cons hcount _ _ _ ih => rw [List.map_cons, List.map_cons, hcount, ih]

theorem Turned.phase_eq {m m' : Stepper ℓ} (h : Turned m 0 m') (sound : m.Sound) :
    m'.phase = m.phase := by
  have := h.phase.trans (Turned.zero sound).phase.symm
  omega

/-- The turns of the wheels add up.  After any moves and rotations that all succeed, the left wheel
is further on by the sum of the turns for all of them, and the right one by the sum for the moves
less that for the rotations, modulo the lengths of their patterns.  At every advance each line was
switched once, to its value in the row of the phase reached.  So two moves, or two rotations, of the
same count and opposite directions bring both wheels back to where they were. -/
theorem turns_add_up {c : Chassis η} {switch : Switch ℓ} (w : Steppers c switch) (k : Calibration)
    (t : Turtle σ) {ms : List Motion} {s : Scene (η × σ)} {ws : Wheels ℓ} (sound : ws.Sound)
    (hws : w.wheels s.state.1 = some ws)
    (done : ∀ r ∈ ((turtle c k t).serve (ms.map Motion.call) s).1, ∃ a, r.2 = .ok a) :
    let s' := ((turtle c k t).serve (ms.map Motion.call) s).2
    ∃ ns ws', ms.map (fun m => signedPhases m.amount (m.scale k)) = ns.map .ok ∧
      w.wheels s'.state.1 = some ws' ∧
      Steered switch k t ms ns ws ⟨s.state.2, s.journal⟩ ws' ⟨s'.state.2, s'.journal⟩ ∧
      (ws'.left.phase : Int) =
        (ws.left.phase + (ns.map turn).sum) % ws.left.pattern.length ∧
      (ws'.right.phase : Int) =
        (ws.right.phase + (List.zipWith (fun m n => m.sense * turn n) ms ns).sum) %
          ws.right.pattern.length ∧
      ∀ a b d n, ms = [a, b] → a.sense = b.sense → ns = [(d, n), (-d, n)] →
        ws'.left.phase = ws.left.phase ∧ ws'.right.phase = ws.right.phase := by
  intro s'
  obtain ⟨ns, ws', hws', steered⟩ := serve_steers w sound hws done
  have turned := steered.turned sound
  refine ⟨ns, ws', steered.counts, hws', steered, turned.left.phase, turned.right.phase, ?_⟩
  rintro a b d n rfl same rfl
  have left : ([(d, n), (-d, n)].map turn).sum = 0 := by
    simp only [List.map_cons, List.map_nil, List.sum_cons, List.sum_nil, turn_neg]
    omega
  have right : (List.zipWith (fun m n => m.sense * turn n) [a, b] [(d, n), (-d, n)]).sum = 0 := by
    simp only [List.zipWith_cons_cons, List.zipWith_nil_left, List.sum_cons, List.sum_nil, turn_neg,
      same, Int.mul_neg]
    omega
  rw [left, right] at turned
  exact ⟨turned.left.phase_eq sound.left, turned.right.phase_eq sound.right⟩

/-- A stepper on the bench none of whose lines fails. -/
def benchStepper (side : Side) (pattern : Pattern) (lines : Nat) : Stepper BenchLine :=
  ⟨pattern, .real 0.001, benchLines side (List.replicate lines Schedule.never), 0⟩

/-- Nine phases on the left and three on the right. -/
def unlikeWheels : Wheels BenchLine :=
  ⟨benchStepper .left standardPattern 4, benchStepper .right [[true], [false], [false]] 1⟩

/-- A robot with the wheels above. -/
def unlikeBench : Bench :=
  ⟨⟨none, ⟨Schedule.never, 0⟩⟩, .stepper unlikeWheels.left, .stepper unlikeWheels.right, []⟩

def unlikeMeasures (moveScale rotateScale : Float) : Calibration :=
  ⟨.real moveScale, .real rotateScale, .real 0.002, .real 0.0, .real 90.0⟩

def unlikeRun (k : Calibration) (ms : List Motion) :
    List (Call × Reply Answer) × Scene (Bench × Pose) :=
  (turtle (Bench.chassis 0) k kinematic).serve (ms.map Motion.call)
    ⟨(unlikeBench, Pose.home), []⟩

def phasesAfter (run : List (Call × Reply Answer) × Scene (Bench × Pose)) : Option (Nat × Nat) :=
  run.2.state.1.wheels?.map fun ws => (ws.left.phase, ws.right.phase)

/-- A count below zero is not added to the phases, and a move is not undone by a rotation of the
same count in the opposite direction. -/
theorem turns_not_undone :
    let below := unlikeRun (unlikeMeasures (-1.0) 1.0) [.move (.whole 5)]
    let mixed := unlikeRun (unlikeMeasures 1.0 1.0) [.move (.whole 2), .rotate (.whole (-2))]
    (below.1.all (·.2.isOk) ∧ (signedPhases (.whole 5) (.real (-1.0))).toOption = some (1, -5) ∧
      phasesAfter below = some (0, 0) ∧ (0 : Int) ≠ (0 + 1 * (-5)) % standardPattern.length) ∧
    (mixed.1.all (·.2.isOk) ∧ (signedPhases (.whole 2) (.real 1.0)).toOption = some (1, 2) ∧
      (signedPhases (.whole (-2)) (.real 1.0)).toOption = some (-1, 2) ∧
      phasesAfter mixed = some (0, 1)) := by
  decide +kernel

/-- Two moves and a rotation between them, on wheels with patterns of different lengths. -/
theorem turns_add_up_unlike_wheels :
    let k := unlikeMeasures 1.0 2.0
    let ms : List Motion := [.move (.whole 2), .rotate (.real (-2.5)), .move (.whole (-4))]
    unlikeWheels.Sound ∧ (∀ r ∈ (unlikeRun k ms).1, ∃ a, r.2 = .ok a) ∧
      (ms.map fun m => (signedPhases m.amount (m.scale k)).toOption) =
        [some (1, 2), some (-1, 5), some (-1, 4)] ∧
      ∃ ns ws', ms.map (fun m => signedPhases m.amount (m.scale k)) = ns.map .ok ∧
        (Bench.steppers 0).wheels (unlikeRun k ms).2.state.1 = some ws' ∧
        (ws'.left.phase : Int) = (0 + (ns.map turn).sum) % 9 ∧
        (ws'.right.phase : Int) =
          (0 + (List.zipWith (fun m n => m.sense * turn n) ms ns).sum) % 3 := by
  intro k ms
  have sound : unlikeWheels.Sound := ⟨⟨by decide, by decide⟩, ⟨by decide, by decide⟩⟩
  have done : ∀ r ∈ (unlikeRun k ms).1, ∃ a, r.2 = .ok a := by
    have all : (unlikeRun k ms).1.all (·.2.isOk) = true := by decide +kernel
    intro r hr
    have hok : r.2.isOk = true := List.all_eq_true.mp all r hr
    cases h : r.2 with
    | ok a => exact ⟨a, rfl⟩
    | error e =>
        rw [h] at hok
        exact nomatch hok
  obtain ⟨ns, ws', hns, hws', -, left, right, -⟩ :=
    turns_add_up (Bench.steppers 0) k kinematic (s := ⟨(unlikeBench, Pose.home), []⟩) sound rfl done
  refine ⟨sound, done, by decide +kernel, ns, ws', hns, ?_, left, right⟩
  rw [unlikeRun]
  exact hws'

end TurtleLogo.Robot
