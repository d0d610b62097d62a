/-
# `TurtleLogo.Proofs.Robot.Hardware` — the moving parts fail only by reported errors

Servos, steppers and lines may fail at any time, in the middle of a row of
lines and in the middle of a drive.  Whatever fails, it is a device error that
is told; a defect would have to come out of the arithmetic, and that has a
result as soon as real measures meet amounts within the reals.

    phases_reported        the number of phases for an amount
    Servo.duty_reported    the duty cycle for an angle
    Stepper.advance_safe   a stepper on lines that are safe to switch
    Bench.dependable       the moving parts on the bench, whatever their schedules
    Wiring.dependable      the wired robot, as long as its devices are open
-/
import TurtleLogo.Proofs.Action
import TurtleLogo.Proofs.Quantity
import TurtleLogo.Proofs.Robot.Ports
import TurtleLogo.Robot.Bench
import TurtleLogo.Robot.Wiring

namespace TurtleLogo

namespace Robot

open TurtleLogo.Action

theorem phases_reported {amount scale : Quantity} (ha : amount.Measurable) (hs : scale.IsReal)
    {f : Failure} (h : phases amount scale = .error f) : f.IsReported := by
  obtain ⟨q, hq, x, rfl⟩ := Quantity.combine_isReal (· * ·) (· * ·) ha.2 hs
  have hmul : amount.abs.mul scale = .ok (.real x) := hq
  -- The ceiling of a real is an integer or none at all, and neither is a fault.
  have hceil : ∃ count, (amount.abs.mul scale).bind Quantity.ceil? = .ok count := by
    rw [hmul]
    simp only [Except.bind, Quantity.ceil?, Quantity.value]
    split
    · exact ⟨_, rfl⟩
    · exact ⟨_, rfl⟩
  obtain ⟨count, hcount⟩ := hceil
  unfold phases at h
  rw [hcount] at h
  cases count with
  | none =>
      cases h
      exact Failure.isReported_of _
  | some n => cases h

namespace Servo

structure IsReal (s : Servo) : Prop where
  minAngle : s.minAngle.IsReal
  minDuty : s.minDuty.IsReal

theorem duty_reported {s : Servo} (hs : s.IsReal) {degrees : Quantity} (hd : degrees.InReals)
    {f : Failure} (h : s.duty degrees = .error f) : f.IsReported := by
  unfold duty at h
  split at h
  · cases h
    exact Failure.isReported_of _
  · obtain ⟨way, hway, hreal⟩ := Quantity.combine_isReal (· - ·) (· - ·) hd hs.minAngle
    obtain ⟨change, hchange, hreal'⟩ :=
      Quantity.combine_isReal (· * ·) (· * ·) hreal.inReals ⟨s.dutyPerDegree, rfl⟩
    obtain ⟨duty, hduty, x, rfl⟩ :=
      Quantity.combine_isReal (· + ·) (· + ·) hs.minDuty.inReals hreal'
    have result : s.dutyFor degrees = .ok x := by
      have hsub : degrees.sub s.minAngle = .ok way := hway
      have hmul : way.mul (.real s.dutyPerDegree) = .ok change := hchange
      have hadd : s.minDuty.add change = .ok (.real x) := hduty
      simp only [dutyFor, hsub, hmul, hadd, Bind.bind, Except.bind]
      rfl
    rw [result] at h
    exact nomatch h

end Servo

/-! ## Parts of a part

The moving parts are states within states.  What is known of an action on a part
is known of it on the whole. -/

variable {σ τ α : Type}

theorem safe_on_part {x : Action τ α} {J : τ → Prop} {I : σ → Prop} {F : Failure → Prop}
    (h : x.Safe J F) (get : σ → τ) (set : σ → τ → σ) (hget : ∀ s, I s → J (get s))
    (hset : ∀ s t, I s → J t → I (set s t)) :
    Action.Safe I F fun s : Scene σ =>
      match x ⟨get s.state, s.journal⟩ with
      | (r, s') => (r, ⟨set s.state s'.state, s'.journal⟩) := by
  intro s hs
  obtain ⟨hJ, hF⟩ := h ⟨get s.state, s.journal⟩ (hget s.state hs)
  exact ⟨hset s.state _ hs hJ, hF⟩

theorem leads_on_part {x : Action τ α} {P Q : Scene τ → Prop} {P' Q' : Scene σ → Prop}
    {F : Failure → Prop} (h : x.Leads P Q F) (get : σ → τ) (set : σ → τ → σ)
    (hget : ∀ s, P' s → P ⟨get s.state, s.journal⟩)
    (hset : ∀ s t j, P' s → Q ⟨t, j⟩ → Q' ⟨set s.state t, j⟩) :
    Action.Leads P' Q' F fun s : Scene σ =>
      match x ⟨get s.state, s.journal⟩ with
      | (r, s') => (r, ⟨set s.state s'.state, s'.journal⟩) := by
  intro s hs
  obtain ⟨hQ, hF⟩ := h ⟨get s.state, s.journal⟩ (hget s hs)
  exact ⟨hset s _ _ hs hQ, hF⟩

/-- An action on a part of a state changes that part as it does on its own. -/
theorem eq_of_on_part (x : Action τ α) (get : σ → τ) (set : σ → τ → σ)
    {s s' : Scene σ} {r : Reply α}
    (h : (match x ⟨get s.state, s.journal⟩ with
      | (r, s') => (r, ⟨set s.state s'.state, s'.journal⟩)) = (r, s')) :
    ∃ m, x ⟨get s.state, s.journal⟩ = (r, ⟨m, s'.journal⟩) ∧ s'.state = set s.state m := by
  rcases hx : x ⟨get s.state, s.journal⟩ with ⟨r₁, m⟩
  rw [hx] at h
  cases h
  exact ⟨m.state, rfl, rfl⟩

/-! ## Steppers

A row is written line by line.  What holds of every single switch holds of a row
up to the line that fails. -/

namespace Stepper

variable {ℓ : Type} {J : ℓ → Prop} {switch : Switch ℓ}

/-- Writing a row keeps what switching every single line keeps, of the lines and of the journal, also
when a line fails. -/
theorem writeRow_keeps {K : Journal → Prop} {F : Failure → Prop}
    (h : ∀ on, (switch on).Keeps (fun s => J s.state ∧ K s.journal) F) :
    ∀ (row : List Bool) (lines : List ℓ) (j : Journal), (∀ l ∈ lines, J l) → K j →
      ((∀ l ∈ (writeRow switch row lines j).2.1, J l) ∧ K (writeRow switch row lines j).2.2) ∧
        ∀ f, (writeRow switch row lines j).1 = .error f → F f
  | [], lines, j, hlines, hj => by
      have run : writeRow switch [] lines j = (.ok (), lines, j) := by rw [writeRow.eq_def]
      rw [run]
      exact ⟨⟨hlines, hj⟩, ok_fails_in⟩
  | value :: row, [], j, hlines, hj => by
      have run : writeRow switch (value :: row) [] j = (.ok (), [], j) := by rw [writeRow.eq_def]
      rw [run]
      exact ⟨⟨hlines, hj⟩, ok_fails_in⟩
  | value :: row, line :: lines, j, hlines, hj => by
      obtain ⟨hline, hrest⟩ := List.forall_mem_cons.mp hlines
      have hJ := (h value ⟨line, j⟩ ⟨hline, hj⟩).1
      have hF := (h value ⟨line, j⟩ ⟨hline, hj⟩).2
      rcases hr : switch value ⟨line, j⟩ with ⟨r, s⟩
      rw [hr] at hJ hF
      cases r with
      | ok _ =>
          obtain ⟨⟨hlater, hj'⟩, hfails⟩ := writeRow_keeps h row lines s.journal hrest hJ.2
          simp only [writeRow, hr]
          exact ⟨⟨List.forall_mem_cons.mpr ⟨hJ.1, hlater⟩, hj'⟩, hfails⟩
      | error e =>
          simp only [writeRow, hr]
          refine ⟨⟨List.forall_mem_cons.mpr ⟨hJ.1, hrest⟩, hJ.2⟩, fun f hf => ?_⟩
          cases hf
          exact hF e rfl

theorem advance_keeps {K : Journal → Prop} {F : Failure → Prop}
    (h : ∀ on, (switch on).Keeps (fun s => J s.state ∧ K s.journal) F) (direction : Int) :
    (advance switch direction).Keeps (fun s => (∀ l ∈ s.state.lines, J l) ∧ K s.journal) F := by
  intro s hs
  exact writeRow_keeps h _ s.state.lines s.journal hs.1 hs.2

theorem advance_safe {F : Failure → Prop} (h : ∀ on, (switch on).Safe J F) (direction : Int) :
    (advance switch direction).Safe (fun s => ∀ l ∈ s.lines, J l) F := by
  have keeps := advance_keeps (J := J) (K := fun _ => True)
    (fun on s hs => ⟨⟨(h on s hs.1).1, trivial⟩, (h on s hs.1).2⟩) direction
  intro s hs
  exact ⟨(keeps s ⟨hs, trivial⟩).1.1, (keeps s ⟨hs, trivial⟩).2⟩

end Stepper

/-! ## Driving

From the turns of the wheels to a whole drive, by induction on the number of
phases. -/

/-- A chassis that can be relied on with the measures `k`, in the states `J`: it stays there, and
what it cannot do it reports. -/
structure Dependable {η : Type} (c : Chassis η) (k : Calibration) (J : η → Prop) : Prop where
  moveScale : k.moveScale.IsReal
  rotateScale : k.rotateScale.IsReal
  pen : ∀ up, (c.pen (k.penAngle up)).Safe J Failure.IsReported
  advance : ∀ wheel direction, (c.advance wheel direction).Safe J Failure.IsReported

theorem drive_safe {η : Type} {c : Chassis η} {J : η → Prop} {F : Failure → Prop}
    (h : ∀ wheel direction, (c.advance wheel direction).Safe J F) (delay : Quantity)
    (left right : Int) : ∀ n, (drive c delay left right n).Safe J F
  | 0 => .pure ()
  | n + 1 => by
      rw [drive]
      refine (h .left left).bind fun _ => (h .right right).bind fun _ => ?_
      exact (Safe.emit _).bind fun _ => drive_safe h delay left right n

theorem Dependable.setPen {η : Type} {c : Chassis η} {k : Calibration} {J : η → Prop}
    (h : Dependable c k J) (up : Bool) : (setPen c k up).Safe J Failure.IsReported :=
  (h.pen up).bind fun _ => .emit _

/-! ## On the bench

Everything on the bench fails by a device error when its gauge says so, and in no
other way. -/

theorem Gauge.act_safe (robot : Nat) (message : String) (e : BenchEvent) :
    (Gauge.act robot message e).Safe (fun _ => True) Failure.IsReported := by
  intro s _
  refine ⟨trivial, fun f hf => ?_⟩
  simp only [Gauge.act] at hf
  split at hf
  · cases hf
    exact Failure.isReported_of _
  · exact ok_fails_in f hf

theorem BenchLine.switch_safe (robot : Nat) (on : Bool) :
    (BenchLine.switch robot on).Safe (fun _ => True) Failure.IsReported := by
  intro s _
  exact ⟨trivial, (Gauge.act_safe robot _ _ ⟨s.state.gauge, s.journal⟩ trivial).2⟩

/-- Servos on the bench that are stand-ins or measured in reals. -/
def BenchServo.IsReal (b : BenchServo) : Prop :=
  ∀ s, b.real = some s → s.IsReal

theorem BenchServo.turn_safe (robot : Nat) {degrees : Quantity} (hd : degrees.InReals) :
    (BenchServo.turn robot degrees).Safe BenchServo.IsReal Failure.IsReported := by
  rintro ⟨⟨real, gauge⟩, j⟩ hs
  have acts := fun message e => (Gauge.act_safe robot message e ⟨gauge, j⟩ trivial).2
  cases real with
  | none =>
      simp only [BenchServo.turn]
      exact ⟨hs, acts "servo write failed" (.angled degrees)⟩
  | some servo =>
      have hservo : servo.IsReal := hs servo rfl
      cases hduty : servo.duty degrees with
      | error e =>
          simp only [BenchServo.turn, hduty]
          refine ⟨hs, fun f hf => ?_⟩
          cases hf
          exact Servo.duty_reported hservo hd hduty
      | ok duty =>
          simp only [BenchServo.turn, hduty]
          exact ⟨hs, acts "pwm write failed" (.pulsed duty)⟩

theorem BenchWheel.advance_safe (robot : Nat) (wheel : Side) (direction : Int) :
    (BenchWheel.advance robot wheel direction).Safe (fun _ => True) Failure.IsReported := by
  intro s _
  refine ⟨trivial, ?_⟩
  unfold BenchWheel.advance
  cases s.state with
  | standIn gauge => exact (Gauge.act_safe robot _ _ ⟨gauge, s.journal⟩ trivial).2
  | stepper motor =>
      have hmotor := Stepper.advance_safe (BenchLine.switch_safe robot) direction
      exact (hmotor ⟨motor, s.journal⟩ fun _ _ => trivial).2

/-- The moving parts on the bench can be relied on, whatever their schedules. -/
theorem Bench.dependable (robot : Nat) {k : Calibration} (hmove : k.moveScale.IsReal)
    (hrotate : k.rotateScale.IsReal) (hpen : ∀ up, (k.penAngle up).InReals) :
    Dependable (Bench.chassis robot) k fun b => b.servo.IsReal where
  moveScale := hmove
  rotateScale := hrotate
  pen up := safe_on_part (BenchServo.turn_safe robot (hpen up)) Bench.servo
    (fun b x => { b with servo := x }) (fun _ h => h) (fun _ _ _ h => h)
  advance wheel direction := by
    cases wheel with
    | left =>
        exact safe_on_part (BenchWheel.advance_safe robot .left direction) Bench.left
          (fun b x => { b with left := x }) (fun _ _ => trivial) (fun _ _ h _ => h)
    | right =>
        exact safe_on_part (BenchWheel.advance_safe robot .right direction) Bench.right
          (fun b x => { b with right := x }) (fun _ _ => trivial) (fun _ _ h _ => h)

/-! ## On the pins

Writing to an open handle succeeds, or fails by an error of the device. -/

theorem Handle.store_safe (target text : String) :
    (Handle.store target text).Safe (fun h => h.isOpen = true) Failure.IsReported := by
  intro s hopen
  obtain ⟨written, fails, succeeds⟩ := Handle.store_open hopen target text s.journal
  refine ⟨written.isOpen, fun f hf => ?_⟩
  cases hfull : s.state.full with
  | true =>
      obtain ⟨g, device, reply⟩ := fails hfull
      cases reply.symm.trans hf
      exact device.isReported
  | false => exact nomatch (succeeds hfull).symm.trans hf

/-- Lines that are open, or that have been closed in order. -/
def GpioLine.IsOpen (l : GpioLine) : Prop :=
  ∀ h, l.handle = some h → h.isOpen = true

theorem GpioLine.switch_safe (on : Bool) :
    (GpioLine.switch on).Safe GpioLine.IsOpen Failure.IsReported := by
  intro s hs
  unfold GpioLine.switch
  cases hh : s.state.handle with
  | none =>
      refine ⟨hs, fun f hf => ?_⟩
      cases hf
      exact Failure.isReported_of _
  | some handle =>
      obtain ⟨hopen, hfails⟩ := Handle.store_safe (directoryName s.state.pin)
        (if on then "1" else "0") ⟨handle, s.journal⟩ (hs handle hh)
      refine ⟨fun h he => ?_, hfails⟩
      obtain rfl := Option.some.inj he
      exact hopen

/-- A wiring whose devices are open and whose servo is measured in reals. -/
structure Wiring.IsOpen (w : Wiring) : Prop where
  servo : w.servo.IsReal
  blaster : w.blaster.handle.isOpen = true
  left : ∀ l ∈ w.left.lines, l.IsOpen
  right : ∀ l ∈ w.right.lines, l.IsOpen

theorem Blaster.setDuty_safe (x : Float) :
    (Blaster.setDuty (.real x)).Safe (fun b => b.handle.isOpen = true) Failure.IsReported := by
  intro s hs
  exact safe_on_part (Handle.store_safe _ _) Blaster.handle (fun b h => { b with handle := h })
    (I := fun b => b.handle.isOpen = true) (fun _ h => h) (fun _ _ _ h => h) s hs

/-- The wired robot can be relied on as long as its devices are open, whatever they refuse. -/
theorem Wiring.dependable {k : Calibration} (hmove : k.moveScale.IsReal)
    (hrotate : k.rotateScale.IsReal) (hpen : ∀ up, (k.penAngle up).InReals) :
    Dependable Wiring.chassis k Wiring.IsOpen where
  moveScale := hmove
  rotateScale := hrotate
  pen up := by
    intro s hs
    have run : Wiring.chassis.pen (k.penAngle up) s =
        (Action.lift (s.state.servo.duty (k.penAngle up)) >>= fun duty =>
          onBlaster (Blaster.setDuty (.real duty))) s := rfl
    rw [run]
    refine Safe.lift_bind (fun duty _ => ?_) (fun e he => ?_) s hs
    · exact safe_on_part (Blaster.setDuty_safe duty) Wiring.blaster
        (fun w b => { w with blaster := b }) (fun _ h => h.blaster)
        (fun _ _ h hb => { h with blaster := hb })
    · exact Servo.duty_reported hs.servo (hpen up) he
  advance wheel direction := by
    have motor := Stepper.advance_safe GpioLine.switch_safe direction
    cases wheel with
    | left =>
        exact safe_on_part motor Wiring.left (fun w m => { w with left := m })
          (fun _ h => h.left) (fun _ _ h hm => { h with left := hm })
    | right =>
        exact safe_on_part motor Wiring.right (fun w m => { w with right := m })
          (fun _ h => h.right) (fun _ _ h hm => { h with right := hm })

end Robot

end TurtleLogo
