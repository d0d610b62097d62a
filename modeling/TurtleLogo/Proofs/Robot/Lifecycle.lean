/-
# `TurtleLogo.Proofs.Robot.Lifecycle` — how a robot fails before and after it is closed

What is known of the devices of a robot depends on two things: whether the robot has been
closed before, and whether the file of some device is full.

    h.Fits closed full           what is known of a handle
    p.Fits keeps closed full d   what is known of a device
    w.Fits k b l r               what is known of a wiring, by what is closed of it
    k.Unwritten j                if the robot was closed at first, the files are as they were
    Stands k closed s            a robot that is closed or open as a whole, with such files

Every call keeps this, and closing takes a robot that is open to one that is closed
(`answer_keeps`, `close_leads`).  So whatever a robot has behind it, the ways in which the
next operation can fail are known (`Lapse`), and a robot that has been closed writes
nothing, unless some file is full.
-/
import TurtleLogo.Proofs.Robot.Handles
import TurtleLogo.Proofs.Robot.Ports
import TurtleLogo.Proofs.Robot.Shutdown

namespace TurtleLogo

/-! ## Calculations

Where there is no real number for an amount, a calculation with it is a defect,
which is no error of a device. -/

theorem calculated_eq_error {α : Type} {r : Except ArithmeticFault α} {f : Failure}
    (h : calculated r = .error f) : f.IsArithmetic := by
  cases r with
  | ok a => exact nomatch h
  | error fault =>
      cases h
      exact ⟨fault, rfl⟩

theorem Failure.IsArithmetic.not_reported {f : Failure} (h : f.IsArithmetic) : ¬ f.IsReported := by
  rintro ⟨e, rfl⟩
  obtain ⟨fault, same⟩ := h
  exact nomatch same

namespace Robot

variable {δ ω : Type} {closed full : Prop}

/-! ## Devices in the hands of a robot

What is known of a device says what its file holds, too: unless some file is full,
a device that has been closed writes nothing.  To fit is an invariant of all that
a robot does with its devices. -/

/-- `h.Fits closed full`: what is known of a handle. -/
structure Handle.Fits (closed full : Prop) (h : Handle) : Prop where
  pending : h.pending = true → full
  shut : h.isOpen = false → closed
  clean : closed → ¬ full → h.isOpen = false
  full : h.full = true → full

/-- `p.Fits keeps closed full d`: what is known of a device.  One that does not keep its handle has
none left once the robot is closed, unless some file is full. -/
def Port.Fits (p : Port δ ω) (keeps : Bool) (closed full : Prop) (d : δ) : Prop :=
  ∀ h, p.held d = some h → h.Fits closed full ∧ (keeps = true ∨ (closed → full))

/-- Configurations that are measured in reals. -/
structure Config.IsReal (c : Config) : Prop where
  moveScale : c.moveScale.IsReal
  rotateScale : c.rotateScale.IsReal
  minAngle : c.minAngle.IsReal
  minDuty : c.minDuty.IsReal
  penUpAngle : c.penUpAngle.InReals
  penDownAngle : c.penDownAngle.InReals

/-- Configurations with a delay that a clock sleeps for: it is not negative, and not beyond the
clock. -/
def Config.Rests (c : Config) : Prop :=
  ∃ seconds, c.stepDelay.toFloat = .ok seconds ∧ 0.0 ≤ seconds ∧
    Timer.clock.measures seconds = true

theorem Config.IsReal.penAngle {c : Config} (h : c.IsReal) (up : Bool) :
    (c.calibration.penAngle up).InReals := by
  cases up with
  | true => exact h.penUpAngle
  | false => exact h.penDownAngle

/-- What stays the same while a robot is used: its configuration and its servo, whether some file is
full, whether the robot was closed at first, and the files before everything and at first. -/
structure Setting where
  config : Config
  servo : Servo
  real : config.IsReal → servo.IsReal
  full : Prop
  was : Prop
  files : Bindings String
  kept : Bindings String

/-- If the robot was closed at first and no file is full, the files are as they were. -/
def Setting.Unwritten (k : Setting) (j : Journal) : Prop :=
  k.was → ¬ k.full → filesIn k.files j = k.kept

variable {k : Setting}

theorem Setting.Unwritten.cons {e : Event} (he : ∀ fs, fileStep fs e = fs) {j : Journal}
    (h : k.Unwritten j) : k.Unwritten (e :: j) := by
  intro hwas hfull
  rw [filesIn_cons, he, h hwas hfull]

/-- Whatever has been closed, or is not in order anyway, may be taken for closed. -/
theorem Port.Fits.shut {p : Port δ ω} {keeps : Bool} {d : δ} (h : p.Fits keeps closed full d)
    (hc : closed ∨ full) : p.Fits keeps True full d := by
  intro handle held
  obtain ⟨fits, hkeeps⟩ := h handle held
  refine ⟨⟨fits.pending, fun _ => trivial, fun _ hfull => ?_, fits.full⟩, ?_⟩
  · exact fits.clean (hc.resolve_right hfull) hfull
  · refine hkeeps.imp_right fun hclosed _ => ?_
    exact hc.elim hclosed id

theorem Handle.closing_eq_error {h : Handle} {f : Failure} (failed : h.closing = .error f) :
    f = .defect .unsaved ∧ h.pending = true := by
  by_cases unsaved : h.pending = true
  · cases hopen : h.isOpen with
    | true =>
        rw [Handle.closing_unsaved hopen unsaved] at failed
        cases failed
        exact ⟨rfl, unsaved⟩
    | false =>
        rw [Handle.closing_shut hopen] at failed
        exact nomatch failed
  · rw [Handle.closing_saved unsaved] at failed
    exact nomatch failed

section Ports

variable {p : Port δ ω} {keeps : Bool} {W : ω → Prop}

/-- A write meets a closed file only after the robot was closed. -/
theorem Handled.write_keeps (hp : Handled p keeps W) (hwas : k.was → closed) {w : ω} (hw : W w) :
    (p.write w).Keeps (fun s => p.Fits keeps closed k.full s.state ∧ k.Unwritten s.journal)
      fun f => f.IsDevice ∨ f = .defect .closedFile ∧ closed ∧ (keeps = true ∨ k.full) := by
  rintro s ⟨fits, unwritten⟩
  cases held : p.held s.state with
  | none =>
      obtain ⟨f, hf, run⟩ := hp.write_gone hw held
      rw [run]
      refine ⟨⟨fits, unwritten⟩, fun g hg => ?_⟩
      cases hg
      exact .inl hf
  | some h =>
      obtain ⟨hfits, hkeeps⟩ := fits h held
      cases hopen : h.isOpen with
      | false =>
          rw [hp.write_shut hw held hopen]
          refine ⟨⟨fits, unwritten⟩, fun g hg => ?_⟩
          cases hg
          have hclosed := hfits.shut hopen
          exact .inr ⟨rfl, hclosed, hkeeps.imp_right fun h => h hclosed⟩
      | true =>
          obtain ⟨h', held', written, fails, succeeds⟩ := hp.write_open hw held hopen
          -- an open handle is none of a robot that was closed in order
          have busy : closed → ¬ k.full → False := by
            intro hclosed hfull
            exact Bool.false_ne_true ((hfits.clean hclosed hfull).symm.trans hopen)
          refine ⟨⟨fun h'' held'' => ?_, fun h hfull => (busy (hwas h) hfull).elim⟩, fun f hf => ?_⟩
          · obtain rfl := Option.some.inj (held'.symm.trans held'')
            refine ⟨⟨fun hpending => ?_, fun hshut => ?_,
              fun hclosed hfull => (busy hclosed hfull).elim,
              fun hfull => hfits.full (written.full.symm.trans hfull)⟩, hkeeps⟩
            · rw [written.pending, Bool.or_eq_true] at hpending
              exact hpending.elim hfits.pending hfits.full
            · exact absurd (hshut.symm.trans written.isOpen) Bool.false_ne_true
          · cases hfull : h.full with
            | true =>
                obtain ⟨g, hg, reply⟩ := fails hfull
                rw [reply] at hf
                cases hf
                exact .inl hg
            | false =>
                rw [succeeds hfull] at hf
                exact nomatch hf

/-- Closing a device fails only if its file is full. -/
theorem Handled.close_leads (hp : Handled p keeps W) :
    p.close.Leads
      (fun s => p.Fits keeps closed k.full s.state ∧ k.Unwritten s.journal)
      (fun s => p.Fits keeps True k.full s.state ∧ k.Unwritten s.journal)
      fun f => f = .defect .unsaved ∧ k.full := by
  rintro s ⟨fits, unwritten⟩
  have unwritten' : k.Unwritten (p.close s).2.journal := by
    intro hwas hfull
    rw [hp.close_files, unwritten hwas hfull]
  cases held : p.held s.state with
  | none =>
      obtain ⟨reply, held'⟩ := hp.close_gone held
      rw [reply]
      refine ⟨⟨fun h hh => ?_, unwritten'⟩, ok_fails_in⟩
      rw [held'] at hh
      exact nomatch hh
  | some h =>
      obtain ⟨hfits, hkeeps⟩ := fits h held
      have shut : Handle.Fits True k.full { h with isOpen := false } :=
        ⟨hfits.pending, fun _ => trivial, fun _ _ => rfl, hfits.full⟩
      cases hclosing : h.closing with
      | error f =>
          obtain ⟨rfl, hpending⟩ := Handle.closing_eq_error hclosing
          have held' := hp.close_failed held hclosing
          rw [hp.close_held held, hclosing]
          refine ⟨⟨fun h' hh => ?_, unwritten'⟩, fun f hf => ?_⟩
          · obtain rfl := Option.some.inj (held'.symm.trans hh)
            exact ⟨shut, .inr fun _ => hfits.pending hpending⟩
          · cases hf
            exact ⟨rfl, hfits.pending hpending⟩
      | ok _ =>
          have held' := hp.close_done held hclosing
          rw [hp.close_held held, hclosing]
          refine ⟨⟨fun h' hh => ?_, unwritten'⟩, ok_fails_in⟩
          rw [held'] at hh
          cases keeps with
          | true =>
              obtain rfl := Option.some.inj hh
              exact ⟨shut, .inl rfl⟩
          | false => exact nomatch hh

end Ports

/-! ## Wirings

The channel and the lines of the two wheels are closed in this order, and the
first that cannot be closed keeps the others from it.  So what is closed is known
for each of the three apart. -/

/-- `w.Fits k b l r`: what is known of a wiring, where `b`, `l` and `r` say whether the channel, the
lines of the left wheel and those of the right one have been closed. -/
structure Wiring.Fits (k : Setting) (b l r : Prop) (w : Wiring) : Prop where
  servo : w.servo = k.servo
  blaster : channel.Fits true b k.full w.blaster
  left : ∀ x ∈ w.left.lines, line.Fits false l k.full x
  right : ∀ x ∈ w.right.lines, line.Fits false r k.full x
  released : w.released = true → b ∧ l ∧ r

/-- A scene with such a wiring, and with the files as they were if the robot was closed. -/
def Wired (k : Setting) (b l r : Prop) (s : Scene Wiring) : Prop :=
  s.state.Fits k b l r ∧ k.Unwritten s.journal

/-- A scene with a robot that is closed or open as a whole. -/
abbrev Stands (k : Setting) (closed : Prop) (s : Scene Wiring) : Prop :=
  Wired k closed closed closed s

theorem Wired.shut {b l r : Prop} {s : Scene Wiring} (h : Wired k b l r s)
    (hc : b ∧ l ∧ r ∨ k.full) : Stands k True s := by
  obtain ⟨fits, unwritten⟩ := h
  refine ⟨⟨fits.servo, fits.blaster.shut (hc.imp_left (·.1)), fun x hx => ?_, fun x hx => ?_,
    fun _ => ⟨trivial, trivial, trivial⟩⟩, unwritten⟩
  · exact (fits.left x hx).shut (hc.imp_left (·.2.1))
  · exact (fits.right x hx).shut (hc.imp_left (·.2.2))

theorem closeLines_leads : ∀ (ls : List GpioLine) (j : Journal),
    (∀ x ∈ ls, line.Fits false closed k.full x) → k.Unwritten j →
      ((∀ x ∈ (Wiring.closeLines ls j).2.1, line.Fits false True k.full x) ∧
        k.Unwritten (Wiring.closeLines ls j).2.2) ∧
      ∀ f, (Wiring.closeLines ls j).1 = .error f → f = .defect .unsaved ∧ k.full
  | [], j, hls, hj => by
      rw [Wiring.closeLines]
      exact ⟨⟨List.forall_mem_nil _, hj⟩, ok_fails_in⟩
  | l :: ls, j, hls, hj => by
      obtain ⟨hl, hrest⟩ := List.forall_mem_cons.mp hls
      have hclose := line_handled.close_leads ⟨l, j⟩ ⟨hl, hj⟩
      rcases hr : GpioLine.close ⟨l, j⟩ with ⟨r, s⟩
      have run : line.close ⟨l, j⟩ = (r, s) := hr
      rw [run] at hclose
      obtain ⟨⟨hl', hj'⟩, fails⟩ := hclose
      cases r with
      | ok _ =>
          obtain ⟨⟨hls', hj''⟩, fails'⟩ := closeLines_leads ls s.journal hrest hj'
          simp only [Wiring.closeLines, hr]
          exact ⟨⟨List.forall_mem_cons.mpr ⟨hl', hls'⟩, hj''⟩, fails'⟩
      | error e =>
          have hfull := fails e rfl
          simp only [Wiring.closeLines, hr]
          refine ⟨⟨List.forall_mem_cons.mpr ⟨hl', fun x hx => ?_⟩, hj'⟩, fun f hf => ?_⟩
          · exact (hrest x hx).shut (.inr hfull.2)
          · cases hf
            exact hfull

theorem closeWheel_leads : Wiring.closeWheel.Leads
    (fun s => (∀ x ∈ s.state.lines, line.Fits false closed k.full x) ∧ k.Unwritten s.journal)
    (fun s => (∀ x ∈ s.state.lines, line.Fits false True k.full x) ∧ k.Unwritten s.journal)
    fun f => f = .defect .unsaved ∧ k.full := by
  intro s hs
  exact closeLines_leads s.state.lines s.journal hs.1 hs.2

/-- Releasing a robot closes it, and fails only if a file is full. -/
theorem release_leads : Wiring.release.Leads (Stands k closed) (Stands k True)
    fun f => f = .defect .unsaved ∧ k.full := by
  have first : (Wiring.onBlaster Blaster.close).Leads (Stands k closed)
      (Wired k True closed closed) fun f => f = .defect .unsaved ∧ k.full :=
    leads_on_part channel_handled.close_leads Wiring.blaster (fun w b => { w with blaster := b })
      (fun s hs => ⟨hs.1.blaster, hs.2⟩) fun s b j hs hb =>
        ⟨{ hs.1 with blaster := hb.1, released := fun h => ⟨trivial, (hs.1.released h).2⟩ }, hb.2⟩
  have second : (Wiring.onWheel .left Wiring.closeWheel).Leads (Wired k True closed closed)
      (Wired k True True closed) fun f => f = .defect .unsaved ∧ k.full :=
    leads_on_part closeWheel_leads Wiring.left (fun w m => { w with left := m })
      (fun s hs => ⟨hs.1.left, hs.2⟩) fun s m j hs hm =>
        ⟨{ hs.1 with left := hm.1, released := fun h => ⟨trivial, trivial, (hs.1.released h).2.2⟩ },
          hm.2⟩
  have third : (Wiring.onWheel .right Wiring.closeWheel).Leads (Wired k True True closed)
      (Stands k True) fun f => f = .defect .unsaved ∧ k.full :=
    leads_on_part closeWheel_leads Wiring.right (fun w m => { w with right := m })
      (fun s hs => ⟨hs.1.right, hs.2⟩) fun s m j hs hm =>
        ⟨{ hs.1 with right := hm.1, released := fun _ => ⟨trivial, trivial, trivial⟩ }, hm.2⟩
  intro s hs
  cases hreleased : s.state.released with
  | true =>
      have run : Wiring.release s = (.ok (), s) := by
        simp only [Wiring.release, Bind.bind, Action.bind, Action.get, hreleased]
        rfl
      rw [run]
      exact ⟨hs.shut (.inl (hs.1.released hreleased)), ok_fails_in⟩
  | false =>
      have run : Wiring.release s = (do
          Wiring.onBlaster Blaster.close
          Wiring.onWheel .left Wiring.closeWheel
          Wiring.onWheel .right Wiring.closeWheel
          Action.modify fun w => { w with released := true } : Action Wiring Unit) s := by
        simp only [Wiring.release, Bind.bind, Action.bind, Action.get, hreleased]
        rfl
      rw [run]
      refine first.bind (fun _ => second.bind (fun _ => third.bind (fun _ => ?_) ?_) ?_) ?_ s hs
      · exact fun s hs => ⟨⟨{ hs.1 with released := fun _ => ⟨trivial, trivial, trivial⟩ }, hs.2⟩,
          ok_fails_in⟩
      · exact fun f s hf hs => hs
      · exact fun f s hf hs => hs.shut (.inr hf.2)
      · exact fun f s hf hs => hs.shut (.inr hf.2)

/-! ## Operations

The failures that an operation may have, by what is known of the robot before it.
Some of the cases are about amounts and about the delay, and not about devices. -/

def Operation.perform {σ : Type} (t : Turtle σ) : Operation → Action σ Unit
  | .call c => do
    let _ ← t.answer c
    pure ()
  | .close => t.close

/-- How an operation sets the pen, if it does. -/
def Operation.penUp? : Operation → Option Bool
  | .call (.penUp up) => some up
  | .call _ => none
  | .close => some true

/-- Operations whose amounts can be driven. -/
def Operation.Measurable : Operation → Prop
  | .call c => c.Measurable
  | .close => True

/-- `Lapse real rests closed full o f`: the operation `o` of a robot may fail by `f`, where `real` says
whether the measures of the robot are real, `rests` whether a clock sleeps for its delay, `closed`
whether it has been closed before, and `full` whether the file of one of its devices is full. -/
inductive Lapse (real rests closed full : Prop) (o : Operation) : Failure → Prop where
  /-- a device cannot do it -/
  | device {f : Failure} : f.IsDevice → Lapse real rests closed full o f
  /-- the wheels cannot be turned that far -/
  | undrivable {amount : Quantity} : o = .call (.move amount) ∨ o = .call (.rotate amount) →
      Lapse real rests closed full o (Failure.of (.undrivable amount))
  /-- the channel of the pen has been closed, or a line that could not be closed in order -/
  | shut : closed → o.penUp?.isSome = true ∨ full → Lapse real rests closed full o (.defect .closedFile)
  /-- a device is closed that has text left which it does not take -/
  | unsaved : o = .close → full → Lapse real rests closed full o (.defect .unsaved)
  /-- an amount or a measure is not within the reals -/
  | beyond {f : Failure} : f.IsArithmetic → ¬ (real ∧ o.Measurable) →
      Lapse real rests closed full o f
  /-- the delay is refused by what the robot sleeps by -/
  | sleepless {f : Failure} : ¬ rests → ¬ f.IsReported → Lapse real rests closed full o f

/-! ## Measures

In real measures, angles and phases fail to be calculated just where an amount is
beyond the reals or the angle is beyond the travel. -/

theorem Servo.duty_eq_error {servo : Servo} {degrees : Quantity} {f : Failure}
    (h : servo.duty degrees = .error f) :
    f.IsDevice ∨ f.IsArithmetic ∧ ¬ (servo.IsReal ∧ degrees.InReals) := by
  have reported := fun real : servo.IsReal ∧ degrees.InReals => Servo.duty_reported real.1 real.2 h
  unfold Servo.duty at h
  split at h
  · cases h
    exact .inl (Failure.isDevice_of .range rfl (by decide))
  · have arithmetic := calculated_eq_error h
    exact .inr ⟨arithmetic, fun real => arithmetic.not_reported (reported real)⟩

section Calls

variable {o : Operation}

/-- Setting the pen of a robot that has been closed meets a closed file. -/
theorem pen_keeps (hwas : k.was → closed) (sets : o.penUp?.isSome = true) {degrees : Quantity}
    (hreal : k.config.IsReal → degrees.InReals) :
    (Wiring.chassis.pen degrees).Keeps (Stands k closed)
      (Lapse k.config.IsReal k.config.Rests closed k.full o) := by
  intro s hs
  have run : Wiring.chassis.pen degrees s = (Action.lift (s.state.servo.duty degrees) >>= fun duty =>
      Wiring.onBlaster (Blaster.setDuty (.real duty))) s := rfl
  rw [run]
  refine Action.Keeps.lift_bind (fun duty _ => ?_) (fun f hf => ?_) s hs
  · have write := channel_handled.write_keeps hwas (w := .duty (.real duty)) ⟨duty, rfl⟩
    refine leads_on_part (write.mono ?_) Wiring.blaster (fun w b => { w with blaster := b })
      (fun s hs => ⟨hs.1.blaster, hs.2⟩)
      fun s b j hs hb => ⟨{ hs.1 with blaster := hb.1 }, hb.2⟩
    rintro f (device | ⟨rfl, hclosed, -⟩)
    · exact .device device
    · exact .shut hclosed (.inl sets)
  · rcases Servo.duty_eq_error hf with device | ⟨arithmetic, unreal⟩
    · exact .device device
    · refine .beyond arithmetic fun real => unreal ⟨?_, hreal real.1⟩
      rw [hs.1.servo]
      exact k.real real.1

/-- Turning a wheel of a robot that has been closed is refused, unless a file is full. -/
theorem advance_keeps (hwas : k.was → closed) (wheel : Side) (direction : Int) :
    (Wiring.chassis.advance wheel direction).Keeps (Stands k closed)
      (Lapse k.config.IsReal k.config.Rests closed k.full o) := by
  have switches : ∀ on, (GpioLine.switch on).Keeps
      (fun s => line.Fits false closed k.full s.state ∧ k.Unwritten s.journal)
      (Lapse k.config.IsReal k.config.Rests closed k.full o) := by
    intro on
    have write := line_handled.write_keeps (k := k) hwas (w := on) trivial
    refine write.mono ?_
    rintro f (device | ⟨rfl, hclosed, hfull⟩)
    · exact .device device
    · exact .shut hclosed (.inr (hfull.resolve_left Bool.false_ne_true))
  have motor := Stepper.advance_keeps switches direction
  cases wheel with
  | left =>
      exact leads_on_part motor Wiring.left (fun w m => { w with left := m })
        (fun s hs => ⟨hs.1.left, hs.2⟩) fun s m j hs hm => ⟨{ hs.1 with left := hm.1 }, hm.2⟩
  | right =>
      exact leads_on_part motor Wiring.right (fun w m => { w with right := m })
        (fun s hs => ⟨hs.1.right, hs.2⟩) fun s m j hs hm => ⟨{ hs.1 with right := hm.1 }, hm.2⟩

theorem pause_keeps {F : Failure → Prop} (seconds : Quantity) :
    (Action.pause seconds : Action Wiring Unit).Keeps (Stands k closed) F :=
  .emit _ fun _ hs => ⟨hs.1, hs.2.cons fun _ => rfl⟩

theorem setPen_keeps (hwas : k.was → closed) (sets : o.penUp?.isSome = true) (up : Bool) :
    (setPen Wiring.chassis k.config.calibration up).Keeps (Stands k closed)
      (Lapse k.config.IsReal k.config.Rests closed k.full o) :=
  (pen_keeps hwas sets fun real => real.penAngle up).bind fun _ => pause_keeps _

/-- Journals of a turtle that is taken along. -/
abbrev Setting.Untouched (k : Setting) (s : Scene Pose) : Prop :=
  k.Unwritten s.journal

/-- What the turtle that is taken along does is not seen by the robot. -/
theorem onSnd_keeps {α : Type} {F : Failure → Prop} {x : Action Pose α} (h : x.Keeps k.Untouched F) :
    (Action.onSnd x).Keeps (onFirst (Stands k closed)) F :=
  leads_on_part h Prod.snd (fun p t => (p.1, t)) (fun _ hs => hs.2) fun _ _ _ hs ht => ⟨hs.1, ht⟩

/-- Closing a robot leads to a robot that is closed, whatever became of the pen. -/
theorem close_leads (hwas : k.was → closed) :
    (Wiring.turtle k.config).close.Leads (onFirst (Stands k closed)) (onFirst (Stands k True))
      (Lapse k.config.IsReal k.config.Rests closed k.full .close) := by
  have lifted : (do
      Action.onFst (setPen Wiring.chassis k.config.calibration true)
      let _ ← Action.onSnd (kinematic.reported.penUp true)
      pure () : Action (Wiring × Pose) Unit).Keeps (onFirst (Stands k closed))
      (Lapse k.config.IsReal k.config.Rests closed k.full .close) := by
    have pen := setPen_keeps (o := .close) hwas rfl true
    refine Action.Keeps.bind pen.onFst fun _ => Action.Keeps.bind (onSnd_keeps ?_) fun _ => .pure ()
    exact fun s hs => ⟨hs.cons fun _ => rfl, ok_fails_in⟩
  have released : Wiring.release.Leads (Stands k closed) (Stands k True)
      (Lapse k.config.IsReal k.config.Rests closed k.full .close) := by
    refine release_leads.mono ?_
    rintro f ⟨rfl, hfull⟩
    exact .unsaved rfl hfull
  exact lifted.ensuring (Action.Leads.ensuring (onSnd_keeps (.pure ())) released.onFst)

/-! ## Once the robot is closed

Setting the pen is what cannot be done without the channel, and the channel keeps
its closed handle. -/

theorem operate_cons {σ : Type} (t : Turtle σ) (o : Operation) (os : List Operation) (s : Scene σ) :
    operate t (o :: os) s = operate t os (o.perform t s).2 := by
  cases o with
  | close => rfl
  | call call =>
      rcases hr : t.answer call s with ⟨_ | _, s'⟩
      all_goals
        simp only [operate, Operation.perform, Bind.bind, Action.bind, hr, Pure.pure, Action.pure]

end Calls

/-! ## The start

A robot that has just been connected has fresh devices, and so everything above
holds of it from the start on. -/

def Device.isFull (d : Device) : Bool :=
  d.handle?.any Handle.full

def Wiring.isFull (w : Wiring) : Bool :=
  w.devices.any Device.isFull

section Start

variable {σ : Type} {m : Machine} {s s' : Scene σ}

theorem Servo.make_eq_ok {minAngle maxAngle minDuty maxDuty : Quantity} {servo : Servo}
    (h : Servo.make minAngle maxAngle minDuty maxDuty = .ok servo) :
    servo.minAngle = minAngle ∧ servo.minDuty = minDuty := by
  unfold Servo.make at h
  split at h
  · exact nomatch h
  split at h
  · exact nomatch h
  cases hslope : calculated (Servo.slope minAngle maxAngle minDuty maxDuty) with
  | error f =>
      rw [hslope] at h
      exact nomatch h
  | ok x =>
      rw [hslope] at h
      cases h
      exact ⟨rfl, rfl⟩

theorem Device.IsFresh.fits {d : Device} (fresh : d.IsFresh) (hfull : d.isFull = true → full)
    {h : Handle} (held : d.handle? = some h) : h.Fits False full := by
  obtain ⟨h', held', hopen, saved⟩ := fresh
  obtain rfl := Option.some.inj (held.symm.trans held')
  refine ⟨fun hpending => ?_, fun hshut => ?_, False.elim, fun h => hfull ?_⟩
  · exact absurd (saved.symm.trans hpending) Bool.false_ne_true
  · exact absurd (hshut.symm.trans hopen) Bool.false_ne_true
  · rw [Device.isFull, held]
    exact h

end Start

end Robot

end TurtleLogo
