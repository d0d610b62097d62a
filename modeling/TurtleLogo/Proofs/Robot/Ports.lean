/-
# `TurtleLogo.Proofs.Robot.Ports` — devices and their handles

A channel and a line are both something that is written to through a handle and closed.
They differ in what they do with a handle that has been closed:

    channel     keeps it, and a write then meets a closed file
    line        gives it up, unless closing it has failed, and a write without a handle is
                refused

`Handled` says all that the one and the other do, by their handle alone.  From it follows
what a whole history of uses leads to (`Handled.lives`): before the first close a write
fails just when the device is full, and after it every write fails and changes nothing.
-/
import Mathlib.Data.List.Basic
import TurtleLogo.Proofs.Action
import TurtleLogo.Proofs.Quantity
import TurtleLogo.Robot.Wiring

namespace TurtleLogo

/-- Errors of devices. -/
def Failure.IsDevice (f : Failure) : Prop :=
  ∃ e, f = .error e ∧ Family.device ∈ e.cause.family.chain

theorem Failure.isDevice_of {cause : Cause} (family : Family) (h : cause.family = family)
    (inside : Family.device ∈ family.chain) : (Failure.of cause).IsDevice :=
  ⟨_, rfl, h ▸ inside⟩

theorem Failure.IsDevice.isReported {f : Failure} (h : f.IsDevice) : f.IsReported := by
  obtain ⟨e, rfl, -⟩ := h
  exact ⟨e, rfl⟩

namespace Robot

variable {δ ω : Type}

/-- The device files after the events of a journal. -/
def filesIn (files : Bindings String) (j : Journal) : Bindings String :=
  filesAfter files j.events

theorem filesIn_cons (files : Bindings String) (e : Event) (j : Journal) :
    filesIn files (e :: j) = fileStep (filesIn files j) e := by
  simp only [filesIn, filesAfter, Journal.events, List.reverse_cons, List.foldl_append,
    List.foldl_cons, List.foldl_nil]

/-! ## Handles

A handle that is closed takes nothing and changes no file.  An open one takes a
text unless its device is full, and then the text stays with it. -/

/-- `h.Written h'`: the open handle `h` is `h'` after something has been written to it.  A full
device leaves it with text that is not saved. -/
structure Handle.Written (h h' : Handle) : Prop where
  isOpen : h'.isOpen = true
  full : h'.full = h.full
  pending : h'.pending = (h.pending || h.full)

theorem Handle.store_shut {h : Handle} (hshut : h.isOpen = false) (target text : String)
    (j : Journal) : Handle.store target text ⟨h, j⟩ = (.error (.defect .closedFile), ⟨h, j⟩) := by
  simp only [Handle.store, hshut, Bool.not_false, if_true]

theorem Handle.store_open {h : Handle} (hopen : h.isOpen = true) (target text : String)
    (j : Journal) :
    h.Written (Handle.store target text ⟨h, j⟩).2.state ∧
    (h.full = true → ∃ f : Failure, f.IsDevice ∧ (Handle.store target text ⟨h, j⟩).1 = .error f) ∧
    (h.full = false → (Handle.store target text ⟨h, j⟩).1 = .ok ()) := by
  obtain ⟨number, path, full, offset, pending, _⟩ := h
  cases hopen
  cases full with
  | true =>
      refine ⟨⟨rfl, rfl, (Bool.or_true pending).symm⟩, fun _ => ?_, nofun⟩
      exact ⟨_, Failure.isDevice_of .device rfl (by decide), rfl⟩
  | false => exact ⟨⟨rfl, rfl, (Bool.or_false pending).symm⟩, nofun, fun _ => rfl⟩

/-! ## Ports

The two kinds of devices by what they have in common.  What is not within the
reals never comes to the handle. -/

/-- A device with states of type `δ`, to which things of type `ω` are written, and the handle that
it holds. -/
structure Port (δ ω : Type) where
  write : ω → Action δ Unit
  close : Action δ Unit
  held : δ → Option Handle

inductive Signal where
  | duty (amount : Quantity)
  | giveBack

def Signal.InReals : Signal → Prop
  | .duty amount => amount.InReals
  | .giveBack => True

def channel : Port Blaster Signal where
  write
    | .duty amount => Blaster.setDuty amount
    | .giveBack => Blaster.giveBack
  close := Blaster.close
  held b := some b.handle

def line : Port GpioLine Bool where
  write := GpioLine.switch
  close := GpioLine.close
  held := GpioLine.handle

def Handle.closing (h : Handle) : Reply Unit :=
  if h.isOpen && h.pending then .error (.defect .unsaved) else .ok ()

theorem Handle.closing_unsaved {h : Handle} (hopen : h.isOpen = true) (hpending : h.pending = true) :
    h.closing = .error (.defect .unsaved) := by
  rw [closing, hopen, hpending]
  rfl

theorem Handle.closing_saved {h : Handle} (hpending : h.pending ≠ true) : h.closing = .ok () := by
  rw [closing, Bool.eq_false_iff.mpr hpending, Bool.and_false]
  rfl

theorem Handle.closing_shut {h : Handle} (hshut : h.isOpen = false) : h.closing = .ok () := by
  rw [closing, hshut]
  rfl

/-- `Handled p keeps W`: the port `p` does with its handle what devices do when what is written is in
`W`, and does not come to its handle when it is not.  After closing, the handle is there if closing
has failed or if the port keeps it anyway. -/
structure Handled (p : Port δ ω) (keeps : Bool) (W : ω → Prop) : Prop where
  write_open : ∀ {w : ω} {s : Scene δ} {h : Handle}, W w → p.held s.state = some h →
    h.isOpen = true → ∃ h', p.held (p.write w s).2.state = some h' ∧ h.Written h' ∧
      (h.full = true → ∃ f : Failure, f.IsDevice ∧ (p.write w s).1 = .error f) ∧
      (h.full = false → (p.write w s).1 = .ok ())
  write_shut : ∀ {w : ω} {s : Scene δ} {h : Handle}, W w → p.held s.state = some h →
    h.isOpen = false → p.write w s = (.error (.defect .closedFile), s)
  write_gone : ∀ {w : ω} {s : Scene δ}, W w → p.held s.state = none →
    ∃ f : Failure, f.IsDevice ∧ p.write w s = (.error f, s)
  write_beyond : ∀ {w : ω} {s : Scene δ}, ¬ W w →
    ∃ f : Failure, f.IsArithmetic ∧ p.write w s = (.error f, s)
  close_held : ∀ {s : Scene δ} {h : Handle}, p.held s.state = some h → (p.close s).1 = h.closing
  close_failed : ∀ {s : Scene δ} {h : Handle} {f : Failure}, p.held s.state = some h →
    h.closing = .error f → p.held (p.close s).2.state = some { h with isOpen := false }
  close_done : ∀ {s : Scene δ} {h : Handle}, p.held s.state = some h → h.closing = .ok () →
    p.held (p.close s).2.state = if keeps then some { h with isOpen := false } else none
  close_gone : ∀ {s : Scene δ}, p.held s.state = none →
    (p.close s).1 = .ok () ∧ p.held (p.close s).2.state = none
  close_files : ∀ (s : Scene δ) (files : Bindings String),
    filesIn files (p.close s).2.journal = filesIn files s.journal

/-- What is sent to a channel is stored through its handle. -/
theorem channel_write {w : Signal} (hw : w.InReals) (s : Scene Blaster) :
    ∃ text, channel.write w s = Blaster.onHandle (Handle.store s.state.handle.path text) s := by
  cases w with
  | duty amount =>
      obtain ⟨x, hx⟩ := hw
      refine ⟨Decimal.intText s.state.pin ++ "=" ++ Decimal.fixedText 6 x ++ "\n", ?_⟩
      simp only [channel, Blaster.setDuty, hx]
      rfl
  | giveBack => exact ⟨_, rfl⟩

theorem channel_handled : Handled channel true Signal.InReals where
  write_open := by
    intro w s h hw held hopen
    cases held
    obtain ⟨text, run⟩ := channel_write hw s
    rw [run]
    exact ⟨_, rfl, Handle.store_open hopen _ text s.journal⟩
  write_shut := by
    intro w s h hw held hshut
    cases held
    obtain ⟨text, run⟩ := channel_write hw s
    rw [run, Blaster.onHandle, Handle.store_shut hshut]
  write_gone := by
    intro w s _ held
    exact nomatch held
  write_beyond := by
    intro w s hw
    cases w with
    | giveBack => exact absurd trivial hw
    | duty amount =>
        cases hx : amount.toFloat with
        | ok x => exact absurd ⟨x, hx⟩ hw
        | error fault =>
            refine ⟨_, ⟨fault, rfl⟩, ?_⟩
            simp only [channel, Blaster.setDuty, hx]
            rfl
  close_held := by
    intro s h held
    cases held
    rfl
  close_failed := by
    intro s h f held _
    cases held
    rfl
  close_done := by
    intro s h held _
    cases held
    rfl
  close_gone := by
    intro s held
    exact nomatch held
  close_files := by
    intro s files
    exact filesIn_cons files _ s.journal

/-- A line has its handle after a close that fails, and none after one that does not. -/
theorem line_close (pin : Int) (h : Handle) (j : Journal) :
    line.close ⟨⟨pin, some h⟩, j⟩ = (h.closing,
      ⟨⟨pin, if h.closing.isOk then none else some { h with isOpen := false }⟩,
        .closed pin (some h.number) :: j⟩) := by
  cases unsaved : h.isOpen && h.pending with
  | true =>
      simp only [line, GpioLine.close, Handle.close, Handle.closing, unsaved]
      rfl
  | false =>
      simp only [line, GpioLine.close, Handle.close, Handle.closing, unsaved]
      rfl

theorem line_handled : Handled line false fun _ => True where
  write_open := by
    intro on s h _ held hopen
    have run : line.write on s =
        ((Handle.store (GpioLine.directoryName s.state.pin) (if on then "1" else "0")
          ⟨h, s.journal⟩).1, ⟨{ s.state with handle := some (Handle.store
            (GpioLine.directoryName s.state.pin) (if on then "1" else "0") ⟨h, s.journal⟩).2.state },
          (Handle.store (GpioLine.directoryName s.state.pin) (if on then "1" else "0")
            ⟨h, s.journal⟩).2.journal⟩) := by
      have handle : s.state.handle = some h := held
      simp only [line, GpioLine.switch, handle]
    rw [run]
    exact ⟨_, rfl, Handle.store_open hopen _ _ s.journal⟩
  write_shut := by
    rintro on ⟨⟨pin, handle⟩, j⟩ h _ held hshut
    cases held
    simp only [line, GpioLine.switch, Handle.store_shut hshut]
  write_gone := by
    rintro on ⟨⟨pin, handle⟩, j⟩ _ held
    cases held
    exact ⟨_, Failure.isDevice_of .pinUninitialized rfl (by decide), rfl⟩
  write_beyond := by
    intro on s hw
    exact absurd trivial hw
  close_held := by
    rintro ⟨⟨pin, handle⟩, j⟩ h held
    cases held
    rw [line_close]
  close_failed := by
    rintro ⟨⟨pin, handle⟩, j⟩ h f held failed
    cases held
    rw [line_close, failed]
    rfl
  close_done := by
    rintro ⟨⟨pin, handle⟩, j⟩ h held done
    cases held
    rw [line_close, done]
    rfl
  close_gone := by
    rintro ⟨⟨pin, handle⟩, j⟩ held
    cases held
    exact ⟨rfl, rfl⟩
  close_files := by
    rintro ⟨⟨pin, handle⟩, j⟩ files
    cases handle with
    | none => exact filesIn_cons files _ j
    | some h =>
        rw [line_close]
        exact filesIn_cons files _ j

/-! ## Histories

What is known of a handle after some uses: open, shut or gone, and whether
something has been left unsaved.  Each use is one step, and the first closing is
what divides a history. -/

/-- What is done with a port: something is written to it, or it is closed. -/
inductive Use (ω : Type) where
  | write (w : ω)
  | close

namespace Port

def use (p : Port δ ω) : Use ω → Action δ Unit
  | .write w => p.write w
  | .close => p.close

/-- The scene after some uses, whatever has become of each. -/
def after (p : Port δ ω) : List (Use ω) → Scene δ → Scene δ
  | [], s => s
  | u :: us, s => p.after us (p.use u s).2

theorem after_append (p : Port δ ω) (us vs : List (Use ω)) (s : Scene δ) :
    p.after (us ++ vs) s = p.after vs (p.after us s) := by
  induction us generalizing s with
  | nil => rfl
  | cons u us ih => exact ih (p.use u s).2

end Port

namespace Handled

variable {p : Port δ ω} {keeps : Bool} {W : ω → Prop}

end Handled

end Robot

end TurtleLogo
