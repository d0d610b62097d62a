/-
# `TurtleLogo.Proofs.Robot.Handles` — no handle leaks while a robot is built

Three functions open devices, one inside the other, and each of them closes
again what it has opened if it fails.  What they do is the same as to carry out
a flat list of stages, up to the first one that fails, without a thought of
cleaning up (`attemptAll`), and then to close once whatever is open:

    Realizes m plan held x devs
        `x` carries out the stages of `plan` while the devices `held` are open;
        if a stage fails, `x` closes those and all that the stages have opened

The judgement composes along the steps of a construction (`Realizes.bind`), with
the devices held growing from step to step, and one more clean-up around a
construction adds the devices that it closes (`Realizes.cleaning`).  Handles are
known by their numbers, which are never given twice.
-/
import TurtleLogo.Proofs.Action
import TurtleLogo.Robot.Wiring

namespace TurtleLogo.Robot

variable {σ α β : Type}

/-! ## Handles in a journal

Opening and closing are events with the number of the handle.  A handle gets the
number of those that have been opened before it, so no two have the same. -/

theorem openedHandles_append (a b : List Event) :
    openedHandles (a ++ b) = openedHandles a ++ openedHandles b :=
  List.filterMap_append

theorem closedHandles_append (a b : List Event) :
    closedHandles (a ++ b) = closedHandles a ++ closedHandles b :=
  List.filterMap_append

theorem openedHandles_events (j : Journal) : openedHandles j.events = (openedHandles j).reverse :=
  List.filterMap_reverse

theorem openedHandles_events_append (a b : Journal) :
    openedHandles (Journal.events (a ++ b)) = openedHandles b.events ++ openedHandles a.events := by
  rw [Journal.events, List.reverse_append, openedHandles_append]
  rfl

def handles (ds : List Device) : List Nat :=
  ds.filterMap fun d => d.handle?.map Handle.number

theorem handles_append (ds es : List Device) : handles (ds ++ es) = handles ds ++ handles es :=
  List.filterMap_append

/-- Devices whose handle is open and has nothing left to write. -/
def Device.IsFresh (d : Device) : Prop :=
  ∃ h, d.handle? = some h ∧ h.isOpen = true ∧ h.pending = false

/-! ## Closing

Fresh devices close without failing: nothing is left to be written. -/

/-- `Closes x ds`: the action `x` succeeds, closes the handles of `ds` and opens none. -/
def Closes (x : Action σ Unit) (ds : List Device) : Prop :=
  ∀ s, ∃ added, x s = (.ok (), ⟨s.state, added ++ s.journal⟩) ∧ openedHandles added = [] ∧
    (closedHandles added).Perm (handles ds)

theorem Device.IsFresh.closes {d : Device} (h : d.IsFresh) : Closes (d.close : Action σ Unit) [d] := by
  intro s
  obtain ⟨handle, hh, -, hpending⟩ := h
  have saved : (handle.isOpen && handle.pending) = false := by rw [hpending, Bool.and_false]
  have number : handles [d] = [handle.number] := by
    simp only [handles, List.filterMap_cons, hh, Option.map_some, List.filterMap_nil]
  refine ⟨[.closed d.pin (some handle.number)], ?_, rfl, number ▸ .refl _⟩
  cases d with
  | channel b =>
      obtain rfl : b.handle = handle := Option.some.inj hh
      have run : Handle.close ⟨b.handle, .closed b.pin (some b.handle.number) :: s.journal⟩ =
          (.ok (), ⟨{ b.handle with isOpen := false },
            .closed b.pin (some b.handle.number) :: s.journal⟩) := by
        simp only [Handle.close, saved]
        rfl
      simp only [Device.close, Action.apart, Blaster.close, Bind.bind, Action.bind, Action.get,
        Action.emit, Scene.write, Blaster.onHandle, run]
      rfl
  | line l =>
      have hl : l.handle = some handle := hh
      have run : ∀ j, Handle.close ⟨handle, j⟩ = (.ok (), ⟨{ handle with isOpen := false }, j⟩) := by
        intro j
        simp only [Handle.close, saved]
        rfl
      simp only [Device.close, Action.apart, GpioLine.close, hl, Option.map_some, run]
      rfl

theorem Closes.bind {x y : Action σ Unit} {ds es : List Device} (hx : Closes x ds)
    (hy : Closes y es) : Closes (do x; y) (ds ++ es) := by
  intro s
  obtain ⟨a, ha, hopen, hclosed⟩ := hx s
  obtain ⟨b, hb, hopen', hclosed'⟩ := hy ⟨s.state, a ++ s.journal⟩
  refine ⟨b ++ a, ?_, ?_, ?_⟩
  · simp only [Bind.bind, Action.bind, ha, hb, List.append_assoc]
  · rw [openedHandles_append, hopen, hopen']
    rfl
  · rw [closedHandles_append, handles_append]
    exact (hclosed'.append hclosed).trans List.perm_append_comm

theorem closes_note (n : Log.Note) : Closes (Action.note n : Action σ Unit) [] :=
  fun _ => ⟨[.noted n], rfl, rfl, .refl _⟩

theorem closeAll_closes : ∀ {ds : List Device}, (∀ d ∈ ds, d.IsFresh) →
    Closes (closeAll ds : Action σ Unit) ds
  | [], _ => fun _ => ⟨[], rfl, rfl, .refl _⟩
  | d :: ds, h => by
      obtain ⟨hd, hds⟩ := List.forall_mem_cons.mp h
      exact hd.closes.bind (closeAll_closes hds)

/-! ## Stages

A stage opens a device or checks something.  Stages clean nothing up; a list of
them only says in which order things happen and with which failure they end. -/

/-- The stages of a construction, each of which opens a device or checks something. -/
inductive Stage where
  /-- open the channel of the pen's servo -/
  | channel (pin : Int) (path : String)
  /-- check the range of the servo -/
  | servo (minAngle maxAngle minDuty maxDuty : Quantity)
  /-- open a line -/
  | line (root : String) (pin : Int)
  /-- check that lines make a stepper -/
  | motor (delay : Quantity) (pins : List Int)

/-- Carries out a stage, and answers with the devices opened. -/
def attempt (m : Machine) : Stage → Action σ (List Device)
  | .channel pin path => do
    let b ← Blaster.connect m pin path
    pure [.channel b]
  | .servo minAngle maxAngle minDuty maxDuty => do
    let servo ← Action.lift (Servo.make minAngle maxAngle minDuty maxDuty)
    Action.note (.servoReady servo.record)
    pure []
  | .line root pin => do
    let l ← GpioLine.connect m root pin
    pure [.line l]
  | .motor delay pins => do
    let _ ← Stepper.make standardPattern delay pins
    pure []

/-- Carries out stages in order up to the first that fails, and cleans nothing up. -/
def attemptAll (m : Machine) : List Stage → Action σ (List Device)
  | [] => pure []
  | stage :: stages => do
    let ds ← attempt m stage
    let es ← attemptAll m stages
    pure (ds ++ es)

def linesPlan (root : String) (pins : List Int) : List Stage :=
  pins.map (.line root)

def wheelPlan (root : String) (delay : Quantity) (pins : List Int) : List Stage :=
  linesPlan root pins ++ [.motor delay pins]

def robotPlan (c : Config) : List Stage :=
  [.channel c.penServoPin c.blasterPath, .servo c.minAngle c.maxAngle c.minDuty c.maxDuty] ++
    (wheelPlan c.gpioRoot c.stepperDelay c.leftWheelPins ++
      wheelPlan c.gpioRoot c.stepperDelay c.rightWheelPins)

/-- `Adds s out added`: what stages that start in the scene `s` and end with `out` add to the
journal.  They close nothing, number the handles that they open from the next free number on, and
answer with the devices of just these handles. -/
structure Adds (s : Scene σ) (out : Reply (List Device) × Scene σ) (added : Journal) : Prop where
  scene : out.2 = ⟨s.state, added ++ s.journal⟩
  closed : closedHandles added = []
  opened : openedHandles added.events =
    List.range' (openedHandles s.journal).length (openedHandles added).length
  devices : ∀ ds, out.1 = .ok ds → handles ds = openedHandles added.events ∧ ∀ d ∈ ds, d.IsFresh

/-- Opening a file changes nothing but that a fresh handle is there, with the next free number. -/
theorem openFile_cases (m : Machine) (path : String) (s : Scene σ) :
    (∃ reason, openFile m path s = (.ok (.error reason), s)) ∨
      ∃ h : Handle, openFile m path s = (.ok (.ok h), s.write (.opened path h.number)) ∧
        h.number = (openedHandles s.journal).length ∧ h.isOpen = true ∧ h.pending = false := by
  unfold openFile
  cases (m.now s.journal).file path with
  | writable => exact .inr ⟨_, rfl, rfl, rfl, rfl⟩
  | full => exact .inr ⟨_, rfl, rfl, rfl, rfl⟩
  | refused fault => exact .inl ⟨_, rfl⟩

/-- Events that neither open nor close a handle. -/
structure Quiet (es : List Event) : Prop where
  opened : openedHandles es = []
  closed : closedHandles es = []

theorem quiet_nil : Quiet [] := ⟨rfl, rfl⟩

theorem adds_quiet {s : Scene σ} {r : Reply (List Device)} {added : Journal} (h : Quiet added)
    (hr : ∀ ds, r = .ok ds → ds = []) : Adds s (r, ⟨s.state, added ++ s.journal⟩) added where
  scene := rfl
  closed := h.closed
  opened := by
    rw [openedHandles_events, h.opened]
    rfl
  devices ds hds := by
    obtain rfl := hr ds hds
    rw [openedHandles_events, h.opened]
    exact ⟨rfl, fun d hd => nomatch hd⟩

theorem adds_device {s : Scene σ} {d : Device} {h : Handle} {path : String} {earlier later : Journal}
    (before : Quiet earlier) (after : Quiet later) (hd : d.handle? = some h)
    (number : h.number = (openedHandles s.journal).length) (isOpen : h.isOpen = true)
    (pending : h.pending = false) :
    Adds s (.ok [d], ⟨s.state, (later ++ .opened path h.number :: earlier) ++ s.journal⟩)
      (later ++ .opened path h.number :: earlier) := by
  have opens : openedHandles (later ++ .opened path h.number :: earlier) = [h.number] := by
    rw [openedHandles_append, after.opened]
    exact congrArg (h.number :: ·) before.opened
  refine ⟨rfl, ?_, ?_, ?_⟩
  · rw [closedHandles_append, after.closed]
    exact before.closed
  · rw [openedHandles_events, opens, number]
    rfl
  · intro ds hds
    cases hds
    refine ⟨?_, fun e he => ?_⟩
    · rw [openedHandles_events, opens]
      simp only [handles, List.filterMap_cons, hd, Option.map_some, List.filterMap_nil]
      rfl
    · obtain rfl := List.mem_singleton.mp he
      exact ⟨h, hd, isOpen, pending⟩

/-- How one stage may end: it adds events to the journal, and if it fails then it opens nothing. -/
def Attempted (s : Scene σ) (out : Reply (List Device) × Scene σ) : Prop :=
  ∃ added, Adds s out added ∧ ∀ f, out.1 = .error f → openedHandles added = []

theorem attempted_refused {s : Scene σ} (notes : Journal) (quiet : Quiet notes) (f : Failure) :
    Attempted s (.error f, ⟨s.state, notes ++ s.journal⟩) := by
  refine ⟨notes, adds_quiet quiet (fun ds hds => ?_), fun _ _ => quiet.opened⟩
  cases hds

theorem attempted_passed {s : Scene σ} (notes : Journal) (quiet : Quiet notes) :
    Attempted s (.ok [], ⟨s.state, notes ++ s.journal⟩) := by
  refine ⟨notes, adds_quiet quiet (fun ds hds => ?_), fun _ _ => quiet.opened⟩
  cases hds
  rfl

theorem attempt_channel (m : Machine) (pin : Int) (path : String) (s : Scene σ) :
    Attempted s (attempt m (.channel pin path) s) := by
  generalize hpath : (if path.isEmpty then m.settings.blasterPath else path) = path'
  have run : attempt m (.channel pin path) s =
      (match openFile m path' s with
        | (.ok (.ok h), s') => (.ok [.channel ⟨pin, h⟩], s'.write (.noted (.pwmReady pin path')))
        | (.ok (.error reason), s') => (.error (Failure.of (.notOpened path' reason)), s')
        | (.error f, s') => (.error f, s')) := by
    subst hpath
    simp only [attempt, Blaster.connect, Bind.bind, Action.bind]
    rcases openFile m _ s with ⟨_ | _ | _, s'⟩ <;> rfl
  rw [run]
  rcases openFile_cases m path' s with ⟨reason, hopen⟩ | ⟨h, hopen, number, isOpen, pending⟩
  · rw [hopen]
    exact attempted_refused [] quiet_nil _
  · rw [hopen]
    have note : Quiet [.noted (.pwmReady pin path')] := ⟨rfl, rfl⟩
    refine ⟨_, adds_device quiet_nil note rfl number isOpen pending, fun f hf => ?_⟩
    cases hf

theorem attempt_servo (m : Machine) (minAngle maxAngle minDuty maxDuty : Quantity) (s : Scene σ) :
    Attempted s (attempt m (.servo minAngle maxAngle minDuty maxDuty) s) := by
  cases hmake : Servo.make minAngle maxAngle minDuty maxDuty with
  | error f =>
      have run : attempt m (.servo minAngle maxAngle minDuty maxDuty) s = (.error f, s) := by
        simp only [attempt, hmake, Bind.bind, Action.bind, Action.lift]
      rw [run]
      exact attempted_refused [] quiet_nil f
  | ok servo =>
      have run : attempt m (.servo minAngle maxAngle minDuty maxDuty) s =
          (.ok [], s.write (.noted (.servoReady servo.record))) := by
        simp only [attempt, hmake, Bind.bind, Action.bind, Action.lift]
        rfl
      rw [run]
      exact attempted_passed [_] ⟨rfl, rfl⟩

theorem attempt_line (m : Machine) (root : String) (pin : Int) (s : Scene σ) :
    Attempted s (attempt m (.line root pin) s) := by
  generalize hroot : (if root.isEmpty then m.settings.gpioRoot else root) = root'
  cases htool : (m.now s.journal).tool pin with
  | some failure =>
      have run : attempt m (.line root pin) s = (.error (Failure.of (.gpioUnavailable pin)),
          (s.write (.exported pin)).write (.noted (.exportFailed (failure.reason pin) pin))) := by
        simp only [attempt, GpioLine.connect, GpioLine.exportPin, htool, Bind.bind, Action.bind]
      rw [run]
      exact attempted_refused [_, _] ⟨rfl, rfl⟩ _
  | none =>
      have run : attempt m (.line root pin) s =
          (match openFile m (GpioLine.valuePath root' pin) (s.write (.exported pin)) with
            | (.ok (.ok h), s') => (.ok [.line ⟨pin, some h⟩], s')
            | (.ok (.error reason), s') =>
              (.error (Failure.of (.pinUninitialized pin)), s'.write (.noted (.pinNotOpened reason)))
            | (.error f, s') => (.error f, s')) := by
        subst hroot
        simp only [attempt, GpioLine.connect, GpioLine.exportPin, htool, Bind.bind, Action.bind]
        rcases openFile m _ (s.write (.exported pin)) with ⟨_ | _ | _, s'⟩ <;> rfl
      rw [run]
      rcases openFile_cases m (GpioLine.valuePath root' pin) (s.write (.exported pin)) with
        ⟨reason, hopen⟩ | ⟨h, hopen, number, isOpen, pending⟩
      · rw [hopen]
        exact attempted_refused [_, _] ⟨rfl, rfl⟩ _
      · rw [hopen]
        have exported : Quiet [.exported pin] := ⟨rfl, rfl⟩
        refine ⟨_, adds_device exported quiet_nil rfl number isOpen pending, fun f hf => ?_⟩
        cases hf

theorem attempt_motor (m : Machine) (delay : Quantity) (pins : List Int) (s : Scene σ) :
    Attempted s (attempt m (.motor delay pins) s) := by
  cases hfault : Stepper.fault? standardPattern pins with
  | some cause =>
      have run : attempt m (.motor delay pins) s = (.error (Failure.of cause), s) := by
        simp only [attempt, Stepper.make, hfault, Bind.bind, Action.bind, Action.fail]
      rw [run]
      exact attempted_refused [] quiet_nil _
  | none =>
      have run : attempt m (.motor delay pins) s =
          (.ok [], s.write (.noted (.stepperReady pins.length standardPattern.length))) := by
        simp only [attempt, Stepper.make, hfault, Bind.bind, Action.bind, Action.note, Action.emit]
        rfl
      rw [run]
      exact attempted_passed [_] ⟨rfl, rfl⟩

theorem attempt_adds (m : Machine) (stage : Stage) (s : Scene σ) : Attempted s (attempt m stage s) := by
  cases stage with
  | channel pin path => exact attempt_channel m pin path s
  | servo minAngle maxAngle minDuty maxDuty =>
      exact attempt_servo m minAngle maxAngle minDuty maxDuty s
  | line root pin => exact attempt_line m root pin s
  | motor delay pins => exact attempt_motor m delay pins s

theorem Adds.append {s s' : Scene σ} {ds : List Device} {a b : Journal}
    {out : Reply (List Device) × Scene σ} (h : Adds s (.ok ds, s') a) (h' : Adds s' out b) :
    Adds s (out.1.map (ds ++ ·), out.2) (b ++ a) := by
  obtain rfl : s' = ⟨s.state, a ++ s.journal⟩ := h.scene
  refine ⟨?_, ?_, ?_, ?_⟩
  · rw [h'.scene, List.append_assoc]
  · rw [closedHandles_append, h.closed, h'.closed]
    rfl
  · have next : (openedHandles (a ++ s.journal)).length =
        (openedHandles s.journal).length + (openedHandles a).length := by
      rw [openedHandles_append, List.length_append, Nat.add_comm]
    have later := h'.opened
    rw [next] at later
    rw [openedHandles_events_append, h.opened, later, List.range'_append_1, openedHandles_append,
      List.length_append, Nat.add_comm (openedHandles b).length]
  · intro es hes
    cases hout : out.1 with
    | error f =>
        rw [hout] at hes
        exact nomatch hes
    | ok fs =>
        rw [hout] at hes
        obtain rfl : ds ++ fs = es := Except.ok.inj hes
        obtain ⟨hhandles, hfresh⟩ := h.devices ds rfl
        obtain ⟨hhandles', hfresh'⟩ := h'.devices fs hout
        refine ⟨?_, fun d hd => ?_⟩
        · rw [handles_append, hhandles, hhandles', openedHandles_events_append]
        · rcases List.mem_append.mp hd with hd | hd
          · exact hfresh d hd
          · exact hfresh' d hd

theorem pooled_error {x y : Action σ (List Device)} {s s' : Scene σ} {f : Failure}
    (h : x s = (.error f, s')) :
    (do let ds ← x; let es ← y; pure (ds ++ es) : Action σ (List Device)) s = (.error f, s') := by
  simp only [Bind.bind, Action.bind, h]

theorem pooled_ok {x y : Action σ (List Device)} {s s' : Scene σ} {ds : List Device}
    (h : x s = (.ok ds, s')) :
    (do let ds ← x; let es ← y; pure (ds ++ es) : Action σ (List Device)) s =
      ((y s').1.map (ds ++ ·), (y s').2) := by
  simp only [Bind.bind, Action.bind, h]
  rcases y s' with ⟨_ | _, _⟩ <;> rfl

theorem attemptAll_adds (m : Machine) : ∀ (plan : List Stage) (s : Scene σ),
    ∃ added, Adds s (attemptAll m plan s) added
  | [], s => ⟨[], adds_quiet quiet_nil fun ds hds => (Except.ok.inj hds).symm⟩
  | stage :: stages, s => by
      obtain ⟨a, ha, -⟩ := attempt_adds m stage s
      rcases hr : attempt m stage s with ⟨r, s'⟩
      rw [hr] at ha
      rw [attemptAll]
      cases r with
      | error f =>
          rw [pooled_error hr]
          exact ⟨a, ha.scene, ha.closed, ha.opened, fun ds hds => nomatch hds⟩
      | ok ds =>
          obtain ⟨b, hb⟩ := attemptAll_adds m stages s'
          rw [pooled_ok hr]
          exact ⟨b ++ a, ha.append hb⟩

theorem attemptAll_append (m : Machine) (more : List Stage) : ∀ plan : List Stage,
    attemptAll m (plan ++ more) = (do
      let ds ← attemptAll m plan
      let es ← attemptAll m more
      pure (ds ++ es) : Action σ (List Device))
  | [] => by simp only [attemptAll, List.nil_append, pure_bind, bind_pure]
  | stage :: plan => by
      simp only [List.cons_append, attemptAll, attemptAll_append m more plan, bind_assoc, pure_bind,
        List.append_assoc]

theorem attemptAll_append_ok {m : Machine} {plan more : List Stage} {s s' : Scene σ}
    {new : List Device} (h : attemptAll m (plan ++ more) s = (.ok new, s')) :
    ∃ ds es s₁, attemptAll m plan s = (.ok ds, s₁) ∧ attemptAll m more s₁ = (.ok es, s') ∧
      new = ds ++ es := by
  rw [attemptAll_append] at h
  obtain ⟨ds, s₁, first, h⟩ := Action.bind_eq_ok h
  obtain ⟨es, s₂, second, h⟩ := Action.bind_eq_ok h
  cases h
  exact ⟨ds, es, s₁, first, second, rfl⟩

theorem attemptAll_append_error {m : Machine} {plan more : List Stage} {s s' : Scene σ} {f : Failure}
    (h : attemptAll m (plan ++ more) s = (.error f, s')) :
    attemptAll m plan s = (.error f, s') ∨
      ∃ ds s₁, attemptAll m plan s = (.ok ds, s₁) ∧ attemptAll m more s₁ = (.error f, s') := by
  rw [attemptAll_append] at h
  rcases first : attemptAll m plan s with ⟨g | ds, s₁⟩
  · rw [pooled_error first] at h
    exact .inl h
  · rw [pooled_ok first] at h
    rcases second : attemptAll m more s₁ with ⟨g | es, s₂⟩
    · rw [second] at h
      cases h
      exact .inr ⟨ds, s₁, rfl, second⟩
    · rw [second] at h
      cases h

/-! ## Constructions

A construction does what its stages do, and closes what it should where they fail.
Each of the ways in which constructions are put together has its rule. -/

/-- `Realizes m plan held x devs`: on the machine `m`, the action `x` carries out the stages of
`plan` while the devices `held` are open, and then has the devices `devs` of its result.  If a stage
fails by a reported error, it closes the devices held and those that the stages have opened. -/
structure Realizes (m : Machine) (plan : List Stage) (held : List Device) (x : Action σ α)
    (devs : α → List Device) : Prop where
  ok : ∀ {s s' : Scene σ} {new : List Device}, attemptAll m plan s = (.ok new, s') →
    ∃ a, x s = (.ok a, s') ∧ devs a = held ++ new
  error : ∀ {s s' : Scene σ} {e : LogoError}, attemptAll m plan s = (.error (.error e), s') →
    ∃ tried cleanup, s' = ⟨s.state, tried ++ s.journal⟩ ∧
      x s = (.error (.error e), ⟨s.state, cleanup ++ s'.journal⟩) ∧ openedHandles cleanup = [] ∧
      (closedHandles cleanup).Perm (handles held ++ openedHandles tried)
  defect : ∀ {s s' : Scene σ} {f : Failure}, attemptAll m plan s = (.error f, s') →
    ¬ f.IsReported → x s = (.error f, s')

namespace Realizes

variable {m : Machine} {plan more : List Stage} {held : List Device} {x : Action σ α}
  {devs : α → List Device}

theorem pure {a : α} (h : devs a = held) : Realizes m [] held (Pure.pure a : Action σ α) devs where
  ok run := by
    cases run
    exact ⟨a, rfl, by rw [h, List.append_nil]⟩
  error run := nomatch run
  defect run := nomatch run

/-- Only the devices of the results that there can be matter. -/
theorem congr {devs' : α → List Device} (h : Realizes m plan held x devs)
    (same : ∀ s a s', x s = (.ok a, s') → devs a = devs' a) : Realizes m plan held x devs' where
  ok run := by
    obtain ⟨a, ha, hdevs⟩ := h.ok run
    exact ⟨a, ha, same _ a _ ha ▸ hdevs⟩
  error := h.error
  defect := h.defect

/-- An action that is one stage has nothing to clean up. -/
theorem one {stage : Stage} (same : attempt m stage = (do let a ← x; Pure.pure (devs a))) :
    Realizes m [stage] [] x devs := by
  have run : ∀ s : Scene σ, attemptAll m [stage] s = attempt m stage s := by
    intro s
    simp only [attemptAll, pure_bind, List.append_nil, bind_pure]
  have parts : ∀ s : Scene σ, attempt m stage s = ((x s).1.map devs, (x s).2) := by
    intro s
    simp only [same, Bind.bind, Action.bind]
    rcases x s with ⟨_ | _, _⟩ <;> rfl
  have failing : ∀ {s s' : Scene σ} {f : Failure}, attemptAll m [stage] s = (.error f, s') →
      x s = (.error f, s') := by
    intro s s' f h
    rw [run, parts] at h
    rcases hx : x s with ⟨r, s''⟩
    rw [hx] at h
    cases r with
    | ok a => cases h
    | error g =>
        cases h
        rfl
  refine ⟨?_, ?_, ?_⟩
  · intro s s' new h
    rw [run, parts] at h
    rcases hx : x s with ⟨r, s''⟩
    rw [hx] at h
    cases r with
    | error f => cases h
    | ok a =>
        cases h
        exact ⟨a, rfl, rfl⟩
  · intro s s' e h
    obtain ⟨tried, adds, nothing⟩ := attempt_adds m stage s
    rw [← run, h] at adds nothing
    have scene : s' = ⟨s.state, tried ++ s.journal⟩ := adds.scene
    refine ⟨tried, [], scene, ?_, rfl, ?_⟩
    · rw [failing h, scene]
      rfl
    · rw [nothing _ rfl]
      exact .refl _
  · intro s s' f h _
    exact failing h

/-- Step after step: the second step has to close what the first has opened. -/
theorem bind {f : α → Action σ β} {devs' : β → List Device} (held_fresh : ∀ d ∈ held, d.IsFresh)
    (hx : Realizes m plan held x devs)
    (hf : ∀ s a s', x s = (.ok a, s') → (∀ d ∈ devs a, d.IsFresh) →
      Realizes m more (devs a) (f a) devs') :
    Realizes m (plan ++ more) held (x >>= f) devs' := by
  have follow : ∀ {s s' : Scene σ} {a : α}, x s = (.ok a, s') → (x >>= f) s = f a s' := by
    intro s s' a h
    simp only [Bind.bind, Action.bind, h]
  have stop : ∀ {s s' : Scene σ} {e : Failure}, x s = (.error e, s') → (x >>= f) s = (.error e, s') := by
    intro s s' e h
    simp only [Bind.bind, Action.bind, h]
  -- after stages that succeed, what follows starts with their devices
  have next : ∀ {s s₁ : Scene σ} {ds : List Device}, attemptAll m plan s = (.ok ds, s₁) →
      ∃ a added, x s = (.ok a, s₁) ∧ devs a = held ++ ds ∧ Realizes m more (devs a) (f a) devs' ∧
        Adds s (.ok ds, s₁) added := by
    intro s s₁ ds h
    obtain ⟨a, ha, hdevs⟩ := hx.ok h
    obtain ⟨added, adds⟩ := attemptAll_adds m plan s
    rw [h] at adds
    have fresh : ∀ d ∈ devs a, d.IsFresh := by
      intro d hd
      rw [hdevs, List.mem_append] at hd
      rcases hd with hd | hd
      · exact held_fresh d hd
      · exact (adds.devices ds rfl).2 d hd
    exact ⟨a, added, ha, hdevs, hf s a s₁ ha fresh, adds⟩
  refine ⟨?_, ?_, ?_⟩
  · intro s s' new h
    obtain ⟨ds, es, s₁, first, second, rfl⟩ := attemptAll_append_ok h
    obtain ⟨a, -, ha, hdevs, realizes, -⟩ := next first
    obtain ⟨b, hb, hdevs'⟩ := realizes.ok second
    refine ⟨b, (follow ha).trans hb, ?_⟩
    rw [hdevs', hdevs, List.append_assoc]
  · intro s s' e h
    rcases attemptAll_append_error h with first | ⟨ds, s₁, first, second⟩
    · obtain ⟨tried, cleanup, hs, run, hopened, hclosed⟩ := hx.error first
      exact ⟨tried, cleanup, hs, stop run, hopened, hclosed⟩
    · obtain ⟨a, added, ha, hdevs, realizes, adds⟩ := next first
      obtain ⟨tried, cleanup, hs, run, hopened, hclosed⟩ := realizes.error second
      obtain rfl : s₁ = ⟨s.state, added ++ s.journal⟩ := adds.scene
      refine ⟨tried ++ added, cleanup, ?_, (follow ha).trans run, hopened, hclosed.trans ?_⟩
      · rw [hs, List.append_assoc]
      · rw [hdevs, handles_append, (adds.devices ds rfl).1, openedHandles_append,
          openedHandles_events, List.append_assoc]
        exact (List.perm_append_comm.trans ((List.reverse_perm _).append_left _)).append_left _
  · intro s s' e h hdefect
    rcases attemptAll_append_error h with first | ⟨ds, s₁, first, second⟩
    · exact stop (hx.defect first hdefect)
    · obtain ⟨a, -, ha, -, realizes, -⟩ := next first
      exact (follow ha).trans (realizes.defect second hdefect)

/-- A clean-up around a construction closes what has been opened before it. -/
theorem cleaning {cleanup : LogoError → Action σ Unit} (hx : Realizes m plan [] x devs)
    (closes : ∀ e, Closes (cleanup e) held) :
    Realizes m plan held (Action.cleaning x cleanup) (fun a => held ++ devs a) := by
  refine ⟨?_, ?_, ?_⟩
  · intro s s' new h
    obtain ⟨a, ha, hdevs⟩ := hx.ok h
    refine ⟨a, ?_, congrArg (held ++ ·) hdevs⟩
    simp only [Action.cleaning, Action.recover, ha]
  · intro s s' e h
    obtain ⟨tried, inner, hs, run, hopened, hclosed⟩ := hx.error h
    obtain ⟨outer, run', hopened', hclosed'⟩ := closes e ⟨s.state, inner ++ s'.journal⟩
    refine ⟨tried, outer ++ inner, hs, ?_, ?_, ?_⟩
    · simp only [Action.cleaning, Action.recover, run, Action.bind, run', Action.fail,
        List.append_assoc]
    · rw [openedHandles_append, hopened, hopened']
      rfl
    · rw [closedHandles_append]
      exact hclosed'.append hclosed
  · intro s s' f h hdefect
    have run := hx.defect h hdefect
    cases f with
    | error e => exact absurd ⟨e, rfl⟩ hdefect
    | defect d => simp only [Action.cleaning, Action.recover, run]
    | unfinished => simp only [Action.cleaning, Action.recover, run]

end Realizes

/-! ## The three constructions

The rules are applied from the inside out: lines one after the other, a wheel with
its check of the pattern, and the robot with its announcement and its servo. -/

theorem none_fresh : ∀ d ∈ ([] : List Device), d.IsFresh :=
  nofun

theorem connect_pin {m : Machine} {root : String} {pin : Int} {l : GpioLine} {s s' : Scene σ}
    (h : GpioLine.connect m root pin s = (.ok l, s')) : l.pin = pin := by
  obtain ⟨_, s₁, _, rest⟩ := Action.bind_eq_ok h
  obtain ⟨opened, s₂, _, rest⟩ := Action.bind_eq_ok rest
  cases opened with
  | error reason =>
      obtain ⟨_, _, _, failed⟩ := Action.bind_eq_ok rest
      exact nomatch failed
  | ok handle =>
      cases rest
      rfl

theorem connectAfter_pins {m : Machine} {root : String} : ∀ {pins : List Int}
    {opened lines : List GpioLine} {s s' : Scene σ},
    connectAfter m root opened pins s = (.ok lines, s') →
      lines.map GpioLine.pin = opened.map GpioLine.pin ++ pins
  | [], opened, lines, s, s', h => by
      cases h
      rw [List.append_nil]
  | pin :: pins, opened, lines, s, s', h => by
      obtain ⟨l, s₁, first, rest⟩ := Action.bind_eq_ok h
      have pinned : l.pin = pin := connect_pin (Action.cleaning_eq_ok first)
      rw [connectAfter_pins rest, List.map_append, List.append_assoc, ← pinned]
      rfl

theorem connectAfter_realizes (m : Machine) (root : String) : ∀ (pins : List Int)
    (opened : List GpioLine), (∀ d ∈ opened.map Device.line, d.IsFresh) →
    Realizes m (linesPlan root pins) (opened.map .line)
      (connectAfter m root opened pins : Action σ (List GpioLine)) (fun lines => lines.map .line)
  | [], opened, _ => Realizes.pure rfl
  | pin :: pins, opened, fresh => by
      have first : Realizes m [.line root pin] (opened.map .line)
          (Action.cleaning (GpioLine.connect m root pin) fun _ => closeAll (opened.map .line) :
            Action σ GpioLine) (fun l => opened.map .line ++ [.line l]) :=
        (Realizes.one rfl).cleaning fun _ => closeAll_closes fresh
      refine first.bind fresh ?_
      intro s l s' _ fresh'
      have grown : opened.map Device.line ++ [.line l] = (opened ++ [l]).map .line := by
        rw [List.map_append]
        rfl
      rw [grown] at fresh' ⊢
      exact connectAfter_realizes m root pins (opened ++ [l]) fresh'

theorem connectLines_realizes (m : Machine) (root : String) (pins : List Int) :
    Realizes m (linesPlan root pins) [] (connectLines m root pins : Action σ (List GpioLine))
      (fun lines => lines.map .line) :=
  connectAfter_realizes m root pins [] none_fresh

/-- A stepper that could be made is in its first phase, and there was nothing against it. -/
theorem Stepper.make_eq_ok {ℓ : Type} {pattern : Pattern} {delay : Quantity} {lines : List ℓ}
    {wheel : Stepper ℓ} {s s' : Scene σ} (h : Stepper.make pattern delay lines s = (.ok wheel, s')) :
    Stepper.fault? pattern lines = none ∧ wheel = ⟨pattern, delay, lines, 0⟩ := by
  unfold Stepper.make at h
  cases hfault : Stepper.fault? pattern lines with
  | some cause =>
      rw [hfault] at h
      exact nomatch h
  | none =>
      rw [hfault] at h
      cases h
      exact ⟨rfl, rfl⟩

/-- Whether lines make a stepper depends on their number alone. -/
theorem motor_realizes (m : Machine) (delay : Quantity) {pins : List Int} {lines : List GpioLine}
    (h : lines.length = pins.length) :
    Realizes m [.motor delay pins] []
      (Stepper.make standardPattern delay lines : Action σ (Stepper GpioLine)) (fun _ => []) := by
  have same : Stepper.fault? standardPattern pins = Stepper.fault? standardPattern lines := by
    simp only [Stepper.fault?, List.isEmpty_iff_length_eq_zero, h]
  refine Realizes.one ?_
  simp only [attempt, Stepper.make, same, h]
  cases Stepper.fault? standardPattern lines <;> rfl

theorem connectWheel_realizes (m : Machine) (root : String) (delay : Quantity) (pins : List Int) :
    Realizes m (wheelPlan root delay pins) []
      (connectWheel m root delay pins : Action σ (Stepper GpioLine))
      (fun wheel => wheel.lines.map .line) := by
  refine (connectLines_realizes m root pins).bind none_fresh ?_
  intro s lines s' run fresh
  have count : lines.length = pins.length := by
    have pinned := congrArg List.length (connectAfter_pins run)
    rwa [List.length_map, List.map_nil, List.nil_append] at pinned
  have motor := (motor_realizes (σ := σ) m delay count).cleaning fun _ => closeAll_closes fresh
  refine motor.congr ?_
  intro s wheel s' made
  rw [List.append_nil, (Stepper.make_eq_ok (Action.cleaning_eq_ok made)).2]

theorem abandon_closes {ds : List Device} (fresh : ∀ d ∈ ds, d.IsFresh) (e : LogoError) :
    Closes (Wiring.abandon ds e : Action σ Unit) ds :=
  (closes_note _).bind (closeAll_closes fresh)

/-- The servo is announced once it is made, which is no place to fail. -/
theorem servo_announced (r : Reply Servo) (cleanup : LogoError → Action σ Unit)
    (f : Servo → Action σ α) :
    (do
      let servo ← Action.cleaning (Action.lift r) cleanup
      Action.note (.servoReady servo.record)
      f servo) = (do
      let servo ← Action.cleaning (do
        let servo ← Action.lift r
        Action.note (.servoReady servo.record)
        pure servo) cleanup
      f servo) := by
  funext s
  rcases r with (e | d | _) | servo
  · simp only [Bind.bind, Action.bind, Action.cleaning, Action.recover, Action.lift]
    rcases cleanup e s with ⟨_ | _, _⟩ <;> rfl
  all_goals rfl

theorem connect_realizes (m : Machine) (c : Config) :
    Realizes m (robotPlan c) [] (Wiring.connect m c : Action σ Wiring) Wiring.devices := by
  have channel : Realizes m [.channel c.penServoPin c.blasterPath] []
      (Action.cleaning (Blaster.connect m c.penServoPin c.blasterPath) (Wiring.abandon []) :
        Action σ Blaster) (fun b => [.channel b]) :=
    (Realizes.one rfl).cleaning (abandon_closes none_fresh)
  rw [robotPlan, List.cons_append, Wiring.connect]
  refine channel.bind none_fresh ?_
  intro s b s' _ held
  rw [servo_announced]
  have servo : Realizes m [.servo c.minAngle c.maxAngle c.minDuty c.maxDuty] [.channel b]
      (Action.cleaning (do
        let servo ← Action.lift (Servo.make c.minAngle c.maxAngle c.minDuty c.maxDuty)
        Action.note (.servoReady servo.record)
        pure servo) (Wiring.abandon [.channel b]) : Action σ Servo) (fun _ => [.channel b] ++ []) :=
    (Realizes.one (by simp only [attempt, bind_assoc, pure_bind])).cleaning (abandon_closes held)
  refine servo.bind held ?_
  intro s servo s' _ _
  have left := (connectWheel_realizes (σ := σ) m c.gpioRoot c.stepperDelay c.leftWheelPins).cleaning
    (abandon_closes held)
  refine left.bind held ?_
  intro s left s' _ held
  have right := (connectWheel_realizes (σ := σ) m c.gpioRoot c.stepperDelay c.rightWheelPins).cleaning
    (abandon_closes held)
  rw [← List.append_nil (wheelPlan _ _ c.rightWheelPins)]
  exact right.bind held fun _ right _ _ _ => Realizes.pure rfl

/-! ## Handles are closed or handed over

From what the stages open and what is closed in the end follows what became of
each handle, by counting. -/

/-- `Keeps s out devs added`: what became of the handles opened from the scene `s` on, by a
construction that ended with `out` and added `added` to the journal.  Each has a number of its own.
A construction that fails has closed every one of them once; one that succeeds has closed none, and
the devices of its result hold every one of them once, in the order in which they were opened. -/
structure Keeps (s : Scene σ) (out : Reply α × Scene σ) (devs : α → List Device) (added : Journal) :
    Prop where
  scene : out.2 = ⟨s.state, added ++ s.journal⟩
  apart : (openedHandles added).Nodup
  failed : ∀ e, out.1 = .error (.error e) → (closedHandles added).Perm (openedHandles added)
  built : ∀ a, out.1 = .ok a → closedHandles added = [] ∧
    (devs a).map (fun d => d.handle?.map Handle.number) = (openedHandles added.events).map some

/-- `LeaksNothing m plan x devs`: on the machine `m`, the construction `x` keeps track of every
handle, and ends as the stages of `plan` do: with the failure of the first one that fails, or with
the devices of all. -/
def LeaksNothing (m : Machine) (plan : List Stage) (x : Action σ α) (devs : α → List Device) : Prop :=
  ∀ s, (x s).1.map devs = (attemptAll m plan s).1 ∧ ∃ added, Keeps s (x s) devs added

theorem Adds.apart {s : Scene σ} {out : Reply (List Device) × Scene σ} {added : Journal}
    (h : Adds s out added) : (openedHandles added).Nodup := by
  have ordered : (openedHandles added.events).Nodup := by
    rw [h.opened]
    exact List.nodup_range'
  rw [openedHandles_events] at ordered
  exact (List.reverse_perm _).nodup_iff.mp ordered

theorem map_handle_of_fresh : ∀ {ds : List Device}, (∀ d ∈ ds, d.IsFresh) →
    ds.map (fun d => d.handle?.map Handle.number) = (handles ds).map some
  | [], _ => rfl
  | d :: ds, fresh => by
      obtain ⟨⟨h, hd, -⟩, hds⟩ := List.forall_mem_cons.mp fresh
      have first : handles (d :: ds) = h.number :: handles ds := by
        simp only [handles, List.filterMap_cons, hd, Option.map_some]
      rw [List.map_cons, map_handle_of_fresh hds, hd, first]
      rfl

theorem Realizes.leaksNothing {m : Machine} {plan : List Stage} {x : Action σ α}
    {devs : α → List Device} (h : Realizes m plan [] x devs) : LeaksNothing m plan x devs := by
  intro s
  obtain ⟨tried, adds⟩ := attemptAll_adds m plan s
  rcases hplan : attemptAll m plan s with ⟨f | ds, s'⟩
  · rw [hplan] at adds
    by_cases reported : f.IsReported
    · obtain ⟨e, rfl⟩ := reported
      obtain ⟨tried', cleanup, scene, run, hopened, hclosed⟩ := h.error hplan
      have same : tried' = tried :=
        List.append_cancel_right (Scene.mk.inj (scene.symm.trans adds.scene)).2
      subst same
      have opened : openedHandles (cleanup ++ tried') = openedHandles tried' := by
        rw [openedHandles_append, hopened, List.nil_append]
      have closed : closedHandles (cleanup ++ tried') = closedHandles cleanup := by
        rw [closedHandles_append, adds.closed, List.append_nil]
      rw [run]
      refine ⟨rfl, cleanup ++ tried', ?_, opened ▸ adds.apart, fun _ _ => ?_, nofun⟩
      · rw [scene, List.append_assoc]
      · rw [opened, closed]
        exact hclosed
    · rw [h.defect hplan reported]
      refine ⟨rfl, tried, adds.scene, adds.apart, fun e he => ?_, nofun⟩
      cases he
      exact absurd ⟨e, rfl⟩ reported
  · rw [hplan] at adds
    obtain ⟨a, run, hdevs⟩ := h.ok hplan
    obtain ⟨numbers, fresh⟩ := adds.devices ds rfl
    rw [List.nil_append] at hdevs
    rw [run]
    refine ⟨congrArg Except.ok hdevs, tried, adds.scene, adds.apart, fun e he => ?_, ?_⟩
    · cases he
    · intro b hb
      cases hb
      refine ⟨adds.closed, ?_⟩
      rw [hdevs, map_handle_of_fresh fresh, numbers]

/-- No handle leaks while a robot, a wheel or a list of lines is built, whatever the configuration
and whichever files and tools fail at whichever moment. -/
theorem construction_leaks_nothing (m : Machine) :
    (∀ c, LeaksNothing m (robotPlan c) (Wiring.connect m c : Action σ Wiring) Wiring.devices) ∧
    (∀ root delay pins, LeaksNothing m (wheelPlan root delay pins)
      (connectWheel m root delay pins : Action σ (Stepper GpioLine))
      (fun wheel => wheel.lines.map .line)) ∧
    ∀ root pins, LeaksNothing m (linesPlan root pins)
      (connectLines m root pins : Action σ (List GpioLine)) (fun lines => lines.map .line) := by
  refine ⟨fun c => ?_, fun root delay pins => ?_, fun root pins => ?_⟩
  · exact (connect_realizes m c).leaksNothing
  · exact (connectWheel_realizes m root delay pins).leaksNothing
  · exact (connectLines_realizes m root pins).leaksNothing

end TurtleLogo.Robot
