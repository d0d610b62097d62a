/-
# `TurtleLogo.Proofs.Robot.Shutdown` — which devices are closed in the end

Closing a robot lifts its pen, closes the turtle that it takes along and then
releases its devices, each of these whatever became of the others.  So however a
robot was used and whatever failed, its devices are released once for every time it
is closed.  What that comes to is another matter: the devices are closed in their
order, up to the first one that fails, and they are forgotten only if none does.

    Releases c f g    no part of the chassis `c` but its release changes what `f` sees of a scene,
                      and that one changes it by `g`

A robot that is used and closed changes what `f` sees by `g`, once for every closing
(`Releases.operate_releases`).  On the bench, `f` are the devices and the names of those
that were closed (`Bench.releases`), and then `g` is iterated.
-/
import TurtleLogo.Proofs.Program.Script
import TurtleLogo.Proofs.Turtle.Decoration

namespace TurtleLogo

variable {σ η α γ : Type}

/-! ## Looking at one part of a scene

Most of what a robot does leaves its devices alone.  To say so, a scene is looked
at through a function, and an action is described by what it does to what is seen. -/

/-- What is seen of a scene with two parts if one looks at the first part alone. -/
def onFirst (f : Scene η → γ) (s : Scene (η × σ)) : γ :=
  f ⟨s.state.1, s.journal⟩

theorem Action.Steps.onFst {f : Scene η → γ} {g : γ → γ} {x : Action η α} (h : x.Steps f g) :
    (Action.onFst x : Action (η × σ) α).Steps (onFirst f) g :=
  fun s => h ⟨s.state.1, s.journal⟩

/-- What acts on the second part and not on the journal is not seen. -/
theorem Action.Leaves.onSnd {f : Scene η → γ} {x : Action σ α} (h : x.Leaves Scene.journal) :
    (Action.onSnd x : Action (η × σ) α).Leaves (onFirst f) := by
  intro s
  have same : (x ⟨s.state.2, s.journal⟩).2.journal = s.journal := h ⟨s.state.2, s.journal⟩
  show f ⟨s.state.1, (x ⟨s.state.2, s.journal⟩).2.journal⟩ = f ⟨s.state.1, s.journal⟩
  rw [same]

theorem Action.screened_leaves (x : Action σ α) : x.screened.Leaves Scene.journal :=
  fun _ => rfl

theorem Turtle.screened_answer_leaves (t : Turtle σ) (c : Call) :
    (t.screened.answer c).Leaves Scene.journal := by
  cases c with
  | move steps => exact (Action.screened_leaves _).bind fun _ => .pure _
  | rotate degrees => exact (Action.screened_leaves _).bind fun _ => .pure _
  | penUp up => exact (Action.screened_leaves _).bind fun _ => .pure _

namespace Robot

/-! ## Robots that are used and closed

The description of one closing is iterated over a history, since nothing else is
seen of it. -/

inductive Operation where
  | call (c : Call)
  | close

def Operation.isClose : Operation → Bool
  | .call _ => false
  | .close => true

/-- Does one thing after the other with a turtle, whatever becomes of each. -/
def operate (t : Turtle σ) : List Operation → Scene σ → Scene σ
  | [], s => s
  | .call c :: os, s => operate t os (t.answer c s).2
  | .close :: os, s => operate t os (t.close s).2

/-- A drive leaves what a turn of a wheel and a pause leave. -/
theorem drive_leaves {c : Chassis η} {f : Scene η → γ}
    (advance : ∀ wheel direction, (c.advance wheel direction).Leaves f)
    (pause : ∀ seconds, (Action.pause seconds).Leaves f) (delay : Quantity) (left right : Int) :
    ∀ n, (drive c delay left right n).Leaves f
  | 0 => .pure ()
  | n + 1 => by
      rw [drive]
      refine (advance .left left).bind fun _ => (advance .right right).bind fun _ => ?_
      exact (pause delay).bind fun _ => drive_leaves advance pause delay left right n

/-- `Releases c f g`: no part of the chassis `c` but its release changes what `f` sees, nor does a
pause; and the release changes it by `g`. -/
structure Releases (c : Chassis η) (f : Scene η → γ) (g : γ → γ) : Prop where
  pen : ∀ degrees, (c.pen degrees).Leaves f
  advance : ∀ wheel direction, (c.advance wheel direction).Leaves f
  pause : ∀ seconds, (Action.pause seconds).Leaves f
  release : c.release.Steps f g

namespace Releases

variable {c : Chassis η} {f : Scene η → γ} {g : γ → γ}

theorem drive (h : Releases c f g) (delay : Quantity) (left right : Int) (n : Nat) :
    (drive c delay left right n).Leaves f :=
  drive_leaves h.advance h.pause delay left right n

theorem setPen (h : Releases c f g) (k : Calibration) (up : Bool) : (setPen c k up).Leaves f :=
  (h.pen _).bind fun _ => h.pause _

theorem prepare (h : Releases c f g) (k : Calibration) (call : Call) : (prepare c k call).Leaves f := by
  cases call with
  | move steps => exact (Action.Leaves.lift _).bind fun _ => h.drive _ _ _ _
  | rotate degrees => exact (Action.Leaves.lift _).bind fun _ => h.drive _ _ _ _
  | penUp up => exact h.setPen k up

theorem answer (h : Releases c f g) (k : Calibration) (t : Turtle σ) (call : Call) :
    ((turtle c k t.screened).answer call).Leaves (onFirst f) := by
  rw [turtle_answer]
  exact .bind (h.prepare k call).onFst fun _ => .onSnd (t.screened_answer_leaves call)

theorem close (h : Releases c f g) (k : Calibration) (t : Turtle σ) :
    (turtle c k t.screened).close.Steps (onFirst f) g := by
  have lifted : (do
      Action.onFst (Robot.setPen c k true)
      let _ ← Action.onSnd (t.screened.penUp true)
      pure () : Action (η × Scene σ) Unit).Leaves (onFirst f) := by
    refine .bind (h.setPen k true).onFst fun _ => .bind (.onSnd ?_) fun _ => .pure ()
    exact Action.screened_leaves _
  refine lifted.ensuring (Action.Leaves.ensuring ?_ h.release.onFst)
  exact .onSnd (Action.screened_leaves _)

/-- However a robot is used, its devices are released once for every time it is closed. -/
theorem operate_releases (h : Releases c f g) (k : Calibration) (t : Turtle σ) (os : List Operation) :
    ∀ s, onFirst f (operate (turtle c k t.screened) os s) =
      g^[os.countP Operation.isClose] (onFirst f s) := by
  induction os with
  | nil => exact fun _ => rfl
  | cons o os ih =>
      intro s
      cases o with
      | call c =>
          rw [operate, ih, h.answer k t c s, List.countP_cons_of_neg Bool.false_ne_true]
          rfl
      | close =>
          rw [operate, ih, h.close k t s, List.countP_cons_of_pos rfl, Function.iterate_succ_apply]

end Releases

/-! ## The devices on the bench

Whether a device can be closed is told by its schedule and by how often it has
been tried before.  A closing that fails has tried the devices up to the one that
failed, and these have one attempt more behind them. -/

def released (j : Journal) : List String :=
  releasedNames j.events

theorem released_cons (e : Event) (j : Journal) :
    released (e :: j) = released j ++ releasedNames [e] := by
  simp only [released, Journal.events, List.reverse_cons, releasedNames, List.filterMap_append]

/-- What closes no named device. -/
abbrev Unseen (x : Action σ α) : Prop :=
  x.Leaves fun s => released s.journal

theorem Gauge.act_unseen (robot : Nat) (message : String) (e : BenchEvent) :
    Unseen (Gauge.act robot message e) := by
  intro s
  simp only [Gauge.act]
  split
  · rfl
  · exact (released_cons _ _).trans (List.append_nil _)

theorem BenchLine.switch_unseen (robot : Nat) (on : Bool) : Unseen (BenchLine.switch robot on) :=
  fun s => Gauge.act_unseen robot _ _ ⟨s.state.gauge, s.journal⟩

theorem BenchServo.turn_unseen (robot : Nat) (degrees : Quantity) :
    Unseen (BenchServo.turn robot degrees) := by
  rintro ⟨⟨real, gauge⟩, j⟩
  cases real with
  | none => exact Gauge.act_unseen robot _ _ ⟨gauge, j⟩
  | some servo =>
      cases hduty : servo.duty degrees with
      | error e => simp only [BenchServo.turn, hduty, id]
      | ok duty =>
          simp only [BenchServo.turn, hduty]
          exact Gauge.act_unseen robot _ _ ⟨gauge, j⟩

theorem Stepper.writeRow_unseen {ℓ : Type} {switch : Switch ℓ} (h : ∀ on, Unseen (switch on)) :
    ∀ (row : List Bool) (lines : List ℓ) (j : Journal),
      released (Stepper.writeRow switch row lines j).2.2 = released j
  | [], lines, j => by rw [Stepper.writeRow.eq_def]
  | value :: row, [], j => by rw [Stepper.writeRow.eq_def]
  | value :: row, line :: lines, j => by
      have first : released (switch value ⟨line, j⟩).2.journal = released j := h value ⟨line, j⟩
      rcases hr : switch value ⟨line, j⟩ with ⟨_ | _, s⟩
      · rw [hr] at first
        simp only [Stepper.writeRow, hr]
        exact first
      · rw [hr] at first
        simp only [Stepper.writeRow, hr]
        exact (Stepper.writeRow_unseen h row lines s.journal).trans first

theorem BenchWheel.advance_unseen (robot : Nat) (wheel : Side) (direction : Int) :
    Unseen (BenchWheel.advance robot wheel direction) := by
  rintro ⟨state, j⟩
  cases state with
  | standIn gauge => exact Gauge.act_unseen robot _ _ ⟨gauge, j⟩
  | stepper m => exact Stepper.writeRow_unseen (BenchLine.switch_unseen robot) _ _ j

/-- Whether the attempt to close a device that comes after `n` more attempts fails. -/
def BenchDevice.failsAfter (d : BenchDevice) (n : Nat) : Bool :=
  d.gauge.fails (d.gauge.attempts + n)

/-- A device after `n` more attempts to close it. -/
def BenchDevice.later (n : Nat) (d : BenchDevice) : BenchDevice :=
  { d with gauge := { d.gauge with attempts := d.gauge.attempts + n } }

/-- Whether the next attempt to close a device fails. -/
abbrev BenchDevice.fails (d : BenchDevice) : Bool :=
  d.failsAfter 0

theorem BenchDevice.failsAfter_later (d : BenchDevice) (m n : Nat) :
    (d.later m).failsAfter n = d.failsAfter (m + n) :=
  congrArg d.gauge.fails (Nat.add_assoc _ _ _)

theorem BenchDevice.later_later (d : BenchDevice) (m n : Nat) :
    (d.later m).later n = d.later (m + n) := by
  simp only [BenchDevice.later, Nat.add_assoc]

/-- The devices that closing comes to: all up to the first one that fails. -/
def reached : List BenchDevice → List BenchDevice
  | [] => []
  | d :: ds => if d.fails then [d] else d :: reached ds

/-- The devices after a closing that fails: it has been attempted with those that it came to. -/
def attempted : List BenchDevice → List BenchDevice
  | [] => []
  | d :: ds => if d.fails then d.later 1 :: ds else d.later 1 :: attempted ds

/-- What is left of some devices, and which have been closed, after closing them once more. -/
def closedOnce (p : List BenchDevice × List String) : List BenchDevice × List String :=
  (if p.1.any BenchDevice.fails then attempted p.1 else [],
    p.2 ++ (reached p.1).map BenchDevice.name)

/-- The devices of a robot, and the names of those that have been closed. -/
def Bench.holdings (s : Scene Bench) : List BenchDevice × List String :=
  (s.state.devices, released s.journal)

theorem closeDevices_cons (d : BenchDevice) (ds : List BenchDevice) (j : Journal) :
    closeDevices (d :: ds) j =
      if d.fails then
        (.error (Failure.of (.told .device ("closing " ++ d.name ++ " failed"))), d.later 1 :: ds,
          .released d.name :: j)
      else
        ((closeDevices ds (.released d.name :: j)).1,
          d.later 1 :: (closeDevices ds (.released d.name :: j)).2.1,
          (closeDevices ds (.released d.name :: j)).2.2) :=
  rfl

theorem closeDevices_released (ds : List BenchDevice) (j : Journal) :
    released (closeDevices ds j).2.2 = released j ++ (reached ds).map BenchDevice.name := by
  induction ds generalizing j with
  | nil => exact (List.append_nil _).symm
  | cons d ds ih =>
      rw [closeDevices_cons, reached]
      split
      · exact released_cons _ _
      · rw [ih, released_cons, List.map_cons, List.append_assoc]
        rfl

theorem closeDevices_attempted (ds : List BenchDevice) (j : Journal) :
    (closeDevices ds j).2.1 = attempted ds := by
  induction ds generalizing j with
  | nil => rfl
  | cons d ds ih =>
      rw [closeDevices_cons, attempted]
      split
      · rfl
      · rw [ih]

/-- Devices are all closed just when none of them fails. -/
theorem closeDevices_isOk (ds : List BenchDevice) (j : Journal) :
    (closeDevices ds j).1.isOk = !ds.any BenchDevice.fails := by
  induction ds generalizing j with
  | nil => rfl
  | cons d ds ih =>
      rw [closeDevices_cons, List.any_cons]
      split
      · next hd =>
          rw [hd]
          rfl
      · next hd =>
          rw [ih, Bool.eq_false_of_not_eq_true hd]
          rfl

theorem Bench.release_steps : Bench.release.Steps Bench.holdings closedOnce := by
  intro s
  have closed := closeDevices_released s.state.devices s.journal
  have left := closeDevices_attempted s.state.devices s.journal
  have isOk := closeDevices_isOk s.state.devices s.journal
  rcases hr : closeDevices s.state.devices s.journal with ⟨e | _, ds, j⟩
  · rw [hr] at closed left isOk
    have fails : s.state.devices.any BenchDevice.fails = true := by
      rw [← Bool.not_not (List.any ..), ← isOk]
      rfl
    simp only [Bench.release, hr, Bench.holdings, closedOnce, fails, if_true]
    rw [← closed, ← left]
  · rw [hr] at closed isOk
    have fine : s.state.devices.any BenchDevice.fails = false := by
      rw [← Bool.not_not (List.any ..), ← isOk]
      rfl
    simp only [Bench.release, hr, Bench.holdings, closedOnce, fine]
    rw [← closed]
    rfl

theorem Bench.releases (robot : Nat) : Releases (Bench.chassis robot) Bench.holdings closedOnce where
  pen degrees s := congrArg (s.state.devices, ·) (BenchServo.turn_unseen robot degrees _)
  advance wheel direction s := by
    cases wheel with
    | left => exact congrArg (s.state.devices, ·) (BenchWheel.advance_unseen robot .left direction _)
    | right => exact congrArg (s.state.devices, ·) (BenchWheel.advance_unseen robot .right direction _)
  pause seconds s := congrArg (s.state.devices, ·) ((released_cons _ _).trans (List.append_nil _))
  release := Bench.release_steps

/-! ## How often each device is closed

The closing of all devices is a function on what is left of them and on the names
closed so far.  Its iterates are looked at from the first device that fails. -/

theorem reached_eq_self {ds : List BenchDevice} (h : ∀ d ∈ ds, d.fails = false) :
    reached ds = ds := by
  induction ds with
  | nil => rfl
  | cons d ds ih =>
      obtain ⟨hd, hds⟩ := List.forall_mem_cons.mp h
      rw [reached, hd, ih hds]
      rfl

section Failing

variable {before after : List BenchDevice} {d : BenchDevice}

theorem reached_append (h : ∀ b ∈ before, b.fails = false) (hd : d.fails = true) :
    reached (before ++ d :: after) = before ++ [d] := by
  induction before with
  | nil =>
      rw [List.nil_append, reached, hd]
      rfl
  | cons b before ih =>
      obtain ⟨hb, hbefore⟩ := List.forall_mem_cons.mp h
      rw [List.cons_append, reached, hb, ih hbefore]
      rfl

theorem attempted_append (h : ∀ b ∈ before, b.fails = false) (hd : d.fails = true) :
    attempted (before ++ d :: after) = before.map (BenchDevice.later 1) ++ d.later 1 :: after := by
  induction before with
  | nil =>
      rw [List.nil_append, attempted, hd]
      rfl
  | cons b before ih =>
      obtain ⟨hb, hbefore⟩ := List.forall_mem_cons.mp h
      rw [List.cons_append, attempted, hb, ih hbefore]
      rfl

theorem closedOnce_append (h : ∀ b ∈ before, b.fails = false) (hd : d.fails = true)
    (names : List String) :
    closedOnce (before ++ d :: after, names) =
      (before.map (BenchDevice.later 1) ++ d.later 1 :: after,
        names ++ (before ++ [d]).map BenchDevice.name) := by
  have failing : (before ++ d :: after).any BenchDevice.fails = true := by
    rw [List.any_append, List.any_cons, hd, Bool.true_or, Bool.or_true]
  rw [closedOnce, failing, reached_append h hd, attempted_append h hd]
  rfl

end Failing

/-- Devices that can all be closed are closed the first time, and then none is left. -/
theorem closedOnce_iterate {ds : List BenchDevice} (h : ∀ d ∈ ds, d.fails = false)
    (names : List String) : ∀ n, 0 < n →
      closedOnce^[n] (ds, names) = ([], names ++ ds.map BenchDevice.name) := by
  have fine : ds.any BenchDevice.fails = false := by
    rw [List.any_eq_false]
    intro d hd
    rw [h d hd]
    exact Bool.false_ne_true
  intro n hn
  induction n with
  | zero => exact nomatch hn
  | succ n ih =>
      rw [Function.iterate_succ_apply']
      cases n with
      | zero =>
          show closedOnce (ds, names) = _
          rw [closedOnce, fine, reached_eq_self h]
          rfl
      | succ n =>
          rw [ih (Nat.succ_pos n)]
          show ([], (names ++ ds.map BenchDevice.name) ++ []) = _
          rw [List.append_nil]

/-- For as long as one device cannot be closed, those before it and itself are closed, time and
again. -/
theorem closedOnce_iterate_of_failing {n : Nat} : ∀ {before after : List BenchDevice}
    {d : BenchDevice}, (∀ b ∈ before, ∀ i < n, b.failsAfter i = false) →
      (∀ i < n, d.failsAfter i = true) → ∀ names : List String,
      closedOnce^[n] (before ++ d :: after, names) =
        (before.map (BenchDevice.later n) ++ d.later n :: after,
          names ++ (List.replicate n ((before ++ [d]).map BenchDevice.name)).flatten) := by
  induction n with
  | zero =>
      intro before after d _ _ names
      have still : BenchDevice.later 0 = id := rfl
      rw [still, List.map_id, List.replicate_zero, List.flatten_nil, List.append_nil]
      rfl
  | succ n ih =>
      intro before after d fine failing names
      have now : ∀ b ∈ before, b.fails = false := fun b hb => fine b hb 0 (Nat.succ_pos n)
      have fine' : ∀ b ∈ before.map (BenchDevice.later 1), ∀ i < n, b.failsAfter i = false := by
        intro _ hlater i hi
        obtain ⟨b, hb, rfl⟩ := List.mem_map.mp hlater
        rw [BenchDevice.failsAfter_later, Nat.add_comm]
        exact fine b hb (i + 1) (Nat.succ_lt_succ hi)
      have failing' : ∀ i < n, (d.later 1).failsAfter i = true := by
        intro i hi
        rw [BenchDevice.failsAfter_later, Nat.add_comm]
        exact failing (i + 1) (Nat.succ_lt_succ hi)
      have later : ∀ b : BenchDevice, (b.later 1).later n = b.later (n + 1) := by
        intro b
        rw [BenchDevice.later_later, Nat.add_comm]
      have same : (before.map (BenchDevice.later 1) ++ [d.later 1]).map BenchDevice.name =
          (before ++ [d]).map BenchDevice.name := by
        rw [List.map_append, List.map_append, List.map_map]
        rfl
      rw [Function.iterate_succ_apply, closedOnce_append now (failing 0 (Nat.succ_pos n)),
        ih fine' failing', same, List.map_map, later, List.append_assoc, List.replicate_succ,
        List.flatten_cons]
      simp only [Function.comp_def, later]

/-- A device that cannot be closed for some time puts the others off: those before it are closed
with every attempt, and all of them once it can be closed. -/
theorem closedOnce_iterate_of_recovering {before after : List BenchDevice} {d : BenchDevice}
    {failures closings : Nat} (enough : failures < closings)
    (fine : ∀ b ∈ before, ∀ i ≤ failures, b.failsAfter i = false)
    (failing : ∀ i < failures, d.failsAfter i = true) (recovered : d.failsAfter failures = false)
    (healthy : ∀ a ∈ after, a.fails = false) (names : List String) :
    closedOnce^[closings] (before ++ d :: after, names) =
      ([], names ++ (List.replicate failures ((before ++ [d]).map BenchDevice.name)).flatten ++
        (before ++ d :: after).map BenchDevice.name) := by
  obtain ⟨rest, hrest, rfl⟩ : ∃ rest, 0 < rest ∧ closings = rest + failures :=
    ⟨closings - failures, Nat.sub_pos_of_lt enough, (Nat.sub_add_cancel (Nat.le_of_lt enough)).symm⟩
  have now : ∀ b ∈ before.map (BenchDevice.later failures) ++ d.later failures :: after,
      b.fails = false := by
    intro c hc
    rcases List.mem_append.mp hc with hbefore | hbehind
    · obtain ⟨b, hb, rfl⟩ := List.mem_map.mp hbefore
      exact fine b hb failures (Nat.le_refl _)
    · rcases List.mem_cons.mp hbehind with rfl | hafter
      · exact recovered
      · exact healthy c hafter
  have same : (before.map (BenchDevice.later failures) ++ d.later failures :: after).map
      BenchDevice.name = (before ++ d :: after).map BenchDevice.name := by
    rw [List.map_append, List.map_append, List.map_map]
    rfl
  -- the closings that fail come first
  rw [Function.iterate_add_apply,
    closedOnce_iterate_of_failing (fun b hb i hi => fine b hb i (Nat.le_of_lt hi)) failing,
    closedOnce_iterate now _ _ hrest, same]

/-- Which devices a robot closes.  However it is used, whatever else fails on the way, and whatever
turtle it takes along (behind a screen, so that the names are those of the robot's own devices): if
each of the devices can be closed the first time, then each is closed exactly once as soon as the
robot is closed at all.  For as long as one of them fails to close, and none before it does, every
closing of the robot closes those before it and itself once more, and never one behind it; and if
then all can be closed, they are, those before it for one time more than there were failures. -/
theorem devices_closed_up_to_failure (robot : Nat) (k : Calibration) (t : Turtle σ)
    (os : List Operation) (s : Scene (Bench × Scene σ)) :
    let s' := operate (turtle (Bench.chassis robot) k t.screened) os s
    let closings := os.countP Operation.isClose
    ((∀ d ∈ s.state.1.devices, d.fails = false) → .close ∈ os →
      released s'.journal = released s.journal ++ s.state.1.devices.map BenchDevice.name ∧
        s'.state.1.devices = []) ∧
    ∀ before d after, s.state.1.devices = before ++ d :: after →
      ((∀ b ∈ before, ∀ i < closings, b.failsAfter i = false) →
        (∀ i < closings, d.failsAfter i = true) →
        released s'.journal = released s.journal ++
          (List.replicate closings ((before ++ [d]).map BenchDevice.name)).flatten ∧
        s'.state.1.devices =
          before.map (BenchDevice.later closings) ++ d.later closings :: after) ∧
      ∀ failures < closings, (∀ b ∈ before, ∀ i ≤ failures, b.failsAfter i = false) →
        (∀ i < failures, d.failsAfter i = true) → d.failsAfter failures = false →
        (∀ a ∈ after, a.fails = false) →
        released s'.journal = released s.journal ++
          (List.replicate failures ((before ++ [d]).map BenchDevice.name)).flatten ++
            s.state.1.devices.map BenchDevice.name ∧
        s'.state.1.devices = [] := by
  intro s' closings
  have run : (s'.state.1.devices, released s'.journal) =
      closedOnce^[closings] (s.state.1.devices, released s.journal) :=
    (Bench.releases robot).operate_releases k t os s
  have told : ∀ {left names},
      closedOnce^[closings] (s.state.1.devices, released s.journal) = (left, names) →
        released s'.journal = names ∧ s'.state.1.devices = left := by
    intro left names h
    obtain ⟨devices, closed⟩ := Prod.mk.inj (run.trans h)
    exact ⟨closed, devices⟩
  refine ⟨fun fine closes => ?_, fun before d after hds => ⟨fun fine failing => ?_, ?_⟩⟩
  · have once : 0 < closings := List.countP_pos_iff.mpr ⟨.close, closes, rfl⟩
    exact told (closedOnce_iterate fine _ _ once)
  · rw [hds] at told
    exact told (closedOnce_iterate_of_failing fine failing _)
  · intro failures enough fine failing recovered healthy
    rw [hds] at told ⊢
    exact told (closedOnce_iterate_of_recovering enough fine failing recovered healthy _)

def brokenBench (devices : List BenchDevice) : Bench where
  servo := ⟨none, ⟨Schedule.after 0, 0⟩⟩
  left := .standIn ⟨Schedule.after 0, 0⟩
  right := .standIn ⟨Schedule.never, 0⟩
  devices := devices

/-- Two devices on a robot of which nothing else works, closed twice; two of which the first one
fails, closed once; and two of which the first one fails once, closed twice. -/
theorem devices_closed_up_to_failure_broken :
    let k : Calibration := ⟨.real 1.0, .real 1.0, .real 0.002, .real 0.0, .real 90.0⟩
    let t := faulty { penUp := Schedule.after 0, close := Schedule.after 0 }
    let used := fun devices os => operate (turtle (Bench.chassis 0) k t.screened) os
      ⟨(brokenBench devices, ⟨{}, []⟩), []⟩
    let once : BenchDevice := ⟨"a", ⟨fun n => n = 0, 0⟩⟩
    released (used [⟨"a", false⟩, ⟨"b", false⟩]
        [.call (.move (.whole 1)), .close, .call (.penUp true), .close]).journal = ["a", "b"] ∧
      released (used [⟨"a", true⟩, ⟨"b", false⟩] [.close]).journal = ["a"] ∧
      released (used [once, ⟨"b", false⟩] [.close, .close]).journal = ["a", "a", "b"] := by
  intro k t used once
  have fine : ∀ d ∈ [BenchDevice.mk "a" false, ⟨"b", false⟩], d.fails = false := by decide
  have closes := fun devices os => devices_closed_up_to_failure 0 k t os
    ⟨(brokenBench devices, ⟨{}, []⟩), []⟩
  refine ⟨((closes _ _).1 fine ?_).1, ?_, ?_⟩
  · exact List.mem_cons_of_mem _ List.mem_cons_self
  · exact (((closes _ [.close]).2 [] ⟨"a", true⟩ [⟨"b", false⟩] rfl).1 nofun fun _ _ => rfl).1
  · refine (((closes _ [.close, .close]).2 [] once [⟨"b", false⟩] rfl).2 1 (by decide) nofun ?_ rfl
      (by decide)).1
    intro i hi
    obtain rfl : i = 0 := by omega
    rfl

end Robot

end TurtleLogo
