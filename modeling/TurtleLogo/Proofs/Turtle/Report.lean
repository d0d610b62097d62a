/-
# `TurtleLogo.Proofs.Turtle.Report` — one true line for every action

A reported turtle does what the turtle inside does, and then says one line of
every action, whatever became of it; of a look at the pose and of a closing it
says nothing.

    Report c p text      the line `text` tells of the call `c`, and of the pose `p` after it
    Remarks r p texts    `texts` is all that is said of the request `r`
    Retold a b           the turn `b` is the turn `a` with the remarks on it at its end

One request is retold by any turtle in any scene (`Turtle.respond_reported`).
A turtle that cannot see what has been written before (`Turtle.Unsighted`)
does the same behind longer journals, so that its runs are retold turn by turn.
A reported turtle is itself unsighted if the one inside is, and any turtle is
on a scene of its own.
-/
import TurtleLogo.Proofs.Program.Script
import TurtleLogo.Proofs.Turtle.Decoration

namespace TurtleLogo

variable {σ α β : Type}

/-! ## Numbers have no line ends

A report is a single line only if its numbers are.  They are written with digits,
signs, points and the letter of an exponent, or as a word. -/

namespace Decimal

theorem digitChar_ne_linefeed : ∀ n < 10, digitChar n ≠ '\n' := by
  decide

theorem reversedDigits_lt (fuel n : Nat) : ∀ d ∈ reversedDigits fuel n, d < 10 := by
  induction fuel generalizing n with
  | zero => exact nofun
  | succ fuel ih =>
      intro d hd
      rw [reversedDigits] at hd
      split at hd
      · exact nomatch hd
      · rcases List.mem_cons.mp hd with rfl | hd
        · exact Nat.mod_lt _ (by decide)
        · exact ih _ d hd

theorem Digits.ofPoint_lt (k : Nat) (p : Int) : ∀ n ∈ (Digits.ofPoint k p).digits, n < 10 := by
  intro n hn
  rw [Digits.ofPoint] at hn
  exact reversedDigits_lt _ k n (List.dropWhile_subset _ (List.mem_reverse.mp hn))

theorem shortest_eq (d : Dyadic) :
    (∃ k p, shortest d = Digits.ofPoint k p) ∨ shortest d = ⟨[], 0⟩ := by
  unfold shortest
  dsimp only
  generalize Rounding.search _ _ greatestSize 1 = found
  cases found with
  | none => exact .inr rfl
  | some point => exact .inl ⟨point.1, point.2, rfl⟩

theorem shortest_lt (d : Dyadic) : ∀ n ∈ (shortest d).digits, n < 10 := by
  obtain ⟨k, p, h⟩ | h := shortest_eq d
  · rw [h]
    exact Digits.ofPoint_lt k p
  · rw [h]
    exact List.forall_mem_nil _

theorem linefeed_notMem_digitsText {ds : List Nat} (h : ∀ n ∈ ds, n < 10) :
    '\n' ∉ digitsText ds := by
  intro hmem
  obtain ⟨n, hn, hc⟩ := List.mem_map.mp hmem
  exact digitChar_ne_linefeed n (h n hn) hc

theorem linefeed_notMem_pointedText (n : Layout) {whole fraction : List Char} (hw : '\n' ∉ whole)
    (hf : '\n' ∉ fraction) : '\n' ∉ pointedText n whole fraction := by
  rw [pointedText]
  split
  · split <;> simp [hw]
  · simp [hw, hf]

theorem linefeed_notMem_exponentText (e : Int) : '\n' ∉ exponentText e := by
  have digits : '\n' ∉ (natText e.natAbs).toList := fun h =>
    absurd (Nat.isDigit_of_mem_toDigits (by decide) (by decide) (Nat.toList_repr ▸ h)) (by decide)
  simp only [exponentText]
  split <;> split <;> simp [digits]

theorem linefeed_notMem_layOut (n : Layout) {d : Digits} (h : ∀ k ∈ d.digits, k < 10) :
    '\n' ∉ n.layOut d := by
  have digits := linefeed_notMem_digitsText h
  have taken : ∀ k, '\n' ∉ (digitsText d.digits).take k := fun k hk => digits (List.mem_of_mem_take hk)
  have dropped : ∀ k, '\n' ∉ (digitsText d.digits).drop k := fun k hk => digits (List.mem_of_mem_drop hk)
  have behind : '\n' ∉ (digitsText d.digits).tail := fun hk => digits (List.mem_of_mem_tail hk)
  rw [Layout.layOut]
  split
  · simp only [positional]
    split
    · exact linefeed_notMem_pointedText n (by decide) (by simp [digits, List.mem_replicate])
    · exact linefeed_notMem_pointedText n (by simp [taken, List.mem_replicate]) (dropped _)
  · simp only [scientific]
    split <;> simp [taken, behind, linefeed_notMem_exponentText]

theorem linefeed_notMem_signed {negative : Bool} {cs : List Char} (h : '\n' ∉ cs) :
    '\n' ∉ (signed negative cs).toList := by
  cases negative <;> simp [signed, h]

theorem linefeed_notMem_text (n : Layout) (x : Float) : '\n' ∉ (n.text x).toList := by
  rw [Layout.text]
  split
  · decide
  · exact linefeed_notMem_signed (by decide)
  · split
    · exact linefeed_notMem_signed (linefeed_notMem_pointedText n (by decide) (by decide))
    · exact linefeed_notMem_signed (linefeed_notMem_layOut n (shortest_lt _))

end Decimal

/-! ## Reports

What is to be said of an action, by the action and the pose after it. -/

/-- `Report c p text`: the line `text` tells of the call `c`, and of the pose `p` after it. -/
inductive Report : Call → Pose → String → Prop where
  | moved {steps : Quantity} {x : Float} {p : Pose} : steps.toFloat = .ok x →
      Report (.move steps) p ("Moved " ++ reportNumber x ++ " steps. Now at (" ++ reportNumber p.x ++
        ", " ++ reportNumber p.y ++ ")\n")
  | rotated {degrees : Quantity} {x : Float} {p : Pose} : degrees.toFloat = .ok x →
      Report (.rotate degrees) p ("Rotated " ++ reportNumber x ++ " degrees. Now facing " ++
        reportNumber p.heading ++ "\n")
  | lifted {up : Bool} {p : Pose} : p.penUp = true → Report (.penUp up) p "Pen is now up\n"
  | lowered {up : Bool} {p : Pose} : p.penUp = false → Report (.penUp up) p "Pen is now down\n"

/-- Calls with amounts that there are real numbers for. -/
def Call.InReals : Call → Prop
  | .move amount | .rotate amount => amount.InReals
  | .penUp _ => True

theorem Call.InReals.report {c : Call} (h : c.InReals) (p : Pose) :
    ∃ text, c.line p = .ok text ∧ Report c p text := by
  cases c with
  | move steps =>
      obtain ⟨x, hx⟩ := h
      simp only [Call.line, movedLine, reportQuantity, hx]
      exact ⟨_, rfl, .moved hx⟩
  | rotate degrees =>
      obtain ⟨x, hx⟩ := h
      simp only [Call.line, rotatedLine, reportQuantity, hx]
      exact ⟨_, rfl, .rotated hx⟩
  | penUp up =>
      cases hp : p.penUp with
      | true => exact ⟨_, by simp only [Call.line, penLine, hp]; rfl, .lifted hp⟩
      | false => exact ⟨_, by simp only [Call.line, penLine, hp]; rfl, .lowered hp⟩

theorem Quantity.toFloat_of_not_inReals {q : Quantity} (h : ¬ q.InReals) :
    q.toFloat = .error .tooLarge := by
  cases hq : q.toFloat with
  | ok x => exact absurd ⟨x, hq⟩ h
  | error fault =>
      unfold Quantity.toFloat at hq
      split at hq
      · rw [realOf] at hq
        split at hq
        · exact nomatch hq
        · exact hq.symm
      · exact nomatch hq

theorem Call.line_of_not_inReals {c : Call} (h : ¬ c.InReals) (p : Pose) :
    c.line p = .error (.defect (.arithmetic .tooLarge)) := by
  cases c with
  | move steps =>
      simp only [Call.line, movedLine, reportQuantity, Quantity.toFloat_of_not_inReals h]
      rfl
  | rotate degrees =>
      simp only [Call.line, rotatedLine, reportQuantity, Quantity.toFloat_of_not_inReals h]
      rfl
  | penUp up => exact absurd trivial h

theorem Report.one_line {c : Call} {p : Pose} {text : String} (h : Report c p text) :
    ∃ line, text = line ++ "\n" ∧ '\n' ∉ line.toList := by
  have number : ∀ x, '\n' ∉ (reportNumber x).toList := Decimal.linefeed_notMem_text .brief
  cases h with
  | @moved steps x p _ =>
      refine ⟨"Moved " ++ reportNumber x ++ " steps. Now at (" ++ reportNumber p.x ++ ", " ++
        reportNumber p.y ++ ")", ?_, ?_⟩
      · simp only [String.append_assoc]
        rfl
      · simp [number]
  | @rotated degrees x p _ =>
      refine ⟨_, rfl, ?_⟩
      simp [number]
  | lifted _ => exact ⟨"Pen is now up", rfl, by decide⟩
  | lowered _ => exact ⟨"Pen is now down", rfl, by decide⟩

namespace Turtle

/-! ## Requests

The two halves of a request: what the turtle inside does, and what is said of it
afterwards. -/

/-- What a turtle can be asked for. -/
inductive Request where
  | call (c : Call)
  | pose
  | close

inductive Response where
  | answer (a : Answer)
  | pose (p : Pose)
  | closed

def Request.InReals : Request → Prop
  | .call c => c.InReals
  | .pose | .close => True

/-- Does what is asked for. -/
def respond (t : Turtle σ) : Request → Action σ Response
  | .call c => do
    let a ← t.answer c
    pure (.answer a)
  | .pose => do
    let s ← Action.get
    pure (.pose (t.pose s))
  | .close => do
    t.close
    pure .closed

/-- `Remarks r p texts`: `texts` is what is to be said of the request `r` with the pose `p` after
it, one report of an action and nothing of anything else. -/
inductive Remarks : Request → Pose → List String → Prop where
  | action {c : Call} {p : Pose} {text : String} : Report c p text → Remarks (.call c) p [text]
  | pose {p : Pose} : Remarks .pose p []
  | close {p : Pose} : Remarks .close p []

end Turtle

def Scene.writeAll (s : Scene σ) (texts : List String) : Scene σ :=
  { s with journal := (texts.map Event.wrote).reverse ++ s.journal }

namespace Turtle

theorem reporting_of_ok {t : Turtle σ} {x : Action σ α} {line : Pose → Reply String} {s : Scene σ}
    {text : String} (h : line (t.pose (x s).2.state) = .ok text) :
    t.reporting x line s = ((x s).1, (x s).2.write (.wrote text)) := by
  simp only [reporting, h]

theorem reporting_of_error {t : Turtle σ} {x : Action σ α} {line : Pose → Reply String}
    {s : Scene σ} {f : Failure} (h : line (t.pose (x s).2.state) = .error f) :
    t.reporting x line s = (.error f, (x s).2) := by
  simp only [reporting, h]

theorem respond_call (t : Turtle σ) (c : Call) (s : Scene σ) :
    t.respond (.call c) s = ((t.answer c s).1.map .answer, (t.answer c s).2) := by
  rcases hr : t.answer c s with ⟨_ | _, s'⟩ <;>
    simp only [respond, Bind.bind, Action.bind, hr] <;> rfl

/-- What is asked for is done as by the turtle inside, and the remarks on it come last. -/
theorem respond_reported (t : Turtle σ) {r : Request} (h : r.InReals) (s : Scene σ) :
    ∃ texts, Remarks r (t.pose (t.respond r s).2.state) texts ∧
      t.reported.respond r s = ((t.respond r s).1, (t.respond r s).2.writeAll texts) := by
  cases r with
  | call c =>
      obtain ⟨text, hline, hreport⟩ := h.report (t.pose (t.answer c s).2.state)
      refine ⟨[text], .action ?_, ?_⟩
      · rw [respond_call]
        exact hreport
      · rw [respond_call, respond_call, reported_answer, reporting_of_ok hline]
        rfl
  | pose => exact ⟨[], .pose, rfl⟩
  | close => exact ⟨[], .close, rfl⟩

/-- An action by an amount that there is no real number for is done but not reported, and that
hides what became of it. -/
theorem reported_answer_of_not_inReals (t : Turtle σ) {c : Call} (h : ¬ c.InReals) (s : Scene σ) :
    t.reported.answer c s = (.error (.defect (.arithmetic .tooLarge)), (t.answer c s).2) := by
  rw [reported_answer]
  exact reporting_of_error (c.line_of_not_inReals h _)

/-! ## Turns

A history is written down turn by turn, each with its reply, the pose after it and
what happened in it. -/

/-- A request with what became of it: the reply, the pose after it, and what happened. -/
structure Turn where
  request : Request
  reply : Reply Response
  pose : Pose
  events : List Event

/-- The turn of a request in a scene. -/
def turn (t : Turtle σ) (r : Request) (s : Scene σ) : Turn :=
  let (reply, after) := t.respond r s
  ⟨r, reply, t.pose after.state, after.journal.since s.journal.length⟩

/-- Asks for one thing after the other, whatever becomes of each. -/
def attend (t : Turtle σ) : List Request → Scene σ → List Turn × Scene σ
  | [], s => ([], s)
  | r :: rs, s =>
    match t.attend rs (t.respond r s).2 with
    | (turns, after) => (t.turn r s :: turns, after)

/-- `Retold a b`: the turn `b` is the turn `a` with the remarks on it at its end. -/
structure Retold (a b : Turn) : Prop where
  request : b.request = a.request
  reply : b.reply = a.reply
  pose : b.pose = a.pose
  events : ∃ texts, Remarks a.request a.pose texts ∧ b.events = a.events ++ texts.map .wrote

end Turtle

/-! ## Turtles that do not see the journal

A turtle might look at what was written before and behave differently.  Turtles
that do not are followed behind any journal, in particular behind one that holds
reports. -/

/-- What is done does not hang on what has been written before, and nothing of that is taken back. -/
def Action.Unsighted (x : Action σ α) : Prop :=
  ∀ state, ∃ reply after news, ∀ j, x ⟨state, j⟩ = (reply, ⟨after, news ++ j⟩)

namespace Action.Unsighted

theorem of_silent {x : Action σ α}
    (h : ∀ state, ∃ reply after, ∀ j, x ⟨state, j⟩ = (reply, ⟨after, j⟩)) : x.Unsighted := by
  intro state
  obtain ⟨reply, after, run⟩ := h state
  exact ⟨reply, after, [], run⟩

theorem pure (a : α) : (Pure.pure a : Action σ α).Unsighted :=
  of_silent fun state => ⟨.ok a, state, fun _ => rfl⟩

theorem bind {x : Action σ α} {f : α → Action σ β} (hx : x.Unsighted)
    (hf : ∀ a, (f a).Unsighted) : (x >>= f).Unsighted := by
  intro state
  obtain ⟨reply, mid, news, run⟩ := hx state
  cases reply with
  | error e => exact ⟨.error e, mid, news, fun j => Action.bind_of_error (run j) f⟩
  | ok a =>
      obtain ⟨reply', after, news', run'⟩ := hf a mid
      refine ⟨reply', after, news' ++ news, fun j => ?_⟩
      rw [Action.bind_of_ok (run j), run', List.append_assoc]

/-- The report behind an action hangs on the pose alone. -/
theorem reporting {t : Turtle σ} {x : Action σ α} (hx : x.Unsighted) (line : Pose → Reply String) :
    (t.reporting x line).Unsighted := by
  intro state
  obtain ⟨reply, after, news, run⟩ := hx state
  have told : ∀ j, line (t.pose (x ⟨state, j⟩).2.state) = line (t.pose after) := fun j => by rw [run]
  cases hline : line (t.pose after) with
  | ok text =>
      refine ⟨reply, after, .wrote text :: news, fun j => ?_⟩
      rw [Turtle.reporting_of_ok ((told j).trans hline), run]
      rfl
  | error f =>
      refine ⟨.error f, after, news, fun j => ?_⟩
      rw [Turtle.reporting_of_error ((told j).trans hline), run]

theorem screened (x : Action σ α) : x.screened.Unsighted :=
  of_silent fun s => ⟨(x s).1, (x s).2, fun _ => rfl⟩

end Action.Unsighted

namespace Turtle

/-- A turtle none of whose actions sees the journal. -/
structure Unsighted (t : Turtle σ) : Prop where
  move (steps : Quantity) : (t.move steps).Unsighted
  rotate (degrees : Quantity) : (t.rotate degrees).Unsighted
  penUp (up : Bool) : (t.penUp up).Unsighted
  close : t.close.Unsighted

theorem Unsighted.respond {t : Turtle σ} (h : t.Unsighted) (r : Request) :
    (t.respond r).Unsighted := by
  cases r with
  | call c =>
      refine Action.Unsighted.bind ?_ fun a => .pure _
      cases c with
      | move steps => exact (h.move steps).bind fun p => .pure _
      | rotate degrees => exact (h.rotate degrees).bind fun d => .pure _
      | penUp up => exact (h.penUp up).bind fun p => .pure _
  | pose => exact .of_silent fun state => ⟨.ok (.pose (t.pose state)), state, fun _ => rfl⟩
  | close => exact h.close.bind fun _ => .pure _

theorem Unsighted.reported {t : Turtle σ} (h : t.Unsighted) : t.reported.Unsighted where
  move steps := (h.move steps).reporting (movedLine steps)
  rotate degrees := (h.rotate degrees).reporting (rotatedLine degrees)
  penUp up := (h.penUp up).reporting penLine
  close := h.close

theorem faulty_unsighted (plan : FaultPlan) : (faulty plan).Unsighted where
  move steps := .of_silent fun state => by
    simp only [faulty]
    split
    · exact ⟨_, _, fun _ => rfl⟩
    · split <;> exact ⟨_, _, fun _ => rfl⟩
  rotate degrees := .of_silent fun state => by
    simp only [faulty]
    split
    · exact ⟨_, _, fun _ => rfl⟩
    · split <;> exact ⟨_, _, fun _ => rfl⟩
  penUp up := .of_silent fun state => by
    simp only [faulty]
    split <;> exact ⟨_, _, fun _ => rfl⟩
  close := .of_silent fun state => by
    simp only [faulty]
    split <;> exact ⟨_, _, fun _ => rfl⟩

theorem screened_respond (t : Turtle σ) (r : Request) (s : Scene (Scene σ)) :
    t.screened.respond r s = ((t.respond r s.state).1, ⟨(t.respond r s.state).2, s.journal⟩) := by
  have through : ∀ {α β : Type} (x : Action σ α) (f : α → β),
      (do let a ← x.screened; Pure.pure (f a)) = (do let a ← x; Pure.pure (f a)).screened := by
    intro α β x f
    funext s
    rcases hx : x s.state with ⟨_ | _, inner⟩ <;>
      simp [Bind.bind, Action.bind, Action.screened, hx, Pure.pure, Action.pure]
  cases r with
  | call c =>
      have answers : t.screened.answer c = (t.answer c).screened := by
        cases c with
        | move steps => exact through _ fun p : Float × Float => Answer.position p.1 p.2
        | rotate degrees => exact through _ _
        | penUp up => exact through _ _
      simp only [respond, answers, through]
      rfl
  | pose => rfl
  | close =>
      have closes : t.screened.respond .close = (t.respond .close).screened := through t.close _
      rw [closes]
      rfl

theorem screened_unsighted (t : Turtle σ) : t.screened.Unsighted where
  move _ := .screened _
  rotate _ := .screened _
  penUp _ := .screened _
  close := .screened _

/-! ## Runs

By induction on the requests, each of which starts where the one before it has
ended. -/

theorem since_append (news j : Journal) : (news ++ j).since j.length = news.reverse := by
  simp [Journal.since]

/-- A request is retold, also behind another journal, and leaves the turtle alike. -/
theorem Unsighted.turn_retold {t : Turtle σ} (hu : t.Unsighted) {r : Request} (h : r.InReals)
    {s s' : Scene σ} (same : s'.state = s.state) :
    Retold (t.turn r s) (t.reported.turn r s') ∧
      (t.reported.respond r s').2.state = (t.respond r s).2.state := by
  obtain ⟨state, j⟩ := s
  obtain ⟨_, j'⟩ := s'
  cases same
  obtain ⟨reply, after, news, run⟩ := hu.respond r state
  obtain ⟨texts, remarks, retold⟩ := t.respond_reported h ⟨state, j'⟩
  rw [run] at remarks retold
  simp only [turn, retold, run]
  refine ⟨⟨rfl, rfl, rfl, texts, remarks, ?_⟩, rfl⟩
  rw [Scene.writeAll, ← List.append_assoc, since_append, since_append, List.reverse_append,
    List.reverse_reverse]

theorem Unsighted.attend_retold {t : Turtle σ} (hu : t.Unsighted) {rs : List Request}
    (h : ∀ r ∈ rs, r.InReals) {s s' : Scene σ} (same : s'.state = s.state) :
    List.Forall₂ Retold (t.attend rs s).1 (t.reported.attend rs s').1 ∧
      (t.reported.attend rs s').2.state = (t.attend rs s).2.state := by
  induction rs generalizing s s' with
  | nil => exact ⟨.nil, same⟩
  | cons r rs ih =>
      obtain ⟨hr, hrs⟩ := List.forall_mem_cons.mp h
      obtain ⟨retold, alike⟩ := hu.turn_retold hr same
      exact ⟨.cons retold (ih hrs alike).1, (ih hrs alike).2⟩

/-- A turn of which nothing is seen but its reply and the pose. -/
def Turn.hidden (a : Turn) : Turn :=
  { a with events := [] }

theorem screened_attend (t : Turtle σ) (rs : List Request) (s : Scene σ) (j : Journal) :
    t.screened.attend rs ⟨s, j⟩ = ((t.attend rs s).1.map Turn.hidden, ⟨(t.attend rs s).2, j⟩) := by
  induction rs generalizing s with
  | nil => rfl
  | cons r rs ih =>
      have one : t.screened.turn r ⟨s, j⟩ = (t.turn r s).hidden := by
        simp only [turn, screened_respond, Turn.hidden, Journal.since]
        simp [screened]
      simp only [attend, one, screened_respond, ih, List.map_cons]

end Turtle

open Turtle

/-- Exactly one true report of every action.  For any turtle, also one that fails or reports
itself, and any requests: a reported turtle replies as the turtle inside does and leaves it in the
same state, and then it writes one line of each move, rotation and setting of the pen, even if that
failed, and nothing of anything else; the line tells what was asked and the pose after it.  So run
for run, whether the turtle inside writes elsewhere or to the same journal.  An amount beyond the
reals cannot be told, and that failure hides what became of the action. -/
theorem actions_reported_once (t : Turtle σ) {rs : List Request} (h : ∀ r ∈ rs, r.InReals) :
    (∀ r ∈ rs, ∀ s : Scene σ, ∃ texts, Remarks r (t.pose (t.respond r s).2.state) texts ∧
      (∀ text ∈ texts, ∃ line, text = line ++ "\n" ∧ '\n' ∉ line.toList) ∧
      t.reported.respond r s = ((t.respond r s).1, (t.respond r s).2.writeAll texts)) ∧
    (∀ (s : Scene σ) (j : Journal),
      List.Forall₂ Retold ((t.attend rs s).1.map Turn.hidden)
        (t.screened.reported.attend rs ⟨s, j⟩).1 ∧
      (t.screened.reported.attend rs ⟨s, j⟩).2.state = (t.attend rs s).2) ∧
    (t.Unsighted → ∀ s s' : Scene σ, s'.state = s.state →
      List.Forall₂ Retold (t.attend rs s).1 (t.reported.attend rs s').1 ∧
      (t.reported.attend rs s').2.state = (t.attend rs s).2.state) ∧
    ∀ c : Call, ¬ c.InReals → ∀ s : Scene σ,
      t.reported.answer c s = (.error (.defect (.arithmetic .tooLarge)), (t.answer c s).2) := by
  refine ⟨fun r hr s => ?_, fun s j => ?_, fun hu s s' same => hu.attend_retold h same,
    fun c hc s => t.reported_answer_of_not_inReals hc s⟩
  · obtain ⟨texts, remarks, run⟩ := t.respond_reported (h r hr) s
    refine ⟨texts, remarks, fun text htext => ?_, run⟩
    cases remarks with
    | action report =>
        obtain rfl := List.mem_singleton.mp htext
        exact report.one_line
    | pose | close => exact nomatch htext
  · have run : List.Forall₂ Retold (t.screened.attend rs ⟨s, j⟩).1
        (t.screened.reported.attend rs ⟨s, j⟩).1 ∧ _ := t.screened_unsighted.attend_retold h rfl
    rw [screened_attend] at run
    exact run

/-- A turtle that reports and cannot move. -/
def stuckTurtle : Turtle Faulty :=
  (faulty { move := Schedule.after 0 }).reported

/-- A request of each kind, the second of which fails. -/
def stuckRequests : List Request :=
  [.call (.rotate (.real 90.0)), .call (.move (.whole (-3))), .pose, .call (.penUp true), .close]

theorem actions_reported_once_stuck :
    (∀ r ∈ stuckRequests, r.InReals) ∧ stuckTurtle.Unsighted ∧
      List.Forall₂ Retold (stuckTurtle.attend stuckRequests ⟨{}, []⟩).1
        (stuckTurtle.reported.attend stuckRequests ⟨{}, []⟩).1 ∧
      ((stuckTurtle.reported.attend stuckRequests ⟨{}, []⟩).1.map fun a =>
          (a.reply.isOk, outputText a.events)) =
        [(true, "Rotated 90 degrees. Now facing 90\nRotated 90 degrees. Now facing 90\n"),
          (false, "Moved -3 steps. Now at (0, 0)\nMoved -3 steps. Now at (0, 0)\n"), (true, ""),
          (true, "Pen is now up\nPen is now up\n"), (true, "")] := by
  have reals : ∀ r ∈ stuckRequests, r.InReals := by
    simp only [stuckRequests, List.forall_mem_cons]
    have whole : (Quantity.whole (-3)).InReals := Quantity.inReals_of_isOk (by decide +kernel)
    exact ⟨⟨_, rfl⟩, whole, trivial, trivial, trivial, List.forall_mem_nil _⟩
  have unsighted : stuckTurtle.Unsighted := (faulty_unsighted _).reported
  refine ⟨reals, unsighted, ?_, by decide +kernel⟩
  exact ((actions_reported_once stuckTurtle reals).2.2.1 unsighted _ _ rfl).1

end TurtleLogo
