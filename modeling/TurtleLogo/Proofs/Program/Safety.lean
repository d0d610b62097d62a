/-
# `TurtleLogo.Proofs.Program.Safety` — no program text brings about a defect

What the parser builds is on the ladder, what is handed in is real, and so
every operand of a run is a real number or an error that is told.  A turtle
that fails only by reported errors then gives runs that do so too.  Two things
remain that can cut a run off (`Cutoff`), each by the program's own numbers: a
loop whose counter is below the count for as many rounds as are granted, and a
pause that is finite but longer than the timer can measure.

A request answers all else with a status (`Served`):

    unparsed     the text is no program; the turtle is not asked
    unusable     a variable cannot be used; the turtle is not asked
    failed       the run failed, with the pose at that point
    succeeded    the run came to its end

The turtle may be any, also one whose answers are written down; so a scene
that has only grown by notes shows that the turtle was not asked.
-/
import TurtleLogo.Proofs.Grammar.Reading
import TurtleLogo.Proofs.Program.Evaluation
import TurtleLogo.Proofs.Program.Script
import TurtleLogo.Request

namespace TurtleLogo

variable {σ : Type} {I : σ → Prop}

/-- A turtle that is only asked for reals fails by reported errors only, in the states `I`, which
it does not leave. -/
structure Turtle.Orderly (t : Turtle σ) (I : σ → Prop) : Prop where
  move : ∀ x, (t.move (.real x)).Safe I Failure.IsReported
  rotate : ∀ x, (t.rotate (.real x)).Safe I Failure.IsReported
  penUp : ∀ up, (t.penUp up).Safe I Failure.IsReported

/-! ## What can cut a run off

Both ways are told by the numbers that the program itself calculates, and not by
the turtle. -/

/-- `Occurs c cs`: the command `c` is one of `cs`, or stands in a loop among them. -/
inductive Occurs (c : Command) : List Command → Prop where
  | head {cs : List Command} : Occurs c (c :: cs)
  | tail {d : Command} {cs : List Command} : Occurs c cs → Occurs c (d :: cs)
  | inside {times : Expr} {body : List Command} {line : Option Int} {cs : List Command} :
      Occurs c body → Occurs c (.loop times body line :: cs)

/-- `Cutoff timer env fuel cs f`: the numbers of the commands `cs` cut their run off by `f`. -/
inductive Cutoff (timer : Timer) (env : Environment) (fuel : Nat) (cs : List Command) :
    Failure → Prop where
  /-- a loop is not through after `fuel` rounds -/
  | endless {times : Expr} {body : List Command} {line : Option Int} {limit : Quantity} :
      Occurs (.loop times body line) cs → times.evalNumber env "REPEAT count" = .ok limit →
      (∀ k ≤ fuel, below limit k) → Cutoff timer env fuel cs .unfinished
  /-- a pause is finite and longer than the timer can measure -/
  | overlong {operand : Expr} {line : Option Int} {millis : Float} :
      Occurs (.order .sleep operand line) cs →
      operand.evalNumber env Order.sleep.operandName = .ok (.real millis) →
      Decimal.isFinite millis = true → timer.measures (pauseSeconds millis) = false →
      Cutoff timer env fuel cs (.defect .beyondClock)

/-- How a run of commands may fail: by an error that is told, or by being cut off. -/
def Mishap (timer : Timer) (env : Environment) (fuel : Nat) (cs : List Command) (f : Failure) :
    Prop :=
  f.IsReported ∨ Cutoff timer env fuel cs f

section Mishaps

variable {timer : Timer} {env : Environment} {fuel : Nat} {cs ds : List Command} {f : Failure}

theorem Mishap.mono (h : Mishap timer env fuel cs f) (hsub : ∀ c, Occurs c cs → Occurs c ds) :
    Mishap timer env fuel ds f := by
  rcases h with h | h
  · exact .inl h
  · cases h with
    | endless hc hlimit hbelow => exact .inr (.endless (hsub _ hc) hlimit hbelow)
    | overlong hc hmillis hfinite hlong => exact .inr (.overlong (hsub _ hc) hmillis hfinite hlong)

theorem Mishap.at? (h : Mishap timer env fuel cs f) (line : Option Int) :
    Mishap timer env fuel cs (f.at? line) := by
  rcases h with h | h
  · exact .inl (h.at? line)
  · cases h with
    | endless hc hlimit hbelow => exact .inr (.endless hc hlimit hbelow)
    | overlong hc hmillis hfinite hlong => exact .inr (.overlong hc hmillis hfinite hlong)

end Mishaps

/-! ## Runs

From one command to a loop and to a list.  A loop is cut off if it is granted
fewer rounds than its count asks for, or in one of its rounds. -/

theorem Timer.sleepFor_safe (timer : Timer) (millis : Float) :
    (timer.sleepFor (.real millis) : Action σ Unit).Safe I fun f =>
      f.IsReported ∨ f = .defect .beyondClock ∧ Decimal.isFinite millis = true ∧
        timer.measures (pauseSeconds millis) = false := by
  have run : (timer.sleepFor (.real millis) : Action σ Unit) =
      if Decimal.isFinite millis then timer.sleep (pauseSeconds millis)
      else Action.fail (Failure.of (.endlessSleep (.real millis))) := rfl
  rw [run]
  split
  · next finite =>
      rw [Timer.sleep]
      split
      · exact .emit _
      · next long => exact .fail (.inr ⟨rfl, finite, Bool.eq_false_iff.mpr long⟩)
  · exact .fail (.inl (Failure.isReported_of _))

/-- A loop runs its body until the counter reaches the limit, and is cut off only if the counter is
below it all the time. -/
theorem repeatBelow_safe {limit : Quantity} {x : Action σ Unit} {F : Failure → Prop}
    (hx : x.Safe I F) : ∀ {fuel k : Nat}, (∀ i < k, below limit i) →
      ((∀ i ≤ k + fuel, below limit i) → F .unfinished) →
      (repeatBelow limit x fuel (counter k)).Safe I F
  | 0, k, earlier, cut => by
      rw [repeatBelow]
      split
      · next go =>
          refine .fail (cut fun i hi => ?_)
          rcases Nat.lt_or_eq_of_le hi with hi | rfl
          · exact earlier i hi
          · exact go
      · exact .pure ()
  | fuel + 1, k, earlier, cut => by
      rw [repeatBelow]
      split
      · next go =>
          refine hx.bind fun _ => ?_
          show (repeatBelow limit x fuel (counter (k + 1))).Safe I F
          refine repeatBelow_safe hx (fun i hi => ?_) (fun all => cut fun i hi => all i (by omega))
          rcases Nat.lt_succ_iff_lt_or_eq.mp hi with hi | rfl
          · exact earlier i hi
          · exact go
      · exact .pure ()

section Runs

variable {t : Turtle σ} {timer : Timer} {env : Environment} {fuel : Nat}

theorem Gesture.run_safe {F : Failure → Prop} (orderly : t.Orderly I)
    (hF : ∀ f, f.IsReported → F f) (line : Option Int) (what : Gesture) :
    (what.run t line).Safe I F := by
  cases what with
  | penUp => exact ((orderly.penUp true).mono hF).bind fun _ => .pure ()
  | penDown => exact ((orderly.penUp false).mono hF).bind fun _ => .pure ()
  | stop => exact .emit _

theorem Order.run_safe (orderly : t.Orderly I) {what : Order} {operand : Expr}
    {line : Option Int} {x : Float}
    (value : operand.evalNumber env what.operandName = .ok (.real x)) :
    (what.run t timer (.real x)).Safe I (Mishap timer env fuel [.order what operand line]) := by
  have told : ∀ f, f.IsReported → Mishap timer env fuel [.order what operand line] f :=
    fun _ => .inl
  cases what with
  | forward => exact ((orderly.move x).mono told).bind fun _ => .pure ()
  | backward => exact ((orderly.move (-x)).mono told).bind fun _ => .pure ()
  | right => exact ((orderly.rotate x).mono told).bind fun _ => .pure ()
  | left => exact ((orderly.rotate (-x)).mono told).bind fun _ => .pure ()
  | sleep =>
      refine (timer.sleepFor_safe x).mono fun f hf => ?_
      rcases hf with hf | ⟨rfl, finite, long⟩
      · exact .inl hf
      · exact .inr (.overlong .head value finite long)

mutual
theorem Command.run_safe (orderly : t.Orderly I) (henv : env.IsReal) :
    ∀ c : Command, c.IsGrammatical →
      (c.run t timer env fuel).Safe I (Mishap timer env fuel [c])
  | .order what operand line, h => by
      rw [Command.IsGrammatical] at h
      have settles := h.evalNumber_settles henv what.operandName
      rw [Command.run]
      refine (Action.Safe.emit _).bind fun _ => .lift_bind (fun amount ha => ?_) (fun f hf => ?_)
      · obtain ⟨x, rfl⟩ := settles.of_ok ha
        exact Order.run_safe orderly ha
      · exact .inl (settles.of_error hf)
  | .gesture what line, _ => by
      rw [Command.run]
      refine (Action.Safe.emit _).bind fun _ => ?_
      exact Gesture.run_safe orderly (fun _ => .inl) line what
  | .loop times body line, h => by
      rw [Command.IsGrammatical] at h
      obtain ⟨htimes, hbody⟩ := h
      have settles := htimes.evalNumber_settles henv "REPEAT count"
      rw [Command.run]
      refine (Action.Safe.emit _).bind fun _ => .lift_bind (fun limit hlimit => ?_) (fun f hf => ?_)
      · have inner : (runAll t timer env fuel body).Safe I
            (Mishap timer env fuel [.loop times body line]) :=
          (runAll_safe orderly henv body hbody).mono fun f hf => hf.mono fun c hc => .inside hc
        refine repeatBelow_safe (k := 0) inner (fun i hi => absurd hi (Nat.not_lt_zero i)) ?_
        intro all
        rw [Nat.zero_add] at all
        exact .inr (.endless .head hlimit all)
      · exact .inl (settles.of_error hf)
  | .comment text line, _ => by
      rw [Command.run]
      exact .emit _
  | .unknown line, h => by
      rw [Command.IsGrammatical] at h
      exact h.elim
  | .stray typeName rendering, h => by
      rw [Command.IsGrammatical] at h
      exact h.elim

/-- A run of what programs contain fails only by errors that are told, unless it is cut off. -/
theorem runAll_safe (orderly : t.Orderly I) (henv : env.IsReal) :
    ∀ cs : List Command, GrammaticalAll cs →
      (runAll t timer env fuel cs).Safe I (Mishap timer env fuel cs)
  | [], _ => by
      rw [runAll]
      exact .pure ()
  | c :: cs, h => by
      rw [GrammaticalAll] at h
      rw [runAll]
      have first : (c.run t timer env fuel).Safe I (Mishap timer env fuel [c]) :=
        Command.run_safe orderly henv c h.1
      have rest : (runAll t timer env fuel cs).Safe I (Mishap timer env fuel cs) :=
        runAll_safe orderly henv cs h.2
      refine (first.mapFailure fun f hf => (hf.mono fun d hd => ?_).at? c.line).bind fun _ =>
        rest.mono fun f hf => hf.mono fun d hd => .tail hd
      cases hd with
      | head => exact .head
      | tail hd => exact nomatch hd
      | inside hd => exact .inside hd
end

end Runs

/-! ## Requests

The steps of a request one after the other: parsing, wrapping the variables, and
running.  What has happened by then tells how the request is answered. -/

theorem Program.parse_settles (source : String) : Settles GrammaticalAll (Program.parse source) := by
  obtain ⟨rest, τ, -, -, -, ending⟩ := Grammar.parse_reads source.toList
  simp only [Program.parse]
  generalize Grammar.parse source.toList = outcome at ending ⊢
  cases ending with
  | program spells => exact settles_ok spells.grammatical
  | unfinished => exact settles_error _
  | surprise _ _ _ => exact settles_error _

theorem Program.run_safe {t : Turtle σ} {timer : Timer} {vars : List (String × Given)} {fuel : Nat}
    (orderly : t.Orderly I) (usual : ∀ v ∈ vars, v.2.IsUsual) {p : Program}
    (grammatical : GrammaticalAll p) :
    (p.run t timer vars fuel).Safe I fun f =>
      f.IsReported ∨ ∃ env, Environment.ofGiven vars = .ok env ∧ Cutoff timer env fuel p f := by
  cases p with
  | nil => exact .pure ()
  | cons c cs =>
      rcases Environment.ofGiven_settles usual with ⟨env, henv, real⟩ | ⟨e, he⟩
      · rw [Program.run_of_wrapped henv t timer fuel (c :: cs)]
        refine (runAll_safe orderly real (c :: cs) grammatical).mono fun f hf => ?_
        exact hf.imp_right fun cut => ⟨env, henv, cut⟩
      · rw [Program.run, he]
        exact .fail (.inl ⟨e, rfl⟩)

section Requests

variable (t : Turtle σ) (timer : Timer) (vars : List (String × Given)) (fuel : Nat)
  (source : String)

/-- `Served t timer vars fuel source s status after`: how a request in the scene `s` is answered
with a status, and the scene `after` it. -/
inductive Served (s : Scene σ) : Status → Scene σ → Prop where
  | unparsed {e : LogoError} : Program.parse (completed source) = .error (.error e) →
      Served s (.error e (t.pose s.state)) (s.write (.noted (.programFailed e)))
  | unusable {p : Program} {e : LogoError} : Program.parse (completed source) = .ok p → p ≠ [] →
      Environment.ofGiven vars = .error (.error e) →
      Served s (.error e (t.pose s.state))
        ((s.write (.noted (.parsed p.length))).write (.noted (.programFailed e)))
  | failed {p : Program} {env : Environment} {e : LogoError} {s' : Scene σ} :
      Program.parse (completed source) = .ok p → Environment.ofGiven vars = .ok env →
      runAll t timer env fuel p (s.write (.noted (.parsed p.length))) = (.error (.error e), s') →
      Served s (.error e (t.pose s'.state)) (s'.write (.noted (.programFailed e)))
  | succeeded {p : Program} {s' : Scene σ} : Program.parse (completed source) = .ok p →
      p.run t timer vars fuel (s.write (.noted (.parsed p.length))) = (.ok (), s') →
      Served s (.success p.length (t.pose s'.state)) s'

variable {t timer vars fuel source} {s s' : Scene σ} {p : Program}

theorem processRequest_of_unparsed {e : LogoError}
    (h : Program.parse (completed source) = .error (.error e)) :
    processRequest t timer vars fuel source s =
      (.ok (.error e (t.pose s.state)), s.write (.noted (.programFailed e))) := by
  simp only [processRequest, runSource, h]
  rfl

theorem processRequest_of_ok (h : Program.parse (completed source) = .ok p)
    (hrun : p.run t timer vars fuel (s.write (.noted (.parsed p.length))) = (.ok (), s')) :
    processRequest t timer vars fuel source s = (.ok (.success p.length (t.pose s'.state)), s') := by
  have run : runSource t timer vars fuel source s = (.ok p, s') := by
    simp only [runSource, h, Action.lift, Action.note, Action.emit, Bind.bind, Action.bind, hrun]
    rfl
  simp only [processRequest, Action.recover, Bind.bind, Action.bind, run]
  rfl

theorem processRequest_of_error {e : LogoError} (h : Program.parse (completed source) = .ok p)
    (hrun : p.run t timer vars fuel (s.write (.noted (.parsed p.length))) =
      (.error (.error e), s')) :
    processRequest t timer vars fuel source s =
      (.ok (.error e (t.pose s'.state)), s'.write (.noted (.programFailed e))) := by
  have run : runSource t timer vars fuel source s = (.error (.error e), s') := by
    simp only [runSource, h, Action.lift, Action.note, Action.emit, Bind.bind, Action.bind, hrun]
  simp only [processRequest, Action.recover, Bind.bind, Action.bind, run]
  rfl

theorem processRequest_of_cutoff {env : Environment} {f : Failure}
    (h : Program.parse (completed source) = .ok p)
    (hrun : p.run t timer vars fuel (s.write (.noted (.parsed p.length))) = (.error f, s'))
    (cut : Cutoff timer env fuel p f) :
    processRequest t timer vars fuel source s = (.error f, s') := by
  have run : runSource t timer vars fuel source s = (.error f, s') := by
    simp only [runSource, h, Action.lift, Action.note, Action.emit, Bind.bind, Action.bind, hrun]
  cases cut with
  | endless _ _ _ => simp only [processRequest, Action.recover, Bind.bind, Action.bind, run]
  | overlong _ _ _ _ => simp only [processRequest, Action.recover, Bind.bind, Action.bind, run]

variable (timer fuel source) in
/-- A request fails only if its program is cut off. -/
theorem processRequest_safe (orderly : t.Orderly I) (usual : ∀ v ∈ vars, v.2.IsUsual) :
    (processRequest t timer vars fuel source).Safe I fun f =>
      ∃ p env, Program.parse (completed source) = .ok p ∧ Environment.ofGiven vars = .ok env ∧
        Cutoff timer env fuel p f := by
  have settles := Program.parse_settles (completed source)
  refine Action.Safe.recover ?_ fun e => ?_
  · refine Action.Safe.bind ?_ fun p s hs => ⟨hs, ok_fails_in⟩
    refine .lift_bind (fun p hp => ?_) fun f hf => .inl (settles.of_error hf)
    refine (Action.Safe.emit _).bind fun _ => Action.Safe.bind ?_ fun _ => .pure p
    refine (Program.run_safe orderly usual (settles.of_ok hp)).mono fun f hf => hf.imp_right ?_
    exact fun ⟨env, henv, cut⟩ => ⟨p, env, hp, henv, cut⟩
  · exact (Action.Safe.emit _).bind fun _ s hs => ⟨hs, ok_fails_in⟩

/-- Whatever the text, a request is answered with a status, unless a loop of the program does not
come to its end or a pause is longer than the timer can measure. -/
theorem request_is_served (orderly : t.Orderly I) (usual : ∀ v ∈ vars, v.2.IsUsual)
    (start : I s.state) :
    (∃ status after, processRequest t timer vars fuel source s = (.ok status, after) ∧
      Served t timer vars fuel source s status after) ∨
    ∃ p env f after, Program.parse (completed source) = .ok p ∧
      Environment.ofGiven vars = .ok env ∧ Cutoff timer env fuel p f ∧
      processRequest t timer vars fuel source s = (.error f, after) := by
  rcases Program.parse_settles (completed source) with ⟨p, hp, grammatical⟩ | ⟨e, he⟩
  · cases p with
    | nil => exact .inl ⟨_, _, processRequest_of_ok hp rfl, .succeeded hp rfl⟩
    | cons c cs =>
        rcases Environment.ofGiven_settles usual with ⟨env, henv, real⟩ | ⟨e, he⟩
        · have same := Program.run_of_wrapped henv t timer fuel (c :: cs)
          have safe : (runAll t timer env fuel (c :: cs)).Safe I (Mishap timer env fuel (c :: cs)) :=
            runAll_safe orderly real (c :: cs) grammatical
          have fails := (safe (s.write (.noted (.parsed (c :: cs).length))) start).2
          rcases hrun : runAll t timer env fuel (c :: cs)
            (s.write (.noted (.parsed (c :: cs).length))) with ⟨r, s'⟩
          rw [hrun] at fails
          rw [← same] at hrun
          cases r with
          | ok u => exact .inl ⟨_, _, processRequest_of_ok hp hrun, .succeeded hp hrun⟩
          | error f =>
              rcases fails f rfl with ⟨e, rfl⟩ | cut
              · exact .inl ⟨_, _, processRequest_of_error hp hrun, .failed hp henv (same ▸ hrun)⟩
              · exact .inr ⟨_, _, _, _, hp, henv, cut, processRequest_of_cutoff hp hrun cut⟩
        · have hrun : Program.run t timer vars fuel (c :: cs)
              (s.write (.noted (.parsed (c :: cs).length))) =
                (.error (.error e), s.write (.noted (.parsed (c :: cs).length))) := by
            rw [Program.run, he]
            rfl
          refine .inl ⟨_, _, processRequest_of_error hp hrun, ?_⟩
          exact .unusable hp (List.cons_ne_nil c cs) he
  · exact .inl ⟨_, _, processRequest_of_unparsed he, .unparsed he⟩

end Requests

theorem kinematic_orderly : kinematic.Orderly fun _ => True where
  move _ := fun _ _ => ⟨trivial, ok_fails_in⟩
  rotate _ := fun _ _ => ⟨trivial, ok_fails_in⟩
  penUp _ := fun _ _ => ⟨trivial, ok_fails_in⟩

/-- Moves as far as there is no number for, and then turns by a string. -/
def turnByString : String := "REPEAT n [FD 10/0]\nRT s"

def turnVariables : List (String × Given) := [("N", .quantity (.whole 2)), ("s", .text "a")]

theorem request_is_served_turn_by_string :
    kinematic.Orderly (fun _ => True) ∧ (∀ v ∈ turnVariables, v.2.IsUsual) ∧
      ∃ status after,
        processRequest kinematic .clock turnVariables 3 turnByString ⟨Pose.home, []⟩ =
          (.ok status, after) ∧
        Served kinematic .clock turnVariables 3 turnByString ⟨Pose.home, []⟩ status after := by
  have usual : ∀ v ∈ turnVariables, v.2.IsUsual := by
    simp only [turnVariables, List.forall_mem_cons]
    exact ⟨Quantity.inReals_of_isOk (by decide +kernel), trivial, List.forall_mem_nil _⟩
  have ok : (processRequest kinematic .clock turnVariables 3 turnByString
      ⟨Pose.home, []⟩).1.isOk = true := by decide +kernel
  refine ⟨kinematic_orderly, usual, ?_⟩
  rcases request_is_served kinematic_orderly usual trivial with served | ⟨_, _, _, _, _, _, _, cut⟩
  · exact served
  · rw [cut] at ok
    cases ok

/-- A pause of finitely many milliseconds that the clock of the machine cannot measure. -/
example : (match (processRequest kinematic .clock [] 0 "SLEEP 1000000000000000000000000000000"
      ⟨Pose.home, []⟩).1 with
    | .error (.defect .beyondClock) => true
    | _ => false) = true := by decide +kernel

end TurtleLogo
