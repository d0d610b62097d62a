/-
# `TurtleLogo.Proofs.Program.Tracking` — runs of programs that are alike

Two runs on the same turtle are compared step by step.  They may write different
notes and start with different journals, and where one fails the other may fail
in another wording:

    Tallies F r r'     the same result, or failures related by `F`
    Tracks F x y       from the same state `x` and `y` do the same deeds, end in the same
                       state, and their results tally

`Tracks` composes along everything that runs are put together with.  What has to
be known of names, lines and failures to follow a run is collected in `Fits`; then
programs that are alike track each other (`Program.run_tracks`).
-/
import TurtleLogo.Proofs.Action
import TurtleLogo.Proofs.Grammar.Likeness
import TurtleLogo.Proofs.Program.Script

namespace TurtleLogo

variable {σ τ α β : Type} {F : Failure → Failure → Prop}

/-! ## Results

A result on one side is the same on the other; a failure on one side is a failure
on the other, up to `F`. -/

/-- `Tallies F r r'`: the same result, or failures related by `F`. -/
inductive Tallies (F : Failure → Failure → Prop) : Reply α → Reply α → Prop
  | ok (a : α) : Tallies F (.ok a) (.ok a)
  | error {f g : Failure} : F f g → Tallies F (.error f) (.error g)

theorem tallies_self (refl : ∀ f, F f f) (r : Reply α) : Tallies F r r := by
  cases r with
  | ok a => exact .ok a
  | error f => exact .error (refl f)

/-! ## Steps

What two actions have done is compared by what they have added to their journals.
The judgement composes along everything that runs are put together with. -/

/-- Events among which nothing is written to the output. -/
def Silent (added : Journal) : Prop :=
  ∀ text, .wrote text ∉ added

theorem Silent.append {a b : Journal} (ha : Silent a) (hb : Silent b) : Silent (a ++ b) := by
  intro text h
  rcases List.mem_append.mp h with h | h
  · exact ha text h
  · exact hb text h

theorem silent_nil : Silent [] := nofun

theorem silent_one {e : Event} (he : e.output? = none) : Silent [e] := by
  intro text h
  rw [← List.mem_singleton.mp h] at he
  exact nomatch he

/-- What two actions come to that started in the scenes `s` and `s'`: both have added the same
deeds, and the second has written nothing to the output. -/
structure InStep (F : Failure → Failure → Prop) (s s' : Scene τ) (x y : Reply α × Scene τ) :
    Prop where
  added : ∃ a b, x.2.journal = a ++ s.journal ∧ y.2.journal = b ++ s'.journal ∧
    issued b = issued a ∧ Silent b
  state : y.2.state = x.2.state
  result : Tallies F x.1 y.1

/-- `Tracks F x y`: from the same state `x` and `y` do the same deeds, end in the same state, and
their results tally. -/
def Tracks (F : Failure → Failure → Prop) (x y : Action τ α) : Prop :=
  ∀ ⦃s s' : Scene τ⦄, s'.state = s.state → InStep F s s' (x s) (y s')

namespace Tracks

variable {x y : Action τ α}

theorem pure (a : α) : Tracks F (Pure.pure a : Action τ α) (Pure.pure a) :=
  fun _ _ hs => ⟨⟨[], [], rfl, rfl, rfl, silent_nil⟩, hs, .ok a⟩

theorem fail {f g : Failure} (h : F f g) : Tracks F (Action.fail f : Action τ α) (Action.fail g) :=
  fun _ _ hs => ⟨⟨[], [], rfl, rfl, rfl, silent_nil⟩, hs, .error h⟩

theorem lift {r r' : Reply α} (h : Tallies F r r') :
    Tracks F (Action.lift r : Action τ α) (Action.lift r') :=
  fun _ _ hs => ⟨⟨[], [], rfl, rfl, rfl, silent_nil⟩, hs, h⟩

theorem emit {e e' : Event} (hdeed : e'.deed? = e.deed?) (hout : e'.output? = none) :
    Tracks F (Action.emit e : Action τ Unit) (Action.emit e') := by
  intro s s' hs
  refine ⟨⟨[e], [e'], rfl, rfl, ?_, silent_one hout⟩, hs, .ok ()⟩
  simp [issued, Journal.events, List.filterMap_cons, hdeed]

theorem note (n m : Log.Note) : Tracks F (Action.note n : Action τ Unit) (Action.note m) :=
  emit rfl rfl

theorem bind {f g : α → Action τ β} (h : Tracks F x y) (hf : ∀ a, Tracks F (f a) (g a)) :
    Tracks F (x >>= f) (y >>= g) := by
  intro s s' hs
  have first := h hs
  show InStep F s s' (Action.bind x f s) (Action.bind y g s')
  unfold Action.bind
  rcases hx : x s with ⟨r, s₁⟩
  rcases hy : y s' with ⟨r', s₁'⟩
  rw [hx, hy] at first
  obtain ⟨⟨a, b, ha, hb, hdeeds, silent⟩, hstate, tally⟩ := first
  cases tally with
  | error hF => exact ⟨⟨a, b, ha, hb, hdeeds, silent⟩, hstate, .error hF⟩
  | ok v =>
      obtain ⟨⟨a', b', ha', hb', hdeeds', silent'⟩, hstate', tally⟩ := hf v hstate
      refine ⟨⟨a' ++ a, b' ++ b, ?_, ?_, ?_, silent'.append silent⟩, hstate', tally⟩
      · rw [List.append_assoc, ← ha]
        exact ha'
      · rw [List.append_assoc, ← hb]
        exact hb'
      · rw [issued_append, issued_append, hdeeds, hdeeds']

theorem mapFailure {h k : Failure → Failure} (hF : ∀ {f g}, F f g → F (h f) (k g))
    (hx : Tracks F x y) : Tracks F (Action.mapFailure h x) (Action.mapFailure k y) := by
  intro s s' hs
  have inner := hx hs
  unfold Action.mapFailure
  rcases hr : x s with ⟨r, s₁⟩
  rcases hr' : y s' with ⟨r', s₁'⟩
  rw [hr, hr'] at inner
  obtain ⟨added, state, tally⟩ := inner
  cases tally with
  | ok a => exact ⟨added, state, .ok a⟩
  | error hfg => exact ⟨added, state, .error (hF hfg)⟩

theorem repeatBelow {x y : Action τ Unit} (refl : ∀ f, F f f) (limit : Quantity)
    (h : Tracks F x y) (fuel : Nat) : ∀ counter : Float,
      Tracks F (TurtleLogo.repeatBelow limit x fuel counter)
        (TurtleLogo.repeatBelow limit y fuel counter) := by
  induction fuel with
  | zero =>
      intro counter
      rw [TurtleLogo.repeatBelow, TurtleLogo.repeatBelow]
      split
      · exact fail (refl _)
      · exact pure ()
  | succ fuel ih =>
      intro counter
      rw [TurtleLogo.repeatBelow, TurtleLogo.repeatBelow]
      split
      · exact h.bind fun _ => ih (counter + 1.0)
      · exact pure ()

theorem asked (refl : ∀ f, F f f) (t : Turtle σ) (call : Call) (answer : α → Answer)
    (x : Action σ α) :
    Tracks F (do let _ ← t.screened.noting call answer x.screened; Pure.pure ())
      (do let _ ← t.screened.noting call answer x.screened; Pure.pure ()) := by
  refine bind ?_ fun _ => pure ()
  intro s s' hs
  rcases hx : x s.state with ⟨reply, inner⟩
  let e : Event := .answered call (reply.map answer) (t.pose inner.state)
  have one : t.screened.noting call answer x.screened s = (reply, ⟨inner, e :: s.journal⟩) := by
    simp only [Turtle.noting, Action.screened, hx]
    rfl
  have other : t.screened.noting call answer x.screened s' = (reply, ⟨inner, e :: s'.journal⟩) := by
    simp only [Turtle.noting, Action.screened, hs, hx]
    rfl
  rw [one, other]
  exact ⟨⟨[e], [e], rfl, rfl, rfl, silent_one rfl⟩, rfl, tallies_self refl reply⟩

end Tracks

/-! ## Commands

A command is followed by its operand first: like operands have like values or
failures.  A loop is followed round by round, with the same counter on both sides. -/

theorem Timer.sleepFor_tracks (refl : ∀ f, F f f) (timer : Timer) (amount : Quantity) :
    Tracks F (timer.sleepFor amount : Action τ Unit) (timer.sleepFor amount) := by
  unfold Timer.sleepFor
  refine (Tracks.lift (tallies_self refl _)).bind fun millis => ?_
  split
  · rw [Timer.sleep]
    split
    · exact .emit rfl rfl
    · exact .fail (refl _)
  · exact .fail (refl _)

/-- What has to be known to follow a run: failures of like expressions are related, and they stay
so on like lines. -/
structure Fits (N : String → String → Prop) (L : Option Int → Option Int → Prop)
    (F : Failure → Failure → Prop) : Prop where
  refl : ∀ f, F f f
  placed : ∀ {f g : Failure} {l m : Option Int}, F f g → L l m → F (f.at? l) (g.at? m)
  evalNumber : ∀ {e f : Expr}, LikeExpr N (.chain .comparison) e f →
    ∀ (env : Environment) (what : String),
      Tallies F (e.evalNumber env what) (f.evalNumber env what)

/-- Where all names are the same, so are the values of expressions. -/
theorem fits_of_eq {L : Option Int → Option Int → Prop} (refl : ∀ f, F f f)
    (placed : ∀ {f g : Failure} {l m : Option Int}, F f g → L l m → F (f.at? l) (g.at? m)) :
    Fits Eq L F where
  refl := refl
  placed := placed
  evalNumber he env what := by
    rw [he.eq]
    exact tallies_self refl _

section Runs

variable {N : String → String → Prop} {L : Option Int → Option Int → Prop}
variable (t : Turtle σ) (timer : Timer) (env : Environment) (fuel : Nat)

theorem Order.run_tracks (refl : ∀ f, F f f) (amount : Quantity) (what : Order) :
    Tracks F (what.run t.screened.observed timer amount)
      (what.run t.screened.observed timer amount) := by
  cases what with
  | forward => exact .asked refl t _ _ (t.move amount)
  | backward => exact .asked refl t _ _ (t.move amount.neg)
  | right => exact .asked refl t _ _ (t.rotate amount)
  | left => exact .asked refl t _ _ (t.rotate amount.neg)
  | sleep => exact timer.sleepFor_tracks refl amount

theorem Gesture.run_tracks (refl : ∀ f, F f f) (l m : Option Int) (what : Gesture) :
    Tracks F (what.run t.screened.observed l) (what.run t.screened.observed m) := by
  cases what with
  | penUp => exact .asked refl t _ _ (t.penUp true)
  | penDown => exact .asked refl t _ _ (t.penUp false)
  | stop => exact .note _ _

mutual
theorem Command.run_tracks (fits : Fits N L F) : ∀ {c d : Command}, LikeCommand N L c d →
    Tracks F (c.run t.screened.observed timer env fuel) (d.run t.screened.observed timer env fuel)
  | _, _, .order what he _ => by
      rw [Command.run, Command.run]
      refine (Tracks.note _ _).bind fun _ => (Tracks.lift (fits.evalNumber he env _)).bind ?_
      exact fun amount => Order.run_tracks t timer fits.refl amount what
  | _, _, .gesture what _ => by
      rw [Command.run, Command.run]
      exact (Tracks.note _ _).bind fun _ => Gesture.run_tracks t fits.refl _ _ what
  | _, _, .loop he hbody _ => by
      rw [Command.run, Command.run]
      refine (Tracks.note _ _).bind fun _ => (Tracks.lift (fits.evalNumber he env _)).bind ?_
      exact fun limit => Tracks.repeatBelow fits.refl limit (runAll_tracks fits hbody) fuel 0.0
  | _, _, .comment _ _ => by
      rw [Command.run, Command.run]
      exact .note _ _

theorem runAll_tracks (fits : Fits N L F) : ∀ {cs ds : List Command}, LikeCommands N L cs ds →
    Tracks F (runAll t.screened.observed timer env fuel cs)
      (runAll t.screened.observed timer env fuel ds)
  | _, _, .nil => by
      rw [runAll]
      exact .pure ()
  | _, _, .cons hc hcs => by
      rw [runAll, runAll]
      refine Tracks.bind (Tracks.mapFailure (fun hF => fits.placed hF hc.line) ?_) fun _ => ?_
      · exact Command.run_tracks fits hc
      · exact runAll_tracks fits hcs
end

/-! ## Programs

Variables are wrapped before anything is done.  Lists of commands one after the
other are run one after the other. -/

theorem Program.run_of_unusable {vars : List (String × Given)} {f : Failure}
    (h : Environment.ofGiven vars = .error f) {p : Program} (hp : p ≠ []) (t : Turtle σ) :
    p.run t timer vars fuel = Action.fail f := by
  rw [Program.run, if_neg (by simpa using hp), h]
  rfl

/-- Programs that are alike run alike, with variables of the same environment. -/
theorem Program.run_tracks (fits : Fits N L F) {p q : Program} (h : LikeCommands N L p q)
    {vars vars' : List (String × Given)}
    (hvars : Environment.ofGiven vars' = Environment.ofGiven vars) :
    Tracks F (p.run t.screened.observed timer vars fuel)
      (q.run t.screened.observed timer vars' fuel) := by
  rcases wraps : Environment.ofGiven vars with f | env
  · by_cases hp : p = []
    · obtain rfl := h.eq_nil.mpr hp
      subst hp
      exact .pure ()
    · rw [Program.run_of_unusable timer fuel wraps hp,
        Program.run_of_unusable timer fuel (hvars.trans wraps) (hp ∘ h.eq_nil.mp)]
      exact .fail (fits.refl f)
  · rw [Program.run_of_wrapped wraps, Program.run_of_wrapped (hvars.trans wraps)]
    exact runAll_tracks t timer env fuel fits h

theorem runAll_append (t : Turtle σ) (cs ds : List Command) :
    runAll t timer env fuel (cs ++ ds) =
      (do runAll t timer env fuel cs; runAll t timer env fuel ds) := by
  induction cs with
  | nil =>
      rw [List.nil_append, runAll, pure_bind]
  | cons c cs ih =>
      rw [List.cons_append, runAll, runAll, bind_assoc]
      simp only [ih]

theorem Program.run_append (t : Turtle σ) (vars : List (String × Given)) (p q : Program) :
    Program.run t timer vars fuel (p ++ q) =
      (do p.run t timer vars fuel; q.run t timer vars fuel) := by
  rcases wraps : Environment.ofGiven vars with f | env
  · cases p with
    | nil => rfl
    | cons c cs =>
        rw [Program.run_of_unusable timer fuel wraps (List.cons_ne_nil c cs), List.cons_append,
          Program.run_of_unusable timer fuel wraps (List.cons_ne_nil c (cs ++ q))]
        rfl
  · rw [Program.run_of_wrapped wraps, Program.run_of_wrapped wraps, Program.run_of_wrapped wraps]
    exact runAll_append timer env fuel t p q

end Runs

/-- The scene of its own in which a run leaves a turtle. -/
def Turtle.left (t : Turtle σ) (timer : Timer) (vars : List (String × Given)) (fuel : Nat)
    (p : Program) (s : Scene σ) : Scene σ :=
  (p.run t.screened.observed timer vars fuel ⟨s, []⟩).2.state

end TurtleLogo
