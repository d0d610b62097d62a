/-
# `TurtleLogo.Proofs.Action` — what an action keeps, and how it may fail

    Action.Safe I F x    from a state in `I` the action `x` leads to a state in `I`, and if it
                         fails then by a failure in `F`
    Action.Steps f g x   whatever becomes of the action `x`, it takes what `f` sees of a scene
                         to `g` of it
    Action.Leads P Q F x from a scene in `P` the action `x` leads to a scene in `Q`, and if it
                         fails then by a failure in `F`
    Action.Keeps P F x   from a scene in `P` the action `x` leads to a scene in `P`, and if it
                         fails then by a failure in `F`
    Action.each xs       does the actions `xs` in turn, whatever becomes of each

The judgements compose along everything that actions are put together with, so
that the safety of a run follows from that of the calls it consists of.  A
failure is *reported* if it is an error of the program or of the turtle, and
so neither a defect nor the end of a bounded run.
-/
import TurtleLogo.Action

namespace TurtleLogo

variable {σ α β γ : Type}

instance : LawfulMonad (Action σ) := LawfulMonad.mk' (Action σ)
  (by
    intro α x
    funext s
    show Action.bind x (fun a => Action.pure (id a)) s = x s
    rcases hx : x s with ⟨_ | _, _⟩ <;> simp only [Action.bind, Action.pure, hx, id])
  (by
    intro α β a f
    rfl)
  (by
    intro α β γ x f g
    funext s
    show Action.bind (Action.bind x f) g s = Action.bind x (fun a => Action.bind (f a) g) s
    rcases hx : x s with ⟨_ | _, _⟩ <;> simp only [Action.bind, hx])

theorem Action.bind_of_ok {x : Action σ α} {s s' : Scene σ} {a : α} (h : x s = (.ok a, s'))
    (f : α → Action σ β) : (x >>= f) s = f a s' := by
  simp only [Bind.bind, Action.bind, h]

theorem Action.bind_of_error {x : Action σ α} {s s' : Scene σ} {e : Failure}
    (h : x s = (.error e, s')) (f : α → Action σ β) : (x >>= f) s = (.error e, s') := by
  simp only [Bind.bind, Action.bind, h]

theorem Action.bind_eq_ok {x : Action σ α} {f : α → Action σ β} {s s' : Scene σ} {b : β}
    (h : (x >>= f) s = (.ok b, s')) : ∃ a s₁, x s = (.ok a, s₁) ∧ f a s₁ = (.ok b, s') := by
  simp only [Bind.bind, Action.bind] at h
  rcases hx : x s with ⟨e | a, s₁⟩
  · rw [hx] at h
    exact nomatch h
  · rw [hx] at h
    exact ⟨a, s₁, rfl, h⟩

theorem Action.bind_eq_error_iff {x : Action σ α} {f : α → Action σ β} {s s' : Scene σ}
    {e : Failure} : (x >>= f) s = (.error e, s') ↔
      x s = (.error e, s') ∨ ∃ a s₁, x s = (.ok a, s₁) ∧ f a s₁ = (.error e, s') := by
  rcases hx : x s with ⟨g | a, s₁⟩
  · rw [Action.bind_of_error hx]
    constructor
    · intro h
      cases h
      exact .inl rfl
    · rintro (h | ⟨a, s₂, h, -⟩)
      · cases h
        rfl
      · exact nomatch h
  · rw [Action.bind_of_ok hx]
    constructor
    · intro h
      exact .inr ⟨a, s₁, rfl, h⟩
    · rintro (h | ⟨b, s₂, h, hf⟩)
      · exact nomatch h
      · cases h
        exact hf

theorem Action.mapFailure_eq_error_iff {x : Action σ α} {f : Failure → Failure} {s s' : Scene σ}
    {e : Failure} :
    Action.mapFailure f x s = (.error e, s') ↔ ∃ g, x s = (.error g, s') ∧ f g = e := by
  simp only [Action.mapFailure]
  rcases hx : x s with ⟨g | b, s₁⟩
  · constructor
    · intro h
      cases h
      exact ⟨g, rfl, rfl⟩
    · rintro ⟨g, h, rfl⟩
      cases h
      rfl
  · constructor
    · intro h
      exact nomatch h
    · rintro ⟨g, h, -⟩
      exact nomatch h

/-- Nothing was cleaned up if the result is there. -/
theorem Action.cleaning_eq_ok {x : Action σ α} {cleanup : LogoError → Action σ Unit} {s s' : Scene σ}
    {a : α} (h : Action.cleaning x cleanup s = (.ok a, s')) : x s = (.ok a, s') := by
  simp only [Action.cleaning, Action.recover] at h
  rcases hx : x s with ⟨(e | d | _) | b, s₁⟩
  · rw [hx] at h
    obtain ⟨_, _, _, hfail⟩ := Action.bind_eq_ok h
    exact nomatch hfail
  all_goals
    rw [hx] at h
    exact h

/-- Errors of the program or of the turtle. -/
def Failure.IsReported (f : Failure) : Prop :=
  ∃ e, f = .error e

theorem Failure.isReported_of (cause : Cause) : (Failure.of cause).IsReported :=
  ⟨_, rfl⟩

theorem Failure.IsReported.at? {f : Failure} (h : f.IsReported) (line : Option Int) :
    (f.at? line).IsReported := by
  obtain ⟨e, rfl⟩ := h
  exact ⟨e.at? line, rfl⟩

/-- Defects of calculation. -/
def Failure.IsArithmetic (f : Failure) : Prop :=
  ∃ fault, f = .defect (.arithmetic fault)

theorem ok_fails_in {F : Failure → Prop} {a : α} (f : Failure) (h : (.ok a : Reply α) = .error f) :
    F f :=
  nomatch h

/-- `x.Safe I F`: from a state in `I` the action `x` leads to a state in `I`, and if it fails then
by a failure in `F`. -/
def Action.Safe (I : σ → Prop) (F : Failure → Prop) (x : Action σ α) : Prop :=
  ∀ s, I s.state → I (x s).2.state ∧ ∀ f, (x s).1 = .error f → F f

namespace Action.Safe

variable {I : σ → Prop} {F G : Failure → Prop} {x : Action σ α}

theorem mono (h : x.Safe I F) (hFG : ∀ f, F f → G f) : x.Safe I G := by
  intro s hs
  obtain ⟨hI, hF⟩ := h s hs
  exact ⟨hI, fun f hf => hFG f (hF f hf)⟩

theorem pure (a : α) : (Pure.pure a : Action σ α).Safe I F :=
  fun _ hs => ⟨hs, ok_fails_in⟩

theorem emit (e : Event) : (Action.emit e : Action σ Unit).Safe I F :=
  fun _ hs => ⟨hs, ok_fails_in⟩

theorem fail {f : Failure} (hf : F f) : (Action.fail f : Action σ α).Safe I F := by
  intro s hs
  refine ⟨hs, fun g hg => ?_⟩
  cases hg
  exact hf

theorem bind {f : α → Action σ β} (hx : x.Safe I F) (hf : ∀ a, (f a).Safe I F) :
    (x >>= f).Safe I F := by
  intro s hs
  have hI := (hx s hs).1
  have hF := (hx s hs).2
  rcases hr : x s with ⟨r, s'⟩
  rw [hr] at hI hF
  cases r with
  | ok a =>
      rw [Action.bind_of_ok hr]
      exact hf a s' hI
  | error e =>
      rw [Action.bind_of_error hr]
      refine ⟨hI, fun g hg => ?_⟩
      cases hg
      exact hF e rfl

/-- A result known beforehand only passes on what is known of it. -/
theorem lift_bind {r : Reply α} {f : α → Action σ β} (hok : ∀ a, r = .ok a → (f a).Safe I F)
    (herror : ∀ e, r = .error e → F e) : (Action.lift r >>= f).Safe I F := by
  cases r with
  | ok a => exact hok a rfl
  | error e => exact fail (herror e rfl)

theorem mapFailure {f : Failure → Failure} (h : x.Safe I F) (hf : ∀ e, F e → G (f e)) :
    (Action.mapFailure f x).Safe I G := by
  intro s hs
  have hI := (h s hs).1
  have hF := (h s hs).2
  rcases hr : x s with ⟨r, s'⟩
  rw [hr] at hI hF
  cases r with
  | ok a =>
      simp only [Action.mapFailure, hr]
      exact ⟨hI, ok_fails_in⟩
  | error e =>
      simp only [Action.mapFailure, hr]
      refine ⟨hI, fun g hg => ?_⟩
      cases hg
      exact hf e (hF e rfl)

/-- What answers a reported error is all that is left of it. -/
theorem recover {answer : LogoError → Action σ α} (h : x.Safe I fun f => f.IsReported ∨ F f)
    (hanswer : ∀ e, (answer e).Safe I F) : (Action.recover x answer).Safe I F := by
  intro s hs
  have hI := (h s hs).1
  have hF := (h s hs).2
  rcases hr : x s with ⟨(e | d | _) | a, s'⟩
  all_goals
    rw [hr] at hI hF
    simp only [Action.recover, hr]
  · exact hanswer e s' hI
  · refine ⟨hI, fun f hf => ?_⟩
    exact (hF f hf).resolve_left fun ⟨e, he⟩ => nomatch (Except.error.inj hf).trans he
  · refine ⟨hI, fun f hf => ?_⟩
    exact (hF f hf).resolve_left fun ⟨e, he⟩ => nomatch (Except.error.inj hf).trans he
  · exact ⟨hI, ok_fails_in⟩

end Action.Safe

/-- `x.Steps f g`: whatever becomes of the action `x`, it takes what `f` sees of a scene to `g` of
it. -/
def Action.Steps (f : Scene σ → γ) (g : γ → γ) (x : Action σ α) : Prop :=
  ∀ s, f (x s).2 = g (f s)

/-- `x.Leaves f`: whatever becomes of the action `x`, it changes nothing that `f` sees. -/
abbrev Action.Leaves (f : Scene σ → γ) (x : Action σ α) : Prop :=
  x.Steps f id

namespace Action.Leaves

variable {f : Scene σ → γ} {g : γ → γ} {x : Action σ α}

theorem pure (a : α) : (Pure.pure a : Action σ α).Leaves f :=
  fun _ => rfl

theorem lift (r : Reply α) : (Action.lift r : Action σ α).Leaves f :=
  fun _ => rfl

theorem bind {y : α → Action σ β} (hx : x.Leaves f) (hy : ∀ a, (y a).Leaves f) :
    (x >>= y).Leaves f := by
  intro s
  have first := hx s
  rcases hr : x s with ⟨r, s₁⟩
  rw [hr] at first
  cases r with
  | ok a =>
      rw [Action.bind_of_ok hr, hy a s₁]
      exact first
  | error e =>
      rw [Action.bind_of_error hr]
      exact first

/-- What is done in any case is done however the action before it ends. -/
theorem ensuring {y : Action σ Unit} (hx : x.Leaves f) (hy : y.Steps f g) :
    (Action.ensuring x y).Steps f g := by
  intro s
  have first : f (x s).2 = f s := hx s
  have second := hy (x s).2
  rcases hr : x s with ⟨r, s₁⟩
  rcases hr' : y s₁ with ⟨_ | _, s₂⟩
  all_goals
    simp only [Action.ensuring, hr, hr']
    rw [hr] at first second
    rw [hr', first] at second
    exact second

end Action.Leaves

/-- `x.Leads P Q F`: from a scene in `P` the action `x` leads to a scene in `Q`, whether it fails or
not, and if it fails then by a failure in `F`. -/
def Action.Leads (P Q : Scene σ → Prop) (F : Failure → Prop) (x : Action σ α) : Prop :=
  ∀ s, P s → Q (x s).2 ∧ ∀ f, (x s).1 = .error f → F f

namespace Action.Leads

variable {P Q R : Scene σ → Prop} {F G : Failure → Prop} {x : Action σ α}

theorem mono (h : x.Leads P Q F) (hFG : ∀ f, F f → G f) : x.Leads P Q G := by
  intro s hs
  obtain ⟨hQ, hF⟩ := h s hs
  exact ⟨hQ, fun f hf => hFG f (hF f hf)⟩

/-- If the first step fails, the second is left out. -/
theorem bind {f : α → Action σ β} (hx : x.Leads P Q F) (hf : ∀ a, (f a).Leads Q R F)
    (stops : ∀ e s, F e → Q s → R s) : (x >>= f).Leads P R F := by
  intro s hs
  have hQ := (hx s hs).1
  have hF := (hx s hs).2
  rcases hr : x s with ⟨r, s'⟩
  rw [hr] at hQ hF
  cases r with
  | ok a =>
      rw [Action.bind_of_ok hr]
      exact hf a s' hQ
  | error e =>
      rw [Action.bind_of_error hr]
      refine ⟨stops e s' (hF e rfl) hQ, fun g hg => ?_⟩
      cases hg
      exact hF e rfl

/-- What is done in any case starts from wherever the action before it has led. -/
theorem ensuring {y : Action σ Unit} (hx : x.Leads P Q F) (hy : y.Leads Q R F) :
    (Action.ensuring x y).Leads P R F := by
  intro s hs
  obtain ⟨hQ, hF⟩ := hx s hs
  obtain ⟨hR, hG⟩ := hy (x s).2 hQ
  rcases hr : x s with ⟨r, s₁⟩
  rcases hr' : y s₁ with ⟨e | _, s₂⟩
  · simp only [Action.ensuring, hr, hr']
    rw [hr, hr'] at hR hG
    refine ⟨hR, fun f hf => ?_⟩
    cases hf
    exact hG e rfl
  · simp only [Action.ensuring, hr, hr']
    rw [hr] at hF
    rw [hr, hr'] at hR
    exact ⟨hR, hF⟩

theorem onFst {τ : Type} (hx : x.Leads P Q F) : (Action.onFst x : Action (σ × τ) α).Leads
    (fun s => P ⟨s.state.1, s.journal⟩) (fun s => Q ⟨s.state.1, s.journal⟩) F :=
  fun s hs => hx ⟨s.state.1, s.journal⟩ hs

end Action.Leads

/-- `x.Keeps P F`: from a scene in `P` the action `x` leads to a scene in `P`, whether it fails or
not, and if it fails then by a failure in `F`. -/
abbrev Action.Keeps (P : Scene σ → Prop) (F : Failure → Prop) (x : Action σ α) : Prop :=
  x.Leads P P F

namespace Action.Keeps

variable {P : Scene σ → Prop} {F : Failure → Prop} {x : Action σ α}

theorem pure (a : α) : (Pure.pure a : Action σ α).Keeps P F :=
  fun _ hs => ⟨hs, ok_fails_in⟩

theorem emit (e : Event) (h : ∀ s, P s → P (s.write e)) :
    (Action.emit e : Action σ Unit).Keeps P F :=
  fun s hs => ⟨h s hs, ok_fails_in⟩

theorem bind {f : α → Action σ β} (hx : x.Keeps P F) (hf : ∀ a, (f a).Keeps P F) :
    (x >>= f).Keeps P F :=
  Action.Leads.bind hx hf fun _ _ _ hs => hs

theorem lift_bind {r : Reply α} {f : α → Action σ β} (hok : ∀ a, r = .ok a → (f a).Keeps P F)
    (herror : ∀ e, r = .error e → F e) : (Action.lift r >>= f).Keeps P F := by
  cases r with
  | ok a => exact hok a rfl
  | error e =>
      intro s hs
      refine ⟨hs, fun g hg => ?_⟩
      cases hg
      exact herror e rfl

end Action.Keeps

/-- Does one thing after the other, whatever becomes of each. -/
def Action.each : List (Action σ α) → Scene σ → List (Reply α) × Scene σ
  | [], s => ([], s)
  | x :: xs, s => ((x s).1 :: (Action.each xs (x s).2).1, (Action.each xs (x s).2).2)

end TurtleLogo
