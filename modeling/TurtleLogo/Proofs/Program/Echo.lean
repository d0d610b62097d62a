/-
# `TurtleLogo.Proofs.Program.Echo` — the same deeds, with other notes

    Alike s s'       the same state, and the same deeds before it
    Echoes x y       what `x` does if it succeeds, `y` does too, up to notes and prompts

`Echoes` asks nothing where `x` fails.  Actions that track each other echo each
other; in particular programs do that differ only in the lines of their commands,
and a program of the grammar echoes itself in other scenes that are alike.
-/
import TurtleLogo.Proofs.Program.Evaluation
import TurtleLogo.Proofs.Program.Tracking

namespace TurtleLogo

variable {σ τ α β : Type}

/-! ## Scenes that show the same deeds

Scenes are compared by their states and by the deeds in their journals.  Notes and
prompts are no deeds, and so they may be different. -/

/-- Scenes in the same state, before which the same has been done. -/
structure Alike (s s' : Scene τ) : Prop where
  state : s'.state = s.state
  deeds : issued s'.journal = issued s.journal

theorem Alike.refl (s : Scene τ) : Alike s s := ⟨rfl, rfl⟩

theorem Alike.trans {s s' s'' : Scene τ} (h : Alike s s') (h' : Alike s' s'') : Alike s s'' :=
  ⟨h'.state.trans h.state, h'.deeds.trans h.deeds⟩

theorem Alike.symm {s s' : Scene τ} (h : Alike s s') : Alike s' s :=
  ⟨h.state.symm, h.deeds.symm⟩

/-- An event that shows no deed makes no difference. -/
theorem alike_write {e : Event} (he : e.deed? = none) (s : Scene τ) : Alike s (s.write e) := by
  refine ⟨rfl, ?_⟩
  have none : issued [e] = [] := by simp [issued, Journal.events, he]
  have parts := issued_append [e] s.journal
  rw [none, List.append_nil] at parts
  exact parts

/-- `Echoes x y`: if `x` succeeds, then `y` succeeds with the same result from every scene that is
alike, ends in a scene that is alike, and writes nothing to the output. -/
def Echoes (x y : Action τ α) : Prop :=
  ∀ ⦃s s' r : Scene τ⦄ ⦃a : α⦄, Alike s s' → x s = (.ok a, r) →
    ∃ r' added, y s' = (.ok a, r') ∧ Alike r r' ∧ r'.journal = added ++ s'.journal ∧ Silent added

namespace Echoes

variable {x y z : Action τ α}

theorem pure (a : α) : Echoes (Pure.pure a : Action τ α) (Pure.pure a) := by
  intro s s' r b alike run
  cases run
  exact ⟨s', [], rfl, alike, rfl, silent_nil⟩

theorem trans (h : Echoes x y) (h' : Echoes y z) : Echoes x z := by
  intro s s' r a alike run
  obtain ⟨r₁, -, run₁, alike₁, -, -⟩ := h (Alike.refl s) run
  obtain ⟨r₂, added, run₂, alike₂, journal, silent⟩ := h' alike run₁
  exact ⟨r₂, added, run₂, alike₁.trans alike₂, journal, silent⟩

theorem bind {f g : α → Action τ β} (h : Echoes x y) (hf : ∀ a, Echoes (f a) (g a)) :
    Echoes (x >>= f) (y >>= g) := by
  intro s s' r b alike run
  obtain ⟨a, s₁, run₁, run₂⟩ := Action.bind_eq_ok run
  obtain ⟨r₁, first, hr₁, alike₁, journal₁, silent₁⟩ := h alike run₁
  obtain ⟨r₂, second, hr₂, alike₂, journal₂, silent₂⟩ := hf a alike₁ run₂
  refine ⟨r₂, second ++ first, ?_, alike₂, ?_, silent₂.append silent₁⟩
  · simp only [Bind.bind, Action.bind, hr₁, hr₂]
  · rw [journal₂, journal₁, List.append_assoc]

theorem after {e : Event} (hdeed : e.deed? = none) (hout : e.output? = none) (h : Echoes x y) :
    Echoes x (do Action.emit e; y) := by
  intro s s' r a alike run
  obtain ⟨r', added, hr', alike', journal, silent⟩ := h (alike.trans (alike_write hdeed s')) run
  refine ⟨r', added ++ [e], hr', alike', ?_, silent.append (silent_one hout)⟩
  rw [journal, List.append_assoc]
  rfl

end Echoes

/-- Actions that track each other echo each other. -/
theorem Tracks.echoes {F : Failure → Failure → Prop} {x y : Action τ α} (h : Tracks F x y) :
    Echoes x y := by
  intro s s' r a alike run
  have step := h alike.state
  rcases other : y s' with ⟨reply, r'⟩
  rw [run, other] at step
  obtain ⟨⟨before, added, hjournal, hjournal', deeds, silent⟩, state, tally⟩ := step
  cases tally with
  | ok a =>
      refine ⟨r', added, rfl, ⟨state, ?_⟩, hjournal', silent⟩
      calc issued r'.journal = issued s'.journal ++ issued added := by rw [hjournal', issued_append]
        _ = issued s.journal ++ issued before := by rw [alike.deeds, deeds]
        _ = issued r.journal := by rw [hjournal, issued_append]

/-! ## Grammatical trees

Trees of the grammar are alike to themselves, which is what the comparison of runs
asks for. -/

section Trees

variable {N : String → String → Prop} {L : Option Int → Option Int → Prop}

mutual
theorem OnLadder.like (refl : ∀ a, N a a) : ∀ {r : Rung} {e : Expr}, OnLadder r e →
    LikeExpr N r e e
  | _, _, .number x => .number x
  | _, _, .string s => .string s
  | _, _, .ident name => .ident (refl name)
  | _, _, .group he => .group (he.like refl)
  | _, _, .factor hb => .factor (hb.like refl)
  | _, _, .power hb hx => .power (hb.like refl) (hx.like refl)
  | _, _, .chain he hrest => .chain (he.like refl) (hrest.like refl)

theorem LinksOnLadder.like (refl : ∀ a, N a a) : ∀ {l : Level} {rest : Links},
    LinksOnLadder l rest → LikeLinks N l rest rest
  | _, _, .nil _ => .nil
  | _, _, @LinksOnLadder.cons _ op _ _ _ he hrest => .cons op (he.like refl) (hrest.like refl)
end

mutual
theorem Command.IsGrammatical.like (refl : ∀ a, N a a) (same : ∀ l, L l l) : ∀ {c : Command},
    c.IsGrammatical → LikeCommand N L c c
  | .order what _ line, he => .order what (OnLadder.like refl he) (same line)
  | .gesture what line, _ => .gesture what (same line)
  | .loop _ _ line, ⟨he, hbody⟩ =>
      .loop (OnLadder.like refl he) (GrammaticalAll.like refl same hbody) (same line)
  | .comment text line, _ => .comment (refl text) (same line)

theorem GrammaticalAll.like (refl : ∀ a, N a a) (same : ∀ l, L l l) : ∀ {cs : List Command},
    GrammaticalAll cs → LikeCommands N L cs cs
  | [], _ => .nil
  | _ :: _, ⟨hc, hcs⟩ => .cons (hc.like refl same) (hcs.like refl same)
end

end Trees

/-! ## The same program on other lines -/

theorem Program.run_echoes (t : Turtle σ) (timer : Timer) (vars : List (String × Given))
    (fuel : Nat) {L : Option Int → Option Int → Prop} {p q : Program}
    (h : LikeCommands Eq L p q) :
    Echoes (p.run t.screened.observed timer vars fuel)
      (q.run t.screened.observed timer vars fuel) :=
  have fits : Fits Eq L fun _ _ => True := fits_of_eq (fun _ => trivial) fun _ _ => trivial
  (Program.run_tracks t timer fuel fits h rfl).echoes

end TurtleLogo
