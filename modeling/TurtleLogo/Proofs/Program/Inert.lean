/-
# `TurtleLogo.Proofs.Program.Inert` — comments and stops make no difference

A comment and a STOP are noted in the log and do nothing else; in particular a STOP
ends neither the run nor a round of the loop that it stands in.  So a program may be
run without them:

    c.isInert        the command c is a comment or a STOP
    essentials cs    the commands cs without the inert ones, at every depth

With and without its inert commands a program does the same deeds and has the same
result, the line of an error included.  A loop stays even if nothing is left of its
body, for its count may fail, and it goes through its rounds as before.
-/
import TurtleLogo.Proofs.Program.Safety
import TurtleLogo.Proofs.Program.Tracking

namespace TurtleLogo

variable {σ τ : Type} {F : Failure → Failure → Prop}

/-! ## Programs without their inert commands

Inert commands are left out at every depth, but a loop stays with whatever is left
of its body, even if that is nothing. -/

/-- Whether a command is a comment or a STOP. -/
def Command.isInert : Command → Bool
  | .comment .. | .gesture .stop _ => true
  | _ => false

mutual
/-- A command without the inert ones in its body. -/
def Command.essential : Command → Command
  | .order what operand line => .order what operand line
  | .gesture what line => .gesture what line
  | .loop times body line => .loop times (essentials body) line
  | .comment text line => .comment text line
  | .unknown line => .unknown line
  | .stray typeName rendering => .stray typeName rendering

def essentials : List Command → List Command
  | [] => []
  | c :: cs => if c.isInert then essentials cs else c.essential :: essentials cs
end

theorem essentials_cons_of_inert {c : Command} (h : c.isInert = true) (cs : List Command) :
    essentials (c :: cs) = essentials cs := by
  rw [essentials, if_pos h]

theorem essentials_cons_of_not_inert {c : Command} (h : c.isInert = false) (cs : List Command) :
    essentials (c :: cs) = c.essential :: essentials cs := by
  rw [essentials, if_neg (Bool.eq_false_iff.mp h)]

theorem Command.line_essential (c : Command) : c.essential.line = c.line := by
  cases c <;> rfl

theorem occurs_cons {d c : Command} {cs : List Command} (h : Occurs d (c :: cs)) :
    Occurs d [c] ∨ Occurs d cs := by
  cases h with
  | head => exact .inl .head
  | tail h => exact .inr h
  | inside h => exact .inl (.inside h)

theorem eq_of_occurs_single {d c : Command} (h : Occurs d [c])
    (hc : ∀ times body line, c ≠ .loop times body line) : d = c := by
  cases h with
  | head => rfl
  | tail h => cases h
  | inside _ => exact absurd rfl (hc _ _ _)

mutual
theorem Command.not_inert_of_occurs {d : Command} : ∀ c : Command, c.isInert = false →
    Occurs d [c.essential] → d.isInert = false
  | .loop times body line, _, h => by
      rw [Command.essential] at h
      cases h with
      | head => rfl
      | tail h => cases h
      | inside h => exact not_inert_of_occurs body h
  | .order _ _ _, hc, h | .gesture _ _, hc, h | .comment _ _, hc, h | .unknown _, hc, h
  | .stray _ _, hc, h => by
      rw [Command.essential] at h
      rw [eq_of_occurs_single h nofun]
      exact hc

/-- Nothing inert is left, at any depth. -/
theorem not_inert_of_occurs {d : Command} : ∀ cs : List Command, Occurs d (essentials cs) →
    d.isInert = false
  | c :: cs, h => by
      cases hc : c.isInert with
      | true =>
          rw [essentials_cons_of_inert hc] at h
          exact not_inert_of_occurs cs h
      | false =>
          rw [essentials_cons_of_not_inert hc] at h
          rcases occurs_cons h with h | h
          · exact Command.not_inert_of_occurs c hc h
          · exact not_inert_of_occurs cs h
end

/-! ## Runs without their inert commands

A run of an inert command writes a note and comes to nothing, so it tracks doing
nothing at all.  The rest is an induction on the tree along which tracking
composes. -/

theorem Tallies.eq {α : Type} {r r' : Reply α} (h : Tallies Eq r r') : r' = r := by
  cases h with
  | ok a => rfl
  | error h => rw [h]

theorem Tracks.noted (n : Log.Note) :
    Tracks F (Action.note n : Action τ Unit) (Pure.pure ()) :=
  fun _ _ hs => ⟨⟨[.noted n], [], rfl, rfl, rfl, silent_nil⟩, hs, .ok ()⟩

/-- What comes to nothing may be left out. -/
theorem Tracks.leave_out {x y z : Action τ Unit} (hx : Tracks F x (Pure.pure ()))
    (h : Tracks F y z) : Tracks F (do x; y) z := by
  rw [← pure_bind () fun _ => z]
  exact hx.bind fun _ => h

section Runs

variable (t : Turtle σ) (timer : Timer) (env : Environment) (fuel : Nat)

theorem Command.run_of_inert : ∀ {c : Command}, c.isInert = true →
    Tracks Eq (c.run t.screened.observed timer env fuel) (Pure.pure ())
  | .comment text line, _ => by
      rw [Command.run]
      exact .noted _
  | .gesture .stop line, _ => by
      rw [Command.run]
      exact .leave_out (.noted _) (.noted _)

mutual
theorem Command.run_essential : ∀ c : Command,
    Tracks Eq (c.run t.screened.observed timer env fuel)
      (c.essential.run t.screened.observed timer env fuel)
  | .order what operand line => by
      rw [Command.essential, Command.run]
      refine (Tracks.note _ _).bind fun _ => (Tracks.lift (tallies_self (fun _ => rfl) _)).bind ?_
      exact fun amount => what.run_tracks t timer (fun _ => rfl) amount
  | .gesture what line => by
      rw [Command.essential, Command.run]
      exact (Tracks.note _ _).bind fun _ => what.run_tracks t (fun _ => rfl) line line
  | .loop times body line => by
      rw [Command.essential, Command.run, Command.run]
      refine (Tracks.note _ _).bind fun _ => (Tracks.lift (tallies_self (fun _ => rfl) _)).bind ?_
      exact fun limit => Tracks.repeatBelow (fun _ => rfl) limit (runAll_essentials body) fuel 0.0
  | .comment text line => by
      rw [Command.essential, Command.run]
      exact .note _ _
  | .unknown line => by
      rw [Command.essential, Command.run]
      exact (Tracks.note _ _).bind fun _ => .fail rfl
  | .stray typeName rendering => by
      rw [Command.essential, Command.run]
      exact .fail rfl

/-- Commands and the essential ones among them do the same deeds with the same result. -/
theorem runAll_essentials : ∀ cs : List Command,
    Tracks Eq (runAll t.screened.observed timer env fuel cs)
      (runAll t.screened.observed timer env fuel (essentials cs))
  | [] => by
      rw [essentials, runAll]
      exact .pure ()
  | c :: cs => by
      rw [runAll]
      cases hc : c.isInert with
      | true =>
          rw [essentials_cons_of_inert hc]
          refine .leave_out ?_ (runAll_essentials cs)
          exact Tracks.mapFailure (congrArg (Failure.at? · c.line)) (c.run_of_inert t timer env fuel hc)
      | false =>
          rw [essentials_cons_of_not_inert hc, runAll, c.line_essential]
          refine Tracks.bind ?_ fun _ => runAll_essentials cs
          exact Tracks.mapFailure (congrArg (Failure.at? · c.line)) (Command.run_essential c)
end

end Runs

/-- Comments and STOPs make no difference at any depth.  With variables that can be used, a program
and the one without its inert commands, on whatever turtle, do the same deeds with the same
outcomes and leave the turtle in the same scene, and either both succeed or both fail by the same
failure on the same line; and the one has no inert command left. -/
theorem inert_commands_erasable {vars : List (String × Given)} {env : Environment}
    (wraps : Environment.ofGiven vars = .ok env) (p : Program) :
    (∀ c, Occurs c (essentials p) → c.isInert = false) ∧
    ∀ {σ : Type} (t : Turtle σ) (timer : Timer) (fuel : Nat) (s : Scene σ),
      t.trial timer vars fuel (essentials p) s = t.trial timer vars fuel p s ∧
        t.left timer vars fuel (essentials p) s = t.left timer vars fuel p s := by
  refine ⟨fun c => not_inert_of_occurs p, fun t timer fuel s => ?_⟩
  have tracks := runAll_essentials t timer env fuel p
  rw [← Program.run_of_wrapped wraps, ← Program.run_of_wrapped wraps] at tracks
  obtain ⟨⟨a, b, ha, hb, deeds, -⟩, state, result⟩ := @tracks ⟨s, []⟩ ⟨s, []⟩ rfl
  rw [List.append_nil] at ha hb
  rw [← ha, ← hb] at deeds
  exact ⟨congrArg₂ Trial.mk result.eq deeds, state⟩

/-- Rounds of moves between STOPs and comments, and behind them a loop whose count is a string. -/
def remarked : Program :=
  [.comment "# go" (some 1),
    .loop (.ident "n") [.gesture .stop (some 3), .order .forward (.number 5.0) (some 4),
      .loop (.number 2.0) [.comment "rem" (some 6)] (some 5), .gesture .stop (some 7)] (some 2),
    .gesture .stop (some 9), .loop (.string "x") [.gesture .stop (some 11)] (some 10)]

/-- Twice the turtle is moved, and then the run fails in the last line. -/
theorem inert_commands_erasable_remarked :
    let vars := [("N", Given.quantity (.real 2.0))]
    let bare : Program :=
      [.loop (.ident "n") [.order .forward (.number 5.0) (some 4), .loop (.number 2.0) [] (some 5)]
        (some 2), .loop (.string "x") [] (some 10)]
    Environment.ofGiven vars = .ok [("n", .number (.real 2.0))] ∧ essentials remarked = bare ∧
      kinematic.trial .clock vars 3 bare ⟨Pose.home, []⟩ =
        kinematic.trial .clock vars 3 remarked ⟨Pose.home, []⟩ ∧
      (kinematic.trial .clock vars 3 remarked ⟨Pose.home, []⟩).asked.length = 2 ∧
      (kinematic.trial .clock vars 3 remarked ⟨Pose.home, []⟩).result =
        .error (.error ⟨.notANumber "REPEAT count" .string, some 10⟩) := by
  intro vars bare
  have wraps : Environment.ofGiven vars = .ok [("n", .number (.real 2.0))] := rfl
  have erased := ((inert_commands_erasable wraps remarked).2 kinematic .clock 3 ⟨Pose.home, []⟩).1
  exact ⟨wraps, rfl, erased, by decide +kernel, by rfl⟩

end TurtleLogo
