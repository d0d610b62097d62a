/-
# `TurtleLogo.Proofs.Console.Partition` — typed lines are cut into pieces, and none gets lost

At the prompt, lines are collected until their brackets close, and what has been
collected is then submitted.  Where the input is cut is a matter of the lines alone:
neither the turtle nor an error has a say in it.

    Collecting ls           the lines ls, and however many of them from the front, leave
                            brackets open
    IsPiece c               the lines c close their brackets, with the last of them only
    Partition ls cs rest    the lines ls are the pieces cs, and behind them a rest that is
                            still being collected
    Submitted job c s r s'  in the scene s, the piece c is run unless it is blank, and an
                            error is reported, in one line
    Session job cs rest s r s'
                            the pieces are submitted in turn, each in the scene that the one
                            before it has left, until a failure gets out of one of them

There is one partition of any lines (`Partition.unique`), and `pieces` finds it.  The
invariant of the loop is that what has been collected leaves brackets open, line by
line: the next line then either closes them, and there is a piece, or is collected too.
A failure that gets out is no error of the program: a turtle in order lets none out
unless a loop does not end or a pause is too long for the clock.
-/
import TurtleLogo.Proofs.Console.Prompt

namespace TurtleLogo.Console

open Text

variable {σ : Type} {I : σ → Prop}

/-! ## Cutting lines into pieces

A piece ends with the first line that closes all brackets.  No proper beginning of
a piece is a piece and none of a rest is one, which is why there is only one way
to cut. -/

/-- However many of the lines are taken from the front, some brackets are open. -/
def Collecting (lines : List String) : Prop :=
  ∀ front, front <+: lines → front ≠ [] → 0 < bracketDepth (typedText front)

/-- Lines that leave no brackets open, but do so wherever they are cut. -/
structure IsPiece (lines : List String) : Prop where
  ne_nil : lines ≠ []
  closed : bracketDepth (typedText lines) ≤ 0
  before : ∀ front, front <+: lines → front ≠ [] → front ≠ lines →
    0 < bracketDepth (typedText front)

/-- `Partition lines pieces rest`: the lines are the pieces, in order, and behind them a rest that is
still being collected. -/
structure Partition (lines : List String) (pieces : List (List String)) (rest : List String) : Prop where
  whole : pieces.flatten ++ rest = lines
  each : ∀ c ∈ pieces, IsPiece c
  collecting : Collecting rest

/-- The pieces and the rest of some lines, if others have been collected before them. -/
def pieces : List String → List String → List (List String) × List String
  | collected, [] => ([], collected)
  | collected, line :: lines =>
    let source := collected ++ [line]
    if 0 < bracketDepth (typedText source) then pieces source lines
    else (source :: (pieces [] lines).1, (pieces [] lines).2)

theorem collecting_nil : Collecting [] :=
  fun _ h hne => absurd (List.prefix_nil.mp h) hne

theorem Collecting.snoc {lines : List String} {line : String} (h : Collecting lines)
    (more : 0 < bracketDepth (typedText (lines ++ [line]))) : Collecting (lines ++ [line]) := by
  intro front hfront hne
  rcases List.prefix_concat_iff.mp hfront with rfl | hfront
  · exact more
  · exact h front hfront hne

/-- Else it completes a piece. -/
theorem Collecting.isPiece {lines : List String} {line : String} (h : Collecting lines)
    (closed : ¬ 0 < bracketDepth (typedText (lines ++ [line]))) : IsPiece (lines ++ [line]) where
  ne_nil := List.concat_ne_nil line lines
  closed := Int.not_lt.mp closed
  before front hfront hne hproper :=
    h front ((List.prefix_concat_iff.mp hfront).resolve_left hproper) hne

theorem pieces_partition (lines : List String) : ∀ {collected : List String}, Collecting collected →
    Partition (collected ++ lines) (pieces collected lines).1 (pieces collected lines).2 := by
  induction lines with
  | nil =>
      intro collected h
      exact ⟨(List.append_nil _).symm, nofun, h⟩
  | cons line lines ih =>
      intro collected h
      rw [← List.singleton_append, ← List.append_assoc, List.singleton_append, pieces]
      split
      · next more => exact ih (h.snoc more)
      · next closed =>
          obtain ⟨whole, each, collecting⟩ := ih collecting_nil
          refine ⟨?_, ?_, collecting⟩
          · rw [List.flatten_cons, List.append_assoc, whole, List.nil_append]
          · exact List.forall_mem_cons.mpr ⟨h.isPiece closed, each⟩

theorem IsPiece.eq_of_prefix {c d : List String} (hc : IsPiece c) (hd : IsPiece d) (h : c <+: d) :
    c = d := by
  by_contra hne
  exact absurd (hd.before c h hc.ne_nil hne) (Int.not_lt.mpr hc.closed)

/-- Nor does what is not closed. -/
theorem Collecting.not_piece {lines c : List String} (h : Collecting lines) (hc : IsPiece c) :
    ¬ c <+: lines :=
  fun hfront => absurd (h c hfront hc.ne_nil) (Int.not_lt.mpr hc.closed)

theorem Partition.uncons {lines c rest : List String} {cs : List (List String)}
    (h : Partition lines (c :: cs) rest) :
    IsPiece c ∧ ∃ behind, lines = c ++ behind ∧ Partition behind cs rest := by
  obtain ⟨hc, hcs⟩ := List.forall_mem_cons.mp h.each
  refine ⟨hc, cs.flatten ++ rest, ?_, rfl, hcs, h.collecting⟩
  rw [← h.whole, List.flatten_cons, List.append_assoc]

theorem Partition.unique {lines rest rest' : List String} {cs cs' : List (List String)}
    (h : Partition lines cs rest) (h' : Partition lines cs' rest') : cs' = cs ∧ rest' = rest := by
  induction cs generalizing lines cs' with
  | nil =>
      obtain rfl : rest = lines := h.whole
      cases cs' with
      | nil => exact ⟨rfl, h'.whole⟩
      | cons c cs' =>
          obtain ⟨hc, behind, rfl, -⟩ := h'.uncons
          exact absurd (List.prefix_append c behind) (h.collecting.not_piece hc)
  | cons c cs ih =>
      obtain ⟨hc, behind, rfl, later⟩ := h.uncons
      cases cs' with
      | nil =>
          obtain rfl : rest' = c ++ behind := h'.whole
          exact absurd (List.prefix_append c behind) (h'.collecting.not_piece hc)
      | cons c' cs' =>
          obtain ⟨hc', behind', split, later'⟩ := h'.uncons
          -- of two pieces at the front, the shorter one begins the longer one
          obtain rfl : c = c' := by
            rcases List.prefix_or_prefix_of_prefix (List.prefix_append c behind) ⟨behind', split.symm⟩
              with hle | hle
            · exact hc.eq_of_prefix hc' hle
            · exact (hc'.eq_of_prefix hc hle).symm
          obtain rfl : behind = behind' := (List.append_right_inj c).mp split
          obtain ⟨rfl, rfl⟩ := ih later later'
          exact ⟨rfl, rfl⟩

/-! ## Submitting pieces

The loop at the prompt collects lines and submits them; a session goes from piece
to piece.  The induction is on the lines, with what has been collected so far as a
parameter. -/

/-- The text of lines, as it is submitted. -/
def submission (lines : List String) : String :=
  String.ofList (typedText lines)

theorem submission_nil : submission [] = "" :=
  String.ofList_nil

theorem submission_toList (lines : List String) : (submission lines).toList = typedText lines :=
  String.toList_ofList

/-- `Submitted job c s r s'`: what becomes of the piece `c` in the scene `s`. -/
inductive Submitted (job : Job σ) (c : List String) (s : Scene σ) : Reply Unit → Scene σ → Prop
  /-- a blank piece is skipped -/
  | blank : (trim (typedText c)).isEmpty = true → Submitted job c s (.ok ()) s
  /-- it runs without error -/
  | success {n : Nat} {pose : Pose} {s' : Scene σ} : (trim (typedText c)).isEmpty = false →
      processRequest job.turtle .clock job.vars job.fuel (submission c) s =
        (.ok (.success n pose), s') →
      Submitted job c s (.ok ()) s'
  /-- its error is reported, in one line -/
  | reported {e : LogoError} {pose : Pose} {s' : Scene σ} : (trim (typedText c)).isEmpty = false →
      processRequest job.turtle .clock job.vars job.fuel (submission c) s =
        (.ok (.error e pose), s') →
      Submitted job c s (.ok ()) (s'.write (.wrote ("ERROR: " ++ e.message ++ "\n")))
  /-- its failure gets out -/
  | escaped {f : Failure} {s' : Scene σ} : (trim (typedText c)).isEmpty = false →
      processRequest job.turtle .clock job.vars job.fuel (submission c) s = (.error f, s') →
      Submitted job c s (.error f) s'

theorem submit_submitted (job : Job σ) (c : List String) (s : Scene σ) :
    Submitted job c s (submit job (submission c) s).1 (submit job (submission c) s).2 := by
  rw [submit, submission_toList]
  split
  · next blank => exact .blank blank
  · next hblank =>
      have written := Bool.eq_false_of_not_eq_true hblank
      rcases hr : processRequest job.turtle .clock job.vars job.fuel (submission c) s with
        ⟨f | status, s'⟩
      · rw [Action.bind_of_error hr]
        exact .escaped written hr
      · rw [Action.bind_of_ok hr]
        cases status with
        | success n pose => exact .success written hr
        | error e pose => exact .reported written hr

/-- The scene after a number of prompts for the lines of one piece. -/
def prompted (s : Scene σ) : Nat → Scene σ
  | 0 => s
  | n + 1 => (prompted s n).write (.prompted (if n = 0 then "> " else ". "))

theorem prompted_state (s : Scene σ) (n : Nat) : (prompted s n).state = s.state := by
  induction n with
  | zero => rfl
  | succ n ih => exact ih

/-- `Session job cs rest s r s'`: from the scene `s`, the pieces `cs` are submitted in turn, up to
the first one of which a failure gets out.  If there is none, the rest is collected and dropped. -/
inductive Session (job : Job σ) : List (List String) → List String → Scene σ → Reply Unit →
    Scene σ → Prop
  | ended {rest : List String} {s : Scene σ} :
      Session job [] rest s (.ok ()) (prompted s (rest.length + 1))
  | next {c rest : List String} {cs : List (List String)} {s s₁ s' : Scene σ} {r : Reply Unit} :
      Submitted job c (prompted s c.length) (.ok ()) s₁ → Session job cs rest s₁ r s' →
      Session job (c :: cs) rest s r s'
  | stopped {c rest : List String} {cs : List (List String)} {s s' : Scene σ} {f : Failure} :
      Submitted job c (prompted s c.length) (.error f) s' →
      Session job (c :: cs) rest s (.error f) s'

theorem typedText_snoc (lines : List String) (line : String) :
    typedText (lines ++ [line]) = typedText lines ++ line.toList ++ ['\n'] := by
  simp [typedText]

theorem submission_snoc (lines : List String) (line : String) :
    submission lines ++ line ++ "\n" = submission (lines ++ [line]) := by
  refine String.toList_injective ?_
  simp [submission, typedText_snoc]

/-- The prompt tells whether lines have been collected. -/
theorem promptFor_submission (lines : List String) :
    promptFor (submission lines) = if lines.length = 0 then "> " else ". " := by
  cases lines with
  | nil => rfl
  | cons line lines =>
      have filled : (submission (line :: lines)).isEmpty = false := by
        refine Bool.eq_false_iff.mpr fun empty => ?_
        have nothing := congrArg String.toList (String.isEmpty_iff.mp empty)
        rw [submission_toList, typedText, List.flatMap_cons, List.append_assoc] at nothing
        exact absurd (List.append_eq_nil_iff.mp nothing).2 (List.cons_ne_nil _ _)
      rw [promptFor, filled]
      rfl

/-- What has been collected has been asked for line by line. -/
theorem runPrompt_session (job : Job σ) (lines : List String) :
    ∀ (collected : List String) (s : Scene σ),
      let run := runPrompt job (submission collected) lines (prompted s collected.length)
      Session job (pieces collected lines).1 (pieces collected lines).2 s run.1 run.2 := by
  induction lines with
  | nil =>
      intro collected s run
      have ran : run = (.ok (), prompted s (collected.length + 1)) := by
        show (Except.ok (), (prompted s collected.length).write _) = _
        rw [promptFor_submission]
        rfl
      rw [ran]
      exact .ended
  | cons line lines ih =>
      intro collected s run
      have size : (collected ++ [line]).length = collected.length + 1 := List.length_append
      have asked : run = (takeLine job (submission collected) line >>= fun buffer =>
          runPrompt job buffer lines) (prompted s (collected ++ [line]).length) := by
        rw [size, prompted, ← promptFor_submission]
        exact Action.bind_of_ok rfl _
      rw [takeLine, submission_snoc, submission_toList] at asked
      rw [pieces]
      by_cases more : 0 < bracketDepth (typedText (collected ++ [line]))
      · rw [if_pos more, pure_bind] at asked
        rw [if_pos more, asked]
        exact ih (collected ++ [line]) s
      · rw [if_neg more] at asked
        rw [if_neg more]
        have piece := submit_submitted job (collected ++ [line])
          (prompted s (collected ++ [line]).length)
        rcases hr : submit job (submission (collected ++ [line]))
          (prompted s (collected ++ [line]).length) with ⟨f | _, s₁⟩
        all_goals rw [hr] at piece
        · rw [bind_assoc, Action.bind_of_error hr] at asked
          rw [asked]
          exact .stopped piece
        · rw [bind_assoc, Action.bind_of_ok hr, pure_bind] at asked
          rw [asked]
          have later := ih [] s₁
          rw [submission_nil] at later
          exact .next piece later

/-! ## Failures that get out

An error of the program is reported at the prompt and goes no further.  With a
turtle in order and usual variables, what is left is a run that its own numbers
cut off. -/

/-- `CutOff job c f`: the program in the lines `c` is cut off by `f`: a loop does not end, or a pause
is too long for the clock. -/
def CutOff (job : Job σ) (c : List String) (f : Failure) : Prop :=
  ∃ p env, Program.parse (completed (submission c)) = .ok p ∧
    Environment.ofGiven job.vars = .ok env ∧ Cutoff .clock env job.fuel p f

section Failures

variable {job : Job σ} {c rest : List String} {cs : List (List String)} {s s' : Scene σ}
  {r : Reply Unit}

theorem Submitted.safe (h : Submitted job c s r s') (orderly : job.turtle.Orderly I)
    (usual : ∀ v ∈ job.vars, v.2.IsUsual) (start : I s.state) :
    I s'.state ∧ ∀ f, r = .error f → CutOff job c f := by
  have safe := processRequest_safe .clock job.fuel (submission c) orderly usual s start
  cases h with
  | blank _ => exact ⟨start, ok_fails_in⟩
  | success _ run =>
      rw [run] at safe
      exact ⟨safe.1, ok_fails_in⟩
  | reported _ run =>
      rw [run] at safe
      exact ⟨safe.1, ok_fails_in⟩
  | escaped _ run =>
      rw [run] at safe
      exact ⟨safe.1, fun f hf => safe.2 f (congrArg _ (Except.error.inj hf))⟩

/-- A failure gets out of a session only if a piece is cut off. -/
theorem Session.cut_off (h : Session job cs rest s r s') (orderly : job.turtle.Orderly I)
    (usual : ∀ v ∈ job.vars, v.2.IsUsual) (start : I s.state) :
    ∀ f, r = .error f → ∃ c ∈ cs, CutOff job c f := by
  induction h with
  | ended => exact ok_fails_in
  | @next c _ _ s _ _ _ served _ ih =>
      have before : I (prompted s c.length).state := by rwa [prompted_state]
      intro f hf
      obtain ⟨d, hd, cut⟩ := ih (served.safe orderly usual before).1 f hf
      exact ⟨d, List.mem_cons_of_mem c hd, cut⟩
  | @stopped c _ _ s _ _ served =>
      have before : I (prompted s c.length).state := by rwa [prompted_state]
      intro f hf
      exact ⟨c, List.mem_cons_self, (served.safe orderly usual before).2 f hf⟩

end Failures

/-- Typed lines are partitioned, and none gets lost.  Whatever is typed, there is one and only one way
to cut it into pieces and a rest that leaves brackets open, and it hangs on nothing but the lines.
Whatever the turtle and the variables, the pieces are then submitted in turn, once each and each in
the scene that the one before it has left; blank ones are skipped, an error is reported in one line,
and the rest is never submitted.  Only a failure that is no error ends this early, and if the turtle
is in order and the variables are usual, then a loop of some piece does not end or a pause in it is
too long for the clock. -/
theorem input_is_partitioned (lines : List String) :
    ∃ cs rest, Partition lines cs rest ∧
      (∀ cs' rest', Partition lines cs' rest' → cs' = cs ∧ rest' = rest) ∧
      ∀ (job : Job σ) (s : Scene σ),
        let run := runPrompt job "" lines s
        Session job cs rest s run.1 run.2 ∧
          ∀ I, job.turtle.Orderly I → (∀ v ∈ job.vars, v.2.IsUsual) → I s.state →
            ∀ f, run.1 = .error f → ∃ c ∈ cs, CutOff job c f := by
  have cut : Partition lines (pieces [] lines).1 (pieces [] lines).2 :=
    pieces_partition lines collecting_nil
  refine ⟨_, _, cut, fun _ _ => cut.unique, ?_⟩
  intro job s run
  have session := runPrompt_session job lines [] s
  rw [submission_nil] at session
  exact ⟨session, fun I orderly usual start => session.cut_off orderly usual start⟩

/-- A loop over three lines, a blank line, a mistake, a pause beyond the clock, and a loop that is not
closed. -/
def brokenOffInput : List String :=
  ["REPEAT 2 [", "FD 1", "]", "", "FD", "SLEEP 1000000000000000000000000000000", "REPEAT 3 ["]

def brokenOffRun : Reply Unit × Scene Pose :=
  runPrompt ⟨kinematic, [], 3⟩ "" brokenOffInput ⟨Pose.home, []⟩

theorem input_is_partitioned_broken_off :
    let job : Job Pose := ⟨kinematic, [], 3⟩
    let cs := [["REPEAT 2 [", "FD 1", "]"], [""], ["FD"],
      ["SLEEP 1000000000000000000000000000000"]]
    kinematic.Orderly (fun _ => True) ∧
      Session job cs ["REPEAT 3 ["] ⟨Pose.home, []⟩ brokenOffRun.1 brokenOffRun.2 ∧
      ∃ f, brokenOffRun.1 = .error f ∧ ∃ c ∈ cs, CutOff job c f := by
  intro job cs
  have found : pieces [] brokenOffInput = (cs, ["REPEAT 3 ["]) := by decide +kernel
  have cut : Partition brokenOffInput cs ["REPEAT 3 ["] := by
    have cut' := pieces_partition brokenOffInput collecting_nil
    rwa [found] at cut'
  have stops : brokenOffRun.1.isOk = false := by decide +kernel
  obtain ⟨cs', rest', -, unique, served⟩ := input_is_partitioned (σ := Pose) brokenOffInput
  obtain ⟨rfl, rfl⟩ := unique _ _ cut
  obtain ⟨session, cutOff⟩ := served job ⟨Pose.home, []⟩
  refine ⟨kinematic_orderly, session, ?_⟩
  cases hrun : brokenOffRun.1 with
  | ok _ =>
      rw [hrun] at stops
      cases stops
  | error f => exact ⟨f, rfl, cutOff (fun _ => True) kinematic_orderly nofun trivial f hrun⟩

end TurtleLogo.Console
