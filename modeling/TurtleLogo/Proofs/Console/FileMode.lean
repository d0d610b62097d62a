/-
# `TurtleLogo.Proofs.Console.FileMode` — how a session with a file ends

A file goes through several hands before its program is run: the path is looked at,
the bytes are read and decoded, the text is parsed, the variables are wrapped.

    Spells path content source   the file can be read, and its text is the source
    FileRun job path content s   how what becomes of the file leads to a status, which is
                                 zero if the program ran and one if there is an error to
                                 report, or else to a failure that nobody reports

The turtle is closed afterwards, whatever became of the file; to see that it is closed
once and not before, its operations are written down (`Turtle.logged`).
-/
import TurtleLogo.Console.Session
import TurtleLogo.Proofs.Console.Definitions
import TurtleLogo.Proofs.Program.Safety
import TurtleLogo.Proofs.Robot.Shutdown

namespace TurtleLogo

variable {σ α : Type} {I : σ → Prop}

/-! ## Operations written down

To see how often a turtle is closed, and when, it is replaced by one that writes
down what is asked of it next to its own state, and does the same otherwise. -/

/-- An action that is written down as an operation, the latest first. -/
def Action.logged (op : Robot.Operation) (x : Action σ α) : Action (σ × List Robot.Operation) α :=
  fun s =>
    match x ⟨s.state.1, s.journal⟩ with
    | (r, s') => (r, ⟨(s'.state, op :: s.state.2), s'.journal⟩)

/-- The turtle that acts as another does, and writes down what is asked of it. -/
def Turtle.logged (t : Turtle σ) : Turtle (σ × List Robot.Operation) where
  move steps := (t.move steps).logged (.call (.move steps))
  rotate degrees := (t.rotate degrees).logged (.call (.rotate degrees))
  penUp up := (t.penUp up).logged (.call (.penUp up))
  pose s := t.pose s.1
  close := t.close.logged .close

/-- A turtle in a state in `I` that has not been closed. -/
def Unclosed (I : σ → Prop) (s : σ × List Robot.Operation) : Prop :=
  I s.1 ∧ ∃ calls : List Call, s.2 = calls.map .call

theorem Action.Safe.logged {F : Failure → Prop} {x : Action σ α} (h : x.Safe I F) (c : Call) :
    (x.logged (.call c)).Safe (Unclosed I) F := by
  rintro ⟨⟨state, log⟩, j⟩ ⟨start, calls, hlog⟩
  obtain ⟨stays, fails⟩ := h ⟨state, j⟩ start
  exact ⟨⟨stays, c :: calls, congrArg (_ :: ·) hlog⟩, fails⟩

theorem Turtle.Orderly.logged {t : Turtle σ} (h : t.Orderly I) : t.logged.Orderly (Unclosed I) where
  move x := (h.move x).logged _
  rotate x := (h.rotate x).logged _
  penUp up := (h.penUp up).logged _

namespace Console

open Text

/-! ## What becomes of a file

All the ways in which a file can be dealt with before the turtle is closed.  In
each of those that lead to a status other than zero, the last thing written is a
line about an error. -/

/-- `Spells path content source`: the file at a path that has some content can be read, and the text
of its program is `source`. -/
structure Spells (path : String) (content : Except File.Fault (List UInt8)) (source : String) :
    Prop where
  path : path.toList.contains (Char.ofNat 0) = false
  content : ∃ bytes text, content = .ok bytes ∧ decodeUtf8 bytes = .ok text ∧
    source = String.ofList (unifyNewlines text.toList)

def reported (e : LogoError) (s : Scene σ) : Scene σ :=
  (s.write (.noted (.programFailed e))).write (.wrote (fileReport e))

def unreadableLine (path reason : String) : String :=
  "ERROR: cannot read " ++ path ++ ": " ++ reason ++ "\n"

/-- `FileRun job path content s reply s'`: what becomes of a file, from the scene `s` to the scene
`s'`, before the turtle is closed. -/
inductive FileRun (job : Job σ) (path : String) (content : Except File.Fault (List UInt8))
    (s : Scene σ) : Reply Nat → Scene σ → Prop where
  /-- the program is run to its end -/
  | ran {source : String} {p : Program} {s' : Scene σ} : Spells path content source →
      Program.parse (completed source) = .ok p →
      p.run job.turtle .clock job.vars job.fuel (s.write (.noted (.parsed p.length))) =
        (.ok (), s') →
      FileRun job path content s (.ok 0) s'
  /-- the text is no program -/
  | unparsed {source : String} {e : LogoError} : Spells path content source →
      Program.parse (completed source) = .error (.error e) →
      FileRun job path content s (.ok 1) (reported e s)
  /-- the program fails -/
  | failed {source : String} {p : Program} {e : LogoError} {s' : Scene σ} :
      Spells path content source → Program.parse (completed source) = .ok p →
      p.run job.turtle .clock job.vars job.fuel (s.write (.noted (.parsed p.length))) =
        (.error (.error e), s') →
      FileRun job path content s (.ok 1) (reported e s')
  /-- the operating system does not hand out the file -/
  | unread {fault : File.Fault} : path.toList.contains (Char.ofNat 0) = false →
      content = .error fault →
      FileRun job path content s (.ok 1)
        ((s.write (.noted (.unreadable path (fault.reason path)))).write
          (.wrote (unreadableLine path (fault.reason path))))
  /-- the path is none; nobody reports this -/
  | noPath : path.toList.contains (Char.ofNat 0) = true →
      FileRun job path content s (.error (.defect .zeroInPath)) s
  /-- the bytes are no text; nobody reports this -/
  | notText {bytes : List UInt8} {e : Utf8Error} : path.toList.contains (Char.ofNat 0) = false →
      content = .ok bytes → decodeUtf8 bytes = .error e →
      FileRun job path content s (.error (.defect (.notText e))) s
  /-- the program is cut off by its own numbers; nobody reports this -/
  | cutOff {source : String} {p : Program} {env : Environment} {f : Failure} {s' : Scene σ} :
      Spells path content source → Program.parse (completed source) = .ok p →
      Environment.ofGiven job.vars = .ok env → Cutoff .clock env job.fuel p f →
      p.run job.turtle .clock job.vars job.fuel (s.write (.noted (.parsed p.length))) =
        (.error f, s') →
      FileRun job path content s (.error f) s'

section Runs

variable {job : Job σ} {path source : String} {content : Except File.Fault (List UInt8)}
  {s s' : Scene σ} {p : Program}

theorem runFile_of_spells (h : Spells path content source) :
    runFile job path content = runText job source := by
  obtain ⟨hpath, bytes, text, rfl, htext, rfl⟩ := h
  simp only [runFile, hpath, Bool.false_eq_true, if_false, runBytes, htext]

theorem runText_of_ok (h : Program.parse (completed source) = .ok p)
    (hrun : p.run job.turtle .clock job.vars job.fuel (s.write (.noted (.parsed p.length))) =
      (.ok (), s')) : runText job source s = (.ok 0, s') :=
  Action.bind_of_ok (processRequest_of_ok h hrun) _

theorem runText_of_status {e : LogoError} {pose : Pose}
    (h : processRequest job.turtle .clock job.vars job.fuel source s =
      (.ok (.error e pose), s'.write (.noted (.programFailed e)))) :
    runText job source s = (.ok 1, reported e s') :=
  Action.bind_of_ok h _

variable (job path content s) in
/-- Whatever the file, what becomes of it is one of these things. -/
theorem runFile_runs (usual : ∀ v ∈ job.vars, v.2.IsUsual) (orderly : job.turtle.Orderly I)
    (start : I s.state) :
    FileRun job path content s (runFile job path content s).1 (runFile job path content s).2 ∧
      I (runFile job path content s).2.state := by
  cases hpath : path.toList.contains (Char.ofNat 0) with
  | true =>
      simp only [runFile, hpath, if_true]
      exact ⟨.noPath hpath, start⟩
  | false =>
      cases content with
      | error fault =>
          simp only [runFile, hpath, Bool.false_eq_true, if_false]
          exact ⟨.unread hpath rfl, start⟩
      | ok bytes =>
          cases htext : decodeUtf8 bytes with
          | error e =>
              simp only [runFile, hpath, Bool.false_eq_true, if_false, runBytes, htext]
              exact ⟨.notText hpath rfl htext, start⟩
          | ok text =>
              let source := String.ofList (unifyNewlines text.toList)
              have spells : Spells path (.ok bytes) source := ⟨hpath, bytes, text, rfl, htext, rfl⟩
              rw [runFile_of_spells spells]
              rcases Program.parse_settles (completed source) with ⟨p, hp, grammatical⟩ | ⟨e, he⟩
              · have safe := (Program.run_safe orderly usual grammatical :
                  (Program.run job.turtle .clock job.vars job.fuel p).Safe I _)
                    (s.write (.noted (.parsed p.length))) start
                rcases hrun : Program.run job.turtle .clock job.vars job.fuel p
                  (s.write (.noted (.parsed p.length))) with ⟨f | _, s'⟩
                · rw [hrun] at safe
                  obtain ⟨stays, fails⟩ := safe
                  rcases fails f rfl with ⟨e, rfl⟩ | ⟨env, henv, cut⟩
                  · rw [runText_of_status (processRequest_of_error hp hrun)]
                    exact ⟨.failed spells hp hrun, stays⟩
                  · have run : runText job source s = (.error f, s') :=
                      Action.bind_of_error (processRequest_of_cutoff hp hrun cut) _
                    rw [run]
                    exact ⟨.cutOff spells hp henv cut hrun, stays⟩
                · rw [hrun] at safe
                  rw [runText_of_ok hp hrun]
                  exact ⟨.ran spells hp hrun, safe.1⟩
              · rw [runText_of_status (processRequest_of_unparsed he)]
                exact ⟨.unparsed spells he, start⟩

theorem fileReport_eq (e : LogoError) : ∃ text, fileReport e = "ERROR: " ++ text ++ "\n" := by
  rw [fileReport]
  cases e.line with
  | some line =>
      refine ⟨"line " ++ Decimal.intText line ++ ": " ++ e.message, ?_⟩
      simp only [String.append_assoc]
  | none =>
      refine ⟨e.message, ?_⟩
      simp only [String.append_empty]

theorem unreadableLine_eq (path reason : String) : unreadableLine path reason =
    "ERROR: " ++ ("cannot read " ++ path ++ ": " ++ reason) ++ "\n" := by
  have opening : "ERROR: cannot read " = "ERROR: " ++ "cannot read " := by decide +kernel
  unfold unreadableLine
  rw [opening]
  simp only [-String.reduceAppend, String.append_assoc]

/-- A status other than zero is one, and the last thing written is a line about an error. -/
theorem FileRun.reports {status : Nat} (h : FileRun job path content s (.ok status) s')
    (hstatus : status ≠ 0) :
    status = 1 ∧ ∃ text rest, s'.journal = .wrote ("ERROR: " ++ text ++ "\n") :: rest := by
  cases h with
  | ran _ _ _ => exact absurd rfl hstatus
  | @unparsed _ e _ _ =>
      obtain ⟨text, htext⟩ := fileReport_eq e
      exact ⟨rfl, text, _, by rw [← htext]; rfl⟩
  | @failed _ _ e _ _ _ _ =>
      obtain ⟨text, htext⟩ := fileReport_eq e
      exact ⟨rfl, text, _, by rw [← htext]; rfl⟩
  | @unread fault _ _ =>
      exact ⟨rfl, _, _, by rw [← unreadableLine_eq path (fault.reason path)]; rfl⟩

end Runs

/-! ## Definitions

What comes from a command line is a number or a text, and neither can make a run
fail in a way that is not told. -/

theorem definitionValue_usual (cs : List Char) : (definitionValue cs).IsUsual := by
  rw [definitionValue]
  cases Decimal.readReal? cs with
  | some x => exact ⟨x, rfl⟩
  | none => exact trivial

theorem addDefinitions_usual : ∀ {items : List Given} {defined vars : Bindings Given},
    (∀ v ∈ defined, v.2.IsUsual) → addDefinitions defined items = .ok vars →
      ∀ v ∈ vars, v.2.IsUsual
  | [], defined, vars, usual, h => by
      cases h
      exact usual
  | item :: items, defined, vars, usual, h => by
      cases item with
      | text text =>
          rw [addDefinitions] at h
          cases hread : readDefinition text with
          | error e =>
              rw [hread] at h
              cases h
          | ok p =>
              rw [hread] at h
              obtain ⟨d, -, rfl⟩ := readDefinition_eq_ok hread
              refine addDefinitions_usual (fun v hv => ?_) h
              rcases Bindings.mem_bind hv with rfl | hv
              · exact definitionValue_usual d.text
              · exact usual v hv
      | _ => cases h

/-! ## Sessions

Closing adds one operation at the end, and its failure changes neither the status
nor what was written. -/

section Sessions

variable {t : Turtle σ} {s : Scene σ}

theorem closeTurtle_eq_ok (fails : ∀ f, (t.close s).1 = .error f → f.IsReported) :
    (closeTurtle t s).1 = .ok () := by
  rcases hclose : t.close s with ⟨f | _, s'⟩
  · rw [hclose] at fails
    obtain ⟨e, rfl⟩ := fails f rfl
    simp only [closeTurtle, Action.recover, hclose]
    rfl
  · simp only [closeTurtle, Action.recover, hclose]

theorem closeTurtle_logged (s : Scene (σ × List Robot.Operation)) :
    (closeTurtle t.logged s).2.state.2 = .close :: s.state.2 := by
  rcases hclose : t.close ⟨s.state.1, s.journal⟩ with ⟨(e | d | _) | _, s'⟩
  · simp only [closeTurtle, Turtle.logged, Action.recover, Action.logged, hclose]
    rfl
  all_goals simp only [closeTurtle, Turtle.logged, Action.recover, Action.logged, hclose]

variable {desk : Desk} {o : Options} {path : String} {job : Job σ}

/-- With a file, a session deals with it and then closes the turtle, which does not change the
status. -/
theorem session_eq (file : o.program? = some path) (closes : (closeTurtle job.turtle
      (runFile job path (desk.read s.journal.events path) s).2).1 = .ok ()) :
    session desk o job s = ((runFile job path (desk.read s.journal.events path) s).1,
      (closeTurtle job.turtle (runFile job path (desk.read s.journal.events path) s).2).2) := by
  simp only [session, file, Action.ensuring]
  rcases hclose : closeTurtle job.turtle
    (runFile job path (desk.read s.journal.events path) s).2 with ⟨_ | _, s'⟩
  · rw [hclose] at closes
    cases closes
  · rfl

variable (desk o path job s) in
/-- How a session with a file ends.  Whatever the file, the definitions and the turtle, as long as the
turtle fails by errors that are told, the status is zero just when the file can be read and its text
is a program that runs without error.  A status other than zero is one, and then the last thing
written before the turtle is closed is a line about an error.  There is a status unless the path holds
a zero character, the bytes are no text, or the program is cut off by its own numbers (`FileRun`).
The turtle is closed once, after all calls of the program, and whether it can be closed does not
change the status. -/
theorem file_session_ends (file : o.program? = some path)
    (defined : readDefinitions o.definitionItems = .ok job.vars) (orderly : job.turtle.Orderly I)
    (closes : job.turtle.close.Safe I Failure.IsReported) (start : I s.state) :
    let content := desk.read s.journal.events path
    ∃ reply before, FileRun job path content s reply before ∧
      session desk o job s = (reply, (closeTurtle job.turtle before).2) ∧
      (reply = .ok 0 ↔ ∃ source p s', Spells path content source ∧
        Program.parse (completed source) = .ok p ∧
        p.run job.turtle .clock job.vars job.fuel (s.write (.noted (.parsed p.length))) =
          (.ok (), s')) ∧
      (∀ status, reply = .ok status → status ≠ 0 →
        status = 1 ∧ ∃ text rest, before.journal = .wrote ("ERROR: " ++ text ++ "\n") :: rest) ∧
      ∃ calls : List Call,
        (session desk o ⟨job.turtle.logged, job.vars, job.fuel⟩
          ⟨(s.state, []), s.journal⟩).2.state.2 = .close :: calls.map .call := by
  intro content
  have usual := addDefinitions_usual (List.forall_mem_nil _) defined
  obtain ⟨runs, stays⟩ := runFile_runs job path content s usual orderly start
  have ends := session_eq file (closeTurtle_eq_ok (closes _ stays).2)
  refine ⟨_, _, runs, ends, ⟨fun zero => ?_, ?_⟩, ?_, ?_⟩
  · rw [zero] at runs
    cases runs with
    | ran spells hp hrun => exact ⟨_, _, _, spells, hp, hrun⟩
  · rintro ⟨source, p, s', spells, hp, hrun⟩
    rw [runFile_of_spells spells, runText_of_ok hp hrun]
  · intro status hreply hstatus
    rw [hreply] at runs
    exact runs.reports hstatus
  · let job' : Job (σ × List Robot.Operation) := ⟨job.turtle.logged, job.vars, job.fuel⟩
    let s' : Scene (σ × List Robot.Operation) := ⟨(s.state, []), s.journal⟩
    have unclosed : Unclosed I (runFile job' path content s').2.state :=
      (runFile_runs job' path content s' usual orderly.logged ⟨start, [], rfl⟩).2
    obtain ⟨inside, calls, hcalls⟩ := unclosed
    refine ⟨calls, ?_⟩
    rw [session_eq file (closeTurtle_eq_ok (closes ⟨_, _⟩ inside).2), closeTurtle_logged]
    exact congrArg (_ :: ·) hcalls

end Sessions

/-- A turtle that cannot be closed. -/
def stubborn : Turtle Pose :=
  { kinematic with close := Action.fail (Failure.of (.told .turtle "stuck")) }

def turnDesk : Desk where
  settings := Settings.ofSurroundings []
  read := fun _ _ => .ok [70, 68, 32, 110, 10, 82, 84, 32, 115]
  input := []
  host := ⟨fun _ => .writable, fun _ => none⟩

def turnOptions : Options :=
  ⟨false, some "turn.logo", [some "n=2", some "s=a"], none⟩

def turnVars : Bindings Given :=
  (readDefinitions turnOptions.definitionItems).toOption.getD []

/-- Turns by a string on a turtle that cannot be closed. -/
theorem file_session_ends_stubborn :
    readDefinitions turnOptions.definitionItems = .ok turnVars ∧
    ∃ (before : Scene Pose) (text : String) (rest : Journal) (calls : List Call),
      before.journal = .wrote ("ERROR: " ++ text ++ "\n") :: rest ∧
      session turnDesk turnOptions ⟨stubborn, turnVars, 0⟩ ⟨Pose.home, []⟩ =
        (.ok 1, (closeTurtle stubborn before).2) ∧
      (session turnDesk turnOptions ⟨stubborn.logged, turnVars, 0⟩
        ⟨(Pose.home, []), []⟩).2.state.2 = .close :: calls.map .call := by
  have defined : readDefinitions turnOptions.definitionItems = .ok turnVars := by
    have accepted : (readDefinitions turnOptions.definitionItems).isOk = true := by decide +kernel
    rw [turnVars]
    cases hvars : readDefinitions turnOptions.definitionItems with
    | ok vars => rfl
    | error e =>
        rw [hvars] at accepted
        exact nomatch accepted
  have orderly : stubborn.Orderly fun _ => True :=
    ⟨kinematic_orderly.move, kinematic_orderly.rotate, kinematic_orderly.penUp⟩
  have closes : stubborn.close.Safe (fun _ => True) Failure.IsReported :=
    .fail (Failure.isReported_of _)
  obtain ⟨reply, before, -, ends, -, reports, calls, hcalls⟩ :=
    file_session_ends ⟨Pose.home, []⟩ turnDesk turnOptions "turn.logo" ⟨stubborn, turnVars, 0⟩ rfl
      defined orderly closes trivial
  have one : (session turnDesk turnOptions ⟨stubborn, turnVars, 0⟩ ⟨Pose.home, []⟩).1.toOption =
      some 1 := by decide +kernel
  rw [ends] at one
  cases reply with
  | error f => exact nomatch one
  | ok status =>
      obtain rfl : status = 1 := Option.some.inj one
      obtain ⟨-, text, rest, written⟩ := reports 1 rfl (by decide)
      exact ⟨defined, before, text, rest, calls, written, ends, hcalls⟩

end Console

end TurtleLogo
