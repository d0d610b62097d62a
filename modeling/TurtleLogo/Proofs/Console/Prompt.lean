/-
# `TurtleLogo.Proofs.Console.Prompt` — typing a program is the same as running its file

A program that runs without error is typed at the prompt line by line.  As long
as the prompt sees the brackets that the parser sees, every piece that it submits
is a whole number of commands, and the pieces together do what the program does:
the same deeds in the same order, on a turtle that ends in the same state, and
nothing is written to the output.

Between two lines the prompt has collected either nothing, or a text that ends in
a line feed and leaves brackets open (`Pending`).  What it has collected and what
is still to be typed are together the text of a program, and that is the
invariant of the induction on the lines.
-/
import Mathlib.Data.List.TakeWhile
import TurtleLogo.Console.Session
import TurtleLogo.Proofs.Console.Brackets
import TurtleLogo.Proofs.Grammar.Sentence
import TurtleLogo.Proofs.Program.Echo
import TurtleLogo.Proofs.Program.Safety

namespace TurtleLogo.Console

open Grammar Text

variable {σ : Type}

/-! ## Blank texts

Text that is nothing but blanks to the prompt holds no token that counts, so it is
the empty program, and not to submit it is the same as to run it. -/

theorem isBlank_of_trim {cs : List Char} (h : (trim cs).isEmpty = true) {c : Char} (hc : c ∈ cs) :
    isBlank c = true := by
  have nothing : (cs.dropWhile isBlank).reverse.dropWhile isBlank = [] :=
    List.reverse_eq_nil_iff.mp (List.isEmpty_iff.mp h)
  have all : ∀ d ∈ cs.dropWhile isBlank, isBlank d = true :=
    fun d hd => List.dropWhile_eq_nil_iff.mp nothing d (List.mem_reverse.mpr hd)
  rw [← List.takeWhile_append_dropWhile (p := isBlank) (l := cs)] at hc
  rcases List.mem_append.mp hc with hc | hc
  · exact List.mem_takeWhile_imp hc
  · exact all c hc

theorem isBlank_apart {c : Char} (h : isBlank c = true) : startsName c = false ∧ c ≠ '#' := by
  have table : ∀ n ∈ [9, 10, 11, 12, 13, 28, 29, 30, 31, 32, 0x85, 0xa0, 0x1680, 0x2000, 0x2001,
      0x2002, 0x2003, 0x2004, 0x2005, 0x2006, 0x2007, 0x2008, 0x2009, 0x200a, 0x2028, 0x2029,
      0x202f, 0x205f, 0x3000], startsName (Char.ofNat n) = false ∧ Char.ofNat n ≠ '#' := by
    decide +kernel
  rw [← Char.ofNat_toNat c]
  refine table c.toNat ?_
  simp only [isBlank, Bool.or_eq_true, Bool.and_eq_true, decide_eq_true_eq, beq_iff_eq] at h
  simp only [List.mem_cons, List.not_mem_nil, or_false]
  omega

theorem exists_not_isBlank_of_worded {word l : List Char} (h : Worded word l) (hl : l ≠ []) :
    ∃ c ∈ l, isBlank c = false := by
  obtain ⟨c, hc⟩ := List.exists_mem_of_ne_nil l hl
  refine ⟨c, hc, Bool.eq_false_iff.mpr fun blank => ?_⟩
  have named := h.startsName hc
  rw [(isBlank_apart blank).1] at named
  exact nomatch named

theorem exists_not_isBlank : ∀ {t : Terminal} {l : List Char}, t.Lexeme l →
    t.startsCommand = true → ∃ c ∈ l, isBlank c = false
  | .keyword k, _, h, _ =>
      exists_not_isBlank_of_worded h (Terminal.Lexeme.ne_nil (t := .keyword k) h)
  | .comment, _, .mark _, _ => ⟨'#', List.mem_cons_self, rfl⟩
  | .comment, _, .word hw _ _, _ => by
      have hne := Terminal.Lexeme.ne_nil (t := .comment) (.word hw (stops_nil _) nofun)
      rw [List.append_nil] at hne
      obtain ⟨c, hc, hblank⟩ := exists_not_isBlank_of_worded hw hne
      exact ⟨c, List.mem_append_left _ hc, hblank⟩

theorem eq_nil_of_blank {cs : List Char} {p : Program} {us : List Token} (h : Read cs p us)
    (hcs : (trim cs).isEmpty = true) : p = [] := by
  obtain ⟨nl, ts, -, hlines, hus⟩ := h.spells
  cases hlines with
  | nil => rfl
  | @cons c _ _ ts _ hc _ _ =>
      obtain ⟨x, hx, hstarts⟩ := hc.faces
      cases ts with
      | nil => exact nomatch hx
      | cons t ts =>
          obtain rfl : t.terminal = x := Option.some.inj hx
          have taken : t ∈ significant us := by simp [hus]
          have mem : t ∈ us := List.mem_of_mem_filter taken
          obtain ⟨c, hcl, hblank⟩ := exists_not_isBlank (h.lexed.is t mem).2 hstarts
          have spelled : c ∈ cs := by
            rw [← h.spelling_eq]
            exact List.mem_flatMap.mpr ⟨t, mem, hcl⟩
          rw [isBlank_of_trim hcs spelled] at hblank
          exact nomatch hblank

/-! ## Pieces of a program

Where no bracket is open, a program can be cut in two (`Read.cut`).  The first
half is submitted by itself, and the second half counts its lines from its own
start, which makes a difference to the notes only. -/

section Pieces

variable (t : Turtle σ) (vars : Bindings Given) (fuel : Nat)

/-- A piece of input that is a program is run, unless it is blank. -/
theorem submit_echoes {cs : List Char} {source : String} {p : Program}
    (hsource : source.toList = cs ++ ['\n']) (hp : parse (cs ++ ['\n']) = .program p) :
    Echoes (p.run t.screened.observed .clock vars fuel)
      (submit ⟨t.screened.observed, vars, fuel⟩ source) := by
  have whole : Program.parse (completed source) = .ok p := by
    have ends : completed source = source := by
      simp only [completed, hsource, List.getLast?_append, List.getLast?_singleton, Option.some_or]
    rw [ends, Program.parse, hsource, hp]
  rw [submit]
  split
  · next blank =>
      obtain ⟨us, hlexed, hspells⟩ := parse_eq_program_iff.mp hp
      rw [hsource] at blank
      rw [eq_nil_of_blank ⟨hlexed, hspells⟩ blank]
      exact .pure ()
  · intro s s' r a alike run
    obtain ⟨us, -, hspells⟩ := parse_eq_program_iff.mp hp
    have self : LikeCommands Eq Eq p p := hspells.grammatical.like (fun _ => rfl) fun _ => rfl
    obtain ⟨r', added, run', alike', journal, silent⟩ := Program.run_echoes t .clock vars fuel self
      (alike.trans (alike_write (e := .noted (.parsed p.length)) rfl s')) run
    have served := processRequest_of_ok whole run'
    have quiet := silent.append (silent_one (e := .noted (.parsed p.length)) rfl)
    refine ⟨r', added ++ [.noted (.parsed p.length)], ?_, alike', ?_, quiet⟩
    · simp only [Bind.bind, Action.bind, served]
      rfl
    · rw [journal, List.append_assoc]
      rfl

/-! ## Lines

The induction on the lines.  What is pending and what is still to come are
together the text of one program; a line that closes all brackets cuts it there. -/

/-- The text of lines that are typed. -/
def typedText (lines : List String) : List Char :=
  lines.flatMap fun line => line.toList ++ ['\n']

/-- What may have been collected between two lines: nothing, or lines that leave brackets open. -/
def Pending (buffer : String) : Prop :=
  buffer = "" ∨ ∃ a, buffer.toList = a ++ ['\n'] ∧ 0 < bracketDepth (a ++ ['\n'])

/-- What is collected and what is still to be typed are run as the program that they are
together. -/
theorem runPrompt_echoes (lines : List String) :
    ∀ {buffer : String} {p : Program} {us : List Token}, Pending buffer →
      Read (buffer.toList ++ typedText lines) p us → SeesBrackets us →
      Echoes (p.run t.screened.observed .clock vars fuel)
        (runPrompt ⟨t.screened.observed, vars, fuel⟩ buffer lines) := by
  induction lines with
  | nil =>
      intro buffer p us pending read sees
      rw [typedText, List.flatMap_nil, List.append_nil] at read
      rcases pending with rfl | ⟨a, hbuffer, unclosed⟩
      · have empty : p = [] := eq_nil_of_blank read rfl
        rw [empty]
        exact Echoes.after rfl rfl (.pure ())
      · -- no program ends with brackets open
        rw [hbuffer] at read
        obtain ⟨-, -, -, -, -, -, -, -, closed⟩ := read.last_line_end (.inl rfl)
        rw [sees a [] read.spelling_eq, closed] at unclosed
        exact absurd unclosed (Int.lt_irrefl 0)
  | cons line lines ih =>
      intro buffer p us pending read sees
      have hsource : (buffer ++ line ++ "\n").toList = buffer.toList ++ line.toList ++ ['\n'] := by
        simp
      have htext : buffer.toList ++ typedText (line :: lines) =
          buffer.toList ++ line.toList ++ '\n' :: typedText lines := by
        simp [typedText]
      rw [htext] at read
      generalize buffer.toList ++ line.toList = a at hsource read
      have count := sees a (typedText lines) read.spelling_eq
      obtain ⟨nonneg, cut⟩ := read.cut
      rw [runPrompt, takeLine]
      refine Echoes.after rfl rfl ?_
      rw [hsource]
      split
      · next more =>
          rw [pure_bind]
          refine ih (.inr ⟨a, hsource, more⟩) ?_ sees
          rw [hsource, List.append_assoc]
          exact read
      · next complete =>
          have zero : depthAt us a.length = 0 := by omega
          obtain ⟨p₁, p₂, q, vs, rfl, like, parsed, rest, depths⟩ := cut zero
          rw [bind_assoc, Program.run_append]
          refine (submit_echoes t vars fuel hsource parsed).bind fun _ => ?_
          rw [pure_bind]
          refine (Program.run_echoes t .clock vars fuel like).trans (ih (.inl rfl) rest ?_)
          exact sees.behind read.spelling_eq rest.spelling_eq zero depths

end Pieces

/-! ## Whole programs

In the file the text may lack its last line end, and its line ends may be of any
kind.  What is typed has a line feed behind every line. -/

def typedLines (source : String) : List String :=
  (source.toList.splitOn '\n').map String.ofList

theorem flatMap_eq_intercalate {α : Type} (x : α) : ∀ {ls : List (List α)}, ls ≠ [] →
    ls.flatMap (· ++ [x]) = [x].intercalate ls ++ [x]
  | [l], _ => by simp
  | l :: l' :: ls, _ => by
      rw [List.flatMap_cons, flatMap_eq_intercalate x (List.cons_ne_nil l' ls),
        List.intercalate_cons_cons, List.append_assoc, List.append_assoc, List.append_assoc]

theorem typedText_typedLines (source : String) :
    typedText (typedLines source) = source.toList ++ ['\n'] := by
  have joined := flatMap_eq_intercalate '\n' (List.splitOn_ne_nil '\n' source.toList)
  rw [List.intercalate_splitOn] at joined
  rw [← joined, typedText, typedLines, List.flatMap_map]
  simp only [String.toList_ofList]

/-- A text that is a program once it is completed is one with a line feed behind it, too. -/
theorem parse_typed {source : String} {p : Program} (h : Program.parse (completed source) = .ok p) :
    parse (source.toList ++ ['\n']) = .program p := by
  have ended : ∀ {c : Char}, source.toList.getLast? = some c → c = '\n' ∨ c = '\r' →
      Program.parse source = .ok p → parse (source.toList ++ ['\n']) = .program p := by
    intro c hlast hc hp
    obtain ⟨a, ha⟩ := List.getLast?_eq_some_iff.mp hlast
    obtain ⟨us, hlexed, hspells⟩ := parse_eq_program_iff.mp (Program.parse_eq_ok_iff.mp hp)
    rw [ha] at hlexed ⊢
    obtain ⟨vs, longer⟩ := Read.one_more ⟨hlexed, hspells⟩ hc
    exact longer.parse_eq
  unfold completed at h
  split at h
  · next hlast => exact ended hlast (.inl rfl) h
  · next hlast => exact ended hlast (.inr rfl) h
  · have typed := Program.parse_eq_ok_iff.mp h
    rwa [String.toList_append] at typed

theorem runSource_eq_ok {t : Turtle σ} {timer : Timer} {vars : Bindings Given} {fuel : Nat}
    {source : String} {p : Program} {s after : Scene σ}
    (h : runSource t timer vars fuel source s = (.ok p, after)) :
    Program.parse (completed source) = .ok p ∧
      p.run t timer vars fuel (s.write (.noted (.parsed p.length))) = (.ok (), after) := by
  obtain ⟨q, s₁, parsed, h⟩ := Action.bind_eq_ok h
  obtain ⟨⟨⟩, s₂, noted, h⟩ := Action.bind_eq_ok h
  obtain ⟨⟨⟩, s₃, run, done⟩ := Action.bind_eq_ok h
  obtain ⟨hparse, rfl⟩ := Prod.mk.inj parsed
  cases noted
  cases done
  exact ⟨hparse, run⟩

/-- If a text runs without error, then so do its lines at the prompt, as long as the prompt sees the
brackets of the text, and it sees them in texts that are clear: the same is done in the same order,
the turtle ends in the same state, and no error is written. -/
theorem prompt_runs_as_file (t : Turtle σ) {vars : Bindings Given} {fuel : Nat} {source : String}
    {p : Program} {s after : Scene (Scene σ)}
    (ran : runSource t.screened.observed .clock vars fuel source s = (.ok p, after)) :
    (clear false (consumed (source.toList ++ ['\n'])) = true →
      SeesBrackets (consumed (source.toList ++ ['\n']))) ∧
    (SeesBrackets (consumed (source.toList ++ ['\n'])) → ∃ after' added,
      runPrompt ⟨t.screened.observed, vars, fuel⟩ "" (typedLines source) s = (.ok (), after') ∧
        after'.state = after.state ∧ issued after'.journal = issued after.journal ∧
        after'.journal = added ++ s.journal ∧ ∀ text, .wrote text ∉ added) := by
  obtain ⟨parsed, run⟩ := runSource_eq_ok ran
  obtain ⟨lexed, spells⟩ := consumed_spells (parse_typed parsed)
  refine ⟨seesBrackets_of_clear ⟨lexed, spells⟩, fun sees => ?_⟩
  have echoes : Echoes (p.run t.screened.observed .clock vars fuel)
      (runPrompt ⟨t.screened.observed, vars, fuel⟩ "" (typedLines source)) := by
    refine runPrompt_echoes t vars fuel (typedLines source) (.inl rfl) ?_ sees
    rw [typedText_typedLines]
    exact ⟨lexed, spells⟩
  have before : Alike (s.write (.noted (.parsed p.length))) s := (alike_write rfl s).symm
  obtain ⟨after', added, run', alike, journal, silent⟩ := echoes before run
  exact ⟨after', added, run', alike.state, alike.deeds, journal, silent⟩

/-- Brackets in comments and in a string, one comment behind a command. -/
def bracketsAbout : String := "REPEAT n [ # [\nFD 10 rem ]\nREPEAT 0 [ LT \"]\" ]\n]\nPU"

def twice : Bindings Given := [("n", .quantity (.whole 2))]

theorem prompt_runs_as_file_brackets_about :
    ∃ p after after' added,
      runSource kinematic.screened.observed .clock twice 3 bracketsAbout ⟨⟨Pose.home, []⟩, []⟩ =
        (.ok p, after) ∧
      runPrompt ⟨kinematic.screened.observed, twice, 3⟩ "" (typedLines bracketsAbout)
        ⟨⟨Pose.home, []⟩, []⟩ = (.ok (), after') ∧
      after'.state = after.state ∧ issued after'.journal = issued after.journal ∧
      after'.journal = added ++ [] ∧ ∀ text, .wrote text ∉ added := by
  have ok : (runSource kinematic.screened.observed .clock twice 3 bracketsAbout
      ⟨⟨Pose.home, []⟩, []⟩).1.isOk = true := by decide +kernel
  rcases ran : runSource kinematic.screened.observed .clock twice 3 bracketsAbout
      ⟨⟨Pose.home, []⟩, []⟩ with ⟨f | p, after⟩
  · rw [ran] at ok
    exact nomatch ok
  · obtain ⟨sees, agrees⟩ := prompt_runs_as_file kinematic ran
    have seen := sees (by decide +kernel)
    obtain ⟨after', added, same⟩ := agrees seen
    exact ⟨p, after, after', added, rfl, same⟩

/-- A variable of the name `rem` is taken for a comment, with the bracket behind it.  Of the three
lines, each is then a piece of its own, and two of them are no program. -/
example :
    let vars : Bindings Given := [("rem", .quantity (.whole 2))]
    (runSource kinematic .clock vars 3 "REPEAT rem [\nFD 1\n]" ⟨Pose.home, []⟩).1.isOk = true ∧
      ((runPrompt ⟨kinematic, vars, 3⟩ "" ["REPEAT rem [", "FD 1", "]"]
        ⟨Pose.home, []⟩).2.journal.filterMap Event.output?).length = 2 := by
  decide +kernel

end TurtleLogo.Console
