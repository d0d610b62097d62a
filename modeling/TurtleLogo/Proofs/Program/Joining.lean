/-
# `TurtleLogo.Proofs.Program.Joining` — texts one behind the other

Two texts that are programs are one program when they are written one behind the
other: its commands are those of the first, and then those of the second, as many
lines further down as the first has line feeds.

At the seam a token changes.  The first text ends with a line end, which takes
all layout at the front of the second, be it blanks, more line ends or the second
half of a line end of two characters; only where the first text is nothing but
blanks, layout stands at the front as before (`Read.join`).  What follows is cut
into the same words as in the second text alone.
-/
import TurtleLogo.Proofs.Grammar.Sentence
import TurtleLogo.Proofs.Program.Splitting
import TurtleLogo.Proofs.Program.Tracking

namespace TurtleLogo

/-! ## Further down

Commands are moved down at every depth.  A run of the moved program fails on moved
lines, and is otherwise the same. -/

/-- A line some lines further down. -/
def lowerLine (n : Nat) (line : Option Int) : Option Int :=
  line.map (· + n)

mutual
def Command.lowered (n : Nat) : Command → Command
  | .order what e line => .order what e (lowerLine n line)
  | .gesture what line => .gesture what (lowerLine n line)
  | .loop times body line => .loop times (loweredAll n body) (lowerLine n line)
  | .comment text line => .comment text (lowerLine n line)
  | .unknown line => .unknown (lowerLine n line)
  | .stray typeName rendering => .stray typeName rendering

def loweredAll (n : Nat) : List Command → List Command
  | [] => []
  | c :: cs => c.lowered n :: loweredAll n cs
end

/-- `Below n l m`: the line `m` is `n` lines further down than `l`. -/
def Below (n : Nat) (l m : Option Int) : Prop :=
  m = lowerLine n l

mutual
theorem LikeCommand.eq_lowered {n : Nat} : ∀ {c d : Command}, LikeCommand Eq (Below n) c d →
    d = c.lowered n
  | _, _, .order _ he hl => by rw [Command.lowered, he.eq, hl]
  | _, _, .gesture _ hl => by rw [Command.lowered, hl]
  | _, _, .loop he hbody hl => by rw [Command.lowered, he.eq, hbody.eq_lowered, hl]
  | _, _, .comment htext hl => by rw [Command.lowered, htext, hl]

theorem LikeCommands.eq_lowered {n : Nat} : ∀ {cs ds : List Command},
    LikeCommands Eq (Below n) cs ds → ds = loweredAll n cs
  | _, _, .nil => rfl
  | _, _, .cons hc hcs => by rw [loweredAll, hc.eq_lowered, hcs.eq_lowered]
end

def Failure.unplaced : Failure → Failure
  | .error e => .error { e with line := none }
  | .defect d => .defect d
  | .unfinished => .unfinished

/-- Failures that may differ in their lines. -/
def SameCause (f g : Failure) : Prop :=
  g.unplaced = f.unplaced

theorem Failure.unplaced_at? (f : Failure) (line : Option Int) :
    (f.at? line).unplaced = f.unplaced := by
  cases f with
  | error e =>
      simp only [Failure.at?, Failure.unplaced, LogoError.at?]
      split <;> rfl
  | defect d => rfl
  | unfinished => rfl

theorem fits_below (n : Nat) : Fits Eq (Below n) SameCause := by
  refine fits_of_eq (fun _ => rfl) ?_
  intro f g l m same _
  rw [SameCause, Failure.unplaced_at?, Failure.unplaced_at?]
  exact same

namespace Grammar

open Text

/-! ## The ends of a text

A program that is not empty ends with a line end outside all brackets.  At the
front there is layout, which is left out or is one line end, and behind it the
first command. -/

theorem SpellsLines.last {cs : List Command} {ts : List Token} (h : SpellsLines cs ts) :
    ts = [] ∨ ∃ init t, ts = init ++ [t] ∧ t.Is .newline := by
  induction h with
  | nil => exact .inl rfl
  | @cons c cs t ts us _ ht _ ih =>
      rcases ih with rfl | ⟨init, u, rfl, hu⟩
      · exact .inr ⟨ts, t, rfl, ht⟩
      · exact .inr ⟨ts ++ t :: init, u, by simp, hu⟩

theorem SpellsProgram.last {p : Program} {ts : List Token} (h : SpellsProgram p ts) :
    ts = [] ∨ ∃ init t, ts = init ++ [t] ∧ t.Is .newline := by
  obtain ⟨nl, us, hnl, hus, rfl⟩ := h
  rcases hus.last with rfl | ⟨init, t, rfl, ht⟩
  · cases hnl with
    | none => exact .inl rfl
    | line ht => exact .inr ⟨[], _, rfl, ht⟩
  · exact .inr ⟨nl ++ init, t, by simp, ht⟩

/-- A program is nothing but blanks, or its last token is a line end outside all brackets. -/
theorem Read.ends {cs : List Char} {p : Program} {us : List Token} (h : Read cs p us) :
    (p = [] ∧ ∀ c ∈ cs, isSpace c = true) ∨
      ∃ us₁ t, us = us₁ ++ [t] ∧ t.Is .newline ∧ depth us₁ = 0 := by
  rcases h.spells.last with hnone | ⟨init, t, hlast, ht⟩
  · refine .inl ⟨?_, fun c hc => ?_⟩
    · obtain ⟨nl, ts, -, hlines, hts⟩ := h.spells
      exact hlines.eq_nil (List.append_eq_nil_iff.mp (hts.symm.trans hnone)).2
    · rw [← h.spelling_eq] at hc
      obtain ⟨t, ht, hc⟩ := List.mem_flatMap.mp hc
      have hblank : t.terminal = .blank := by
        simpa using List.filter_eq_nil_iff.mp hnone t ht
      exact isSpace_of_blank (hblank ▸ h.lexed.is t ht) hc
  · refine .inr ?_
    obtain ⟨us₁, us', rfl, -, hus'⟩ := List.filter_eq_append_iff.mp hlast
    obtain ⟨bs, rest, rfl, hbs, -, hrest⟩ := List.filter_eq_cons_iff.mp hus'
    -- blanks behind a line end would be a part of it
    have hempty : rest = [] := by
      cases rest with
      | nil => rfl
      | cons b rest =>
          have hb : b.terminal = .blank := by
            simpa using List.filter_eq_nil_iff.mp hrest b List.mem_cons_self
          have hlexed := h.lexed
          rw [List.append_cons bs, ← List.append_assoc] at hlexed
          obtain ⟨mid, hfront, hback⟩ := hlexed.append_inv
          have hstops := hfront.stops_layout t (by simp) ht.1
          cases hback with
          | cons _ hcut _ =>
              obtain ⟨rfl, c, cs, hlexeme, hc, -⟩ := hb ▸ b.terminal.cuts.sound hcut
              rw [hlexeme, List.cons_append, stops_cons, isLayout_of_isSpace hc] at hstops
              exact nomatch hstops
    subst hempty
    refine ⟨us₁ ++ bs, t, (List.append_assoc ..).symm, ht, ?_⟩
    have total := h.spells.depth_eq_zero
    rwa [depth_significant, ← List.append_assoc, depth_append, depth_cons, ht.nesting_newline,
      depth_nil, Int.add_zero, Int.add_zero] at total

theorem SpellsLines.not_newline {p : Program} {t : Token} {ts : List Token}
    (h : SpellsLines p (t :: ts)) : t.terminal ≠ .newline := by
  intro hnewline
  generalize hts : t :: ts = us at h
  cases h with
  | nil => exact nomatch hts
  | cons hc _ _ =>
      obtain ⟨x, hx, hstarts⟩ := hc.faces.append _
      rw [← hts] at hx
      obtain rfl : t.terminal = x := Option.some.inj hx
      rw [hnewline] at hstarts
      exact nomatch hstarts

/-- The layout at the front of a text, and the commands behind it. -/
theorem Lexed.front {p : Position} {cs rest : List Char} {us : List Token} {q : Program}
    (h : Lexed p cs us rest) (hrest : rest = []) : ∀ {nl ts : List Token}, Break nl →
      SpellsLines q ts → significant us = nl ++ ts →
      ∃ y z ws, cs = y ++ z ∧ (∀ c ∈ y, isLayout c = true) ∧ Stops isLayout z ∧
        Lexed (p.after y) z ws [] ∧ SpellsLines q (significant ws) := by
  induction h with
  | nil =>
      intro nl ts _ hlines hts
      obtain ⟨-, rfl⟩ := List.append_eq_nil_iff.mp hts.symm
      subst hrest
      exact ⟨[], [], [], rfl, nofun, stops_nil _, .nil, hlines⟩
  | @cons p cs mid rest t us hp hcut hlexed ih =>
      intro nl ts hnl hlines hts
      subst hrest
      obtain ⟨rfl, hlexeme⟩ := t.terminal.cuts.sound hcut
      by_cases hblank : t.terminal = .blank
      · rw [significant_cons_blank us hblank] at hts
        obtain ⟨y, z, ws, rfl, hy, hz, hws, hspells⟩ := ih rfl hnl hlines hts
        refine ⟨t.lexeme ++ y, z, ws, (List.append_assoc ..).symm, fun c hc => ?_, hz, ?_, hspells⟩
        · rcases List.mem_append.mp hc with hc | hc
          · exact isLayout_of_isSpace (isSpace_of_blank ⟨hblank, hblank ▸ hlexeme⟩ hc)
          · exact hy c hc
        · rw [Position.after_append]
          exact hws
      · rw [significant_cons us hblank] at hts
        by_cases hnewline : t.terminal = .newline
        · -- no command begins with a line end, so this one is the first of the text
          have hspells : SpellsLines q (significant us) := by
            cases hnl with
            | none =>
                obtain rfl : t :: significant us = ts := hts
                exact absurd hnewline hlines.not_newline
            | line _ =>
                obtain ⟨-, rfl⟩ := List.cons.inj hts
                exact hlines
          rw [hnewline] at hlexeme hcut
          refine ⟨t.lexeme, mid, us, rfl, ?_, cutRun_stops hcut, hlexed, hspells⟩
          obtain ⟨d, ds, hd, hbreak, hds⟩ := hlexeme
          have hfirst : isLayout d = true := Bool.or_eq_true_iff.mpr (.inr hbreak)
          rw [hd]
          exact List.forall_mem_cons.mpr ⟨hfirst, hds⟩
        · have hspells : SpellsLines q (significant (t :: us)) := by
            rw [significant_cons us hblank]
            cases hnl with
            | none =>
                obtain rfl : t :: significant us = ts := hts
                exact hlines
            | line ht =>
                obtain ⟨rfl, -⟩ := List.cons.inj hts
                exact absurd ht.1 hnewline
          obtain ⟨d, ds, hd⟩ := List.exists_cons_of_ne_nil hlexeme.ne_nil
          have hfront : Stops isLayout (t.lexeme ++ mid) := by
            rw [hd, List.cons_append]
            exact stops_cons.mpr ((hd ▸ hlexeme).front hblank hnewline)
          exact ⟨[], _, t :: us, rfl, nofun, hfront, .cons hp hcut hlexed, hspells⟩

theorem SpellsLines.append {p q : Program} {ts us : List Token} (h : SpellsLines p ts)
    (h' : SpellsLines q us) : SpellsLines (p ++ q) (ts ++ us) := by
  induction h with
  | nil => exact h'
  | cons hc ht _ ih =>
      rw [List.append_assoc, List.cons_append]
      exact .cons hc ht ih

theorem SpellsProgram.append {p q : Program} {ts us : List Token} (h : SpellsProgram p ts)
    (h' : SpellsLines q us) : SpellsProgram (p ++ q) (ts ++ us) := by
  obtain ⟨nl, vs, hnl, hvs, rfl⟩ := h
  exact ⟨nl, vs ++ us, hnl, hvs.append h', List.append_assoc ..⟩

/-! ## The seam

By cases of what the first text is.  If it is blank, all layout goes to the
second; otherwise its last line end takes the layout at the front of the second,
and all other tokens of both stay. -/

theorem Read.join {cs ds : List Char} {p q : Program} {us vs : List Token} (h : Read cs p us)
    (h' : Read ds q vs) :
    ∃ q' ws, LikeCommands Eq (Below (cs.count '\n')) q q' ∧ Read (cs ++ ds) (p ++ q') ws := by
  obtain ⟨nl, ts, hnl, hts, heq⟩ := h'.spells
  obtain ⟨y, z, ws, rfl, hy, hz, hws, hlines⟩ := h'.lexed.front rfl hnl hts heq
  -- what follows the seam is read behind the first text as it was alone
  obtain ⟨vs', hvs', -, hlike⟩ := hws.moved (Position.first.after (cs ++ y))
  have below : ∀ n : Nat, Below (cs.count '\n') (some ↑((Position.first.after y).line + n))
      (some ↑((Position.first.after (cs ++ y)).line + n)) := by
    intro n
    rw [Position.after_line, Position.after_line, List.count_append, Below, lowerLine,
      Option.map_some]
    congr 1
    omega
  obtain ⟨q', like, hq'⟩ := hlines.like (like_significant (hlike below))
  refine ⟨q', ?_⟩
  rcases h.ends with ⟨rfl, hspace⟩ | ⟨us₁, t, rfl, ht, hzero⟩
  · have hlayout : ∀ c ∈ cs ++ y, isLayout c = true := by
      intro c hc
      rcases List.mem_append.mp hc with hc | hc
      · exact isLayout_of_isSpace (hspace c hc)
      · exact hy c hc
    obtain ⟨ls, hls, hbreak, hspelling, -⟩ := lexed_layout hlayout hz .first
    refine ⟨ls ++ vs', like, ?_, ?_⟩
    · rw [← List.append_assoc]
      exact hls.trans (hspelling ▸ hvs')
    · rw [significant_append]
      exact ⟨_, _, hbreak, hq', rfl⟩
  · obtain ⟨p₁, p₂, rfl, hp₂, hp₁⟩ := (h.before ht).2 hzero
    obtain rfl := hp₂.eq_nil rfl
    have longer := hp₁ _ (lexeme_longer ht.2 hy)
    have hcs : spelling us₁ ++ (t.lexeme ++ y) = cs ++ y := by
      rw [← h.spelling_eq, spelling, spelling, List.flatMap_append, List.flatMap_singleton,
        List.append_assoc]
    rw [hcs] at longer
    refine ⟨us₁ ++ [⟨.newline, t.lexeme ++ y, t.start⟩] ++ vs', like, ?_, ?_⟩
    · rw [← List.append_assoc]
      refine longer.lexed.join ?_ hvs'
      intro u hu
      obtain rfl : _ = u := Option.some.inj (List.getLast?_concat.symm.trans hu)
      exact hz
    · rw [significant_append, List.append_nil]
      exact longer.spells.append hq'

end Grammar

/-! ## Running in turn

The commands of both are one list, and a list is run piece by piece. -/

section Runs

variable {σ : Type} {N : String → String → Prop} {L : Option Int → Option Int → Prop}
variable {F : Failure → Failure → Prop} {p q q' : Program}
variable (t : Turtle σ) (timer : Timer) (vars : List (String × Given)) (fuel : Nat) (s : Scene σ)

theorem Turtle.trial_append_of_error {f : Failure}
    (h : (t.trial timer vars fuel p s).result = .error f) (q : Program) :
    t.trial timer vars fuel (p ++ q) s = t.trial timer vars fuel p s ∧
      t.left timer vars fuel (p ++ q) s = t.left timer vars fuel p s := by
  unfold Turtle.trial Turtle.left at *
  rw [Program.run_append]
  rcases run : p.run t.screened.observed timer vars fuel ⟨s, []⟩ with ⟨r, after⟩
  rw [run] at h
  obtain rfl : r = .error f := h
  rw [Action.bind_of_error run]
  exact ⟨rfl, rfl⟩

theorem Turtle.trial_append_of_ok (fits : Fits N L F) (like : LikeCommands N L q q')
    (h : (t.trial timer vars fuel p s).result = .ok ()) :
    (t.trial timer vars fuel (p ++ q') s).done = (t.trial timer vars fuel p s).done ++
        (t.trial timer vars fuel q (t.left timer vars fuel p s)).done ∧
      Tallies F (t.trial timer vars fuel q (t.left timer vars fuel p s)).result
        (t.trial timer vars fuel (p ++ q') s).result ∧
      t.left timer vars fuel (p ++ q') s =
        t.left timer vars fuel q (t.left timer vars fuel p s) := by
  unfold Turtle.trial Turtle.left at *
  rw [Program.run_append]
  rcases run : p.run t.screened.observed timer vars fuel ⟨s, []⟩ with ⟨r, after⟩
  rw [run] at h
  obtain rfl : r = .ok () := h
  rw [Action.bind_of_ok run]
  have tracks : Tracks F (q.run t.screened.observed timer vars fuel)
      (q'.run t.screened.observed timer vars fuel) := Program.run_tracks t timer fuel fits like rfl
  obtain ⟨⟨a, b, ha, hb, hdeeds, -⟩, hstate, tally⟩ := @tracks ⟨after.state, []⟩ after rfl
  refine ⟨?_, tally, hstate⟩
  show issued (q'.run t.screened.observed timer vars fuel after).2.journal =
    issued after.journal ++
      issued (q.run t.screened.observed timer vars fuel ⟨after.state, []⟩).2.journal
  rw [ha, hb, issued_append, issued_append, hdeeds]
  rfl

end Runs

open Grammar

/-- Two texts that are programs are one program when they are written one behind the other: the
commands of the first and then those of the second, further down by the line feeds of the first.
It is run by running the first program and, if that succeeds, the second on the turtle as the first
one left it. -/
theorem joined_texts_run_in_turn {a b : String} {p q : Program} (ha : Program.parse a = .ok p)
    (hb : Program.parse b = .ok q) :
    let whole := p ++ loweredAll (a.toList.count '\n') q
    Program.parse (a ++ b) = .ok whole ∧
      ∀ {σ : Type} (t : Turtle σ) (timer : Timer) (vars : List (String × Given)) (fuel : Nat)
        (s : Scene σ),
        let first := t.trial timer vars fuel p s
        let between := t.left timer vars fuel p s
        let second := t.trial timer vars fuel q between
        let both := t.trial timer vars fuel whole s
        (∀ f, first.result = .error f →
          both = first ∧ t.left timer vars fuel whole s = between) ∧
        (first.result = .ok () →
          both.done = first.done ++ second.done ∧
            Tallies SameCause second.result both.result ∧
            t.left timer vars fuel whole s = t.left timer vars fuel q between) := by
  obtain ⟨us, hus, hp⟩ := parse_eq_program_iff.mp (Program.parse_eq_ok_iff.mp ha)
  obtain ⟨vs, hvs, hq⟩ := parse_eq_program_iff.mp (Program.parse_eq_ok_iff.mp hb)
  obtain ⟨q', ws, like, read⟩ := Read.join ⟨hus, hp⟩ ⟨hvs, hq⟩
  obtain rfl := like.eq_lowered
  refine ⟨Program.parse_eq_ok_iff.mpr ?_, fun t timer vars fuel s => ⟨fun f failed => ?_, ?_⟩⟩
  · rw [String.toList_append]
    exact read.parse_eq
  · exact t.trial_append_of_error timer vars fuel s failed _
  · exact t.trial_append_of_ok timer vars fuel s (fits_below _) like

/-- A line end is divided between two texts: the first ends with its carriage return, and its line
feed is the front of the second. -/
theorem joined_texts_run_in_turn_divided_line_end :
    let one := fun name => Expr.chain .comparison (.chain .sum (.chain .product
      (.factor (.ident name)) .nil) .nil) .nil
    let p : Program := [.gesture .penUp (some 1), .gesture .penDown (some 2)]
    let q : Program := [.loop (one "n") [.order .right (one "x") (some 3)] (some 2)]
    let q' : Program := [.loop (one "n") [.order .right (one "x") (some 4)] (some 3)]
    let vars := [("n", Given.quantity (.whole 2)), ("X", .quantity (.truth true))]
    Program.parse "PU\nPD \r" = .ok p ∧ Program.parse "\n REPEAT n[\nrt x\n] \n" = .ok q ∧
      Program.parse ("PU\nPD \r" ++ "\n REPEAT n[\nrt x\n] \n") = .ok (p ++ q') ∧
      (kinematic.trial .clock vars 3 p ⟨Pose.home, []⟩).result = .ok () ∧
      (kinematic.trial .clock vars 3 (p ++ q') ⟨Pose.home, []⟩).done =
        (kinematic.trial .clock vars 3 p ⟨Pose.home, []⟩).done ++
          (kinematic.trial .clock vars 3 q
            (kinematic.left .clock vars 3 p ⟨Pose.home, []⟩)).done := by
  intro one p q q' vars
  have joined := joined_texts_run_in_turn (a := "PU\nPD \r") (b := "\n REPEAT n[\nrt x\n] \n")
    (p := p) (q := q) rfl rfl
  have first : (kinematic.trial .clock vars 3 p ⟨Pose.home, []⟩).result = .ok () := rfl
  exact ⟨rfl, rfl, joined.1, first,
    ((joined.2 kinematic .clock vars 3 ⟨Pose.home, []⟩).2 first).1⟩

end TurtleLogo
