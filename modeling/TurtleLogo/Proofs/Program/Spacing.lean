/-
# `TurtleLogo.Proofs.Program.Spacing` — programs in another layout

The layout of a text is its blanks and its line ends.  It can be changed token by
token: every line end may be replaced by another one, and blanks may be put before
the first token, behind the last, and between any two, except that blanks behind a
comment would be a part of it.

    Relaid free ws cs     the text `cs` has the words `ws` in another layout; `free` tells
                          whether blanks may stand at its front
    Relayout s s'         the words that the parser finds in `s`, in another layout, make
                          up `s'`

The tokens of the new text are not those of the old one: blanks melt into the
blanks beside them, and into the line end before them.  But no token that counts
is made longer or shorter.  Which lexeme is cut off hangs on the first character
behind it at most, and there stands a blank, a line end, or what stood there
before (`cut_front`).  So the tokens that count are the same up to the line ends,
and so is the tree up to the lines (`Lexed.relaid`).
-/
import TurtleLogo.Proofs.Program.Joining
import TurtleLogo.Proofs.Program.Printing
import TurtleLogo.Request

namespace TurtleLogo

mutual
theorem LikeCommand.bare_eq {L : Option Int → Option Int → Prop} :
    ∀ {c d : Command}, LikeCommand Eq L c d → d.bare = c.bare
  | _, _, .order _ he _ => by rw [Command.bare, Command.bare, he.eq]
  | _, _, .gesture _ _ => rfl
  | _, _, .loop he hbody _ => by rw [Command.bare, Command.bare, he.eq, hbody.bare_eq]
  | _, _, .comment htext _ => by rw [Command.bare, Command.bare, htext]

theorem LikeCommands.bare_eq {L : Option Int → Option Int → Prop} :
    ∀ {cs ds : List Command}, LikeCommands Eq L cs ds → bareAll ds = bareAll cs
  | _, _, .nil => rfl
  | _, _, .cons hc hcs => by rw [bareAll, bareAll, hc.bare_eq, hcs.bare_eq]
end

namespace Grammar

/-! ## Another layout

The relation goes word by word.  What `free` excludes is a blank right behind a
comment, which would belong to it. -/

/-- Blanks that are put in front of a word; where they are not `free` there are none. -/
structure Blanks (free : Bool) (sp : List Char) : Prop where
  space : ∀ c ∈ sp, isSpace c = true
  none : free = false → sp = []

/-- `Relaid free ws cs`: the text `cs` has the words `ws`, with any line end for each line end and
more blanks before, behind and between them.  Blanks are not free behind a comment. -/
inductive Relaid : Bool → List Word → List Char → Prop
  | nil {free : Bool} {sp : List Char} : Blanks free sp → Relaid free [] sp
  | line {free : Bool} {sp l l' cs : List Char} {ws : List Word} : Blanks free sp →
      Terminal.newline.Lexeme l' → Relaid true ws cs →
      Relaid free ((.newline, l) :: ws) (sp ++ (l' ++ cs))
  | word {free : Bool} {sp cs : List Char} {w : Word} {ws : List Word} : Blanks free sp →
      w.1 ≠ .newline → Relaid (w.1 != .comment) ws cs → Relaid free (w :: ws) (sp ++ (w.2 ++ cs))

theorem blanks_nil (free : Bool) : Blanks free [] :=
  ⟨nofun, fun _ => rfl⟩

theorem blanks_of_all {sp : List Char} (h : sp.all isSpace = true) : Blanks true sp :=
  ⟨List.all_eq_true.mp h, nofun⟩

/-! ## What stands behind a token

Which lexeme is cut off does not hang on more than the first character of what
follows, so two texts that begin alike may stand behind a token in place of each
other. -/

/-- `Front cs ds`: the texts `cs` and `ds` begin with the same word, or both with a line end, or
both are at their end. -/
inductive Front : List Char → List Char → Prop
  | nil : Front [] []
  | word {t : Terminal} {l r r' : List Char} : t.Lexeme l → t ≠ .blank → t ≠ .newline →
      Front (l ++ r) (l ++ r')
  | line {c d : Char} {r r' : List Char} : (!isInline c) = true → (!isInline d) = true →
      Front (c :: r) (d :: r')

/-- A text that begins as another one does begins with no blank. -/
theorem Front.stops_space {cs ds : List Char} (h : Front cs ds) : Stops isSpace ds := by
  cases h with
  | nil => exact stops_nil _
  | @word t l r r' hl hblank hnewline =>
      obtain ⟨c, l, rfl⟩ := List.exists_cons_of_ne_nil hl.ne_nil
      have hlayout : isLayout c = false := hl.front hblank hnewline
      rw [isLayout, Bool.or_eq_false_iff] at hlayout
      exact stops_cons.mpr hlayout.1
  | line _ hd =>
      refine stops_cons.mpr ?_
      rcases not_isInline_iff.mp hd with rfl | rfl
      · rfl
      · rfl

/-- What is cut off in front of a text is cut off in front of any that begins as it does. -/
theorem cut_front {t : Terminal} {cs l mid mid' : List Char} (h : t.cut cs = some (l, mid))
    (front : Front mid mid') : t.cut (l ++ mid') = some (l, mid') := by
  obtain ⟨rfl, hl⟩ := t.cuts.sound h
  cases front with
  | nil => exact t.cuts.complete hl (stops_nil _)
  | word hl' _ _ => exact cut_before_lexeme h hl' _
  | @line c d r r' hc hd =>
      refine t.cuts.complete hl (stops_cons.mpr (continues_break ?_ hd))
      -- no line end follows a line end
      rintro rfl
      have hstops : isLayout c = false := stops_cons.mp (cutRun_stops h)
      rw [isLayout, hc, Bool.or_true] at hstops
      cases hstops

/-! ## Tokens in another layout

The tokens are gone through from the end.  The blanks of the new text come before
what has been dealt with already: they melt into blanks there, or into the line
end before them. -/

/-- Tokens that spell the same up to the lines. -/
def SameWords (ts us : List Token) : Prop :=
  List.Forall₂ (Token.Like Eq fun _ _ => True) (significant ts) (significant us)

/-- `Resumes free us cs new`: the text `new` has the tokens `us` of `cs` in another layout.  Behind
their blanks the two texts begin alike, there are blanks in `new` where there are some in `cs`, and
where they are not free there are no more; and wherever `new` stands, it is cut into the same words
from there on. -/
structure Resumes (free : Bool) (us : List Token) (cs new : List Char) : Prop where
  parts : ∃ sp mid sp' mid', cs = sp ++ mid ∧ new = sp' ++ mid' ∧
    (∀ c ∈ sp, isSpace c = true) ∧ (∀ c ∈ sp', isSpace c = true) ∧ (sp' = [] → sp = []) ∧
    (free = false → sp = [] → sp' = []) ∧ Front mid mid' ∧
    ∀ q, ∃ vs, Lexed q mid' vs [] ∧ SameWords us vs

theorem Resumes.lexed {free : Bool} {us : List Token} {cs new : List Char}
    (h : Resumes free us cs new) (q : Position) : ∃ vs, Lexed q new vs [] ∧ SameWords us vs := by
  obtain ⟨_, _, sp', mid', -, rfl, -, hsp', -, -, front, hmid'⟩ := h.parts
  obtain ⟨bs, hbs, hnone, hspelling, -⟩ := lexed_blanks hsp' front.stops_space q
  obtain ⟨vs, hvs, same⟩ := hmid' (q.after sp')
  refine ⟨bs ++ vs, hbs.trans (hspelling ▸ hvs), ?_⟩
  rw [SameWords, significant_append, hnone]
  exact same

section Steps

variable {free : Bool} {t : Token} {us : List Token} {cs mid new sp : List Char}

/-- Blanks melt into those that are put beside them. -/
theorem Resumes.blank (hcut : t.terminal.cut cs = some (t.lexeme, mid)) (ht : t.terminal = .blank)
    (hsp : Blanks free sp) (h : Resumes true us mid new) :
    Resumes free (t :: us) cs (sp ++ (t.lexeme ++ new)) := by
  obtain ⟨rfl, hlexeme⟩ := t.terminal.cuts.sound hcut
  have hspace : ∀ c ∈ t.lexeme, isSpace c = true := fun c hc =>
    isSpace_of_blank ⟨ht, ht ▸ hlexeme⟩ hc
  obtain ⟨sp₁, mid₁, sp₂, mid₂, rfl, rfl, hsp₁, hsp₂, -, -, front, hmid₂⟩ := h.parts
  refine ⟨t.lexeme ++ sp₁, mid₁, sp ++ (t.lexeme ++ sp₂), mid₂, ?_, ?_, ?_, ?_, ?_, ?_, front, ?_⟩
  · rw [List.append_assoc]
  · rw [List.append_assoc, List.append_assoc]
  · exact List.forall_mem_append.mpr ⟨hspace, hsp₁⟩
  · exact List.forall_mem_append.mpr ⟨hsp.space, List.forall_mem_append.mpr ⟨hspace, hsp₂⟩⟩
  · intro hnil
    exact absurd (List.append_eq_nil_iff.mp (List.append_eq_nil_iff.mp hnil).2).1 hlexeme.ne_nil
  · intro _ hnil
    exact absurd (List.append_eq_nil_iff.mp hnil).1 hlexeme.ne_nil
  · intro q
    obtain ⟨vs, hvs, same⟩ := hmid₂ q
    refine ⟨vs, hvs, ?_⟩
    rw [SameWords, significant_cons_blank us ht]
    exact same

/-- A line end takes the blanks that are put behind it. -/
theorem Resumes.line {l : List Char} (hcut : t.terminal.cut cs = some (t.lexeme, mid))
    (ht : t.terminal = .newline) (hsp : Blanks free sp) (hl : Terminal.newline.Lexeme l)
    (h : Resumes true us mid new) : Resumes free (t :: us) cs (sp ++ (l ++ new)) := by
  obtain ⟨rfl, hlexeme⟩ := t.terminal.cuts.sound hcut
  rw [ht] at hcut hlexeme
  obtain ⟨sp₁, mid₁, sp₂, mid₂, rfl, rfl, hsp₁, hsp₂, -, -, front, hmid₂⟩ := h.parts
  -- there were no blanks behind the line end
  have hnil : sp₁ = [] := by
    cases sp₁ with
    | nil => rfl
    | cons c sp₁ =>
        have hstops : isLayout c = false := stops_cons.mp (cutRun_stops hcut)
        rw [isLayout_of_isSpace (hsp₁ c List.mem_cons_self)] at hstops
        exact nomatch hstops
  subst hnil
  have hstops : Stops isLayout mid₂ := cutRun_stops (cut_front hcut front)
  have longer : Terminal.newline.Lexeme (l ++ sp₂) :=
    lexeme_longer hl fun c hc => isLayout_of_isSpace (hsp₂ c hc)
  obtain ⟨c, d, r, r', hc, hd, hr, hr'⟩ : ∃ c d r r', (!isInline c) = true ∧ (!isInline d) = true ∧
      t.lexeme = c :: r ∧ l = d :: r' := by
    obtain ⟨c, r, hr, hc, -⟩ := hlexeme
    obtain ⟨d, r', hr', hd, -⟩ := hl
    exact ⟨c, d, r, r', hc, hd, hr, hr'⟩
  refine ⟨[], t.lexeme ++ ([] ++ mid₁), sp, l ++ (sp₂ ++ mid₂), rfl, rfl, nofun, hsp.space,
    fun _ => rfl, fun hfree _ => hsp.none hfree, ?_, ?_⟩
  · rw [hr, hr']
    exact .line hc hd
  · intro q
    obtain ⟨vs, hvs, same⟩ := hmid₂ (q.after (l ++ sp₂))
    let t' : Token := ⟨.newline, l ++ sp₂, q⟩
    refine ⟨t' :: vs, ?_, ?_⟩
    · rw [← List.append_assoc]
      exact .cons rfl (Terminal.newline.cuts.complete longer hstops) hvs
    · have ht' : t'.terminal ≠ .blank := nofun
      rw [SameWords, significant_cons us (by rw [ht]; exact nofun), significant_cons vs ht']
      refine .cons ⟨?_, longer, trivial⟩ same
      simp only [Says, Token.word, ht, t']

theorem Resumes.word (hcut : t.terminal.cut cs = some (t.lexeme, mid))
    (hblank : t.terminal ≠ .blank) (hnewline : t.terminal ≠ .newline) (hsp : Blanks free sp)
    (h : Resumes (t.terminal != .comment) us mid new) :
    Resumes free (t :: us) cs (sp ++ (t.lexeme ++ new)) := by
  obtain ⟨rfl, hlexeme⟩ := t.terminal.cuts.sound hcut
  have hstays : t.terminal.cut (t.lexeme ++ new) = some (t.lexeme, new) := by
    obtain ⟨sp₁, mid₁, sp₂, mid₂, rfl, rfl, hsp₁, hsp₂, hsome, hnone, front, -⟩ := h.parts
    cases sp₂ with
    | nil =>
        obtain rfl := hsome rfl
        exact cut_front hcut front
    | cons c sp₂ =>
        have hc : isSpace c = true := hsp₂ c List.mem_cons_self
        refine t.terminal.cuts.complete hlexeme (stops_cons.mpr ?_)
        refine continues_space (fun hcomment => ?_) hnewline hblank hc
        -- a comment reaches to the end of its line, and no blank is put behind it
        have hnil : sp₁ = [] := by
          cases sp₁ with
          | nil => rfl
          | cons d sp₁ =>
              have hd : isSpace d = true := hsp₁ d List.mem_cons_self
              have hinline : isInline d = true := by
                rcases isSpace_iff.mp hd with rfl | rfl
                · rfl
                · rfl
              rcases t.terminal.cut_stops hcut with hstops | ⟨hnumber, -⟩
              · rw [hcomment] at hstops
                exact nomatch hinline.symm.trans (stops_cons.mp hstops)
              · exact nomatch hcomment.symm.trans hnumber
        have hfree : (t.terminal != .comment) = false := by
          rw [hcomment]
          rfl
        exact nomatch hnone hfree hnil
  refine ⟨[], t.lexeme ++ mid, sp, t.lexeme ++ new, rfl, rfl, nofun, hsp.space, fun _ => rfl,
    fun hfree _ => hsp.none hfree, .word hlexeme hblank hnewline, ?_⟩
  intro q
  obtain ⟨vs, hvs, same⟩ := h.lexed (q.after t.lexeme)
  let t' : Token := ⟨t.terminal, t.lexeme, q⟩
  refine ⟨t' :: vs, .cons rfl hstays hvs, ?_⟩
  have ht' : t'.terminal ≠ .blank := hblank
  rw [SameWords, significant_cons us hblank, significant_cons vs ht']
  exact .cons ⟨says_of_eq (fun _ => rfl) rfl, hlexeme, trivial⟩ same

end Steps

theorem Lexed.relaid {p : Position} {cs rest : List Char} {us : List Token}
    (h : Lexed p cs us rest) (hrest : rest = []) : ∀ {free : Bool} {new : List Char},
      Relaid free (us.map Token.word) new → Resumes free us cs new := by
  induction h with
  | nil =>
      intro free new hnew
      subst hrest
      cases hnew with
      | nil hsp =>
          exact ⟨[], [], new, [], rfl, (List.append_nil new).symm, nofun, hsp.space, fun _ => rfl,
            fun hfree _ => hsp.none hfree, .nil, fun q => ⟨[], .nil, .nil⟩⟩
  | @cons p cs mid rest t us hp hcut hlexed ih =>
      intro free new hnew
      generalize hw : (t :: us).map Token.word = ws at hnew
      cases hnew with
      | nil _ => exact nomatch hw
      | line hsp hl hrelaid =>
          obtain ⟨hword, rfl⟩ := List.cons.inj hw
          exact .line hcut (congrArg Prod.fst hword) hsp hl (ih hrest hrelaid)
      | word hsp hnewline hrelaid =>
          obtain ⟨rfl, rfl⟩ := List.cons.inj hw
          by_cases hblank : t.terminal = .blank
          · have hfree : (t.word.1 != .comment) = true := by
              rw [show t.word.1 = .blank from hblank]
              rfl
            rw [hfree] at hrelaid
            exact .blank hcut hblank hsp (ih hrest hrelaid)
          · exact .word hcut hblank hnewline hsp (ih hrest hrelaid)

/-! ## Other line ends

A line feed stands in no lexeme but those of line ends, so that to replace line
feeds touches nothing else. -/

/-- A text with `e` in place of every line feed. -/
def withLineEnds (e : List Char) (cs : List Char) : List Char :=
  cs.flatMap fun c => if c = '\n' then e else [c]

theorem withLineEnds_eq_self {e cs : List Char} (h : '\n' ∉ cs) : withLineEnds e cs = cs := by
  induction cs with
  | nil => rfl
  | cons c cs ih =>
      obtain ⟨hc, hcs⟩ := not_or.mp (mt List.mem_cons.mpr h)
      rw [withLineEnds, List.flatMap_cons, if_neg (Ne.symm hc)]
      exact congrArg (c :: ·) (ih hcs)

theorem lexeme_withLineEnds {e l : List Char} (he : Terminal.newline.Lexeme e)
    (hl : Terminal.newline.Lexeme l) : Terminal.newline.Lexeme (withLineEnds e l) := by
  obtain ⟨c, cs, rfl, hc, hcs⟩ := hl
  have layout : ∀ x ∈ e, isLayout x = true := by
    obtain ⟨d, ds, rfl, hd, hds⟩ := he
    have hfirst : isLayout d = true := by
      rw [isLayout, show (!isInline d) = true from hd, Bool.or_true]
    exact List.forall_mem_cons.mpr ⟨hfirst, hds⟩
  have others : ∀ x ∈ withLineEnds e cs, isLayout x = true := by
    intro x hx
    obtain ⟨d, hd, hx⟩ := List.mem_flatMap.mp hx
    split at hx
    · exact layout x hx
    · rw [List.mem_singleton.mp hx]
      exact hcs d hd
  have first : Terminal.newline.Lexeme (if c = '\n' then e else [c]) := by
    split
    · exact he
    · exact ⟨c, [], rfl, hc, List.forall_mem_nil _⟩
  rw [withLineEnds, List.flatMap_cons]
  exact lexeme_longer first others

theorem relaid_withLineEnds {e : List Char} (he : Terminal.newline.Lexeme e) :
    ∀ {us : List Token}, (∀ t ∈ us, t.Is t.terminal) → ∀ free : Bool,
      Relaid free (us.map Token.word) (withLineEnds e (spelling us))
  | [], _, free => .nil (blanks_nil free)
  | t :: us, h, free => by
      obtain ⟨ht, hus⟩ := List.forall_mem_cons.mp h
      have parts : withLineEnds e (spelling (t :: us)) =
          [] ++ (withLineEnds e t.lexeme ++ withLineEnds e (spelling us)) := by
        rw [spelling, List.flatMap_cons, withLineEnds, List.flatMap_append]
        rfl
      rw [parts, List.map_cons]
      by_cases hnewline : t.terminal = .newline
      · rw [Token.word, hnewline]
        exact .line (blanks_nil free) (lexeme_withLineEnds he (hnewline ▸ ht.2))
          (relaid_withLineEnds he hus true)
      · have hlexeme : '\n' ∉ t.lexeme := fun hmem =>
          (ht.2.break hmem rfl).elim hnewline fun hstring => hstring.2 rfl
        rw [withLineEnds_eq_self hlexeme]
        exact .word (w := t.word) (blanks_nil free) hnewline (relaid_withLineEnds he hus _)

/-! ## Layout alone

Blanks and line ends at the ends of a text are tokens of their own, or melt into
those that are there. -/

theorem read_layout {y : List Char} (hy : ∀ c ∈ y, isLayout c = true) : ∃ ls, Read y [] ls := by
  obtain ⟨ls, hls, hbreak, -⟩ := lexed_layout hy (stops_nil _) .first
  rw [List.append_nil] at hls
  exact ⟨ls, hls, significant ls, [], hbreak, .nil, (List.append_nil _).symm⟩

/-- Blanks and line ends behind a program change nothing. -/
theorem Read.followed {cs y : List Char} {p : Program} {us : List Token} (h : Read cs p us)
    (hy : ∀ c ∈ y, isLayout c = true) : parse (cs ++ y) = .program p := by
  obtain ⟨ls, hls⟩ := read_layout hy
  obtain ⟨q, ws, like, read⟩ := h.join hls
  obtain rfl : q = [] := like.eq_nil.mpr rfl
  rw [List.append_nil] at read
  exact read.parse_eq

/-- Blanks and line ends in front of a program move it further down. -/
theorem Read.led {cs y : List Char} {p : Program} {us : List Token} (h : Read cs p us)
    (hy : ∀ c ∈ y, isLayout c = true) :
    parse (y ++ cs) = .program (loweredAll (y.count '\n') p) := by
  obtain ⟨ls, hls⟩ := read_layout hy
  obtain ⟨q, ws, like, read⟩ := hls.join h
  obtain rfl := like.eq_lowered
  exact read.parse_eq

end Grammar

/-! ## Programs in another layout

The words are the same up to line ends, and so the tree is the same up to the
lines. -/

open Grammar

/-- `Relayout s s'`: the words that the parser finds in `s`, in another layout, make up `s'`. -/
def Relayout (s s' : String) : Prop :=
  Relaid true ((consumed s.toList).map Token.word) s'.toList

/-- Layout does not matter.  A program in another layout is the same program up to the lines of its
commands; so are the programs with any other line end in place of each line feed, and with blanks
and line ends in front of the text.  Behind the text they do not even change the lines, and least of
all does the line end that completes a text. -/
theorem layout_is_immaterial {s : String} {p : Program} (h : Program.parse s = .ok p) :
    (∀ {s' : String}, Relayout s s' → ∃ q, Program.parse s' = .ok q ∧ bareAll q = bareAll p) ∧
    (∀ {e : List Char}, Terminal.newline.Lexeme e →
      ∃ q, Program.parse (String.ofList (withLineEnds e s.toList)) = .ok q ∧
        bareAll q = bareAll p) ∧
    (∀ {y : String}, (∀ c ∈ y.toList, isLayout c = true) →
      Program.parse (y ++ s) = .ok (loweredAll (y.toList.count '\n') p) ∧
        Program.parse (s ++ y) = .ok p) ∧
    Program.parse (completed s) = .ok p := by
  obtain ⟨hlexed, hspells⟩ := consumed_spells (Program.parse_eq_ok_iff.mp h)
  have read : Read s.toList p (consumed s.toList) := ⟨hlexed, hspells⟩
  have relaid : ∀ {s' : String}, Relayout s s' →
      ∃ q, Program.parse s' = .ok q ∧ bareAll q = bareAll p := by
    intro s' hs'
    obtain ⟨vs, hvs, same⟩ := (hlexed.relaid rfl hs').lexed .first
    obtain ⟨q, like, hq⟩ := hspells.like same
    have parsed : parse s'.toList = .program q := parse_eq_program_iff.mpr ⟨vs, hvs, hq⟩
    exact ⟨q, Program.parse_eq_ok_iff.mpr parsed, like.bare_eq⟩
  have followed : ∀ {y : String}, (∀ c ∈ y.toList, isLayout c = true) →
      Program.parse (s ++ y) = .ok p := by
    intro y hy
    rw [Program.parse_eq_ok_iff, String.toList_append]
    exact read.followed hy
  refine ⟨relaid, fun {e} he => relaid ?_, fun {y} hy => ⟨?_, followed hy⟩, ?_⟩
  · rw [Relayout, String.toList_ofList]
    have other := relaid_withLineEnds he hlexed.is true
    rwa [read.spelling_eq] at other
  · rw [Program.parse_eq_ok_iff, String.toList_append]
    exact read.led hy
  · unfold completed
    split
    · exact h
    · exact h
    · exact followed (y := "\n") (List.all_eq_true.mp rfl)

/-- A program with no blank in it, and the same program with blanks and other line ends. -/
theorem layout_is_immaterial_glued :
    let s := "REPEATn[FDx#y\nRTz]\n"
    let s' := "\t REPEAT n[FD x\t#y\r\n\n  RT z ]\r "
    let one := fun name => Expr.chain .comparison (.chain .sum (.chain .product
      (.factor (.ident name)) .nil) .nil) .nil
    let p : Program := [.loop (one "n") [.order .forward (one "x") (some 1),
      .comment "#y" (some 1), .order .right (one "z") (some 2)] (some 1)]
    Program.parse s = .ok p ∧ Relayout s s' ∧
      (∃ q, Program.parse s' = .ok q ∧ bareAll q = bareAll p) ∧
      (∃ q, Program.parse "REPEATn[FDx#y\r\nRTz]\r\n" = .ok q ∧ bareAll q = bareAll p) ∧
      Program.parse "\n REPEATn[FDx#y\nRTz]\n" = .ok (loweredAll 1 p) ∧
      Program.parse "REPEATn[FDx#y\nRTz]\n\n " = .ok p := by
  intro s s' one p
  have parsed : Program.parse "REPEATn[FDx#y\nRTz]\n" = .ok p := rfl
  have relaid : Relayout "REPEATn[FDx#y\nRTz]\n" "\t REPEAT n[FD x\t#y\r\n\n  RT z ]\r " := by
    have blank : Blanks true [' '] := blanks_of_all rfl
    show Relaid true [(.keyword .loop, "REPEAT".toList), (.atom .ident, ['n']), bracketWord .lsqb,
      (.keyword (.order .forward true), ['F', 'D']), (.atom .ident, ['x']), (.comment, ['#', 'y']),
      breakWord, (.keyword (.order .right true), ['R', 'T']), (.atom .ident, ['z']),
      bracketWord .rsqb, breakWord]
      (['\t', ' '] ++ ("REPEAT".toList ++ ([' '] ++ (['n'] ++ ([] ++ (['['] ++ ([] ++
      (['F', 'D'] ++ ([' '] ++ (['x'] ++ (['\t'] ++ (['#', 'y'] ++ ([] ++ (['\r', '\n', '\n'] ++
      ([' ', ' '] ++ (['R', 'T'] ++ ([' '] ++ (['z'] ++ ([' '] ++ ([']'] ++ ([] ++ (['\r'] ++
      [' ']))))))))))))))))))))))
    exact .word (blanks_of_all rfl) nofun (.word blank nofun (.word (blanks_nil _) nofun
      (.word (blanks_nil _) nofun (.word blank nofun (.word (blanks_of_all rfl) nofun
      (.line (blanks_nil _) ⟨'\r', ['\n', '\n'], rfl, rfl, List.all_eq_true.mp rfl⟩
      (.word (blanks_of_all rfl) nofun (.word blank nofun (.word blank nofun
      (.line (blanks_nil _) ⟨'\r', [], rfl, rfl, nofun⟩ (.nil blank)))))))))))
  obtain ⟨other, ends, around, -⟩ := layout_is_immaterial parsed
  have crlf : Terminal.newline.Lexeme ['\r', '\n'] :=
    ⟨'\r', ['\n'], rfl, rfl, List.all_eq_true.mp rfl⟩
  obtain ⟨front, behind⟩ := around (y := "\n ") (List.all_eq_true.mp rfl)
  exact ⟨parsed, relaid, other relaid, ends crlf, front, behind⟩

end TurtleLogo
