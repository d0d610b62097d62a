/-
# `TurtleLogo.Proofs.Program.Splitting` — a text cut in two behind a line feed

The text of a program can be cut behind any line feed up to which the brackets
are balanced.  What stands before it is a program, what stands behind it is
another, and one after the other they are the whole, except that the second
counts its lines from its own start (`Read.cut`).

The line feed need not be the end of its token: a line end takes all blanks and
line ends that follow it.  Then the token is divided, and its second half is
read as blanks and one more line end.
-/
import TurtleLogo.Proofs.Grammar.Likeness
import TurtleLogo.Proofs.Grammar.Nesting

namespace TurtleLogo.Grammar

open Text

/-! ## Characters of lexemes

To cut a text within a token, one has to know which token it is: a line feed
stands in line ends and nowhere else. -/

theorem isWordChar_of_startsName {c : Char} (h : startsName c = true) : isWordChar c = true := by
  unfold startsName capital? at h
  split at h
  · next hletter => simp [isWordChar, hletter]
  · split at h
    · next hc =>
      rw [eq_of_beq hc]
      decide +kernel
    · split at h
      · next hc =>
        rw [eq_of_beq hc]
        decide +kernel
      · split at h
        · next hc =>
          rcases Bool.or_eq_true_iff.mp hc with hc | hc
          · rw [eq_of_beq hc]
            decide +kernel
          · rw [eq_of_beq hc]
            decide +kernel
        · have hc : c = '_' := by simpa using h
          rw [hc]
          decide +kernel

def Terminal.isWord : Terminal → Bool
  | .atom .ident | .keyword _ => true
  | _ => false

/-- Terminals whose lexemes are made of digits and punctuation. -/
def Terminal.isMark : Terminal → Bool
  | .atom .number | .blank | .addOp | .mulOp | .caret | .sign _ | .bracket _ => true
  | _ => false

def Terminal.marks : Terminal → List Char
  | .atom .number => ['.', '+', '-']
  | .blank => [' ', '\t']
  | .addOp => ['+', '-']
  | .mulOp => ['*', '/']
  | .caret => ['^']
  | .sign s => [s.char]
  | .bracket b => [b.char]
  | _ => []

theorem Worded.startsName {word l : List Char} (h : Worded word l) {c : Char} (hc : c ∈ l) :
    startsName c = true := by
  induction h with
  | nil => exact nomatch hc
  | cons hletter _ ih =>
      rcases List.mem_cons.mp hc with rfl | hc
      · exact startsName_of_isLetter hletter
      · exact ih hc

theorem Terminal.Lexeme.word_char {t : Terminal} {l : List Char} (h : t.Lexeme l)
    (ht : t.isWord = true) {c : Char} (hc : c ∈ l) : isWordChar c = true := by
  match t, ht, h with
  | .atom .ident, _, h =>
      obtain ⟨d, ds, rfl, hd, hds⟩ := h
      rcases List.mem_cons.mp hc with rfl | hc
      · exact isWordChar_of_startsName hd
      · exact hds c hc
  | .keyword _, _, h => exact isWordChar_of_startsName (Worded.startsName h hc)

theorem Digits.char {l : List Char} (h : Digits l) {c : Char} (hc : c ∈ l) :
    isDigit c = true ∨ c = '.' := by
  cases h with
  | whole _ hds => exact .inl (hds c hc)
  | point hds _ hfs =>
      rcases List.mem_append.mp hc with hc | hc
      · exact .inl (hds c hc)
      · rcases List.mem_cons.mp hc with rfl | hc
        · exact .inr rfl
        · exact .inl (hfs c hc)

theorem Numeral.char {l : List Char} (h : Numeral l) {c : Char} (hc : c ∈ l) :
    isDigit c = true ∨ c ∈ ['.', '+', '-'] := by
  have digits : ∀ {ds : List Char}, Digits ds → c ∈ ds → isDigit c = true ∨ c ∈ ['.', '+', '-'] :=
    fun hds hc => (hds.char hc).imp_right fun hpoint => by simp [hpoint]
  cases h with
  | unsigned hds => exact digits hds hc
  | signed hsign hds =>
      rcases List.mem_cons.mp hc with rfl | hc
      · rcases hsign with rfl | rfl
        · exact .inr (by decide)
        · exact .inr (by decide)
      · exact digits hds hc

theorem Terminal.Lexeme.mark_char {t : Terminal} {l : List Char} (h : t.Lexeme l)
    (ht : t.isMark = true) {c : Char} (hc : c ∈ l) : isDigit c = true ∨ c ∈ t.marks := by
  have single : ∀ {q : Char → Bool} {marks : List Char}, Single q l →
      (∀ d, q d = true → d ∈ marks) → c ∈ marks := by
    rintro q marks ⟨d, rfl, hd⟩ hq
    obtain rfl := List.mem_singleton.mp hc
    exact hq c hd
  match t, ht, h with
  | .atom .number, _, h => exact Numeral.char h hc
  | .blank, _, h =>
      obtain ⟨d, ds, rfl, hd, hds⟩ := h
      have space : isSpace c = true := by
        rcases List.mem_cons.mp hc with rfl | hc
        · exact hd
        · exact hds c hc
      exact .inr (by simpa [Terminal.marks] using isSpace_iff.mp space)
  | .addOp, _, h => exact .inr (single h (by simp [Terminal.marks]))
  | .mulOp, _, h => exact .inr (single h (by simp [Terminal.marks]))
  | .caret, _, h => exact .inr (single h (by simp [Terminal.marks]))
  | .sign s, _, h => exact .inr (single h (by simp [Terminal.marks]))
  | .bracket b, _, h => exact .inr (single h (by simp [Terminal.marks]))

theorem Escaped.linefeed_notMem {cs : List Char} (h : Escaped cs) : '\n' ∉ cs := by
  induction h with
  | nil => exact nofun
  | plain _ _ hc _ ih => simp [hc.symm, ih]
  | pair hc _ ih => simp [hc.symm, ih]

/-- A line end stands in a token for line ends, or it is a carriage return in a string. -/
theorem Terminal.Lexeme.break {t : Terminal} {l : List Char} (h : t.Lexeme l) {c : Char}
    (hc : c ∈ l) (hbreak : (!isInline c) = true) :
    t = .newline ∨ t = .atom .string ∧ c ≠ '\n' := by
  have inline : isInline c = false := by simpa using hbreak
  have unnamed : startsName c = false ∧ isWordChar c = false ∧ isDigit c = false := by
    rcases not_isInline_iff.mp hbreak with rfl | rfl <;> decide
  by_cases word : t.isWord = true
  · exact absurd (h.word_char word hc) (by simp [unnamed.2.1])
  by_cases mark : t.isMark = true
  · have unmarked : ∀ t ∈ Terminal.all, '\r' ∉ t.marks ∧ '\n' ∉ t.marks := by decide
    rcases h.mark_char mark hc with hc | hc
    · exact absurd hc (by simp [unnamed.2.2])
    · rcases not_isInline_iff.mp hbreak with rfl | rfl
      · exact absurd hc (unmarked t t.mem_all).1
      · exact absurd hc (unmarked t t.mem_all).2
  · match t, word, mark, h with
    | .newline, _, _, _ => exact .inl rfl
    | .comment, _, _, h =>
        have inlines : ∀ {cs : List Char}, (∀ d ∈ cs, isInline d = true) → c ∉ cs :=
          fun hcs hc => absurd (hcs c hc) (by simp [inline])
        have remark : Remark l := h
        cases remark with
        | mark hcs =>
            rcases List.mem_cons.mp hc with rfl | hc
            · exact absurd inline (by decide)
            · exact absurd hc (inlines hcs)
        | word hw _ hcs =>
            rcases List.mem_append.mp hc with hc | hc
            · exact absurd (hw.startsName hc) (by simp [unnamed.1])
            · exact absurd hc (inlines hcs)
    | .atom .string, _, _, h =>
        obtain ⟨cs, rfl, hcs⟩ := h
        refine .inr ⟨rfl, ?_⟩
        rintro rfl
        rw [List.mem_cons, List.mem_append, List.mem_singleton] at hc
        rcases hc with hc | hc | hc
        · exact absurd hc (by decide)
        · exact hcs.linefeed_notMem hc
        · exact absurd hc (by decide)

theorem isSpace_of_blank {t : Token} (h : t.Is .blank) {c : Char} (hc : c ∈ t.lexeme) :
    isSpace c = true := by
  obtain ⟨-, d, ds, hlexeme, hd, hds⟩ := h
  rw [hlexeme] at hc
  rcases List.mem_cons.mp hc with rfl | hc
  · exact hd
  · exact hds c hc

theorem isLayout_of_isSpace {c : Char} (h : isSpace c = true) : isLayout c = true := by
  rw [isLayout, h, Bool.true_or]

/-! ## Cutting a text

The line feed at the place of the cut belongs to a line end outside brackets.
What stands before it is closed by that line end; behind it the rest of the layout
is read anew. -/

theorem Lexed.append_inv {rest : List Char} {vs : List Token} : ∀ {us : List Token} {p : Position}
    {cs : List Char}, Lexed p cs (us ++ vs) rest →
      ∃ mid, Lexed p cs us mid ∧ Lexed (p.after (spelling us)) mid vs rest
  | [], _, cs, h => ⟨cs, .nil, h⟩
  | u :: us, p, cs, .cons hp hcut h => by
      obtain ⟨mid, hus, hvs⟩ := Lexed.append_inv h
      refine ⟨mid, .cons hp hcut hus, ?_⟩
      rw [← Position.after_append] at hvs
      exact hvs

/-- Behind line ends, what comes next is not layout. -/
theorem Lexed.stops_layout {p : Position} {cs rest : List Char} {us : List Token}
    (h : Lexed p cs us rest) : ∀ t ∈ us.getLast?, t.terminal = .newline → Stops isLayout rest := by
  induction h with
  | nil => exact fun t ht => nomatch ht
  | @cons p cs mid rest t us _ hcut hlexed ih =>
      intro u hu hnewline
      cases us with
      | cons v vs => exact ih u hu hnewline
      | nil =>
          obtain rfl : t = u := Option.some.inj hu
          cases hlexed
          rcases t.terminal.cut_stops hcut with hstops | ⟨hnumber, -⟩
          · rw [hnewline] at hstops
            exact hstops
          · rw [hnewline] at hnumber
            exact nomatch hnumber

/-- The tokens in front of a line end stand there as well in front of another one. -/
theorem Lexed.recut {p : Position} {cs rest l : List Char} {us vs : List Token} {t : Token}
    (h : Lexed p cs (us ++ t :: vs) rest) (ht : t.terminal = .newline)
    (hl : Terminal.newline.Lexeme l) :
    Lexed p (spelling us ++ l) (us ++ [⟨.newline, l, t.start⟩]) [] := by
  obtain ⟨mid, hus, hmid⟩ := h.append_inv
  obtain ⟨c, cs', rfl, hc, hcs'⟩ := hl
  have hstops : ∀ u ∈ us.getLast?, Stops u.terminal.continues (c :: cs') := by
    intro u hu
    refine stops_cons.mpr (continues_break (fun hnewline => ?_) hc)
    -- two tokens for line ends cannot follow each other
    have hlayout := hus.stops_layout u hu hnewline
    cases hmid with
    | cons _ hcut _ =>
        obtain ⟨rfl, d, ds, hlexeme, hd, -⟩ := ht ▸ t.terminal.cuts.sound hcut
        rw [hlexeme, List.cons_append, stops_cons] at hlayout
        simp [isLayout, hd] at hlayout
  refine (hus.swap hstops).trans ?_
  cases hmid with
  | cons hstart _ _ =>
      refine .cons hstart ?_ .nil
      have hcut := (Terminal.newline.cuts).complete ⟨c, cs', rfl, hc, hcs'⟩ (stops_nil _)
      rwa [List.append_nil] at hcut

theorem significant_append (us vs : List Token) :
    significant (us ++ vs) = significant us ++ significant vs :=
  List.filter_append _ _

theorem lexed_break {z rest : List Char} (hz : ∀ c ∈ z, isLayout c = true)
    (hfront : Stops isSpace z) (hrest : Stops isLayout rest) (p : Position) :
    ∃ ls, Lexed p (z ++ rest) ls rest ∧ Break (significant ls) ∧ spelling ls = z ∧
      ∀ t ∈ ls, t.nesting = 0 := by
  cases z with
  | nil => exact ⟨[], .nil, .none, rfl, nofun⟩
  | cons c z =>
      have hc : (!isInline c) = true := by
        have hlayout := hz c List.mem_cons_self
        rwa [isLayout, stops_cons.mp hfront, Bool.false_or] at hlayout
      have hlexeme : Terminal.newline.Lexeme (c :: z) :=
        ⟨c, z, rfl, hc, fun d hd => hz d (List.mem_cons_of_mem c hd)⟩
      refine ⟨[⟨.newline, c :: z, p⟩], ?_, .line ⟨rfl, hlexeme⟩, List.append_nil _, ?_⟩
      · exact .cons rfl (Terminal.newline.cuts.complete hlexeme hrest) .nil
      · intro t ht
        rw [List.mem_singleton.mp ht]
        rfl

theorem lexed_blanks {sp rest : List Char} (hsp : ∀ c ∈ sp, isSpace c = true)
    (hrest : Stops isSpace rest) (p : Position) :
    ∃ bs, Lexed p (sp ++ rest) bs rest ∧ significant bs = [] ∧ spelling bs = sp ∧
      ∀ t ∈ bs, t.nesting = 0 := by
  cases sp with
  | nil => exact ⟨[], .nil, rfl, rfl, nofun⟩
  | cons c sp =>
      have hlexeme : Terminal.blank.Lexeme (c :: sp) :=
        ⟨c, sp, rfl, hsp c List.mem_cons_self, fun d hd => hsp d (List.mem_cons_of_mem c hd)⟩
      refine ⟨[⟨.blank, c :: sp, p⟩], ?_, significant_cons_blank [] rfl, List.append_nil _, ?_⟩
      · exact .cons rfl (Terminal.blank.cuts.complete hlexeme hrest) .nil
      · intro t ht
        rw [List.mem_singleton.mp ht]
        rfl

theorem lexed_layout {y rest : List Char} (hy : ∀ c ∈ y, isLayout c = true)
    (hrest : Stops isLayout rest) (p : Position) :
    ∃ ls, Lexed p (y ++ rest) ls rest ∧ Break (significant ls) ∧ spelling ls = y ∧
      ∀ t ∈ ls, t.nesting = 0 := by
  have hsplit : (cutWhile isSpace y).1 ++ (cutWhile isSpace y).2 = y := cutWhile_join isSpace y
  have hspaces : ∀ c ∈ (cutWhile isSpace y).1, isSpace c = true := cutWhile_all
  have hfront := cutWhile_stops isSpace y
  generalize (cutWhile isSpace y).1 = sp at hsplit hspaces
  generalize (cutWhile isSpace y).2 = z at hsplit hfront
  subst hsplit
  have hz : ∀ c ∈ z, isLayout c = true := fun c hc => hy c (List.mem_append_right sp hc)
  have hstops : Stops isSpace (z ++ rest) := by
    cases z with
    | nil => exact hrest.mono fun d hd => isLayout_of_isSpace hd
    | cons d z => exact stops_cons.mpr (stops_cons.mp hfront)
  obtain ⟨bs, hbs, hnone, hspelling, hlevel⟩ := lexed_blanks hspaces hstops p
  obtain ⟨ls, hls, hbreak, hspelling', hlevel'⟩ := lexed_break hz hfront hrest (p.after sp)
  refine ⟨bs ++ ls, ?_, ?_, ?_, fun t ht => (List.mem_append.mp ht).elim (hlevel t) (hlevel' t)⟩
  · rw [List.append_assoc]
    exact hbs.trans (hspelling ▸ hls)
  · rw [significant_append, hnone]
    exact hbreak
  · rw [spelling, List.flatMap_append]
    exact congrArg₂ (· ++ ·) hspelling hspelling'

/-- `Read cs p us`: the text `cs` is cut into the tokens `us`, which spell the program `p`. -/
structure Read (cs : List Char) (p : Program) (us : List Token) : Prop where
  lexed : Lexed .first cs us []
  spells : SpellsProgram p (significant us)

theorem Read.spelling_eq {cs : List Char} {p : Program} {us : List Token} (h : Read cs p us) :
    spelling us = cs := by
  rw [h.lexed.spelling_append, List.append_nil]

theorem Read.parse_eq {cs : List Char} {p : Program} {us : List Token} (h : Read cs p us) :
    parse cs = .program p :=
  parse_eq_program_iff.mpr ⟨us, h.lexed, h.spells⟩

/-- The token for line ends in which a line end of a text stands, and the brackets before it. -/
theorem Read.line_end {a b : List Char} {c : Char} {p : Program} {us : List Token}
    (h : Read (a ++ c :: b) p us) (hc : c = '\n' ∨ c = '\r' ∧ b = []) :
    ∃ us₁ t us₂ x y, us = us₁ ++ t :: us₂ ∧ t.Is .newline ∧ t.lexeme = x ++ c :: y ∧
      a = spelling us₁ ++ x ∧ b = y ++ spelling us₂ ∧ depthAt us a.length = depth us₁ := by
  obtain ⟨us₁, t, us₂, x, y, rfl, hlexeme, rfl, rfl⟩ := spelling_split h.spelling_eq
  have is := h.lexed.is t (by simp)
  have hbreak : (!isInline c) = true := by
    rcases hc with rfl | ⟨rfl, -⟩ <;> rfl
  have hnewline : t.terminal = .newline := by
    rcases is.2.break (c := c) (by simp [hlexeme]) hbreak with h | ⟨hstring, hne⟩
    · exact h
    · -- a string ends with its quote
      obtain ⟨rfl, hnil⟩ := hc.resolve_left hne
      obtain ⟨rfl, -⟩ := List.append_eq_nil_iff.mp hnil
      have quoted := is.2
      rw [hstring] at quoted
      obtain ⟨cs, hquote, -⟩ := quoted
      rw [hlexeme, ← List.cons_append] at hquote
      exact absurd (List.append_inj_right' hquote rfl) (by decide)
  refine ⟨us₁, t, us₂, x, y, rfl, hnewline ▸ is, hlexeme, rfl, rfl, ?_⟩
  rw [List.length_append, depthAt_append, depthAt, if_pos (by simp [hlexeme]), Int.add_zero]

theorem SpellsLines.eq_nil {p : Program} {ts : List Token} (h : SpellsLines p ts) (hts : ts = []) :
    p = [] := by
  cases h with
  | nil => rfl
  | cons _ _ _ => exact absurd hts (by simp)

/-- What stands in front of a line end outside brackets is a program with any line end. -/
theorem Read.before {cs : List Char} {p : Program} {us₁ us₂ : List Token} {t : Token}
    (h : Read cs p (us₁ ++ t :: us₂)) (ht : t.Is .newline) :
    0 ≤ depth us₁ ∧ (depth us₁ = 0 → ∃ p₁ p₂, p = p₁ ++ p₂ ∧ SpellsLines p₂ (significant us₂) ∧
      ∀ l, Terminal.newline.Lexeme l →
        Read (spelling us₁ ++ l) p₁ (us₁ ++ [⟨.newline, l, t.start⟩])) := by
  have spells := h.spells
  rw [significant_append, significant_cons us₂ (by rw [ht.1]; exact nofun)] at spells
  obtain ⟨hnonneg, hcut⟩ := spells.cut ht.1
  rw [depth_significant] at hnonneg hcut
  refine ⟨hnonneg, fun hzero => ?_⟩
  obtain ⟨p₁, p₂, rfl, hp₁, hp₂⟩ := hcut hzero
  refine ⟨p₁, p₂, rfl, hp₂, fun l hl => ⟨h.lexed.recut ht.1 hl, ?_⟩⟩
  rw [significant_append]
  exact hp₁ ⟨.newline, l, t.start⟩ ⟨rfl, hl⟩

/-- The line end at the end of a text. -/
theorem Read.last_line_end {a : List Char} {c : Char} {p : Program} {us : List Token}
    (h : Read (a ++ [c]) p us) (hc : c = '\n' ∨ c = '\r') :
    ∃ us₁ t x, us = us₁ ++ [t] ∧ t.Is .newline ∧ t.lexeme = x ++ [c] ∧ a = spelling us₁ ++ x ∧
      depth us₁ = 0 ∧ depthAt us a.length = 0 := by
  obtain ⟨us₁, t, us₂, x, y, rfl, ht, hlexeme, rfl, hb, hdepth⟩ :=
    h.line_end (hc.imp_right fun hcr => ⟨hcr, rfl⟩)
  obtain ⟨rfl, hus₂⟩ := List.append_eq_nil_iff.mp hb.symm
  have hempty : us₂ = [] := by
    cases us₂ with
    | nil => rfl
    | cons u us₂ => exact absurd (List.append_eq_nil_iff.mp hus₂).1 (h.lexed.is u (by simp)).2.ne_nil
  subst hempty
  have hzero : depth us₁ = 0 := by
    have total := h.spells.depth_eq_zero
    rwa [depth_significant, depth_append, depth_cons, ht.nesting_newline, depth_nil, Int.add_zero,
      Int.add_zero] at total
  exact ⟨us₁, t, x, rfl, ht, hlexeme, rfl, hzero, hdepth.trans hzero⟩

/-- A line end takes all layout that follows it. -/
theorem lexeme_longer {l y : List Char} (hl : Terminal.newline.Lexeme l)
    (hy : ∀ c ∈ y, isLayout c = true) : Terminal.newline.Lexeme (l ++ y) := by
  obtain ⟨d, ds, rfl, hbreak, hds⟩ := hl
  refine ⟨d, ds ++ y, rfl, hbreak, fun e he => ?_⟩
  rcases List.mem_append.mp he with he | he
  · exact hds e he
  · exact hy e he

theorem Read.one_more {a : List Char} {c : Char} {p : Program} {us : List Token}
    (h : Read (a ++ [c]) p us) (hc : c = '\n' ∨ c = '\r') :
    ∃ vs, Read (a ++ [c] ++ ['\n']) p vs := by
  obtain ⟨us₁, t, x, rfl, ht, hlexeme, rfl, hzero, -⟩ := h.last_line_end hc
  obtain ⟨p₁, p₂, rfl, hp₂, hp₁⟩ := (h.before ht).2 hzero
  obtain rfl := hp₂.eq_nil rfl
  have longer : Terminal.newline.Lexeme (x ++ [c] ++ ['\n']) := by
    rw [← hlexeme]
    exact lexeme_longer ht.2 (List.forall_mem_singleton.mpr rfl)
  have read := hp₁ _ longer
  rw [← List.append_assoc, ← List.append_assoc] at read
  rw [List.append_nil]
  exact ⟨_, read⟩

/-- A line end that is divided behind a line feed. -/
theorem lexeme_divided {x y : List Char} (h : Terminal.newline.Lexeme (x ++ '\n' :: y)) :
    Terminal.newline.Lexeme (x ++ ['\n']) ∧ ∀ c ∈ y, isLayout c = true := by
  obtain ⟨d, ds, hd, hbreak, hds⟩ := h
  cases x with
  | nil =>
      obtain ⟨-, rfl⟩ := List.cons.inj hd
      exact ⟨lexeme_break, hds⟩
  | cons e x =>
      obtain ⟨rfl, rfl⟩ := List.cons.inj hd
      refine ⟨⟨e, x ++ ['\n'], rfl, hbreak, fun c hc => hds c ?_⟩, fun c hc => hds c (by simp [hc])⟩
      refine List.mem_append.mpr ((List.mem_append.mp hc).imp_right fun hlast => ?_)
      exact List.mem_cons.mpr (.inl (List.mem_singleton.mp hlast))

/-- A text is cut in two behind a line feed up to which the brackets are balanced. -/
theorem Read.cut {a b : List Char} {p : Program} {us : List Token} (h : Read (a ++ '\n' :: b) p us) :
    0 ≤ depthAt us a.length ∧ (depthAt us a.length = 0 →
      ∃ p₁ p₂ q vs, p = p₁ ++ p₂ ∧ LikeCommands Eq (fun _ _ => True) p₂ q ∧
        parse (a ++ ['\n']) = .program p₁ ∧ Read b q vs ∧ ∀ n, depthAt vs n = depthAt us (a.length + 1 + n)) := by
  obtain ⟨us₁, t, us₂, x, y, rfl, ht, hlexeme, rfl, rfl, hdepth⟩ := h.line_end (.inl rfl)
  obtain ⟨hnonneg, hcut⟩ := h.before ht
  rw [hdepth]
  refine ⟨hnonneg, fun hzero => ?_⟩
  obtain ⟨p₁, p₂, rfl, hp₂, hp₁⟩ := hcut hzero
  -- the token for the line end is divided, and its second part is read as layout
  have hwhole := ht.2
  rw [hlexeme] at hwhole
  obtain ⟨front, back⟩ := lexeme_divided hwhole
  obtain ⟨mid, -, hmid⟩ := h.lexed.append_inv
  cases hmid with
  | @cons _ _ rest _ _ _ _ hcutAt hrest =>
      obtain rfl : rest = spelling us₂ := by rw [hrest.spelling_append, List.append_nil]
      have hstops : Stops isLayout (spelling us₂) := by
        rw [ht.1] at hcutAt
        exact cutRun_stops hcutAt
      obtain ⟨ls, hls, hbreak, hspelling, hlevel⟩ := lexed_layout back hstops .first
      obtain ⟨vs, hvs, hwords, hlike⟩ := hrest.moved (Position.first.after (spelling ls))
      obtain ⟨q, like, hq⟩ := hp₂.like
        (like_significant (hlike (L := fun _ _ => True) fun _ => trivial))
      refine ⟨p₁, p₂, q, ls ++ vs, rfl, like, ?_, ⟨hls.trans hvs, ?_⟩, ?_⟩
      · rw [List.append_assoc]
        exact (hp₁ _ front).parse_eq
      · rw [significant_append]
        exact ⟨_, _, hbreak, hq, rfl⟩
      · intro n
        have hlength : t.lexeme.length = x.length + 1 + y.length := by
          rw [hlexeme, List.length_append, List.length_cons]
          omega
        have hplace : (spelling us₁ ++ x).length + 1 + n =
            (spelling us₁).length + (x.length + 1 + n) := by
          rw [List.length_append]
          omega
        rw [depthAt_level hlevel, hspelling, depthAt_of_words hwords, hplace, depthAt_append, hzero,
          Int.zero_add, depthAt, ht.nesting_newline, Int.zero_add, hlength]
        by_cases hn : n < y.length
        · rw [if_pos hn, if_pos (by omega)]
        · rw [if_neg hn, if_neg (by omega)]
          congr 1
          omega

end TurtleLogo.Grammar
