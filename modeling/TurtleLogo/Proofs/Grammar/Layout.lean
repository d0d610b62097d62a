/-
# `TurtleLogo.Proofs.Grammar.Layout` — texts that are cut into given words

A word is a terminal with a lexeme.  `layout` writes words one after the other,
with a space between two of them unless one is a line end.  Two things could go
wrong when the text is read again: a comment takes all that stands on its line,
and two line ends in a row are one.  Words in which neither happens are legible,
and their layout is cut into these words again (`Legible.lexed`).

Texts are also put together from a part that has already been read and another
end.  Where the last token of the part is not made longer by the new end, the
part is cut as before (`Lexed.swap`).
-/
import Mathlib.Data.List.Chain
import TurtleLogo.Proofs.Grammar.Reading

namespace TurtleLogo.Grammar

open Text

/-! ## First characters of lexemes

What comes next makes a lexeme longer or not by its first character.  Blanks and
line ends make longer only those lexemes that hold such characters themselves. -/

theorem isLayout_false_of_class {p : Char → Bool} {c : Char} (hc : p c = true)
    (hspace : p ' ' = false) (htab : p '\t' = false) (hcr : p '\r' = false)
    (hlf : p '\n' = false) : isLayout c = false := by
  simp [isLayout, isSpace_false_of_class hc hspace htab, isInline_of_class hc hcr hlf]

theorem Terminal.Lexeme.front {t : Terminal} {c : Char} {cs : List Char}
    (h : t.Lexeme (c :: cs)) (hblank : t ≠ .blank) (hnewline : t ≠ .newline) :
    isLayout c = false := by
  by_cases ht : t.atFollow = true
  · cases hc : isLayout c with
    | false => rfl
    | true =>
        have hfront : followFront c = some .blank ∨ followFront c = some .newline := by
          rcases Bool.or_eq_true_iff.mp hc with hc | hc
          · rcases isSpace_iff.mp hc with rfl | rfl <;> exact .inl rfl
          · rcases not_isInline_iff.mp hc with rfl | rfl <;> exact .inr rfl
        rcases followFront_eq ht h with ht | ⟨ht, -⟩
        · rw [ht, Option.some.injEq, Option.some.injEq] at hfront
          rcases hfront with hfront | hfront
          · exact absurd hfront hblank
          · exact absurd hfront hnewline
        · simp [ht] at hfront
  · match t, ht, h with
    | .atom .number, _, h =>
        exact isLayout_false_of_class (Numeral.front h) (by decide) (by decide) (by decide)
          (by decide)
    | .atom .string, _, ⟨_, he, _⟩ =>
        obtain ⟨rfl, -⟩ := List.cons.inj he
        rfl
    | .atom .ident, _, ⟨_, _, he, hc, _⟩ =>
        obtain ⟨rfl, -⟩ := List.cons.inj he
        exact isLayout_false_of_class hc (by decide) (by decide) (by decide) (by decide)
    | .bracket .lpar, _, ⟨_, he, hc⟩ =>
        obtain ⟨rfl, -⟩ := List.cons.inj he
        rw [eq_of_beq hc]
        rfl

theorem continues_space {t : Terminal} {c : Char} (hcomment : t ≠ .comment)
    (hnewline : t ≠ .newline) (hblank : t ≠ .blank) (hc : isSpace c = true) :
    t.continues c = false := by
  have table : ∀ t ∈ Terminal.all, t ≠ .comment → t ≠ .newline → t ≠ .blank →
      t.continues ' ' = false ∧ t.continues '\t' = false := by decide +kernel
  rcases isSpace_iff.mp hc with rfl | rfl
  · exact (table t t.mem_all hcomment hnewline hblank).1
  · exact (table t t.mem_all hcomment hnewline hblank).2

theorem continues_break {t : Terminal} {c : Char} (ht : t ≠ .newline)
    (hc : (!isInline c) = true) : t.continues c = false := by
  have table : ∀ t ∈ Terminal.all, t ≠ .newline →
      t.continues '\r' = false ∧ t.continues '\n' = false := by decide +kernel
  rcases not_isInline_iff.mp hc with rfl | rfl
  · exact (table t t.mem_all ht).1
  · exact (table t t.mem_all ht).2

/-! ## Words

The induction is on the words.  Each is cut off in front of the space or the word
behind it, and what is left is the layout of the other words. -/

/-- A terminal with a lexeme. -/
abbrev Word := Terminal × List Char

/-- The word of a token. -/
def Token.word (t : Token) : Word := (t.terminal, t.lexeme)

/-- What stands between two words: a space, unless one of them is a line end. -/
def gap (w v : Word) : List Char :=
  if w.1 = .newline ∨ v.1 = .newline then [] else [' ']

/-- The text of words. -/
def layout : List Word → List Char
  | [] => []
  | [w] => w.2
  | w :: v :: ws => w.2 ++ (gap w v ++ layout (v :: ws))

/-- Which words may follow each other: only a line end follows a comment, and no line end follows
a line end. -/
def Apart (w v : Word) : Prop :=
  (w.1 = .comment → v.1 = .newline) ∧ (w.1 = .newline → v.1 ≠ .newline)

/-- Words that can be read again when they are written one after the other. -/
structure Legible (ws : List Word) : Prop where
  lexeme : ∀ w ∈ ws, w.1.Lexeme w.2
  solid : ∀ w ∈ ws, w.1 ≠ .blank
  apart : ws.IsChain Apart

theorem Legible.tail {w : Word} {ws : List Word} (h : Legible (w :: ws)) : Legible ws where
  lexeme v hv := h.lexeme v (List.mem_cons_of_mem w hv)
  solid v hv := h.solid v (List.mem_cons_of_mem w hv)
  apart := List.isChain_of_isChain_cons h.apart

theorem layout_cons (w : Word) (ws : List Word) : ∃ rest, layout (w :: ws) = w.2 ++ rest := by
  cases ws with
  | nil => exact ⟨[], (List.append_nil w.2).symm⟩
  | cons v ws => exact ⟨_, rfl⟩

/-- What follows a line end, or blanks, in a layout does not make them longer. -/
theorem Legible.stops_layout {w : Word} {ws : List Word} (h : Legible (w :: ws))
    (hw : w.1 ≠ .newline) : Stops isLayout (layout (w :: ws)) := by
  obtain ⟨rest, hrest⟩ := layout_cons w ws
  have hlexeme := h.lexeme w List.mem_cons_self
  obtain ⟨c, cs, hc⟩ := List.exists_cons_of_ne_nil hlexeme.ne_nil
  rw [hrest, hc, List.cons_append]
  exact stops_cons.mpr ((hc ▸ hlexeme).front (h.solid w List.mem_cons_self) hw)

theorem Legible.stops_break {t : Terminal} {w : Word} {ws : List Word} (h : Legible (w :: ws))
    (hw : w.1 = .newline) (ht : t ≠ .newline) : Stops t.continues (layout (w :: ws)) := by
  obtain ⟨rest, hrest⟩ := layout_cons w ws
  obtain ⟨c, cs, hc, hbreak, -⟩ : Terminal.newline.Lexeme w.2 := hw ▸ h.lexeme w List.mem_cons_self
  rw [hrest, hc, List.cons_append]
  exact stops_cons.mpr (continues_break ht hbreak)

theorem Legible.stops_blank {w : Word} {ws : List Word} (h : Legible (w :: ws)) :
    Stops Terminal.blank.continues (layout (w :: ws)) := by
  by_cases hw : w.1 = .newline
  · exact h.stops_break hw nofun
  · exact (h.stops_layout hw).mono fun c hc => by
      rw [isLayout, show isSpace c = true from hc, Bool.true_or]

theorem Legible.stops_gap {w v : Word} {ws : List Word} (h : Legible (w :: v :: ws)) :
    Stops w.1.continues (gap w v ++ layout (v :: ws)) := by
  obtain ⟨hcomment, hnewline⟩ := (List.isChain_cons_cons.mp h.apart).1
  unfold gap
  by_cases hw : w.1 = .newline
  · rw [if_pos (.inl hw), hw]
    exact h.tail.stops_layout (hnewline hw)
  · by_cases hv : v.1 = .newline
    · rw [if_pos (.inr hv)]
      exact h.tail.stops_break hv hw
    · rw [if_neg (not_or.mpr ⟨hw, hv⟩)]
      exact stops_cons.mpr
        (continues_space (fun hc => hv (hcomment hc)) hw (h.solid w List.mem_cons_self) rfl)

theorem Lexed.word {w : Word} {text : List Char} {vs : List Token} {p : Position}
    (hw : w.1.Lexeme w.2) (htext : Stops w.1.continues text)
    (h : Lexed (p.after w.2) text vs []) : Lexed p (w.2 ++ text) (⟨w.1, w.2, p⟩ :: vs) [] :=
  .cons rfl (w.1.cuts.complete hw htext) h

theorem lexeme_blank : Terminal.blank.Lexeme [' '] :=
  ⟨' ', [], rfl, rfl, fun _ hx => nomatch hx⟩

/-- The layout of legible words is cut into these words. -/
theorem Legible.lexed : ∀ {ws : List Word}, Legible ws → ∀ p : Position,
    ∃ us, Lexed p (layout ws) us [] ∧ (significant us).map Token.word = ws
  | [], _, _ => ⟨[], .nil, rfl⟩
  | [w], h, p => by
      have hlexed := Lexed.word (p := p) (h.lexeme w List.mem_cons_self) (stops_nil _) .nil
      rw [List.append_nil] at hlexed
      refine ⟨_, hlexed, ?_⟩
      rw [significant_cons _ (h.solid w List.mem_cons_self)]
      rfl
  | w :: v :: ws, h, p => by
      have hw := h.lexeme w List.mem_cons_self
      have hsolid := h.solid w List.mem_cons_self
      by_cases hgap : w.1 = .newline ∨ v.1 = .newline
      · obtain ⟨us, hlexed, hus⟩ := h.tail.lexed (p.after w.2)
        have hstops := h.stops_gap
        rw [gap, if_pos hgap, List.nil_append] at hstops
        refine ⟨⟨w.1, w.2, p⟩ :: us, ?_, ?_⟩
        · rw [layout, gap, if_pos hgap]
          exact Lexed.word hw hstops hlexed
        · rw [significant_cons _ hsolid, List.map_cons, hus]
          rfl
      · obtain ⟨us, hlexed, hus⟩ := h.tail.lexed ((p.after w.2).after [' '])
        have hstops := h.stops_gap
        rw [gap, if_neg hgap] at hstops
        refine ⟨⟨w.1, w.2, p⟩ :: ⟨.blank, [' '], p.after w.2⟩ :: us, ?_, ?_⟩
        · rw [layout, gap, if_neg hgap]
          exact Lexed.word hw hstops
            (Lexed.word (w := (.blank, [' '])) lexeme_blank h.tail.stops_blank hlexed)
        · rw [significant_cons _ hsolid, significant_cons_blank _ rfl, List.map_cons, hus]
          rfl

/-! ## Words of one shape

Signs, brackets and carets are spelled in one way each.  Of the many spellings of
a line end the single line feed is taken. -/

def signWord (s : Sign) : Word := (.sign s, [s.char])

def bracketWord (b : Bracket) : Word := (.bracket b, [b.char])

def breakWord : Word := (.newline, ['\n'])

theorem is_of_word {t : Token} {x : Terminal} {l : List Char} (h : t.word = (x, l))
    (hl : x.Lexeme l) : t.Is x ∧ t.lexeme = l := by
  obtain ⟨rfl, rfl⟩ := Prod.mk.inj h
  exact ⟨⟨rfl, hl⟩, rfl⟩

theorem is_of_words {ts : List Token} {x : Terminal} {l : List Char}
    (h : ts.map Token.word = [(x, l)]) (hl : x.Lexeme l) :
    ∃ t : Token, ts = [t] ∧ t.Is x ∧ t.lexeme = l := by
  obtain ⟨t, rfl, ht⟩ := List.map_eq_singleton_iff.mp h
  exact ⟨t, rfl, is_of_word ht hl⟩

theorem lexeme_sign (s : Sign) : (Terminal.sign s).Lexeme [s.char] :=
  ⟨s.char, rfl, beq_self_eq_true s.char⟩

theorem lexeme_bracket (b : Bracket) : (Terminal.bracket b).Lexeme [b.char] :=
  ⟨b.char, rfl, beq_self_eq_true b.char⟩

theorem lexeme_break : Terminal.newline.Lexeme ['\n'] :=
  ⟨'\n', [], rfl, rfl, fun _ hx => nomatch hx⟩

theorem lexeme_caret : Terminal.caret.Lexeme ['^'] :=
  ⟨'^', rfl, rfl⟩

example : layout [(.keyword .loop, "REPEAT".toList), (.atom .ident, ['n']), bracketWord .lsqb,
    (.comment, ['#']), breakWord, (.keyword .stop, "STOP".toList), bracketWord .rsqb, breakWord] =
    "REPEAT n [ #\nSTOP ]\n".toList := by decide

/-! ## Words side by side

Two conditions have to be kept when words are put together: something must come
between a comment and what follows it, and no two line ends may meet.  A list of
words is orderly if it can be put behind a line end and in front of anything. -/

/-- Legible words that may stand behind a line end, and in front of anything. -/
structure Orderly (ws : List Word) : Prop extends Legible ws where
  first : ∀ w ∈ ws.head?, w.1 ≠ .newline
  last : ∀ w ∈ ws.getLast?, w.1 ≠ .comment

theorem orderly_nil : Orderly [] where
  lexeme _ hw := nomatch hw
  solid _ hw := nomatch hw
  apart := .nil
  first _ hw := nomatch hw
  last _ hw := nomatch hw

theorem Orderly.append {ws vs : List Word} (h : Orderly ws) (h' : Orderly vs) :
    Orderly (ws ++ vs) where
  lexeme w hw := (List.mem_append.mp hw).elim (h.lexeme w) (h'.lexeme w)
  solid w hw := (List.mem_append.mp hw).elim (h.solid w) (h'.solid w)
  apart := h.apart.append h'.apart fun w hw v hv =>
    ⟨fun hcomment => absurd hcomment (h.last w hw), fun _ => h'.first v hv⟩
  first w hw := by
    cases ws with
    | nil => exact h'.first w hw
    | cons v ws => exact h.first w hw
  last w hw := by
    cases hvs : vs.getLast? with
    | none =>
        rw [List.getLast?_eq_none_iff] at hvs
        rw [hvs, List.append_nil] at hw
        exact h.last w hw
    | some v =>
        rw [List.getLast?_append, hvs] at hw
        exact h'.last w (hvs ▸ hw)

/-- A word that is neither a comment nor a line end can stand anywhere. -/
theorem Orderly.single {x : Terminal} {l : List Char} (hl : x.Lexeme l) (hblank : x ≠ .blank)
    (hcomment : x ≠ .comment) (hnewline : x ≠ .newline) : Orderly [(x, l)] where
  lexeme w hw := by
    obtain rfl := List.mem_singleton.mp hw
    exact hl
  solid w hw := by
    obtain rfl := List.mem_singleton.mp hw
    exact hblank
  apart := .singleton _
  first w hw := by
    obtain rfl := Option.some.inj hw
    exact hnewline
  last w hw := by
    obtain rfl := Option.some.inj hw
    exact hcomment

theorem Orderly.cons {w : Word} {ws : List Word} (h : Orderly [w]) (h' : Orderly ws) :
    Orderly (w :: ws) :=
  h.append h'

/-- A line end may follow a word other than a line end. -/
theorem Orderly.break {x : Terminal} {l : List Char} (hl : x.Lexeme l) (hblank : x ≠ .blank)
    (hnewline : x ≠ .newline) : Orderly [(x, l), breakWord] where
  lexeme w hw := by
    rcases List.mem_cons.mp hw with rfl | hw
    · exact hl
    · obtain rfl := List.mem_singleton.mp hw
      exact lexeme_break
  solid w hw := by
    rcases List.mem_cons.mp hw with rfl | hw
    · exact hblank
    · obtain rfl := List.mem_singleton.mp hw
      exact nofun
  apart := .cons_cons ⟨fun _ => rfl, fun h => absurd h hnewline⟩ (.singleton _)
  first w hw := by
    obtain rfl := Option.some.inj hw
    exact hnewline
  last w hw := by
    obtain rfl := Option.some.inj hw
    exact nofun

theorem legible_break : Legible [breakWord] where
  lexeme w hw := by
    obtain rfl := List.mem_singleton.mp hw
    exact lexeme_break
  solid w hw := by
    obtain rfl := List.mem_singleton.mp hw
    exact nofun
  apart := .singleton _

/-- A word that is neither blanks nor a comment nor a line end. -/
structure Plain (w : Word) : Prop where
  lexeme : w.1.Lexeme w.2
  solid : w.1 ≠ .blank
  remarkless : w.1 ≠ .comment
  unbroken : w.1 ≠ .newline

theorem Plain.orderly {w : Word} (h : Plain w) : Orderly [w] :=
  .single h.lexeme h.solid h.remarkless h.unbroken

theorem orderly_of_plain : ∀ {ws : List Word}, (∀ w ∈ ws, Plain w) → Orderly ws
  | [], _ => orderly_nil
  | _ :: _, h =>
      .cons (h _ List.mem_cons_self).orderly
        (orderly_of_plain fun v hv => h v (List.mem_cons_of_mem _ hv))

theorem orderly_line {ws : List Word} (h : ∀ w ∈ ws, Plain w) (hne : ws ≠ []) :
    Orderly (ws ++ [breakWord]) := by
  obtain ⟨init, w, rfl⟩ := (List.eq_nil_or_concat ws).resolve_left hne
  rw [List.concat_eq_append, List.forall_mem_append] at h
  have hw := h.2 w List.mem_cons_self
  rw [List.concat_eq_append, List.append_assoc]
  exact (orderly_of_plain h.1).append (.break hw.lexeme hw.solid hw.unbroken)

theorem plain_bracket (b : Bracket) : Plain (bracketWord b) :=
  ⟨lexeme_bracket b, nofun, nofun, nofun⟩

theorem plain_sign (s : Sign) : Plain (signWord s) :=
  ⟨lexeme_sign s, nofun, nofun, nofun⟩

theorem plain_atom {a : Atom} {l : List Char} (h : (Terminal.atom a).Lexeme l) :
    Plain (.atom a, l) :=
  ⟨h, nofun, nofun, nofun⟩

/-! ## Another end

A text that has been read is continued in another way than before.  Only the last
token can be affected, and of those that are not comments, line ends or blanks
only a number in front of a point needs care. -/

theorem cutDigits_point {l r : List Char} {f : Char} (hl : Digits l)
    (h : cutDigits (l ++ '.' :: f :: r) = some (l, '.' :: f :: r)) (r' : List Char) :
    cutDigits (l ++ '.' :: f :: r') = some (l, '.' :: f :: r') := by
  have hpoint : ∀ r, Stops isDigit ('.' :: f :: r) := fun r => stops_cons.mpr isDigit_point
  cases hl with
  | whole hne hds =>
      rw [cutDigits, cutWhile_append hds (hpoint r)] at h
      rw [cutDigits, cutWhile_append hds (hpoint r')]
      cases hf : isDigit f with
      | false => simp [cutWhile, hf, hne]
      | true =>
          simp [cutWhile, hf, Cut.push] at h
  | @point ds fs hds hne hfs =>
      have hstops : Stops isDigit ('.' :: fs ++ '.' :: f :: r') := stops_cons.mpr isDigit_point
      rw [cutDigits, List.append_assoc, cutWhile_append hds hstops]
      simp [cutWhile_append hfs (hpoint r'), hne, Cut.push]

theorem cutNumber_point {l r : List Char} {f : Char}
    (h : cutNumber (l ++ '.' :: f :: r) = some (l, '.' :: f :: r)) (r' : List Char) :
    cutNumber (l ++ '.' :: f :: r') = some (l, '.' :: f :: r') := by
  cases (cuts_number.sound h).2 with
  | unsigned hl =>
      rw [cutNumber_unsigned hl] at h ⊢
      exact cutDigits_point hl h r'
  | @signed c ds hs hds =>
      have hs' : (c == '-' || c == '+') = true := by simpa using hs
      simp only [List.cons_append, cutNumber, hs', if_true] at h ⊢
      obtain ⟨⟨l', r''⟩, hcut, heq⟩ := Option.map_eq_some_iff.mp h
      simp only [Cut.push, List.cons_append, List.nil_append, Prod.mk.injEq, List.cons.injEq,
        true_and] at heq
      obtain ⟨rfl, rfl⟩ := heq
      rw [cutDigits_point hds hcut r']
      rfl

theorem Digits.point_ne_nil {cs : List Char} (h : Digits ('.' :: cs)) : cs ≠ [] := by
  generalize hl : '.' :: cs = l at h
  cases h with
  | whole _ hds =>
      subst hl
      exact absurd (hds '.' List.mem_cons_self) (by decide)
  | @point ds fs hds hfs _ =>
      cases ds with
      | nil => exact (List.cons.inj hl).2 ▸ hfs
      | cons d ds =>
          obtain ⟨rfl, -⟩ := List.cons.inj hl
          exact absurd (hds '.' List.mem_cons_self) (by decide)

theorem not_beginsWord_point {t : Terminal} {cs : List Char} : ¬ BeginsWord t ('.' :: cs) := by
  rintro ⟨word, w, rest, hword, hl, hw⟩
  have hne : ∀ a ∈ words, a.2 ≠ [] := by decide +kernel
  cases hw with
  | nil => exact hne _ hword rfl
  | cons hc _ =>
      obtain ⟨rfl, -⟩ := List.cons.inj hl
      exact absurd (startsName_of_isLetter hc) (by decide)

/-- Only a number begins with a point, and it goes on behind it. -/
theorem Terminal.Lexeme.point {t : Terminal} {cs : List Char} (h : t.Lexeme ('.' :: cs)) :
    cs ≠ [] := by
  by_cases ht : t.atFollow = true
  · rcases followFront_eq ht h with hfront | ⟨-, hword⟩
    · cases hfront
    · exact absurd hword not_beginsWord_point
  · match t, ht, h with
    | .atom .number, _, .unsigned hd => exact hd.point_ne_nil
    | .atom .number, _, .signed hs _ => simp at hs
    | .atom .string, _, ⟨_, he, _⟩ => exact absurd (List.cons.inj he).1 (by decide)
    | .atom .ident, _, ⟨_, _, he, hc, _⟩ =>
        obtain ⟨rfl, -⟩ := List.cons.inj he
        exact absurd hc (by decide)
    | .bracket .lpar, _, ⟨_, he, hc⟩ =>
        obtain ⟨rfl, -⟩ := List.cons.inj he
        exact absurd hc (by decide)

/-- What is cut off in front of another lexeme is cut off whatever follows that. -/
theorem cut_before_lexeme {t u : Terminal} {cs l l' r : List Char}
    (h : t.cut cs = some (l, l' ++ r)) (hl' : u.Lexeme l') (r' : List Char) :
    t.cut (l ++ (l' ++ r')) = some (l, l' ++ r') := by
  obtain ⟨rfl, hl⟩ := t.cuts.sound h
  rcases t.cut_stops h with hstops | ⟨rfl, hpoint⟩
  · exact t.cuts.complete hl (hstops.append hl'.ne_nil)
  · match l', hl' with
    | [], hl' => exact absurd rfl hl'.ne_nil
    | c :: cs, hl' =>
        obtain rfl : c = '.' := Option.some.inj hpoint
        obtain ⟨f, fs, rfl⟩ := List.exists_cons_of_ne_nil hl'.point
        exact cutNumber_point h (fs ++ r')

/-- Tokens are cut off in front of another end as well, if it does not make the last one longer. -/
theorem Lexed.swap {p : Position} {cs rest new : List Char} {us : List Token}
    (h : Lexed p cs us rest) (hnew : ∀ t ∈ us.getLast?, Stops t.terminal.continues new) :
    Lexed p (spelling us ++ new) us new := by
  induction h with
  | nil => exact .nil
  | @cons p cs mid rest t us hp hcut hlexed ih =>
      show Lexed p (t.lexeme ++ spelling us ++ new) (t :: us) new
      rw [List.append_assoc]
      cases us with
      | nil =>
          have hstops := hnew t rfl
          exact .cons hp (t.terminal.cuts.complete (t.terminal.cuts.sound hcut).2 hstops) .nil
      | cons u us =>
          have hu := hlexed.is u List.mem_cons_self
          have hmid : mid = u.lexeme ++ (spelling us ++ rest) := by
            rw [hlexed.spelling_append, ← List.append_assoc]
            rfl
          refine .cons hp ?_ (ih hnew)
          show t.terminal.cut (t.lexeme ++ (u.lexeme ++ spelling us ++ new)) =
            some (t.lexeme, u.lexeme ++ spelling us ++ new)
          rw [List.append_assoc]
          exact cut_before_lexeme (hmid ▸ hcut) hu.2 _

/-- Another text is read behind one that has been read to its end. -/
theorem Lexed.join {p : Position} {cs new : List Char} {us vs : List Token}
    (h : Lexed p cs us []) (hnew : ∀ t ∈ us.getLast?, Stops t.terminal.continues new)
    (hvs : Lexed (p.after cs) new vs []) : Lexed p (cs ++ new) (us ++ vs) [] := by
  have hcs : cs = spelling us := by rw [h.spelling_append, List.append_nil]
  subst hcs
  exact (h.swap hnew).trans hvs

/-- Legible words are written behind a text that has been read, with a space before them if it is
needed. -/
theorem Lexed.extend {p : Position} {cs : List Char} {us : List Token} {w : Word}
    {ws : List Word} (h : Lexed p cs us []) (hws : Legible (w :: ws))
    (hafter : ∀ t ∈ us.getLast?, t.terminal = .newline → w.1 ≠ .newline)
    (hbefore : ∀ t ∈ us.getLast?, t.terminal = .comment → w.1 = .newline) :
    ∃ new vs, Lexed p (cs ++ new) (us ++ vs) [] ∧
      (significant vs).map Token.word = w :: ws := by
  by_cases hplain : ∃ t ∈ us.getLast?, t.terminal ≠ .newline ∧ t.terminal ≠ .comment ∧
      t.terminal ≠ .blank
  · obtain ⟨t, ht, hnewline, hcomment, hblank⟩ := hplain
    obtain ⟨vs, hvs, hwords⟩ := hws.lexed ((p.after cs).after [' '])
    refine ⟨' ' :: layout (w :: ws), ⟨.blank, [' '], p.after cs⟩ :: vs, h.join ?_ ?_, ?_⟩
    · intro u hu
      obtain rfl := Option.some.inj (ht.symm.trans hu)
      exact stops_cons.mpr (continues_space hcomment hnewline hblank rfl)
    · exact Lexed.word (w := (.blank, [' '])) lexeme_blank hws.stops_blank hvs
    · rw [significant_cons_blank _ rfl, hwords]
  · obtain ⟨vs, hvs, hwords⟩ := hws.lexed (p.after cs)
    refine ⟨layout (w :: ws), vs, h.join ?_ hvs, hwords⟩
    intro t ht
    by_cases hnewline : t.terminal = .newline
    · rw [hnewline]
      exact hws.stops_layout (hafter t ht hnewline)
    · by_cases hcomment : t.terminal = .comment
      · rw [hcomment]
        exact hws.stops_break (hbefore t ht hcomment) nofun
      · have hblank : t.terminal = .blank :=
          Decidable.byContradiction fun hne => hplain ⟨t, ht, hnewline, hcomment, hne⟩
        rw [hblank]
        exact hws.stops_blank

end TurtleLogo.Grammar
