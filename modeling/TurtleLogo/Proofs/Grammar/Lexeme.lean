/-
# `TurtleLogo.Proofs.Grammar.Lexeme` — the lexemes of the terminals

The scanner takes lexemes from the front of a text.  Here the lexemes of each
terminal are described without it, as texts of a certain form, and the two
descriptions are shown to agree:

    t.cut cs = some (l, r)                     →  cs = l ++ r, and `l` is a lexeme
    `l` is a lexeme, `r` does not continue it  →  t.cut (l ++ r) = some (l, r)

What may follow a lexeme without becoming a part of it hangs on a single
character, with one exception: a point behind a number belongs to the number
if and only if a digit follows.  `Terminal.continues` counts the point in any
case, and `cut_stops` says that it is the only character that makes a
difference.
-/
import Mathlib.Data.List.Forall2
import TurtleLogo.Grammar.Scanner
import TurtleLogo.Proofs.Grammar.Enumeration

namespace TurtleLogo.Grammar

open Text

/-- `Stops p r`: the text `r` does not begin with a character of class `p`. -/
def Stops (p : Char → Bool) (r : List Char) : Prop :=
  ∀ c ∈ r.head?, p c = false

theorem stops_nil (p : Char → Bool) : Stops p [] :=
  fun _ h => nomatch h

theorem stops_cons {p : Char → Bool} {c : Char} {r : List Char} :
    Stops p (c :: r) ↔ p c = false := by
  simp [Stops]

theorem Stops.mono {p q : Char → Bool} {r : List Char} (hpq : ∀ c, q c = true → p c = true)
    (h : Stops p r) : Stops q r := by
  intro c hc
  cases hq : q c with
  | false => rfl
  | true => exact absurd (hpq c hq) (by simp [h c hc])

theorem Stops.append {p : Char → Bool} {l r r' : List Char} (hl : l ≠ [])
    (h : Stops p (l ++ r)) : Stops p (l ++ r') := by
  cases l with
  | nil => exact absurd rfl hl
  | cons c l => exact stops_cons.mpr (stops_cons.mp h)

/-! ## The forms of lexemes

The forms follow the grammar: a class of characters once or more, a word of given
letters, a string with its escapes, a number with its point. -/

/-- One character of a class. -/
def Single (p : Char → Bool) (l : List Char) : Prop :=
  ∃ c, l = [c] ∧ p c = true

/-- One character of a class and then any number of another. -/
def Run (first more : Char → Bool) (l : List Char) : Prop :=
  ∃ c cs, l = c :: cs ∧ first c = true ∧ ∀ x ∈ cs, more x = true

def Worded (word l : List Char) : Prop :=
  List.Forall₂ (fun letter c => isLetter letter c = true) word l

/-- A comment: a number sign, or `rem` as a whole word, and what follows on its line. -/
inductive Remark : List Char → Prop
  | mark {cs : List Char} : (∀ c ∈ cs, isInline c = true) → Remark ('#' :: cs)
  | word {w cs : List Char} : Worded ['R', 'E', 'M'] w → Stops continuesRem cs →
      (∀ c ∈ cs, isInline c = true) → Remark (w ++ cs)

/-- What stands between the quotes of a string. -/
inductive Escaped : List Char → Prop
  | nil : Escaped []
  | plain {c : Char} {cs : List Char} : c ≠ '\\' → c ≠ '"' → c ≠ '\n' → Escaped cs →
      Escaped (c :: cs)
  | pair {c : Char} {cs : List Char} : c ≠ '\n' → Escaped cs → Escaped ('\\' :: c :: cs)

def Quotation (l : List Char) : Prop :=
  ∃ cs, l = '"' :: (cs ++ ['"']) ∧ Escaped cs

/-- A number without a sign. -/
inductive Digits : List Char → Prop
  | whole {ds : List Char} : ds ≠ [] → (∀ c ∈ ds, isDigit c = true) → Digits ds
  | point {ds fs : List Char} : (∀ c ∈ ds, isDigit c = true) → fs ≠ [] →
      (∀ c ∈ fs, isDigit c = true) → Digits (ds ++ '.' :: fs)

/-- A number, with a sign or without. -/
inductive Numeral : List Char → Prop
  | unsigned {ds : List Char} : Digits ds → Numeral ds
  | signed {c : Char} {ds : List Char} : c = '-' ∨ c = '+' → Digits ds → Numeral (c :: ds)

/-- The lexemes of a terminal. -/
def Terminal.Lexeme : Terminal → List Char → Prop
  | .comment => Remark
  | .atom .string => Quotation
  | .atom .number => Numeral
  | .atom .ident => Run startsName isWordChar
  | .newline => Run (fun c => !isInline c) isLayout
  | .blank => Run isSpace isSpace
  | .keyword k => Worded k.spelling.toList
  | .addOp => Single fun c => c == '+' || c == '-'
  | .mulOp => Single fun c => c == '*' || c == '/'
  | .caret => Single (· == '^')
  | .sign s => Single (· == s.char)
  | .bracket b => Single (· == b.char)

/-- The characters that may make a lexeme of a terminal longer. -/
def Terminal.continues : Terminal → Char → Bool
  | .comment, c => isInline c
  | .atom .number, c => isDigit c || c == '.'
  | .atom .ident, c => isWordChar c
  | .newline, c => isLayout c
  | .blank, c => isSpace c
  | _, _ => false

/-! ## Each way of cutting takes texts of its form

One lemma for each form and direction.  What is cut off is of the form, and a text
of the form is cut off as a whole where what follows does not continue it. -/

/-- `cut` takes texts of a form, each as far as it goes on with characters of class `more`. -/
structure Cuts (cut : List Char → Option Cut) (form : List Char → Prop) (more : Char → Bool) :
    Prop where
  sound : ∀ {cs l r : List Char}, cut cs = some (l, r) → cs = l ++ r ∧ form l
  complete : ∀ {l r : List Char}, form l → Stops more r → cut (l ++ r) = some (l, r)

theorem cutWhile_join (p : Char → Bool) (cs : List Char) :
    (cutWhile p cs).1 ++ (cutWhile p cs).2 = cs :=
  List.takeWhile_append_dropWhile

theorem cutWhile_all {p : Char → Bool} {cs : List Char} : ∀ c ∈ (cutWhile p cs).1, p c = true :=
  fun _ h => List.all_eq_true.mp List.all_takeWhile _ h

theorem cutWhile_stops (p : Char → Bool) (cs : List Char) : Stops p (cutWhile p cs).2 := by
  intro c hc
  have h := List.head?_dropWhile_not p cs
  simp only [cutWhile] at hc
  rw [Option.mem_def] at hc
  simpa [hc] using h

theorem cutWhile_append {p : Char → Bool} {l r : List Char} (hl : ∀ c ∈ l, p c = true)
    (hr : Stops p r) : cutWhile p (l ++ r) = (l, r) := by
  rw [cutWhile, List.takeWhile_append_of_pos hl, List.dropWhile_append_of_pos hl]
  cases r with
  | nil => simp
  | cons c r => simp [stops_cons.mp hr]

theorem cuts_char (p : Char → Bool) : Cuts (cutChar p) (Single p) fun _ => false where
  sound := by
    intro cs l r h
    cases cs with
    | nil => exact nomatch h
    | cons c cs =>
        cases hp : p c with
        | false => simp [cutChar, hp] at h
        | true =>
            simp only [cutChar, hp, if_true, Option.some.injEq, Prod.mk.injEq] at h
            obtain ⟨rfl, rfl⟩ := h
            exact ⟨rfl, c, rfl, hp⟩
  complete := by
    rintro l r ⟨c, rfl, hp⟩ -
    simp [cutChar, hp]

theorem cuts_run (first more : Char → Bool) : Cuts (cutRun first more) (Run first more) more where
  sound := by
    intro cs l r h
    cases cs with
    | nil => exact nomatch h
    | cons c cs =>
        cases hp : first c with
        | false => simp [cutRun, hp] at h
        | true =>
            simp only [cutRun, hp, if_true, Cut.push, Option.some.injEq, Prod.mk.injEq,
              List.cons_append, List.nil_append] at h
            obtain ⟨rfl, rfl⟩ := h
            exact ⟨by rw [List.cons_append, cutWhile_join], c, _, rfl, hp, cutWhile_all⟩
  complete := by
    rintro l r ⟨c, cs, rfl, hp, hcs⟩ hr
    simp [cutRun, hp, cutWhile_append hcs hr, Cut.push]

theorem cuts_word (word : List Char) : Cuts (cutWord word) (Worded word) fun _ => false where
  sound := by
    induction word with
    | nil =>
        intro cs l r h
        simp only [cutWord, Option.some.injEq, Prod.mk.injEq] at h
        obtain ⟨rfl, rfl⟩ := h
        exact ⟨rfl, List.Forall₂.nil⟩
    | cons letter word ih =>
        intro cs l r h
        cases cs with
        | nil => exact nomatch h
        | cons c cs =>
            simp only [cutWord] at h
            split at h
            · next hc =>
                obtain ⟨⟨l', r'⟩, h', hl⟩ := Option.map_eq_some_iff.mp h
                simp only [Cut.push, Prod.mk.injEq, List.cons_append, List.nil_append] at hl
                obtain ⟨rfl, rfl⟩ := hl
                obtain ⟨rfl, hw⟩ := ih h'
                exact ⟨rfl, List.Forall₂.cons hc hw⟩
            · exact nomatch h
  complete := by
    intro l r hw _
    induction hw with
    | nil => rfl
    | cons hc _ ih => simp [cutWord, hc, ih, Cut.push]

/-! ### Comments -/

theorem cutCommentMark_sound {cs l r : List Char} (h : cutCommentMark cs = some (l, r)) :
    cs = l ++ r ∧ (l = ['#'] ∨ Worded ['R', 'E', 'M'] l ∧ Stops continuesRem r) := by
  unfold cutCommentMark at h
  split at h
  · simp only [Option.some.injEq, Prod.mk.injEq] at h
    obtain ⟨rfl, rfl⟩ := h
    exact ⟨rfl, Or.inl rfl⟩
  · split at h
    · next word c rest hw =>
        obtain ⟨rfl, hword⟩ := (cuts_word _).sound hw
        split at h
        · exact nomatch h
        · next hc =>
            simp only [Option.some.injEq, Prod.mk.injEq] at h
            obtain ⟨rfl, rfl⟩ := h
            exact ⟨rfl, Or.inr ⟨hword, stops_cons.mpr (by simpa using hc)⟩⟩
    · next hother =>
        obtain ⟨rfl, hword⟩ := (cuts_word _).sound h
        cases r with
        | nil => exact ⟨rfl, Or.inr ⟨hword, stops_nil _⟩⟩
        | cons c r => exact absurd h (hother l c r)

theorem cutCommentMark_word {w r : List Char} (hw : Worded ['R', 'E', 'M'] w)
    (hr : Stops continuesRem r) : cutCommentMark (w ++ r) = some (w, r) := by
  have hcut := (cuts_word _).complete (r := r) hw (fun _ _ => rfl)
  -- a word that is `rem` does not begin with a number sign
  have hmark : ∀ cs, w ++ r ≠ '#' :: cs := by
    intro cs he
    cases hw with
    | cons hc _ =>
        simp only [List.cons_append, List.cons.injEq] at he
        exact absurd hc (by rw [he.1]; decide)
  unfold cutCommentMark
  split
  · next cs he => exact absurd he (hmark cs)
  · rw [hcut]
    cases r with
    | nil => rfl
    | cons c r => simp [stops_cons.mp hr]

theorem isInline_of_continuesRem {c : Char} (h : continuesRem c = true) : isInline c = true := by
  cases hc : isInline c with
  | true => rfl
  | false =>
      have hc' : c = '\r' ∨ c = '\n' := by
        simp only [isInline, Bool.and_eq_false_iff, bne_eq_false_iff_eq] at hc
        exact hc
      rcases hc' with rfl | rfl
      · exact absurd h (by decide)
      · exact absurd h (by decide)

/-- What does not continue `rem` in a comment does not continue it either where the comment goes up to
the end of its line. -/
theorem stops_rem {cs r : List Char} (hs : Stops continuesRem cs) (hr : Stops isInline r) :
    Stops continuesRem (cs ++ r) := by
  cases cs with
  | nil => exact hr.mono fun _ => isInline_of_continuesRem
  | cons c cs => exact stops_cons.mpr (stops_cons.mp hs)

theorem cuts_comment : Cuts cutComment Remark isInline where
  sound := by
    intro cs l r h
    obtain ⟨⟨mark, rest⟩, hm, hl⟩ := Option.map_eq_some_iff.mp h
    simp only [Cut.push, Prod.mk.injEq] at hl
    obtain ⟨rfl, rfl⟩ := hl
    obtain ⟨rfl, hmark⟩ := cutCommentMark_sound hm
    refine ⟨by rw [List.append_assoc, cutWhile_join], ?_⟩
    rcases hmark with rfl | ⟨hw, hs⟩
    · exact .mark cutWhile_all
    · refine .word hw ?_ cutWhile_all
      cases rest with
      | nil => exact stops_nil _
      | cons c rest =>
          by_cases hc : isInline c = true
          · simpa [cutWhile, hc, stops_cons] using hs
          · simpa [cutWhile, hc] using stops_nil continuesRem
  complete := by
    intro l r hl hr
    cases hl with
    | @mark cs hcs => simp [cutComment, cutCommentMark, cutWhile_append hcs hr, Cut.push]
    | @word w cs hw hs hcs =>
        rw [cutComment, List.append_assoc, cutCommentMark_word hw (stops_rem hs hr)]
        simp [cutWhile_append hcs hr, Cut.push]

/-! ### Strings -/

theorem cutStringBody_sound {cs l r : List Char} (h : cutStringBody cs = some (l, r)) :
    ∃ body, l = body ++ ['"'] ∧ cs = l ++ r ∧ Escaped body := by
  fun_induction cutStringBody cs generalizing l with
  | case1 => exact nomatch h
  | case2 => exact nomatch h
  | case3 c cs hc => exact nomatch h
  | case4 c cs hc ih =>
      obtain ⟨⟨l', r'⟩, h', hl⟩ := Option.map_eq_some_iff.mp h
      simp only [Cut.push, Prod.mk.injEq, List.cons_append, List.nil_append] at hl
      obtain ⟨rfl, rfl⟩ := hl
      obtain ⟨body, rfl, rfl, hb⟩ := ih h'
      exact ⟨'\\' :: c :: body, rfl, rfl, .pair (by simpa using hc) hb⟩
  | case5 cs =>
      simp only [Option.some.injEq, Prod.mk.injEq] at h
      obtain ⟨rfl, rfl⟩ := h
      exact ⟨[], rfl, rfl, .nil⟩
  | case6 c cs hq hb hc => exact nomatch h
  | case7 c cs hesc hpair hquote hc ih =>
      have hback : c ≠ '\\' := by
        intro he
        cases cs with
        | nil => exact hesc he rfl
        | cons d ds => exact hpair d ds he rfl
      obtain ⟨⟨l', r'⟩, h', hl⟩ := Option.map_eq_some_iff.mp h
      simp only [Cut.push, Prod.mk.injEq, List.cons_append, List.nil_append] at hl
      obtain ⟨rfl, rfl⟩ := hl
      obtain ⟨body, rfl, rfl, hb⟩ := ih h'
      exact ⟨c :: body, rfl, rfl, .plain hback hquote (by simpa using hc) hb⟩

theorem cutStringBody_complete {cs : List Char} (h : Escaped cs) (r : List Char) :
    cutStringBody (cs ++ '"' :: r) = some (cs ++ ['"'], r) := by
  induction h with
  | nil => simp [cutStringBody]
  | @plain c cs hback _ hline _ ih => simp [cutStringBody, hback, hline, ih, Cut.push]
  | @pair c cs hline _ ih => simp [cutStringBody, hline, ih, Cut.push]

theorem cuts_string : Cuts cutString Quotation fun _ => false where
  sound := by
    intro cs l r h
    unfold cutString at h
    split at h
    · obtain ⟨⟨l', r'⟩, h', hl⟩ := Option.map_eq_some_iff.mp h
      simp only [Cut.push, Prod.mk.injEq, List.cons_append, List.nil_append] at hl
      obtain ⟨rfl, rfl⟩ := hl
      obtain ⟨body, rfl, rfl, hb⟩ := cutStringBody_sound h'
      exact ⟨rfl, body, rfl, hb⟩
    · exact nomatch h
  complete := by
    rintro l r ⟨cs, rfl, hcs⟩ -
    simp [cutString, cutStringBody_complete hcs, Cut.push]

/-! ### Numbers -/

theorem isDigit_point : isDigit '.' = false := by decide

theorem cutDigits_sound {cs l r : List Char} (h : cutDigits cs = some (l, r)) :
    cs = l ++ r ∧ Digits l := by
  have hcs := cutWhile_join isDigit cs
  simp only [cutDigits] at h
  split at h
  · next rest hrest =>
      have hfs := cutWhile_join isDigit rest
      split at h
      · next hnone =>
          split at h
          · exact nomatch h
          · next hwhole =>
              simp only [Option.some.injEq, Prod.ext_iff] at h
              obtain ⟨rfl, rfl⟩ := h
              exact ⟨hcs.symm, .whole (by simpa using hwhole) cutWhile_all⟩
      · next hsome =>
          simp only [Cut.push, Option.some.injEq, Prod.mk.injEq] at h
          obtain ⟨rfl, rfl⟩ := h
          refine ⟨?_, ?_⟩
          · calc cs = (cutWhile isDigit cs).1 ++ '.' :: rest := by rw [← hrest, hcs]
              _ = _ := by rw [List.append_assoc, hfs, List.append_assoc]; rfl
          · have hd : Digits ((cutWhile isDigit cs).1 ++ '.' :: (cutWhile isDigit rest).1) :=
              .point cutWhile_all (by simpa using hsome) cutWhile_all
            simpa using hd
  · split at h
    · exact nomatch h
    · next hwhole =>
        simp only [Option.some.injEq, Prod.ext_iff] at h
        obtain ⟨rfl, rfl⟩ := h
        exact ⟨hcs.symm, .whole (by simpa using hwhole) cutWhile_all⟩

theorem cutDigits_complete {l r : List Char} (h : Digits l)
    (hr : Stops (fun c => isDigit c || c == '.') r) : cutDigits (l ++ r) = some (l, r) := by
  have hdigit : Stops isDigit r := hr.mono fun c hc => by simp [hc]
  cases h with
  | whole hne hds =>
      rw [cutDigits, cutWhile_append hds hdigit]
      cases r with
      | nil => simp [hne]
      | cons c r =>
          have hc : c ≠ '.' := by
            rintro rfl
            exact absurd (stops_cons.mp hr) (by decide)
          simp [hne, hc]
  | @point ds fs hds hne hfs =>
      have hpoint : Stops isDigit ('.' :: fs ++ r) := stops_cons.mpr isDigit_point
      rw [cutDigits, List.append_assoc, cutWhile_append hds hpoint]
      simp [cutWhile_append hfs hdigit, hne, Cut.push]

theorem cutNumber_unsigned {l r : List Char} (h : Digits l) :
    cutNumber (l ++ r) = cutDigits (l ++ r) := by
  have hdigit : ∀ {c : Char}, isDigit c = true → (c == '-' || c == '+') = false := by
    intro c hc
    cases hs : c == '-' || c == '+' with
    | false => rfl
    | true =>
        rcases Bool.or_eq_true_iff.mp hs with hs | hs
        · exact absurd hc (by rw [eq_of_beq hs]; decide)
        · exact absurd hc (by rw [eq_of_beq hs]; decide)
  cases h with
  | @whole _ hne hds =>
      cases l with
      | nil => exact absurd rfl hne
      | cons c ds => simp [cutNumber, hdigit (hds c List.mem_cons_self)]
  | @point ds fs hds _ _ =>
      cases ds with
      | nil => simp [cutNumber]
      | cons c ds => simp [cutNumber, hdigit (hds c List.mem_cons_self)]

theorem cuts_number : Cuts cutNumber Numeral fun c => isDigit c || c == '.' where
  sound := by
    intro cs l r h
    cases cs with
    | nil => exact nomatch h
    | cons c cs =>
        simp only [cutNumber] at h
        split at h
        · next hs =>
            obtain ⟨⟨l', r'⟩, h', hl⟩ := Option.map_eq_some_iff.mp h
            simp only [Cut.push, Prod.mk.injEq, List.cons_append, List.nil_append] at hl
            obtain ⟨rfl, rfl⟩ := hl
            obtain ⟨rfl, hd⟩ := cutDigits_sound h'
            exact ⟨rfl, .signed (by simpa using hs) hd⟩
        · obtain ⟨hcs, hd⟩ := cutDigits_sound h
          exact ⟨hcs, .unsigned hd⟩
  complete := by
    intro l r hl hr
    cases hl with
    | unsigned hd => rw [cutNumber_unsigned hd, cutDigits_complete hd hr]
    | @signed c ds hs hd =>
        have hs' : (c == '-' || c == '+') = true := by simpa using hs
        simp [cutNumber, hs', cutDigits_complete hd hr, Cut.push]

/-! ## The terminals

The forms put together.  What is cut off of a terminal's text is its lexeme, is
not empty, and goes as far as it can. -/

theorem Terminal.cuts : ∀ t : Terminal, Cuts t.cut t.Lexeme t.continues
  | .comment => cuts_comment
  | .atom .string => cuts_string
  | .atom .number => cuts_number
  | .atom .ident => cuts_run _ _
  | .newline => cuts_run _ _
  | .blank => cuts_run _ _
  | .keyword _ => cuts_word _
  | .addOp => cuts_char _
  | .mulOp => cuts_char _
  | .caret => cuts_char _
  | .sign _ => cuts_char _
  | .bracket _ => cuts_char _

theorem Keyword.spelling_ne_nil (k : Keyword) : k.spelling.toList ≠ [] := by
  have hall : ∀ k ∈ Keyword.all, k.spelling.toList ≠ [] := by decide
  exact hall k k.mem_all

theorem Terminal.Lexeme.ne_nil : ∀ {t : Terminal} {l : List Char}, t.Lexeme l → l ≠ []
  | .comment, _, .mark _ => List.cons_ne_nil _ _
  | .comment, _, .word hw _ _ => by
      cases hw with
      | cons _ _ => exact List.cons_ne_nil _ _
  | .atom .string, _, ⟨_, rfl, _⟩ => List.cons_ne_nil _ _
  | .atom .number, _, .unsigned (.whole hne _) => hne
  | .atom .number, _, .unsigned (.point _ _ _) => by simp
  | .atom .number, _, .signed _ _ => List.cons_ne_nil _ _
  | .atom .ident, _, ⟨_, _, rfl, _, _⟩ => List.cons_ne_nil _ _
  | .newline, _, ⟨_, _, rfl, _, _⟩ => List.cons_ne_nil _ _
  | .blank, _, ⟨_, _, rfl, _, _⟩ => List.cons_ne_nil _ _
  | .keyword k, l, hw => by
      rintro rfl
      exact k.spelling_ne_nil (List.eq_nil_of_length_eq_zero hw.length_eq)
  | .addOp, _, ⟨_, rfl, _⟩ => List.cons_ne_nil _ _
  | .mulOp, _, ⟨_, rfl, _⟩ => List.cons_ne_nil _ _
  | .caret, _, ⟨_, rfl, _⟩ => List.cons_ne_nil _ _
  | .sign _, _, ⟨_, rfl, _⟩ => List.cons_ne_nil _ _
  | .bracket _, _, ⟨_, rfl, _⟩ => List.cons_ne_nil _ _

theorem cutRun_stops {first more : Char → Bool} {cs l r : List Char}
    (h : cutRun first more cs = some (l, r)) : Stops more r := by
  cases cs with
  | nil => exact nomatch h
  | cons c cs =>
      simp only [cutRun] at h
      split at h
      · simp only [Cut.push, Option.some.injEq, Prod.mk.injEq] at h
        exact h.2 ▸ cutWhile_stops more cs
      · exact nomatch h

theorem cutDigits_stops {cs l r : List Char} (h : cutDigits cs = some (l, r)) :
    Stops (fun c => isDigit c || c == '.') r ∨ '.' ∈ r.head? := by
  have hor : ∀ {r : List Char}, Stops isDigit r →
      Stops (fun c => isDigit c || c == '.') r ∨ '.' ∈ r.head? := by
    intro r hr
    cases r with
    | nil => exact Or.inl (stops_nil _)
    | cons c r =>
        by_cases hc : c = '.'
        · exact Or.inr (by simp [hc])
        · exact Or.inl (stops_cons.mpr (by simp [stops_cons.mp hr, hc]))
  simp only [cutDigits] at h
  split at h
  · next rest hrest =>
      split at h
      · split at h
        · exact nomatch h
        · simp only [Option.some.injEq, Prod.ext_iff] at h
          exact h.2 ▸ hor (cutWhile_stops isDigit cs)
      · simp only [Cut.push, Option.some.injEq, Prod.mk.injEq] at h
        exact h.2 ▸ hor (cutWhile_stops isDigit rest)
  · split at h
    · exact nomatch h
    · simp only [Option.some.injEq, Prod.ext_iff] at h
      exact h.2 ▸ hor (cutWhile_stops isDigit cs)

/-- A lexeme is taken as far as it goes.  Only a point may follow a number that would continue it
if a digit came next. -/
theorem Terminal.cut_stops {cs l r : List Char} : ∀ {t : Terminal}, t.cut cs = some (l, r) →
    Stops t.continues r ∨ t = .atom .number ∧ '.' ∈ r.head?
  | .comment, h => by
      obtain ⟨⟨mark, rest⟩, -, hl⟩ := Option.map_eq_some_iff.mp h
      simp only [Cut.push, Prod.mk.injEq] at hl
      exact Or.inl (hl.2 ▸ cutWhile_stops isInline rest)
  | .atom .number, h => by
      cases cs with
      | nil => exact nomatch h
      | cons c cs =>
          simp only [Terminal.cut, cutNumber] at h
          split at h
          · obtain ⟨⟨l', r'⟩, h', hl⟩ := Option.map_eq_some_iff.mp h
            simp only [Cut.push, Prod.mk.injEq] at hl
            obtain ⟨-, rfl⟩ := hl
            exact (cutDigits_stops h').imp id fun hp => ⟨rfl, hp⟩
          · exact (cutDigits_stops h).imp id fun hp => ⟨rfl, hp⟩
  | .atom .ident, h => Or.inl (cutRun_stops h)
  | .newline, h => Or.inl (cutRun_stops h)
  | .blank, h => Or.inl (cutRun_stops h)
  | .atom .string, _ => Or.inl fun _ _ => rfl
  | .keyword _, _ => Or.inl fun _ _ => rfl
  | .addOp, _ => Or.inl fun _ _ => rfl
  | .mulOp, _ => Or.inl fun _ _ => rfl
  | .caret, _ => Or.inl fun _ _ => rfl
  | .sign _, _ => Or.inl fun _ _ => rfl
  | .bracket _, _ => Or.inl fun _ _ => rfl

end TurtleLogo.Grammar
