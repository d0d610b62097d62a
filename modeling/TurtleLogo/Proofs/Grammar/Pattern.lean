/-
# `TurtleLogo.Proofs.Grammar.Pattern` — terminals as patterns

The grammar writes its terminals down as patterns:

    comment   (rem, with no letter, digit or underscore next, or #) and what is left of the line
    string    " any characters, no backslash behind them, pairs of backslashes, and "
    number    a sign or none, (digits or none, and a point) or nothing, and digits
    name      a letter or underscore and word characters
    line end  a carriage return or line feed, and any of these and blanks
    blanks    at least one of them

Keywords and signs are written as they are.  `Pattern.Matches` says what a pattern matches and
where, since two of them look at what stands next to the match.  A pattern may match the front of a
text in more than one way; the scanner finds a lexeme if and only if there is one at all
(`Terminal.matchesAt_iff`).  Hence what holds of the lexemes that are cut off holds of
the patterns: of those that a state tries, at most one matches, and no pattern matches nothing.
-/
import TurtleLogo.Proofs.Program.Literals

namespace TurtleLogo.Grammar

open Text

/-! ## Patterns

A pattern is matched at a place, with the text before it and the text behind it,
for `rem` looks at what comes next and the end of a string at what came before. -/

inductive Pattern where
  /-- nothing -/
  | empty
  /-- a character of a class -/
  | char (p : Char → Bool)
  /-- nothing, with no character of a class before it -/
  | notBehind (p : Char → Bool)
  /-- nothing, with no character of a class behind it -/
  | notBefore (p : Char → Bool)
  /-- one pattern and then another -/
  | seq (p q : Pattern)
  /-- one of two patterns -/
  | or (p q : Pattern)
  /-- a pattern any number of times -/
  | many (p : Pattern)

/-- `Repeats once before l behind`: the text `l` is made of pieces each of which is `once` where it
stands. -/
inductive Repeats (once : List Char → List Char → List Char → Prop) :
    List Char → List Char → List Char → Prop
  | nil {before behind : List Char} : Repeats once before [] behind
  | cons {before l m behind : List Char} : once before l (m ++ behind) →
      Repeats once (before ++ l) m behind → Repeats once before (l ++ m) behind

/-- `p.Matches before l behind`: the pattern matches `l` where it stands between the two texts. -/
def Pattern.Matches : Pattern → List Char → List Char → List Char → Prop
  | .empty, _, l, _ => l = []
  | .char p, _, l, _ => Single p l
  | .notBehind p, before, l, _ => l = [] ∧ ∀ c ∈ before.getLast?, p c = false
  | .notBefore p, _, l, behind => l = [] ∧ Stops p behind
  | .seq p q, before, l, behind =>
    ∃ m n, l = m ++ n ∧ p.Matches before m (n ++ behind) ∧ q.Matches (before ++ m) n behind
  | .or p q, before, l, behind => p.Matches before l behind ∨ q.Matches before l behind
  | .many p, before, l, behind => Repeats p.Matches before l behind

def Pattern.just (c : Char) : Pattern := .char (· == c)

def Pattern.maybe (p : Pattern) : Pattern := .or p .empty

def Pattern.more (p : Pattern) : Pattern := .seq p (.many p)

/-- A word of given capitals, in any case. -/
def Pattern.word : List Char → Pattern
  | [] => .empty
  | letter :: word => .seq (.char (isLetter letter)) (Pattern.word word)

/-- A pair of backslashes. -/
def Pattern.backslashes : Pattern := .seq (.just '\\') (.just '\\')

open Pattern in
/-- The terminals, as they are written down. -/
def Terminal.pattern : Terminal → Pattern
  | .comment =>
    seq (or (seq (word ['R', 'E', 'M']) (notBefore continuesRem)) (just '#')) (many (char isInline))
  | .atom .string =>
    seq (just '"') (seq (many (char (· != '\n'))) (seq (notBehind (· == '\\'))
      (seq (many backslashes) (just '"'))))
  | .atom .number =>
    seq (maybe (or (just '-') (just '+'))) (seq (maybe (seq (many (char isDigit)) (just '.')))
      (more (char isDigit)))
  | .atom .ident => seq (char startsName) (many (char isWordChar))
  | .newline => seq (char fun c => !isInline c) (many (char isLayout))
  | .blank => more (char isSpace)
  | .keyword k => word k.spelling.toList
  | .addOp => or (just '+') (just '-')
  | .mulOp => or (just '*') (just '/')
  | .caret => just '^'
  | .sign s => just s.char
  | .bracket b => just b.char

/-- A terminal matches where a text `cs` follows another one. -/
def Terminal.MatchesAt (t : Terminal) (before cs : List Char) : Prop :=
  ∃ l behind, cs = l ++ behind ∧ t.pattern.Matches before l behind

/-! ## Patterns match something

A pattern that needs a character in every match cannot match the empty text.
Whether it needs one can be read off the pattern. -/

/-- Whether a pattern has a character in all of its matches. -/
def Pattern.consumes : Pattern → Bool
  | .char _ => true
  | .seq p q => p.consumes || q.consumes
  | .or p q => p.consumes && q.consumes
  | _ => false

theorem Pattern.Matches.ne_nil {p : Pattern} : ∀ {before l behind : List Char},
    p.Matches before l behind → p.consumes = true → l ≠ [] := by
  induction p with
  | char p =>
      rintro before l behind ⟨c, rfl, -⟩ -
      exact List.cons_ne_nil c []
  | seq p q ihp ihq =>
      rintro before l behind ⟨m, n, rfl, hm, hn⟩ hconsumes
      rcases Bool.or_eq_true_iff.mp hconsumes with hp | hq
      · exact List.append_ne_nil_of_left_ne_nil (ihp hm hp) n
      · exact List.append_ne_nil_of_right_ne_nil m (ihq hn hq)
  | or p q ihp ihq =>
      rintro before l behind h hconsumes
      obtain ⟨hp, hq⟩ := Bool.and_eq_true_iff.mp hconsumes
      rcases h with h | h
      · exact ihp h hp
      · exact ihq h hq
  | _ => exact fun _ => nofun

theorem Terminal.pattern_consumes (t : Terminal) : t.pattern.consumes = true := by
  have table : ∀ t ∈ Terminal.all, t.pattern.consumes = true := by decide
  exact table t t.mem_all

/-! ## Each pattern matches texts of its form

The two sides differ only in how far they go: a pattern may match less than the
scanner takes.  So each lemma says that what the scanner takes is a match, or that
where there is a match the scanner takes something. -/

section Forms

variable {before l behind : List Char} {p q : Char → Bool}

theorem matches_just {c : Char} : (Pattern.just c).Matches before l behind ↔ l = [c] := by
  constructor
  · rintro ⟨d, rfl, hd⟩
    rw [eq_of_beq hd]
  · rintro rfl
    exact ⟨c, rfl, beq_self_eq_true c⟩

theorem matches_either {c d : Char} :
    (Pattern.or (.just c) (.just d)).Matches before l behind ↔
      Single (fun x => x == c || x == d) l := by
  have single : Single (fun x => x == c || x == d) l ↔ l = [c] ∨ l = [d] := by
    simp [Single, and_or_left, exists_or]
  rw [single]
  exact or_congr matches_just matches_just

theorem matches_many : (Pattern.many (.char p)).Matches before l behind ↔ ∀ c ∈ l, p c = true := by
  constructor
  · intro h
    have all : ∀ {before l behind}, Repeats (Pattern.char p).Matches before l behind →
        ∀ c ∈ l, p c = true := by
      intro before l behind h
      induction h with
      | nil => exact nofun
      | cons hc _ ih =>
          obtain ⟨c, rfl, hc⟩ := hc
          exact List.forall_mem_cons.mpr ⟨hc, ih⟩
    exact all h
  · intro h
    show Repeats (Pattern.char p).Matches before l behind
    induction l generalizing before with
    | nil => exact .nil
    | cons c cs ih =>
        obtain ⟨hc, hcs⟩ := List.forall_mem_cons.mp h
        exact .cons (l := [c]) ⟨c, rfl, hc⟩ (ih hcs)

theorem matches_run :
    (Pattern.seq (.char p) (.many (.char q))).Matches before l behind ↔ Run p q l := by
  constructor
  · rintro ⟨m, cs, rfl, ⟨c, rfl, hc⟩, hcs⟩
    exact ⟨c, cs, rfl, hc, matches_many.mp hcs⟩
  · rintro ⟨c, cs, rfl, hc, hcs⟩
    exact ⟨[c], cs, rfl, ⟨c, rfl, hc⟩, matches_many.mpr hcs⟩

theorem matches_word {word : List Char} :
    (Pattern.word word).Matches before l behind ↔ Worded word l := by
  induction word generalizing before l with
  | nil => exact List.forall₂_nil_left_iff.symm
  | cons letter word ih =>
      constructor
      · rintro ⟨m, cs, rfl, ⟨c, rfl, hc⟩, hcs⟩
        exact .cons hc (ih.mp hcs)
      · intro h
        cases h with
        | @cons _ c _ cs hc hcs => exact ⟨[c], cs, rfl, ⟨c, rfl, hc⟩, ih.mpr hcs⟩

theorem cutRun_isSome (h : Run p q l) : (cutRun p q (l ++ behind)).isSome = true := by
  obtain ⟨c, cs, rfl, hc, -⟩ := h
  rw [List.cons_append, cutRun, if_pos hc]
  rfl

theorem cutChar_isSome (h : Single p l) : (cutChar p (l ++ behind)).isSome = true := by
  obtain ⟨c, rfl, hc⟩ := h
  rw [List.singleton_append, cutChar, if_pos hc]
  rfl

/-! ### Numbers -/

theorem run_same : Run p p l ↔ l ≠ [] ∧ ∀ c ∈ l, p c = true := by
  constructor
  · rintro ⟨c, cs, rfl, hc, hcs⟩
    exact ⟨List.cons_ne_nil c cs, List.forall_mem_cons.mpr ⟨hc, hcs⟩⟩
  · rintro ⟨hne, hl⟩
    obtain ⟨c, cs, rfl⟩ := List.exists_cons_of_ne_nil hne
    exact ⟨c, cs, rfl, List.forall_mem_cons.mp hl⟩

open Pattern in
theorem matches_digits : (seq (maybe (seq (many (char isDigit)) (just '.')))
    (more (char isDigit))).Matches before l behind ↔ Digits l := by
  constructor
  · rintro ⟨whole, fs, rfl, hwhole, hfs⟩
    obtain ⟨hne, hdigits⟩ := run_same.mp (matches_run.mp hfs)
    rcases hwhole with ⟨ds, point, rfl, hds, hpoint⟩ | rfl
    · obtain rfl := matches_just.mp hpoint
      rw [List.append_assoc]
      exact .point (matches_many.mp hds) hne hdigits
    · exact .whole hne hdigits
  · intro h
    cases h with
    | whole hne hds => exact ⟨[], l, rfl, .inr rfl, matches_run.mpr (run_same.mpr ⟨hne, hds⟩)⟩
    | @point ds fs hds hne hfs =>
        refine ⟨ds ++ ['.'], fs, by simp, .inl ?_, matches_run.mpr (run_same.mpr ⟨hne, hfs⟩)⟩
        exact ⟨ds, ['.'], rfl, matches_many.mpr hds, matches_just.mpr rfl⟩

theorem matches_number :
    (Terminal.atom .number).pattern.Matches before l behind ↔ Numeral l := by
  constructor
  · rintro ⟨sign, ds, rfl, hsign, hds⟩
    have digits := matches_digits.mp hds
    rcases hsign with hsign | rfl
    · obtain ⟨c, rfl, hc⟩ := matches_either.mp hsign
      exact .signed (by simpa using hc) digits
    · exact .unsigned digits
  · intro h
    cases h with
    | unsigned digits => exact ⟨[], l, rfl, .inr rfl, matches_digits.mpr digits⟩
    | @signed c ds hc digits =>
        refine ⟨[c], ds, rfl, .inl (matches_either.mpr ?_), matches_digits.mpr digits⟩
        exact ⟨c, rfl, by simpa using hc⟩

theorem cutDigits_isSome (h : Digits l) : (cutDigits (l ++ behind)).isSome = true := by
  cases h with
  | whole hne hds =>
      have front : (cutWhile isDigit (l ++ behind)).1 ≠ [] := by
        obtain ⟨c, cs, rfl⟩ := List.exists_cons_of_ne_nil hne
        have hc := hds c List.mem_cons_self
        simp [cutWhile, hc]
      simp only [cutDigits, List.isEmpty_iff, if_neg front]
      split
      · split <;> rfl
      · rfl
  | @point ds fs hds hne hfs =>
      have stop : Stops isDigit ('.' :: (fs ++ behind)) := stops_cons.mpr isDigit_point
      have fraction : (cutWhile isDigit (fs ++ behind)).1 ≠ [] := by
        obtain ⟨c, cs, rfl⟩ := List.exists_cons_of_ne_nil hne
        have hc := hfs c List.mem_cons_self
        simp [cutWhile, hc]
      rw [List.append_assoc, List.cons_append, cutDigits, cutWhile_append hds stop]
      simp only [List.isEmpty_iff, if_neg fraction, Option.isSome_some]

theorem cutNumber_isSome (h : Numeral l) : (cutNumber (l ++ behind)).isSome = true := by
  cases h with
  | unsigned digits =>
      rw [cutNumber_unsigned digits]
      exact cutDigits_isSome digits
  | @signed c ds hc digits =>
      have sign : (c == '-' || c == '+') = true := by simpa using hc
      rw [List.cons_append, cutNumber, if_pos sign, Option.isSome_map]
      exact cutDigits_isSome digits

/-! ### Strings -/

theorem matches_backslashes : (Pattern.many .backslashes).Matches before l behind ↔
    ∃ pairs, l = List.replicate (2 * pairs) '\\' := by
  constructor
  · intro h
    have all : ∀ {before l behind}, Repeats Pattern.backslashes.Matches before l behind →
        ∃ pairs, l = List.replicate (2 * pairs) '\\' := by
      intro before l behind h
      induction h with
      | nil => exact ⟨0, rfl⟩
      | cons hpair _ ih =>
          obtain ⟨_, _, rfl, hone, htwo⟩ := hpair
          obtain rfl := matches_just.mp hone
          obtain rfl := matches_just.mp htwo
          obtain ⟨pairs, rfl⟩ := ih
          exact ⟨pairs + 1, rfl⟩
    exact all h
  · rintro ⟨pairs, rfl⟩
    show Repeats Pattern.backslashes.Matches before _ behind
    induction pairs generalizing before with
    | zero => exact .nil
    | succ pairs ih =>
        have pair : Pattern.backslashes.Matches before ['\\', '\\']
            (List.replicate (2 * pairs) '\\' ++ behind) :=
          ⟨['\\'], ['\\'], rfl, matches_just.mpr rfl, matches_just.mpr rfl⟩
        exact .cons pair ih

/-- Behind the opening quote, only the characters of the string can end in a backslash. -/
theorem notBehind_quote {inner : List Char} :
    (∀ c ∈ (before ++ ['"'] ++ inner).getLast?, (c == '\\') = false) ↔
      inner.getLast? ≠ some '\\' := by
  rw [List.getLast?_append]
  cases inner.getLast? with
  | none => simp
  | some c => simp

theorem matches_string : (Terminal.atom .string).pattern.Matches before l behind ↔
    ∃ inner pairs, Fit inner pairs l := by
  constructor
  · rintro ⟨_, _, rfl, hquote, inner, _, rfl, hinner, _, _, rfl, ⟨rfl, hbehind⟩, _, _, rfl, hpairs,
      hclose⟩
    obtain rfl := matches_just.mp hquote
    obtain rfl := matches_just.mp hclose
    obtain ⟨pairs, rfl⟩ := matches_backslashes.mp hpairs
    refine ⟨inner, pairs, rfl, fun hline => ?_, notBehind_quote.mp hbehind⟩
    exact absurd (matches_many.mp hinner _ hline) (by decide)
  · rintro ⟨inner, pairs, rfl, inline, hbehind⟩
    refine ⟨['"'], _, rfl, matches_just.mpr rfl, inner, _, rfl, matches_many.mpr ?_, [], _, rfl,
      ⟨rfl, notBehind_quote.mpr hbehind⟩, _, ['"'], rfl, matches_backslashes.mpr ⟨pairs, rfl⟩,
      matches_just.mpr rfl⟩
    intro c hc
    have hne : c ≠ '\n' := fun heq => inline (heq ▸ hc)
    simpa using hne

/-! ### Comments -/

theorem matches_comment (h : Remark l) (hstops : Stops isInline behind) :
    Terminal.comment.pattern.Matches before l behind := by
  cases h with
  | @mark cs hcs =>
      exact ⟨['#'], cs, rfl, .inr (matches_just.mpr rfl), matches_many.mpr hcs⟩
  | @word w cs hw hs hcs =>
      refine ⟨w, cs, rfl, .inl ?_, matches_many.mpr hcs⟩
      exact ⟨w, [], (List.append_nil w).symm, matches_word.mpr hw, rfl, stops_rem hs hstops⟩

theorem cutComment_isSome (h : Terminal.comment.pattern.Matches before l behind) :
    (cutComment (l ++ behind)).isSome = true := by
  obtain ⟨mark, cs, rfl, hmark, -⟩ := h
  rw [List.append_assoc, cutComment, Option.isSome_map]
  rcases hmark with ⟨w, _, rfl, hw, rfl, hs⟩ | hmark
  · rw [List.append_nil, cutCommentMark_word (matches_word.mp hw) hs]
    rfl
  · obtain rfl := matches_just.mp hmark
    rfl

end Forms

/-! ## The scanner finds what the patterns match

With the two directions for each terminal, all that was shown of the scanner holds
of the patterns: at most one matches, whatever their order. -/

theorem Terminal.matches_of_cut {cs l r : List Char} (before : List Char) : ∀ {t : Terminal},
    t.cut cs = some (l, r) → t.pattern.Matches before l r := by
  intro t h
  have hl := (t.cuts.sound h).2
  have hstops := t.cut_stops h
  cases t with
  | comment => exact matches_comment hl (hstops.resolve_right (by simp))
  | atom a =>
      cases a with
      | number => exact matches_number.mpr hl
      | string =>
          obtain ⟨body, rfl, hbody⟩ := hl
          exact matches_string.mpr hbody.fit
      | ident => exact matches_run.mpr hl
  | newline | blank => exact matches_run.mpr hl
  | keyword k => exact matches_word.mpr hl
  | addOp | mulOp => exact matches_either.mpr hl
  | caret | sign s | bracket b => exact hl

theorem Terminal.cut_of_matches {before l r : List Char} : ∀ {t : Terminal},
    t.pattern.Matches before l r → (t.cut (l ++ r)).isSome = true := by
  intro t h
  cases t with
  | comment => exact cutComment_isSome h
  | atom a =>
      cases a with
      | number => exact cutNumber_isSome (matches_number.mp h)
      | string =>
          obtain ⟨inner, pairs, rfl, inline, behind⟩ := matches_string.mp h
          have body : (cutStringBody
              (inner ++ (List.replicate (2 * pairs) '\\' ++ '"' :: r))).isSome = true :=
            cutStringBody_isSome inner inline behind
          simpa [Terminal.cut, cutString] using body
      | ident => exact cutRun_isSome (matches_run.mp h)
  | newline | blank => exact cutRun_isSome (matches_run.mp h)
  | keyword k =>
      have word := (cuts_word _).complete (r := r) (matches_word.mp h) fun _ _ => rfl
      rw [Terminal.cut, word]
      rfl
  | addOp | mulOp => exact cutChar_isSome (matches_either.mp h)
  | caret | sign s | bracket b => exact cutChar_isSome h

theorem Terminal.matchesAt_iff {t : Terminal} {before cs : List Char} :
    t.MatchesAt before cs ↔ (t.cut cs).isSome = true := by
  constructor
  · rintro ⟨l, behind, rfl, h⟩
    exact Terminal.cut_of_matches h
  · intro h
    obtain ⟨⟨l, r⟩, hcut⟩ := Option.isSome_iff_exists.mp h
    exact ⟨l, r, (t.cuts.sound hcut).1, Terminal.matches_of_cut before hcut⟩

end TurtleLogo.Grammar

namespace TurtleLogo

open Grammar

/-- Scanning is unambiguous.  Whatever stands before and behind a place, the scanner finds a
lexeme of a terminal there if and only if the pattern of the terminal matches; of the terminals
that a state tries, at most one matches; so their order makes no difference to what is scanned; no
pattern matches nothing; and so each scanned lexeme makes what is left of the text shorter. -/
theorem scanning_unambiguous (s : State) (before cs : List Char) :
    (∀ t : Terminal, t.MatchesAt before cs ↔ (t.cut cs).isSome = true) ∧
    (∀ t t' : Terminal, s.tries t = true → s.tries t' = true →
      t.MatchesAt before cs → t'.MatchesAt before cs → t = t') ∧
    (∀ order : List Terminal, (∀ t, t ∈ order ↔ s.tries t = true) →
      firstMatch cs order = scan s.accepts cs) ∧
    (∀ (t : Terminal) (l behind : List Char), t.pattern.Matches before l behind → l ≠ []) ∧
    ∀ t l rest, scan s.accepts cs = some (t, l, rest) →
      s.tries t = true ∧ t.pattern.Matches before l rest ∧ cs = l ++ rest ∧
        rest.length < cs.length := by
  refine ⟨fun t => t.matchesAt_iff, ?_, ?_, ?_, ?_⟩
  · intro t t' ht ht' h h'
    exact cut_unique ht ht' (t.matchesAt_iff.mp h) (t'.matchesAt_iff.mp h')
  · intro order horder
    refine Option.ext fun ⟨t, cut⟩ => ?_
    exact (firstMatch_eq_some_iff horder).trans scan_eq_some_iff.symm
  · intro t l behind h
    exact h.ne_nil t.pattern_consumes
  · intro t l rest h
    obtain ⟨ht, hcut⟩ := scan_eq_some_iff.mp h
    exact ⟨ht, Terminal.matches_of_cut before hcut, (t.cuts.sound hcut).1, cut_length_lt hcut⟩

/-- A keyword that begins with a long `s`, with the terminals tried from the last to the first. -/
theorem scanning_unambiguous_backwards :
    let order := (Terminal.all.filter State.opened.tries).reverse
    (∀ t, t ∈ order ↔ State.opened.tries t = true) ∧
      firstMatch "\u017ftop".toList order = some (.keyword .stop, "\u017ftop".toList, []) ∧
      ∀ t, State.opened.tries t = true → t.MatchesAt ['\n'] "\u017ftop".toList →
        t = .keyword .stop := by
  intro order
  have tried : ∀ t, t ∈ order ↔ State.opened.tries t = true := fun t => by simp [order, t.mem_all]
  obtain ⟨found, unique, orderless, -, -⟩ :=
    scanning_unambiguous State.opened ['\n'] "\u017ftop".toList
  refine ⟨tried, ?_, ?_⟩
  · rw [orderless order tried]
    rfl
  · intro t ht h
    exact unique t (.keyword .stop) ht rfl h ((found _).mpr rfl)

end TurtleLogo
