/-
# `TurtleLogo.Proofs.Console.Brackets` — which brackets are counted at the prompt

At the prompt brackets are counted by looking at characters, line by line, and
not at tokens.  The count is that of the tokens (`textBalance_lexed`) as long as
the tokens are *clear*:

    name       no name is `rem`, which would be taken for a comment
    comment    a comment that begins with `rem` has no word character before or behind that word,
               or else it would not be taken for one
    break      no string and no comment goes over a line break, which only line feeds and carriage
               returns are to the scanner

None of this can be left out: each condition is about texts on which the two do
disagree.  The argument follows the tokens of a line.  Strings are emptied, and
nothing but a comment makes the count stop.
-/
import TurtleLogo.Console.Brackets
import TurtleLogo.Proofs.Program.Splitting

namespace TurtleLogo.Console

open Grammar Text

/-! ## Lines

The prompt breaks a text at more characters than the scanner does.  Breaks of both
kinds are taken apart here: what a text leaves open is what its first line leaves
open and what is left behind the break. -/

theorem lineBalance_nil : lineBalance [] = 0 := rfl

theorem bracketDepth_nil : bracketDepth [] = 0 := rfl

/-- Characters that stay within a line. -/
def inLine (c : Char) : Bool :=
  !isLineBreak c

theorem takeWhile_inLine_break {c : Char} (hc : isLineBreak c = true) (cs : List Char) :
    (c :: cs).takeWhile inLine = [] := by
  simp [inLine, hc]

theorem dropWhile_inLine_break {c : Char} (hc : isLineBreak c = true) (cs : List Char) :
    (c :: cs).dropWhile inLine = c :: cs := by
  simp [inLine, hc]

/-- The balance of a text is that of its first line, and that of what is behind the break.  A line
feed behind a carriage return may count as a break of its own, since an empty line has balance
zero. -/
theorem linesFrom_balance (line cs : List Char) :
    ((linesFrom line cs).map lineBalance).foldr (· + ·) 0 =
      lineBalance (line.reverse ++ cs.takeWhile inLine) + bracketDepth (cs.dropWhile inLine).tail := by
  fun_induction linesFrom line cs with
  | case1 line hline =>
      rw [List.isEmpty_iff.mp hline]
      rfl
  | case2 line hline =>
      rw [List.takeWhile_nil, List.append_nil]
      rfl
  | case3 line cs ih =>
      have again : bracketDepth ('\n' :: cs) = lineBalance [] + bracketDepth cs := rfl
      rw [takeWhile_inLine_break rfl, dropWhile_inLine_break rfl, List.append_nil, List.tail_cons,
        again, lineBalance_nil, Int.zero_add]
      rfl
  | case4 line c cs hne hbreak ih =>
      rw [takeWhile_inLine_break hbreak, dropWhile_inLine_break hbreak, List.append_nil]
      rfl
  | case5 line c cs hne hbreak ih =>
      have hc : inLine c = true := by simp [inLine, hbreak]
      rw [ih, List.takeWhile_cons_of_pos hc, List.dropWhile_cons_of_pos hc, List.reverse_cons,
        List.append_assoc]
      rfl

theorem bracketDepth_eq (cs : List Char) :
    bracketDepth cs =
      lineBalance (cs.takeWhile inLine) + bracketDepth (cs.dropWhile inLine).tail :=
  linesFrom_balance [] cs

theorem bracketDepth_line {l : List Char} (hl : ∀ c ∈ l, inLine c = true) {c : Char}
    (hc : isLineBreak c = true) (cs : List Char) :
    bracketDepth (l ++ c :: cs) = lineBalance l + bracketDepth cs := by
  rw [bracketDepth_eq, List.takeWhile_append_of_pos hl, List.dropWhile_append_of_pos hl,
    takeWhile_inLine_break hc, dropWhile_inLine_break hc, List.append_nil]
  rfl

theorem bracketDepth_last {l : List Char} (hl : ∀ c ∈ l, inLine c = true) :
    bracketDepth l = lineBalance l := by
  rw [← List.append_nil l, bracketDepth_eq, List.takeWhile_append_of_pos hl,
    List.dropWhile_append_of_pos hl, List.takeWhile_nil, List.dropWhile_nil, List.tail_nil,
    bracketDepth_nil, Int.add_zero]

/-- The balances of two texts with a line feed between them add up.  A carriage return at the end of
the first one makes one break of the two, or an empty line. -/
theorem bracketDepth_join (a b : List Char) :
    bracketDepth (a ++ '\n' :: b) = bracketDepth a + bracketDepth b := by
  induction hn : a.length using Nat.strongRecOn generalizing a with
  | ind n ih =>
      have hjoin : (cutWhile inLine a).1 ++ (cutWhile inLine a).2 = a := cutWhile_join inLine a
      have hline : ∀ c ∈ (cutWhile inLine a).1, inLine c = true := cutWhile_all
      have hstops := cutWhile_stops inLine a
      generalize (cutWhile inLine a).1 = l at hjoin hline
      generalize (cutWhile inLine a).2 = r at hjoin hstops
      subst hjoin
      cases r with
      | nil => rw [List.append_nil, bracketDepth_line hline rfl, bracketDepth_last hline]
      | cons c r =>
          have hc : isLineBreak c = true := by simpa [inLine] using stops_cons.mp hstops
          have hshort : r.length < n := by
            rw [← hn, List.length_append, List.length_cons]
            omega
          rw [List.append_assoc, List.cons_append, bracketDepth_line hline hc,
            bracketDepth_line hline hc, ih r.length hshort r rfl, Int.add_assoc]

/-- A line feed at the end of a text makes no difference. -/
theorem bracketDepth_concat (a : List Char) : bracketDepth (a ++ ['\n']) = bracketDepth a := by
  rw [bracketDepth_join, bracketDepth_nil, Int.add_zero]

/-! ## Strings

Emptying the strings of a line goes by a pattern, from left to right, and the fuel
of the definition is never used up.  A string that ends on its line vanishes as a
whole; a quote that nothing closes stays, and so does everything behind it. -/

/-- A line with its strings made empty. -/
def emptied (line : List Char) : List Char :=
  emptyStrings line.length line

theorem afterString_length {cs rest : List Char} (h : afterString cs = some rest) :
    rest.length < cs.length := by
  fun_induction afterString cs with
  | case1 => exact nomatch h
  | case2 => exact nomatch h
  | case3 c cs hc => exact nomatch h
  | case4 c cs hc ih =>
      have := ih h
      simp only [List.length_cons]
      omega
  | case5 cs =>
      obtain rfl := Option.some.inj h
      exact Nat.lt_succ_self _
  | case6 c cs _ _ _ ih =>
      have := ih h
      simp only [List.length_cons]
      omega

theorem emptyStrings_eq : ∀ {n : Nat} {cs : List Char}, cs.length ≤ n → emptyStrings n cs = emptied cs := by
  intro n
  induction n using Nat.strongRecOn with
  | ind n ih =>
      intro cs hcs
      cases cs with
      | nil => cases n <;> rfl
      | cons c cs =>
          obtain ⟨n, rfl⟩ : ∃ m, n = m + 1 := ⟨n - 1, by simp only [List.length_cons] at hcs; omega⟩
          have hle : cs.length ≤ n := Nat.le_of_succ_le_succ hcs
          show emptyStrings (n + 1) (c :: cs) = emptyStrings (cs.length + 1) (c :: cs)
          rw [emptyStrings, emptyStrings, ih n (Nat.lt_succ_self n) hle]
          cases hafter : afterString cs with
          | none => rfl
          | some rest =>
              have hrest := afterString_length hafter
              dsimp only
              rw [ih n (Nat.lt_succ_self n) (by omega), ih cs.length (by omega) hrest.le]
              rfl

theorem emptied_cons {c : Char} (hc : c ≠ '"') (cs : List Char) :
    emptied (c :: cs) = c :: emptied cs := by
  show emptyStrings (cs.length + 1) (c :: cs) = c :: emptied cs
  rw [emptyStrings, if_neg (by simpa using hc)]
  rfl

theorem emptied_append {l : List Char} (hl : '"' ∉ l) (cs : List Char) :
    emptied (l ++ cs) = l ++ emptied cs := by
  induction l with
  | nil => rfl
  | cons c l ih =>
      have hc : c ≠ '"' := fun h => hl (h ▸ List.mem_cons_self)
      rw [List.cons_append, emptied_cons hc, ih fun h => hl (List.mem_cons_of_mem c h)]
      rfl

theorem emptied_quote (cs : List Char) :
    emptied ('"' :: cs) =
      match afterString cs with
      | some rest => '"' :: '"' :: emptied rest
      | none => '"' :: emptied cs := by
  show emptyStrings (cs.length + 1) ('"' :: cs) = _
  rw [emptyStrings, if_pos (beq_self_eq_true '"')]
  cases hafter : afterString cs with
  | none => rfl
  | some rest =>
      dsimp only
      rw [emptyStrings_eq (afterString_length hafter).le]

theorem stops_emptied {p : Char → Bool} {line : List Char} (h : Stops p line) :
    Stops p (emptied line) := by
  cases line with
  | nil => exact h
  | cons c cs =>
      have hc := stops_cons.mp h
      by_cases hquote : c = '"'
      · subst hquote
        rw [emptied_quote]
        cases afterString cs with
        | none => exact stops_cons.mpr hc
        | some rest => exact stops_cons.mpr hc
      · rw [emptied_cons hquote]
        exact stops_cons.mpr hc

theorem afterString_escaped {cs : List Char} (h : Escaped cs) (rest : List Char) :
    afterString (cs ++ '"' :: rest) = some rest := by
  induction h with
  | nil => rfl
  | @plain c cs hslash hquote _ _ ih =>
      rw [List.cons_append, afterString, ih]
      · exact fun h => absurd h hslash
      · exact fun d ds h => absurd h hslash
      · exact hquote
  | @pair c cs hc _ ih =>
      rw [List.cons_append, List.cons_append, afterString, if_neg (by simpa using hc), ih]

theorem emptied_string {l : List Char} (hl : Quotation l) (cs : List Char) :
    emptied (l ++ cs) = '"' :: '"' :: emptied cs := by
  obtain ⟨body, rfl, hbody⟩ := hl
  have hafter := afterString_escaped hbody cs
  rw [List.cons_append, List.append_assoc, List.singleton_append, emptied_quote, hafter]

/-! ## Comments

A comment is looked for in a line whose strings are empty already.  Where the mark
may stand hangs on the character before it, since `rem` counts as a word only if
no word character is beside it. -/

/-- Whether a word character stands behind a text, if `inWord` tells the same of its front. -/
def endsInWord (inWord : Bool) : List Char → Bool
  | [] => inWord
  | c :: cs => endsInWord (isWordChar c) cs

theorem endsInWord_concat (inWord : Bool) (l : List Char) (c : Char) :
    endsInWord inWord (l ++ [c]) = isWordChar c := by
  induction l generalizing inWord with
  | nil => rfl
  | cons d l ih => exact ih (isWordChar d)

/-- `Unmarked inWord l r`: no comment begins within `l` where `r` follows it. -/
def Unmarked (inWord : Bool) : List Char → List Char → Prop
  | [], _ => True
  | c :: l, r =>
    (c == '#' || (!inWord && startsRem (c :: (l ++ r)))) = false ∧ Unmarked (isWordChar c) l r

theorem dropComment_append {l r : List Char} : ∀ {inWord : Bool}, Unmarked inWord l r →
    dropComment inWord (l ++ r) = l ++ dropComment (endsInWord inWord l) r := by
  induction l with
  | nil => exact fun _ => rfl
  | cons c l ih =>
      intro inWord h
      rw [List.cons_append, dropComment, if_neg (by rw [h.1]; decide), ih h.2]
      rfl

theorem isLetter_iff_of_table {letter : Char} (hletter : letter.toNat < 128)
    (hsmall : letter.toLower.toNat < 128) (hothers : letter ≠ 'S' ∧ letter ≠ 'K' ∧ letter ≠ 'I')
    (table : ∀ n < 128, isLetter letter (Char.ofNat n) = true ↔
      Char.ofNat n = letter.toLower ∨ Char.ofNat n = letter) (c : Char) :
    isLetter letter c = true ↔ c = letter.toLower ∨ c = letter := by
  by_cases hc : c.toNat < 128
  · rw [← Char.ofNat_toNat c]
    exact table c.toNat hc
  · have hascii : isAsciiLetter c = false := by
      rw [Bool.eq_false_iff]
      intro hletter
      have := isAsciiLetter_toNat hletter
      omega
    refine iff_of_false (fun h => ?_) ?_
    · simp only [isLetter, capital?, hascii, beq_iff_eq, Bool.false_eq_true, if_false] at h
      split_ifs at h
      · exact hothers.1 (Option.some.inj h).symm
      · exact hothers.2.1 (Option.some.inj h).symm
      · exact hothers.2.2 (Option.some.inj h).symm
    · rintro (rfl | rfl)
      · exact hc hsmall
      · exact hc hletter

theorem isLetter_iff {letter : Char} (h : letter ∈ ['R', 'E', 'M']) (c : Char) :
    isLetter letter c = true ↔ c = letter.toLower ∨ c = letter := by
  simp only [List.mem_cons, List.not_mem_nil, or_false] at h
  rcases h with rfl | rfl | rfl
  · exact isLetter_iff_of_table (by decide) (by decide) (by decide) (by decide +kernel) c
  · exact isLetter_iff_of_table (by decide) (by decide) (by decide) (by decide +kernel) c
  · exact isLetter_iff_of_table (by decide) (by decide) (by decide) (by decide +kernel) c

/-- The word `rem` is the one that the scanner takes, with no word character behind it. -/
theorem startsRem_iff {cs : List Char} : startsRem cs = true ↔
    ∃ w rest, cs = w ++ rest ∧ Worded ['R', 'E', 'M'] w ∧ Stops isWordChar rest := by
  constructor
  · intro h
    unfold startsRem at h
    split at h
    · next r e m rest =>
        simp only [Bool.and_eq_true, Bool.or_eq_true, beq_iff_eq] at h
        obtain ⟨⟨⟨hr, he⟩, hm⟩, hrest⟩ := h
        refine ⟨[r, e, m], rest, rfl, .cons ?_ (.cons ?_ (.cons ?_ .nil)), ?_⟩
        · exact (isLetter_iff (by decide) r).mpr hr
        · exact (isLetter_iff (by decide) e).mpr he
        · exact (isLetter_iff (by decide) m).mpr hm
        · cases rest with
          | nil => exact stops_nil _
          | cons c rest => exact stops_cons.mpr (by simpa using hrest)
    · exact nomatch h
  · rintro ⟨w, rest, rfl, hw, hrest⟩
    cases hw with
    | @cons _ r _ _ hr hw =>
    cases hw with
    | @cons _ e _ _ he hw =>
    cases hw with
    | @cons _ m _ _ hm hw =>
    cases hw
    have hr := (isLetter_iff (by decide) r).mp hr
    have he := (isLetter_iff (by decide) e).mp he
    have hm := (isLetter_iff (by decide) m).mp hm
    show startsRem (r :: e :: m :: rest) = true
    simp only [startsRem, Bool.and_eq_true, Bool.or_eq_true, beq_iff_eq]
    refine ⟨⟨⟨hr, he⟩, hm⟩, ?_⟩
    cases rest with
    | nil => rfl
    | cons c rest => simpa using stops_cons.mp hrest

theorem startsRem_front {c : Char} {cs : List Char} (h : startsRem (c :: cs) = true) :
    c = 'r' ∨ c = 'R' := by
  obtain ⟨w, rest, hcs, hw, -⟩ := startsRem_iff.mp h
  cases hw with
  | cons hr _ =>
      obtain ⟨rfl, -⟩ := List.cons.inj hcs
      exact (isLetter_iff (by decide) c).mp hr

theorem unmarked_plain {l r : List Char} (h : ∀ c ∈ l, c ≠ '#' ∧ c ≠ 'r' ∧ c ≠ 'R') :
    ∀ inWord : Bool, Unmarked inWord l r := by
  induction l with
  | nil => exact fun _ => trivial
  | cons c l ih =>
      intro inWord
      obtain ⟨⟨hmark, hr, hR⟩, hl⟩ := List.forall_mem_cons.mp h
      have hrem : startsRem (c :: (l ++ r)) = false := by
        rw [Bool.eq_false_iff]
        exact fun hrem => (startsRem_front hrem).elim hr hR
      exact ⟨by simp [hmark, hrem], ih hl _⟩

theorem unmarked_word {l r : List Char} (h : ∀ c ∈ l, isWordChar c = true) : Unmarked true l r := by
  induction l with
  | nil => trivial
  | cons c l ih =>
      obtain ⟨hc, hl⟩ := List.forall_mem_cons.mp h
      have hmark : (c == '#') = false := beq_false_of_class hc (by decide)
      refine ⟨by simp [hmark], ?_⟩
      rw [hc]
      exact ih hl

/-! ## From token to token

One token of a line at a time: what it adds to the balance of what follows it.
Brackets count, other punctuation, words and strings count nothing, and a comment
ends the count. -/

/-- The balance of the rest of a line. -/
def balanceFrom (inWord : Bool) (line : List Char) : Int :=
  balance (dropComment inWord (emptied line))

theorem balance_append (l r : List Char) : balance (l ++ r) = balance l + balance r := by
  simp only [balance, List.count_append]
  omega

theorem balance_eq_zero {l : List Char} (hl : '[' ∉ l) (hr : ']' ∉ l) : balance l = 0 := by
  rw [balance, List.count_eq_zero_of_not_mem hl, List.count_eq_zero_of_not_mem hr]
  rfl

theorem balanceFrom_append {inWord : Bool} {l line : List Char} (hquote : '"' ∉ l)
    (h : Unmarked inWord l (emptied line)) :
    balanceFrom inWord (l ++ line) = balance l + balanceFrom (endsInWord inWord l) line := by
  rw [balanceFrom, emptied_append hquote, dropComment_append h, balance_append]
  rfl

/-- Which punctuation is whose. -/
theorem marks_table {t : Terminal} : '"' ∉ t.marks ∧ '#' ∉ t.marks ∧ 'r' ∉ t.marks ∧
    'R' ∉ t.marks ∧ ('[' ∈ t.marks → t = .bracket .lsqb) ∧ (']' ∈ t.marks → t = .bracket .rsqb) := by
  have table : ∀ t ∈ Terminal.all, '"' ∉ t.marks ∧ '#' ∉ t.marks ∧ 'r' ∉ t.marks ∧
      'R' ∉ t.marks ∧ ('[' ∈ t.marks → t = .bracket .lsqb) ∧
      (']' ∈ t.marks → t = .bracket .rsqb) := by decide
  exact table t t.mem_all

section Tokens

variable {t : Token} {inWord : Bool}

theorem mark_notMem (h : t.terminal.Lexeme t.lexeme) (ht : t.terminal.isMark = true) {c : Char}
    (hdigit : isDigit c = false) (hmark : c ∉ t.terminal.marks) : c ∉ t.lexeme := by
  intro hc
  rcases h.mark_char ht hc with hc | hc
  · rw [hdigit] at hc
    exact nomatch hc
  · exact hmark hc

theorem balance_mark (h : t.terminal.Lexeme t.lexeme) (ht : t.terminal.isMark = true) :
    balance t.lexeme = t.nesting := by
  obtain ⟨-, -, -, -, hlsqb, hrsqb⟩ := marks_table (t := t.terminal)
  have single : ∀ {b : Bracket}, t.terminal = .bracket b → t.lexeme = [b.char] := by
    intro b hb
    rw [hb] at h
    obtain ⟨c, hl, hc⟩ := h
    rw [hl, eq_of_beq hc]
  by_cases hl : t.terminal = .bracket .lsqb
  · rw [single hl, Token.nesting, hl]
    rfl
  by_cases hr : t.terminal = .bracket .rsqb
  · rw [single hr, Token.nesting, hr]
    rfl
  · rw [Token.nesting_eq_zero hl hr, balance_eq_zero (mark_notMem h ht (by decide) fun hc => hl (hlsqb hc))
        (mark_notMem h ht (by decide) fun hc => hr (hrsqb hc))]

/-- Digits and punctuation count as their token does. -/
theorem balanceFrom_mark (h : t.terminal.Lexeme t.lexeme) (ht : t.terminal.isMark = true)
    (line : List Char) :
    balanceFrom inWord (t.lexeme ++ line) =
      t.nesting + balanceFrom (endsInWord inWord t.lexeme) line := by
  obtain ⟨hquote, hmark, hr, hR, -, -⟩ := marks_table (t := t.terminal)
  have unmarked : Unmarked inWord t.lexeme (emptied line) := by
    refine unmarked_plain (fun c hc => ⟨?_, ?_, ?_⟩) inWord
    · rintro rfl
      exact mark_notMem h ht (by decide) hmark hc
    · rintro rfl
      exact mark_notMem h ht (by decide) hr hc
    · rintro rfl
      exact mark_notMem h ht (by decide) hR hc
  rw [balanceFrom_append (mark_notMem h ht (by decide) hquote) unmarked, balance_mark h ht]

/-- A word counts for nothing, unless it is taken for the mark of a comment. -/
theorem balanceFrom_word (h : t.terminal.Lexeme t.lexeme) (ht : t.terminal.isWord = true)
    {line : List Char} (hrem : inWord = true ∨ startsRem (t.lexeme ++ emptied line) = false) :
    balanceFrom inWord (t.lexeme ++ line) =
      t.nesting + balanceFrom (endsInWord inWord t.lexeme) line := by
  have word : ∀ c ∈ t.lexeme, isWordChar c = true := fun c hc => h.word_char ht hc
  have absent : ∀ {c : Char}, isWordChar c = false → c ∉ t.lexeme := by
    intro c hword hc
    rw [word c hc] at hword
    exact nomatch hword
  have hnesting : t.nesting = 0 := by
    refine Token.nesting_eq_zero (fun heq => ?_) (fun heq => ?_)
    all_goals
      rw [heq] at ht
      exact nomatch ht
  have unmarked : Unmarked inWord t.lexeme (emptied line) := by
    generalize t.lexeme = l at word hrem
    cases l with
    | nil => trivial
    | cons c l =>
        obtain ⟨hc, hl⟩ := List.forall_mem_cons.mp word
        have hmark : (c == '#') = false := beq_false_of_class hc (by decide)
        refine ⟨?_, hc ▸ unmarked_word hl⟩
        rcases hrem with hrem | hrem
        · simp [hmark, hrem]
        · rw [List.cons_append] at hrem
          simp [hmark, hrem]
  rw [balanceFrom_append (absent (by decide)) unmarked, hnesting,
    balance_eq_zero (absent (by decide)) (absent (by decide))]

theorem balanceFrom_string (h : Quotation t.lexeme) (line : List Char) :
    balanceFrom inWord (t.lexeme ++ line) = balanceFrom (endsInWord inWord t.lexeme) line := by
  have ends : endsInWord inWord t.lexeme = false := by
    obtain ⟨body, hl, -⟩ := h
    rw [hl, ← List.cons_append, endsInWord_concat]
    decide
  have unmarked : Unmarked inWord ['"', '"'] (emptied line) := unmarked_plain (by simp) inWord
  have emptied : emptied (t.lexeme ++ line) = ['"', '"'] ++ emptied line := emptied_string h line
  rw [ends, balanceFrom, emptied, dropComment_append unmarked, balance_append]
  exact Int.zero_add _

/-- A comment ends the count of its line, if it is seen as one. -/
theorem balanceFrom_comment {l : List Char}
    (h : l.head? = some '#' ∨ inWord = false ∧ startsRem l = true) : balanceFrom inWord l = 0 := by
  suffices marked : dropComment inWord (emptied l) = [] by
    rw [balanceFrom, marked]
    rfl
  rcases h with hmark | ⟨hword, hrem⟩
  · cases l with
    | nil => exact nomatch hmark
    | cons c l =>
        obtain rfl : c = '#' := Option.some.inj hmark
        rw [emptied_cons (by decide), dropComment, if_pos (by simp)]
  · obtain ⟨w, rest, rfl, hw, hrest⟩ := startsRem_iff.mp hrem
    have unquoted : '"' ∉ w := fun hquote => absurd (hw.startsName hquote) (by decide)
    have still : startsRem (w ++ emptied rest) = true :=
      startsRem_iff.mpr ⟨w, emptied rest, rfl, hw, stops_emptied hrest⟩
    rw [emptied_append unquoted]
    cases hw with
    | cons _ _ =>
        rw [List.cons_append] at still ⊢
        rw [dropComment, if_pos (by simp [hword, still])]

end Tokens

theorem startsRem_name {l r : List Char} (hl : ∀ c ∈ l, isWordChar c = true)
    (hr : Stops isWordChar r) (h : startsRem (l ++ r) = true) : startsRem l = true := by
  obtain ⟨w, rest, heq, hw, hrest⟩ := startsRem_iff.mp h
  have word : ∀ c ∈ w, isWordChar c = true :=
    fun c hc => isWordChar_of_startsName (hw.startsName hc)
  have same : l = w := by
    have left := cutWhile_append hl hr
    have right := cutWhile_append word hrest
    rw [heq, right] at left
    exact (Prod.mk.inj left).1.symm
  exact startsRem_iff.mpr ⟨w, [], by rw [same, List.append_nil], hw, stops_nil _⟩

theorem startsRem_keyword {k : Keyword} {l : List Char} (h : (Terminal.keyword k).Lexeme l)
    (r : List Char) : startsRem (l ++ r) = false := by
  rw [Bool.eq_false_iff]
  intro hrem
  obtain ⟨w, rest, heq, hw, -⟩ := startsRem_iff.mp hrem
  have hkeyword : (Terminal.keyword k, k.spelling.toList) ∈ words := by
    simp [words, Keyword.mem_all]
  have hcomment : (Terminal.comment, ['R', 'E', 'M']) ∈ words := List.mem_cons_self
  rcases worded_prefix h hw heq with hprefix | hprefix
  · exact nomatch words_apart hkeyword hcomment hprefix
  · exact nomatch words_apart hcomment hkeyword hprefix

/-! ## From line to line

The balance of a whole text, of whose first line only a rest is given.  Between
two breaks it is the balance of the line, and at a break it starts anew with
nothing before it. -/

/-- The balance of a text, of whose first line only a rest is given. -/
def textBalance (inWord : Bool) (cs : List Char) : Int :=
  balanceFrom inWord (cs.takeWhile inLine) + bracketDepth (cs.dropWhile inLine).tail

theorem bracketDepth_eq_textBalance (cs : List Char) : bracketDepth cs = textBalance false cs :=
  bracketDepth_eq cs

theorem textBalance_break {c : Char} (hc : isLineBreak c = true) (inWord : Bool) (cs : List Char) :
    textBalance inWord (c :: cs) = bracketDepth cs := by
  rw [textBalance, takeWhile_inLine_break hc, dropWhile_inLine_break hc]
  exact Int.zero_add _

/-- What a piece of a line adds to the balance of the line, it adds to that of the text. -/
theorem textBalance_append {l cs : List Char} {before behind : Bool} {n : Int}
    (hl : ∀ c ∈ l, inLine c = true)
    (h : balanceFrom before (l ++ cs.takeWhile inLine) =
      n + balanceFrom behind (cs.takeWhile inLine)) :
    textBalance before (l ++ cs) = n + textBalance behind cs := by
  rw [textBalance, List.takeWhile_append_of_pos hl, List.dropWhile_append_of_pos hl, h, Int.add_assoc]
  rfl

theorem isLineBreak_of_not_isInline {c : Char} (h : (!isInline c) = true) : isLineBreak c = true := by
  rcases not_isInline_iff.mp h with rfl | rfl <;> rfl

/-- Layout makes no difference at the beginning of a line. -/
theorem bracketDepth_layout {ls : List Char} (h : ∀ c ∈ ls, isLayout c = true) (cs : List Char) :
    bracketDepth (ls ++ cs) = bracketDepth cs := by
  induction ls with
  | nil => rfl
  | cons c ls ih =>
      obtain ⟨hc, hls⟩ := List.forall_mem_cons.mp h
      rw [List.cons_append, bracketDepth_eq_textBalance]
      rcases Bool.or_eq_true_iff.mp hc with hspace | hbreak
      · have blank : inLine c = true ∧ '"' ≠ c ∧ c ≠ '#' ∧ c ≠ 'r' ∧ c ≠ 'R' ∧ balance [c] = 0 ∧
            isWordChar c = false := by
          rcases isSpace_iff.mp hspace with rfl | rfl <;> decide
        obtain ⟨hline, hquote, hmark, hr, hR, hbalance, hword⟩ := blank
        have unmarked : ∀ r, Unmarked false [c] r := fun r => unmarked_plain (by simp [*]) false
        have step : textBalance false ([c] ++ (ls ++ cs)) = 0 + textBalance false (ls ++ cs) := by
          refine textBalance_append (by simpa using hline) ?_
          rw [balanceFrom_append (by simpa using hquote) (unmarked _), hbalance, endsInWord, hword]
          rfl
        rw [← ih hls, bracketDepth_eq_textBalance, ← Int.zero_add (textBalance false (ls ++ cs))]
        exact step
      · rw [textBalance_break (isLineBreak_of_not_isInline hbreak), ih hls]

/-- Line breaks are no part of words, numbers and punctuation. -/
theorem isLineBreak_apart {c : Char} (h : isLineBreak c = true) :
    isWordChar c = false ∧ isDigit c = false ∧ ∀ t : Terminal, c ∉ t.marks := by
  have table : ∀ n ∈ [10, 11, 12, 13, 28, 29, 30, 0x85, 0x2028, 0x2029],
      isWordChar (Char.ofNat n) = false ∧ isDigit (Char.ofNat n) = false ∧
        ∀ t ∈ Terminal.all, Char.ofNat n ∉ t.marks := by decide +kernel
  have hn : c.toNat ∈ [10, 11, 12, 13, 28, 29, 30, 0x85, 0x2028, 0x2029] := by
    simp only [isLineBreak, Bool.or_eq_true, Bool.and_eq_true, decide_eq_true_eq, beq_iff_eq] at h
    simp only [List.mem_cons, List.not_mem_nil, or_false]
    omega
  obtain ⟨hword, hdigit, hmarks⟩ := table c.toNat hn
  rw [Char.ofNat_toNat] at hword hdigit hmarks
  exact ⟨hword, hdigit, fun t => hmarks t t.mem_all⟩

theorem inLine_word {t : Terminal} {l : List Char} (h : t.Lexeme l) (ht : t.isWord = true) :
    ∀ c ∈ l, inLine c = true := by
  intro c hc
  have hword := h.word_char ht hc
  cases hbreak : isLineBreak c with
  | false => simp [inLine, hbreak]
  | true =>
      rw [(isLineBreak_apart hbreak).1] at hword
      exact nomatch hword

theorem inLine_mark {t : Terminal} {l : List Char} (h : t.Lexeme l) (ht : t.isMark = true) :
    ∀ c ∈ l, inLine c = true := by
  intro c hc
  cases hbreak : isLineBreak c with
  | false => simp [inLine, hbreak]
  | true =>
      obtain ⟨-, hdigit, hmarks⟩ := isLineBreak_apart hbreak
      rcases h.mark_char ht hc with hc | hc
      · rw [hdigit] at hc
        exact nomatch hc
      · exact absurd hc (hmarks t)

/-! ## The tokens of a text

The conditions under which the prompt sees each token for what it is, put together
along a text.  The induction is on the tokens, and carries whether a word
character stands before the place. -/

/-- Whether a token is seen at the prompt for what it is.  `inWord` tells whether a word character
stands before it. -/
def isClear (inWord : Bool) (t : Token) : Bool :=
  match t.terminal with
  | .atom .ident => inWord || !startsRem t.lexeme
  | .atom .string => t.lexeme.all inLine
  | .comment =>
    t.lexeme.all inLine && (t.lexeme.head? == some '#' || (!inWord && startsRem t.lexeme))
  | _ => true

/-- Whether all tokens of a text are seen for what they are. -/
def clear (inWord : Bool) : List Token → Bool
  | [] => true
  | t :: ts => isClear inWord t && clear (endsInWord inWord t.lexeme) ts

theorem endsInWord_false {l : List Char} (h : ∀ c ∈ l, isWordChar c = false) :
    endsInWord false l = false := by
  induction l with
  | nil => rfl
  | cons c l ih =>
      obtain ⟨hc, hl⟩ := List.forall_mem_cons.mp h
      rw [endsInWord, hc]
      exact ih hl

theorem isWordChar_of_isLayout {c : Char} (h : isLayout c = true) : isWordChar c = false := by
  rcases Bool.or_eq_true_iff.mp h with hspace | hbreak
  · rcases isSpace_iff.mp hspace with rfl | rfl <;> decide
  · rcases not_isInline_iff.mp hbreak with rfl | rfl <;> decide

theorem stops_takeWhile {p : Char → Bool} {cs : List Char} (h : Stops p cs) :
    Stops p (cs.takeWhile inLine) := by
  cases cs with
  | nil => exact h
  | cons c cs =>
      rw [List.takeWhile_cons]
      split
      · exact stops_cons.mpr (stops_cons.mp h)
      · exact stops_nil p

section Tokens

variable {t : Token} {inWord : Bool} {mid : List Char}

theorem textBalance_newline (h : Terminal.newline.Lexeme t.lexeme) :
    textBalance inWord (t.lexeme ++ mid) = textBalance (endsInWord inWord t.lexeme) mid := by
  obtain ⟨c, ls, hl, hc, hls⟩ := h
  have unworded : endsInWord inWord t.lexeme = false := by
    have hbreak : isWordChar c = false := isWordChar_of_isLayout (by simp [isLayout, hc])
    rw [hl, endsInWord, hbreak]
    exact endsInWord_false fun d hd => isWordChar_of_isLayout (hls d hd)
  rw [unworded, hl, List.cons_append, textBalance_break (isLineBreak_of_not_isInline hc),
    bracketDepth_layout hls, bracketDepth_eq_textBalance]

theorem textBalance_comment (hstops : Stops isInline mid) (hline : ∀ c ∈ t.lexeme, inLine c = true)
    (hseen : t.lexeme.head? = some '#' ∨ inWord = false ∧ startsRem t.lexeme = true) :
    textBalance inWord (t.lexeme ++ mid) = textBalance (endsInWord inWord t.lexeme) mid := by
  have last : mid.takeWhile inLine = [] := by
    cases mid with
    | nil => rfl
    | cons c mid =>
        have inline : isInline c = false := stops_cons.mp hstops
        exact takeWhile_inLine_break (isLineBreak_of_not_isInline (by simpa using inline)) mid
  have none : balanceFrom inWord (t.lexeme ++ mid.takeWhile inLine) =
      0 + balanceFrom (endsInWord inWord t.lexeme) (mid.takeWhile inLine) := by
    rw [last, List.append_nil, balanceFrom_comment hseen]
    rfl
  rw [textBalance_append hline none, Int.zero_add]

theorem startsRem_ident (h : (Terminal.atom .ident).Lexeme t.lexeme) (hstops : Stops isWordChar mid)
    (hname : startsRem t.lexeme = false) :
    startsRem (t.lexeme ++ emptied (mid.takeWhile inLine)) = false := by
  rw [Bool.eq_false_iff]
  intro hrem
  have named := startsRem_name (fun c hc => h.word_char rfl hc)
    (stops_emptied (stops_takeWhile hstops)) hrem
  rw [named] at hname
  cases hname

theorem textBalance_token (hcut : t.terminal.cut (t.lexeme ++ mid) = some (t.lexeme, mid))
    (hclear : isClear inWord t = true) :
    textBalance inWord (t.lexeme ++ mid) =
      t.nesting + textBalance (endsInWord inWord t.lexeme) mid := by
  have hlexeme := (t.terminal.cuts.sound hcut).2
  by_cases mark : t.terminal.isMark = true
  · exact textBalance_append (inLine_mark hlexeme mark) (balanceFrom_mark hlexeme mark _)
  have hnesting : t.nesting = 0 := by
    refine Token.nesting_eq_zero (fun heq => mark ?_) (fun heq => mark ?_)
    · rw [heq]
      rfl
    · rw [heq]
      rfl
  have stops := t.terminal.cut_stops hcut
  cases hterminal : t.terminal with
  | keyword k =>
      have word : t.terminal.isWord = true := by rw [hterminal]; rfl
      refine textBalance_append (inLine_word hlexeme word) (balanceFrom_word hlexeme word (.inr ?_))
      rw [hterminal] at hlexeme
      exact startsRem_keyword hlexeme _
  | newline =>
      rw [hterminal] at hlexeme
      rw [textBalance_newline hlexeme, hnesting, Int.zero_add]
  | comment =>
      rw [isClear, hterminal] at hclear
      simp only [Bool.and_eq_true, Bool.or_eq_true, beq_iff_eq, Bool.not_eq_true', List.all_eq_true]
        at hclear
      rw [hterminal] at stops
      rw [textBalance_comment (stops.resolve_right (by simp)) hclear.1 hclear.2, hnesting,
        Int.zero_add]
  | atom a =>
      cases a with
      | number =>
          rw [hterminal] at mark
          exact absurd rfl mark
      | string =>
          rw [isClear, hterminal] at hclear
          rw [hterminal] at hlexeme
          refine textBalance_append (List.all_eq_true.mp hclear) ?_
          rw [balanceFrom_string hlexeme, hnesting, Int.zero_add]
      | ident =>
          have word : t.terminal.isWord = true := by rw [hterminal]; rfl
          rw [isClear, hterminal] at hclear
          refine textBalance_append (inLine_word hlexeme word) (balanceFrom_word hlexeme word ?_)
          rw [hterminal] at stops hlexeme
          rcases Bool.or_eq_true_iff.mp hclear with hword | hname
          · exact .inl hword
          · exact .inr (startsRem_ident hlexeme (stops.resolve_right (by simp)) (by simpa using hname))
  | _ =>
      rw [hterminal] at mark
      exact absurd rfl mark

end Tokens

/-- The balance of a text up to a line end is what its tokens leave open. -/
theorem textBalance_lexed {p : Position} {cs rest ls : List Char} {us : List Token} {c : Char}
    (h : Lexed p cs us rest) (hrest : rest = c :: ls) (hc : (!isInline c) = true)
    (hls : ∀ d ∈ ls, isLayout d = true) :
    ∀ {inWord : Bool}, clear inWord us = true → textBalance inWord cs = depth us := by
  induction h with
  | nil =>
      intro inWord _
      have nothing := bracketDepth_layout hls []
      rw [List.append_nil] at nothing
      rw [hrest, textBalance_break (isLineBreak_of_not_isInline hc), nothing]
      rfl
  | @cons p cs mid rest t us _ hcut hlexed ih =>
      intro inWord hclear
      obtain ⟨ht, hus⟩ := Bool.and_eq_true_iff.mp hclear
      obtain ⟨rfl, -⟩ := t.terminal.cuts.sound hcut
      rw [textBalance_token hcut ht, ih hrest hus, depth_cons]

theorem clear_append {us vs : List Token} : ∀ {inWord : Bool}, clear inWord (us ++ vs) = true →
    clear inWord us = true := by
  induction us with
  | nil => exact fun _ => rfl
  | cons t us ih =>
      intro inWord h
      obtain ⟨ht, hus⟩ := Bool.and_eq_true_iff.mp h
      exact Bool.and_eq_true_iff.mpr ⟨ht, ih hus⟩

/-- `SeesBrackets us`: at every line feed of the text of `us`, the brackets counted at the prompt
are those that the tokens before it leave open. -/
def SeesBrackets (us : List Token) : Prop :=
  ∀ a b, spelling us = a ++ '\n' :: b → bracketDepth (a ++ ['\n']) = depthAt us a.length

/-- Of tokens that are clear, all brackets are seen and nothing else. -/
theorem seesBrackets_of_clear {cs : List Char} {p : Program} {us : List Token} (h : Read cs p us)
    (hclear : clear false us = true) : SeesBrackets us := by
  intro a b hspelling
  rw [← h.spelling_eq, hspelling] at h
  obtain ⟨us₁, t, us₂, x, y, rfl, ht, hlexeme, rfl, rfl, hdepth⟩ := h.line_end (.inl rfl)
  have hwhole := ht.2
  rw [hlexeme] at hwhole
  have front := (lexeme_divided hwhole).1
  obtain ⟨mid, hus₁, hmid⟩ := (h.lexed.recut ht.1 front).append_inv
  obtain rfl : mid = x ++ ['\n'] := by
    rw [hmid.spelling_append, spelling, List.flatMap_singleton, List.append_nil]
  obtain ⟨c, ls, hc, hbreak, hls⟩ := front
  rw [hdepth, List.append_assoc, bracketDepth_eq_textBalance]
  exact textBalance_lexed hus₁ hc hbreak hls (clear_append hclear)

/-- Behind a line feed that closes all brackets, the count starts afresh. -/
theorem SeesBrackets.behind {us vs : List Token} {a b : List Char} (sees : SeesBrackets us)
    (hus : spelling us = a ++ '\n' :: b) (hvs : spelling vs = b) (closed : depthAt us a.length = 0)
    (depths : ∀ n, depthAt vs n = depthAt us (a.length + 1 + n)) : SeesBrackets vs := by
  intro a' b' hvs'
  have here : bracketDepth (a ++ ['\n']) = 0 := (sees a b hus).trans closed
  have later : bracketDepth (a ++ '\n' :: a' ++ ['\n']) = depthAt us (a ++ '\n' :: a').length := by
    refine sees (a ++ '\n' :: a') b' ?_
    rw [hus, ← hvs, hvs', List.append_assoc]
    rfl
  rw [List.append_assoc, List.cons_append, bracketDepth_join, ← bracketDepth_concat a, here,
    Int.zero_add] at later
  rw [later, depths, List.length_append, List.length_cons]
  congr 1
  omega

end TurtleLogo.Console
