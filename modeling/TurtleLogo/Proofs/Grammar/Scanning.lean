/-
# `TurtleLogo.Proofs.Grammar.Scanning` — no two terminals compete

The scanner tries the terminals that a state accepts one after the other.
Their order does not matter: at most one of them takes anything from a given
text.  A state that waits for a value accepts what begins values, and any
other state accepts what may follow values or begins commands; within each of
the two groups the first character of a text decides, except that the words
`rem` and the keywords have to be read on, and none of these is the beginning
of another.
-/
import TurtleLogo.Grammar.Table
import TurtleLogo.Proofs.Grammar.Lexeme
import TurtleLogo.Proofs.Text.Letters

namespace TurtleLogo.Grammar

open Text

/-! ## What states accept

There are only two groups of terminals among which the scanner ever has to choose.
That each state stays within one of them is decided on the table. -/

/-- The terminals of states that wait for a value: those that begin values, and the second sign
of a comparison operator. -/
def Terminal.atValue : Terminal → Bool
  | .atom _ | .bracket .lpar | .sign .eq | .blank => true
  | _ => false

/-- The terminals of all other states. -/
def Terminal.atFollow : Terminal → Bool
  | .atom _ | .bracket .lpar => false
  | _ => true

/-- Whether a state waits for a value. -/
def State.awaitsValue : State → Bool
  | .keyword (.order _ _) | .keyword .loop | .paren | .operator _ _ | .sign _ | .signs _
  | .caret => true
  | _ => false

/-- The terminals among which the scanner chooses in a state. -/
def State.scans (s : State) (t : Terminal) : Bool :=
  if s.awaitsValue then t.atValue else t.atFollow

/-- A state accepts only terminals of its group. -/
theorem scans_of_accepts {s : State} {t : Terminal} (h : s.accepts t = true) :
    s.scans t = true := by
  have hall : ∀ s ∈ State.all, ∀ t ∈ Terminal.all, s.accepts t = true → s.scans t = true := by
    decide +kernel
  exact hall s s.mem_all t t.mem_all h

/-! ## The first character decides

Classes of characters that begin lexemes do not overlap.  Digits may be of any
script, so the proof goes by what is known of letters, and not by a list of
characters. -/

/-- The only terminal at a value whose lexemes may begin with a character. -/
def valueFront (c : Char) : Terminal :=
  if c == '"' then .atom .string
  else if c == '(' then .bracket .lpar
  else if c == '=' then .sign .eq
  else if isSpace c then .blank
  else if startsName c then .atom .ident
  else .atom .number

/-- The only terminal elsewhere whose lexemes may begin with a character.  A letter may begin
several, all of which begin with a word. -/
def followFront (c : Char) : Option Terminal :=
  if c == '#' then some .comment
  else if c == '+' || c == '-' then some .addOp
  else if c == '*' || c == '/' then some .mulOp
  else if c == '^' then some .caret
  else if c == '!' then some (.sign .bang)
  else if c == '=' then some (.sign .eq)
  else if c == '<' then some (.sign .less)
  else if c == '>' then some (.sign .more)
  else if c == ')' then some (.bracket .rpar)
  else if c == '[' then some (.bracket .lsqb)
  else if c == ']' then some (.bracket .rsqb)
  else if isSpace c then some .blank
  else if !isInline c then some .newline
  else none

theorem isSpace_iff {c : Char} : isSpace c = true ↔ c = ' ' ∨ c = '\t' := by
  simp [isSpace]

theorem not_isInline_iff {c : Char} : (!isInline c) = true ↔ c = '\r' ∨ c = '\n' := by
  simp only [isInline, Bool.not_and, Bool.or_eq_true, Bool.not_eq_true', bne_eq_false_iff_eq]

theorem isSpace_false_of_class {p : Char → Bool} {c : Char} (hc : p c = true)
    (hspace : p ' ' = false) (htab : p '\t' = false) : isSpace c = false := by
  simp [isSpace, beq_false_of_class hc hspace, beq_false_of_class hc htab]

theorem isInline_of_class {p : Char → Bool} {c : Char} (hc : p c = true)
    (hcr : p '\r' = false) (hlf : p '\n' = false) : isInline c = true := by
  simp [isInline, bne, beq_false_of_class hc hcr, beq_false_of_class hc hlf]

theorem isAsciiLetter_toNat {c : Char} (h : isAsciiLetter c = true) :
    65 ≤ c.toNat ∧ c.toNat ≤ 122 := by
  rw [isAsciiLetter_iff] at h
  omega

theorem isAsciiDigit_toNat {c : Char} (h : isAsciiDigit c = true) : c.toNat ≤ 57 := by
  simp only [isAsciiDigit, Bool.and_eq_true, decide_eq_true_eq, Char.le_def,
    UInt32.le_iff_toNat_le] at h
  have hval : c.toNat = c.val.toNat := rfl
  have h9 : '9'.val.toNat = 57 := by decide
  omega

theorem isDigit_false_of_letter {c : Char} (h : isAsciiLetter c = true) : isDigit c = false := by
  have hc := isAsciiLetter_toNat h
  have hd : isAsciiDigit c = false := by
    cases hd : isAsciiDigit c with
    | false => rfl
    | true => exact absurd (isAsciiDigit_toNat hd) (by omega)
  have hlow : c.toNat < 0x80 := by omega
  simp [isDigit, digitValue?, hd, hlow]

theorem startsName_false_of_digit {c : Char} (h : isDigit c = true) : startsName c = false := by
  have hletter : isAsciiLetter c = false := by
    cases hl : isAsciiLetter c with
    | false => rfl
    | true => exact absurd h (by simp [isDigit_false_of_letter hl])
  have hs : (c == '\u017f') = false := beq_false_of_class h (by decide)
  have hk : (c == '\u212a') = false := beq_false_of_class h (by decide)
  have hi : (c == '\u0130') = false := beq_false_of_class h (by decide)
  have hj : (c == '\u0131') = false := beq_false_of_class h (by decide)
  have hu : (c == '_') = false := beq_false_of_class h (by decide)
  simp [startsName, capital?, hletter, hs, hk, hi, hj, hu]

/-- The characters with which a number may begin. -/
def startsNumber (c : Char) : Bool :=
  isDigit c || c == '-' || c == '+' || c == '.'

theorem Digits.front {c : Char} {cs : List Char} (h : Digits (c :: cs)) :
    startsNumber c = true := by
  generalize hl : c :: cs = l at h
  cases h with
  | whole _ hds => subst hl; simp [startsNumber, hds c List.mem_cons_self]
  | @point ds fs hds _ _ =>
      cases ds with
      | nil => simp only [List.nil_append, List.cons.injEq] at hl; simp [startsNumber, hl.1]
      | cons d ds =>
          simp only [List.cons_append, List.cons.injEq] at hl
          simp [startsNumber, hl.1, hds d List.mem_cons_self]

theorem Numeral.front {c : Char} {cs : List Char} (h : Numeral (c :: cs)) :
    startsNumber c = true := by
  cases h with
  | unsigned hd => exact hd.front
  | signed hs _ => rcases hs with rfl | rfl <;> decide

theorem startsName_false_of_startsNumber {c : Char} (h : startsNumber c = true) :
    startsName c = false := by
  simp only [startsNumber, Bool.or_eq_true, beq_iff_eq] at h
  rcases h with ((h | rfl) | rfl) | rfl
  · exact startsName_false_of_digit h
  · decide
  · decide
  · decide

/-- A character of a class without the other marks begins a name or a number. -/
theorem valueFront_of_class {p : Char → Bool} {c : Char} (hc : p c = true)
    (hquote : p '"' = false) (hpar : p '(' = false) (heq : p '=' = false) (hspace : p ' ' = false)
    (htab : p '\t' = false) :
    valueFront c = if startsName c then .atom .ident else .atom .number := by
  simp only [valueFront, beq_false_of_class hc hquote, beq_false_of_class hc hpar,
    beq_false_of_class hc heq, isSpace_false_of_class hc hspace htab]
  rfl

/-- At a value, the first character of a lexeme tells its terminal. -/
theorem valueFront_eq {t : Terminal} {c : Char} {cs : List Char} (ht : t.atValue = true)
    (h : t.Lexeme (c :: cs)) : valueFront c = t := by
  cases t with
  | atom a =>
      cases a with
      | number =>
          have hc := Numeral.front h
          rw [valueFront_of_class hc (by decide) (by decide) (by decide) (by decide) (by decide),
            startsName_false_of_startsNumber hc]
          rfl
      | string =>
          obtain ⟨_, he, _⟩ := h
          obtain ⟨rfl, -⟩ := List.cons.inj he
          rfl
      | ident =>
          obtain ⟨_, _, he, hc, _⟩ := h
          obtain ⟨rfl, -⟩ := List.cons.inj he
          rw [valueFront_of_class hc (by decide) (by decide) (by decide) (by decide) (by decide),
            if_pos hc]
  | blank =>
      obtain ⟨_, _, he, hc, _⟩ := h
      obtain ⟨rfl, -⟩ := List.cons.inj he
      rcases isSpace_iff.mp hc with rfl | rfl <;> rfl
  | bracket b =>
      obtain ⟨_, he, hc⟩ := h
      obtain ⟨rfl, -⟩ := List.cons.inj he
      cases b with
      | lpar => simp only [Bracket.char, beq_iff_eq] at hc; subst hc; rfl
      | _ => exact nomatch ht
  | sign s =>
      obtain ⟨_, he, hc⟩ := h
      obtain ⟨rfl, -⟩ := List.cons.inj he
      cases s with
      | eq => simp only [Sign.char, beq_iff_eq] at hc; subst hc; rfl
      | _ => exact nomatch ht
  | _ => exact nomatch ht

/-! ## Words have to be read on

All keywords begin with letters, and so do comments with `rem`.  They are told
apart by being read to their ends, because none of these words is the beginning of
another. -/

/-- The terminals whose lexemes begin with a word, each with the word. -/
def words : List (Terminal × List Char) :=
  (.comment, ['R', 'E', 'M']) :: Keyword.all.map fun k => (.keyword k, k.spelling.toList)

def BeginsWord (t : Terminal) (l : List Char) : Prop :=
  ∃ word w rest, (t, word) ∈ words ∧ l = w ++ rest ∧ Worded word w

theorem words_apart {t t' : Terminal} {word word' : List Char} (h : (t, word) ∈ words)
    (h' : (t', word') ∈ words) (hp : word <+: word') : t = t' := by
  have hall : ∀ a ∈ words, ∀ b ∈ words, a.2.isPrefixOf b.2 = true → a.1 = b.1 := by
    decide +kernel
  exact hall _ h _ h' (List.isPrefixOf_iff_prefix.mpr hp)

theorem worded_prefix {word word' w w' r r' : List Char} (h : Worded word w)
    (h' : Worded word' w') (he : w ++ r = w' ++ r') : word <+: word' ∨ word' <+: word := by
  induction h generalizing word' w' with
  | nil => exact Or.inl List.nil_prefix
  | @cons letter c word w hc _ ih =>
      cases h' with
      | nil => exact Or.inr List.nil_prefix
      | @cons letter' c' word' w' hc' hw' =>
          simp only [List.cons_append, List.cons.injEq] at he
          obtain ⟨rfl, he⟩ := he
          have hletter : letter = letter' := by
            simp only [isLetter, beq_iff_eq] at hc hc'
            exact Option.some.inj (hc.symm.trans hc')
          subst hletter
          exact (ih hw' he).imp (List.cons_prefix_cons.mpr ⟨rfl, ·⟩)
            (List.cons_prefix_cons.mpr ⟨rfl, ·⟩)

theorem startsName_of_isLetter {letter c : Char} (h : isLetter letter c = true) :
    startsName c = true := by
  simp only [isLetter, beq_iff_eq] at h
  simp [startsName, h]

theorem followFront_of_startsName {c : Char} (hc : startsName c = true) :
    followFront c = none := by
  have hne : ∀ x, startsName x = false → (c == x) = false := fun x hx => beq_false_of_class hc hx
  simp only [followFront, hne '#' (by decide), hne '+' (by decide), hne '-' (by decide),
    hne '*' (by decide), hne '/' (by decide), hne '^' (by decide), hne '!' (by decide),
    hne '=' (by decide), hne '<' (by decide), hne '>' (by decide), hne ')' (by decide),
    hne '[' (by decide), hne ']' (by decide), isSpace_false_of_class hc (by decide) (by decide),
    isInline_of_class hc (by decide) (by decide)]
  rfl

theorem Worded.front {word w : List Char} (hw : Worded word w) (hne : word ≠ []) :
    ∃ c w', w = c :: w' ∧ followFront c = none := by
  cases hw with
  | nil => exact absurd rfl hne
  | cons hc _ => exact ⟨_, _, rfl, followFront_of_startsName (startsName_of_isLetter hc)⟩

/-- Elsewhere, the first character of a lexeme tells its terminal unless it begins a word. -/
theorem followFront_eq {t : Terminal} {c : Char} {cs : List Char} (ht : t.atFollow = true)
    (h : t.Lexeme (c :: cs)) :
    followFront c = some t ∨ followFront c = none ∧ BeginsWord t (c :: cs) := by
  cases t with
  | comment =>
      generalize hl : c :: cs = l at h
      cases h with
      | mark _ =>
          obtain ⟨rfl, -⟩ := List.cons.inj hl
          exact Or.inl rfl
      | @word w rest hw _ _ =>
          obtain ⟨c', w', rfl, hfront⟩ := hw.front (by decide)
          obtain ⟨rfl, -⟩ := List.cons.inj hl
          exact Or.inr ⟨hfront, _, _, _, List.mem_cons_self, rfl, hw⟩
  | keyword k =>
      obtain ⟨c', w', he, hfront⟩ := Worded.front h k.spelling_ne_nil
      obtain ⟨rfl, -⟩ := List.cons.inj he
      have hk : (Terminal.keyword k, k.spelling.toList) ∈ words :=
        List.mem_cons_of_mem _ (List.mem_map.2 ⟨k, k.mem_all, rfl⟩)
      exact Or.inr ⟨hfront, _, _, [], hk, (List.append_nil _).symm, h⟩
  | newline =>
      obtain ⟨_, _, he, hc, _⟩ := h
      obtain ⟨rfl, -⟩ := List.cons.inj he
      rcases not_isInline_iff.mp hc with rfl | rfl <;> exact Or.inl rfl
  | blank =>
      obtain ⟨_, _, he, hc, _⟩ := h
      obtain ⟨rfl, -⟩ := List.cons.inj he
      rcases isSpace_iff.mp hc with rfl | rfl <;> exact Or.inl rfl
  | addOp =>
      obtain ⟨_, he, hc⟩ := h
      obtain ⟨rfl, -⟩ := List.cons.inj he
      simp only [Bool.or_eq_true, beq_iff_eq] at hc
      rcases hc with rfl | rfl <;> exact Or.inl rfl
  | mulOp =>
      obtain ⟨_, he, hc⟩ := h
      obtain ⟨rfl, -⟩ := List.cons.inj he
      simp only [Bool.or_eq_true, beq_iff_eq] at hc
      rcases hc with rfl | rfl <;> exact Or.inl rfl
  | caret =>
      obtain ⟨_, he, hc⟩ := h
      obtain ⟨rfl, -⟩ := List.cons.inj he
      simp only [beq_iff_eq] at hc
      subst hc
      exact Or.inl rfl
  | sign s =>
      obtain ⟨_, he, hc⟩ := h
      obtain ⟨rfl, -⟩ := List.cons.inj he
      simp only [beq_iff_eq] at hc
      subst hc
      cases s <;> exact Or.inl rfl
  | bracket b =>
      obtain ⟨_, he, hc⟩ := h
      obtain ⟨rfl, -⟩ := List.cons.inj he
      simp only [beq_iff_eq] at hc
      subst hc
      cases b <;> first | exact Or.inl rfl | exact nomatch ht
  | atom _ => exact nomatch ht

/-! ## At most one terminal takes anything

Within its group a lexeme belongs to one terminal only, and so the order in which
the scanner tries them is of no account. -/

/-- Lexemes at the front of one text belong to one terminal of a group. -/
theorem lexeme_unique {s : State} {t t' : Terminal} {l l' r r' : List Char}
    (ht : s.scans t = true) (ht' : s.scans t' = true) (h : t.Lexeme l) (h' : t'.Lexeme l')
    (he : l ++ r = l' ++ r') : t = t' := by
  obtain ⟨c, cs, rfl⟩ := List.exists_cons_of_ne_nil h.ne_nil
  obtain ⟨c', cs', rfl⟩ := List.exists_cons_of_ne_nil h'.ne_nil
  obtain ⟨rfl, -⟩ := List.cons.inj he
  unfold State.scans at ht ht'
  split at ht
  · next hs =>
      rw [if_pos hs] at ht'
      exact (valueFront_eq ht h).symm.trans (valueFront_eq ht' h')
  · next hs =>
      rw [if_neg hs] at ht'
      rcases followFront_eq ht h with hf | ⟨hf, word, w, rest, hword, hl, hw⟩
      · rcases followFront_eq ht' h' with hf' | ⟨hf', -⟩
        · exact Option.some.inj (hf.symm.trans hf')
        · exact nomatch hf.symm.trans hf'
      · rcases followFront_eq ht' h' with hf' | ⟨-, word', w', rest', hword', hl', hw'⟩
        · exact nomatch hf.symm.trans hf'
        · rw [hl, hl', List.append_assoc, List.append_assoc] at he
          rcases worded_prefix hw hw' he with hp | hp
          · exact words_apart hword hword' hp
          · exact (words_apart hword' hword hp).symm

theorem firstMatch_eq {cs : List Char} {t : Terminal} {cut : Cut} (hcut : t.cut cs = some cut) :
    ∀ {ts : List Terminal}, t ∈ ts → (∀ t' ∈ ts, (t'.cut cs).isSome → t' = t) →
      firstMatch cs ts = some (t, cut)
  | t' :: ts, hmem, huniq => by
      cases hc : t'.cut cs with
      | some cut' =>
          have he : t' = t := huniq t' List.mem_cons_self (by simp [hc])
          subst he
          simp [firstMatch, hcut]
      | none =>
          have hne : t ≠ t' := by
            rintro rfl
            exact nomatch hcut.symm.trans hc
          simp only [firstMatch, hc]
          exact firstMatch_eq hcut ((List.mem_cons.mp hmem).resolve_left hne)
            fun u hu => huniq u (List.mem_cons_of_mem _ hu)

theorem firstMatch_sound {cs : List Char} {t : Terminal} {cut : Cut} :
    ∀ {ts : List Terminal}, firstMatch cs ts = some (t, cut) → t ∈ ts ∧ t.cut cs = some cut
  | t' :: ts, h => by
      cases hc : t'.cut cs with
      | some cut' =>
          simp only [firstMatch, hc, Option.some.injEq, Prod.mk.injEq] at h
          obtain ⟨rfl, rfl⟩ := h
          exact ⟨List.mem_cons_self, hc⟩
      | none =>
          simp only [firstMatch, hc] at h
          exact ⟨List.mem_cons_of_mem _ (firstMatch_sound h).1, (firstMatch_sound h).2⟩

/-- What the scanner may find in a state: an accepted terminal, or blanks. -/
def State.tries (s : State) (t : Terminal) : Bool :=
  s.accepts t || t == .blank

theorem scans_of_tries {s : State} {t : Terminal} (h : s.tries t = true) : s.scans t = true := by
  simp only [State.tries, Bool.or_eq_true, beq_iff_eq] at h
  rcases h with h | rfl
  · exact scans_of_accepts h
  · cases hs : s.awaitsValue <;> simp [State.scans, hs, Terminal.atValue, Terminal.atFollow]

/-- Of the terminals that a state tries, at most one takes anything. -/
theorem cut_unique {s : State} {cs : List Char} {t t' : Terminal} (ht : s.tries t = true)
    (ht' : s.tries t' = true) (h : (t.cut cs).isSome = true) (h' : (t'.cut cs).isSome = true) :
    t = t' := by
  obtain ⟨⟨l, r⟩, hcut⟩ := Option.isSome_iff_exists.mp h
  obtain ⟨⟨l', r'⟩, hcut'⟩ := Option.isSome_iff_exists.mp h'
  obtain ⟨hcs, hl⟩ := t.cuts.sound hcut
  obtain ⟨hcs', hl'⟩ := t'.cuts.sound hcut'
  exact lexeme_unique (scans_of_tries ht) (scans_of_tries ht') hl hl' (hcs.symm.trans hcs')

/-- In whatever order the terminals of a state are tried, what is found is the only thing that can
be. -/
theorem firstMatch_eq_some_iff {s : State} {cs : List Char} {order : List Terminal}
    (horder : ∀ t, t ∈ order ↔ s.tries t = true) {t : Terminal} {cut : Cut} :
    firstMatch cs order = some (t, cut) ↔ s.tries t = true ∧ t.cut cs = some cut := by
  constructor
  · intro h
    obtain ⟨hmem, hcut⟩ := firstMatch_sound h
    exact ⟨(horder t).mp hmem, hcut⟩
  · rintro ⟨ht, hcut⟩
    refine firstMatch_eq hcut ((horder t).mpr ht) ?_
    intro t' hmem hsome
    exact cut_unique ((horder t').mp hmem) ht hsome (Option.isSome_of_eq_some hcut)

/-- What is scanned in a state is the only thing that can be. -/
theorem scan_eq_some_iff {s : State} {cs : List Char} {t : Terminal} {cut : Cut} :
    scan s.accepts cs = some (t, cut) ↔ s.tries t = true ∧ t.cut cs = some cut :=
  firstMatch_eq_some_iff fun t => by simp [t.mem_all, State.tries]

end TurtleLogo.Grammar
