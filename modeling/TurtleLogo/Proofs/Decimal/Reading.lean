/-
# `TurtleLogo.Proofs.Decimal.Reading` — every numeral is read as a number

The scanner takes a number by the shape of its text alone, and the reader of
numbers looks at the text once more.  It never refuses what the scanner took:
no character of a numeral is a margin, none is an underscore, and a numeral is
no word because it has a digit.
-/
import TurtleLogo.Decimal.Reading
import TurtleLogo.Proofs.Grammar.Lexeme

namespace TurtleLogo.Decimal

open Text Grammar

/-! ## Digits are not blank

Digits of every script may stand in a number.  No block of them holds a character
that is trimmed away; this is decided on the table of the blocks. -/

theorem isDigit_block {c : Char} (h : isDigit c = true) :
    ∃ z ∈ 48 :: digitZeros, ∃ k ∈ List.range 10, c = Char.ofNat (z + k) := by
  have hblock : ∃ z ∈ 48 :: digitZeros, z ≤ c.toNat ∧ c.toNat < z + 10 := by
    simp only [isDigit, digitValue?] at h
    split at h
    · next hascii =>
        simp only [isAsciiDigit, Bool.and_eq_true, decide_eq_true_eq, Char.le_def,
          UInt32.le_iff_toNat_le] at hascii
        have h0 : '0'.val.toNat = 48 := by decide
        have h9 : '9'.val.toNat = 57 := by decide
        have hval : c.toNat = c.val.toNat := rfl
        exact ⟨48, List.mem_cons_self, by omega, by omega⟩
    · split at h
      · exact nomatch h
      · rw [Option.isSome_map, List.find?_isSome] at h
        obtain ⟨z, hz, hin⟩ := h
        simp only [Bool.and_eq_true, decide_eq_true_eq] at hin
        exact ⟨z, List.mem_cons_of_mem _ hz, hin.1, hin.2⟩
  obtain ⟨z, hz, hlow, hhigh⟩ := hblock
  refine ⟨z, hz, c.toNat - z, List.mem_range.mpr (by omega), ?_⟩
  rw [show z + (c.toNat - z) = c.toNat by omega, Char.ofNat_toNat]

theorem isMargin_of_isDigit {c : Char} (h : isDigit c = true) : isMargin c = false := by
  have hall : ∀ z ∈ 48 :: digitZeros, ∀ k ∈ List.range 10,
      isMargin (Char.ofNat (z + k)) = false := by decide +kernel
  obtain ⟨z, hz, k, hk, rfl⟩ := isDigit_block h
  exact hall z hz k hk

/-- Nothing is trimmed from a text that neither begins nor ends with a margin. -/
theorem trimBy_eq_self {p : Char → Bool} {cs : List Char} (hfirst : ∀ c ∈ cs.head?, p c = false)
    (hlast : ∀ c ∈ cs.getLast?, p c = false) : trimBy p cs = cs := by
  have hdrop : ∀ {ds : List Char}, (∀ c ∈ ds.head?, p c = false) → ds.dropWhile p = ds := by
    intro ds hds
    cases ds with
    | nil => rfl
    | cons d ds => simp [hds d rfl]
  have hrev : ∀ c ∈ cs.reverse.head?, p c = false := by
    intro c hc
    rw [List.head?_reverse] at hc
    exact hlast c hc
  rw [trimBy, hdrop hfirst, hdrop hrev, List.reverse_reverse]

/-! ## The marks of a numeral

The reader turns characters into marks first: digits by their values, anything
else as it is.  A numeral has no underscore, so there is nothing to be joined, and
it has a digit, which no word for infinity has. -/

theorem ofChar_of_isDigit {c : Char} (h : isDigit c = true) : ∃ d, Mark.ofChar c = .digit d := by
  obtain ⟨d, hd⟩ := Option.isSome_iff_exists.mp h
  exact ⟨d, by simp [Mark.ofChar, hd]⟩

theorem joinGroups_eq_self {ms : List Mark} (h : Mark.other '_' ∉ ms) (after : Bool) :
    joinGroups after ms = some ms := by
  fun_induction joinGroups after ms with
  | case1 => rfl
  | case2 => exact absurd List.mem_cons_self h
  | case3 => exact absurd List.mem_cons_self h
  | case4 => exact absurd List.mem_cons_self h
  | case5 after m ms _ _ ih => rw [ih fun hms => h (List.mem_cons_of_mem _ hms)]; rfl

/-- Marks at whose front no digit stands. -/
def NoDigit (ms : List Mark) : Prop :=
  ∀ m ∈ ms.head?, m.isDigit = false

theorem spanDigits_append {ds : List Char} (hds : ∀ c ∈ ds, isDigit c = true) (ms : List Mark)
    (hms : NoDigit ms) :
    ∃ values, values.length = ds.length ∧
      spanDigits (ds.map Mark.ofChar ++ ms) = (values, ms) := by
  induction ds with
  | nil =>
      refine ⟨[], rfl, ?_⟩
      cases ms with
      | nil => rfl
      | cons m ms =>
          cases m with
          | digit d => exact absurd (hms _ rfl) (by simp [Mark.isDigit])
          | other c => rfl
  | cons c ds ih =>
      obtain ⟨values, hlen, hspan⟩ := ih fun x hx => hds x (List.mem_cons_of_mem _ hx)
      obtain ⟨d, hd⟩ := ofChar_of_isDigit (hds c List.mem_cons_self)
      exact ⟨d :: values, by simp [hlen], by simp [spanDigits, hd, hspan]⟩

theorem asWord_eq_none {ms : List Mark} {d : Nat} (h : Mark.digit d ∈ ms) : asWord ms = none := by
  induction ms with
  | nil => exact absurd h List.not_mem_nil
  | cons m ms ih =>
      cases m with
      | digit _ => rfl
      | other c =>
          have hms : Mark.digit d ∈ ms := (List.mem_cons.mp h).resolve_left (by simp)
          simp [asWord, ih hms]

/-! ## Reading a numeral

By the shapes that a numeral can have: digits, digits with a point among them, and
either of these behind a sign. -/

theorem ofChar_point : Mark.ofChar '.' = .other '.' := by decide

theorem isSome_readUnsigned {cs : List Char} (h : Grammar.Digits cs) (negative : Bool) :
    (readUnsigned negative (cs.map Mark.ofChar)).isSome = true := by
  cases h with
  | whole hne hds =>
      obtain ⟨values, hlen, hspan⟩ := spanDigits_append hds [] fun _ hm => nomatch hm
      have hvalues : values ≠ [] := by
        rintro rfl
        exact hne (List.eq_nil_of_length_eq_zero hlen.symm)
      rw [List.append_nil] at hspan
      simp [readUnsigned, hspan, hvalues, readExponent]
  | @point ds fs hds hne hfs =>
      obtain ⟨whole, -, hwhole⟩ := spanDigits_append hds
        (Mark.other '.' :: fs.map Mark.ofChar) (by simp [NoDigit, Mark.isDigit])
      obtain ⟨fraction, hlen, hfraction⟩ := spanDigits_append hfs [] fun _ hm => nomatch hm
      have hvalues : fraction ≠ [] := by
        rintro rfl
        exact hne (List.eq_nil_of_length_eq_zero hlen.symm)
      rw [List.append_nil] at hfraction
      simp [readUnsigned, ofChar_point, hwhole, hfraction, hvalues, readExponent]

theorem exists_digit {cs : List Char} (h : Grammar.Digits cs) :
    ∃ c ∈ cs, isDigit c = true := by
  cases h with
  | whole hne hds =>
      obtain ⟨c, ds, rfl⟩ := List.exists_cons_of_ne_nil hne
      exact ⟨c, List.mem_cons_self, hds c List.mem_cons_self⟩
  | @point ds fs _ hne hfs =>
      obtain ⟨c, fs', rfl⟩ := List.exists_cons_of_ne_nil hne
      exact ⟨c, by simp, hfs c List.mem_cons_self⟩

theorem numeral_char {cs : List Char} (h : Numeral cs) :
    ∀ c ∈ cs, isDigit c = true ∨ c = '.' ∨ c = '-' ∨ c = '+' := by
  have hdigits : ∀ {ds : List Char}, Grammar.Digits ds → ∀ c ∈ ds, isDigit c = true ∨ c = '.' := by
    intro ds hds c hc
    cases hds with
    | whole _ hall => exact Or.inl (hall c hc)
    | point hall _ hfs =>
        rcases List.mem_append.mp hc with hc | hc
        · exact Or.inl (hall c hc)
        · rcases List.mem_cons.mp hc with rfl | hc
          · exact Or.inr rfl
          · exact Or.inl (hfs c hc)
  intro c hc
  cases h with
  | unsigned hds => exact (hdigits hds c hc).imp id Or.inl
  | signed hs hds =>
      rcases List.mem_cons.mp hc with rfl | hc
      · exact Or.inr (Or.inr hs)
      · exact (hdigits hds c hc).imp id Or.inl

theorem isMargin_of_numeral {cs : List Char} (h : Numeral cs) : ∀ c ∈ cs, isMargin c = false := by
  intro c hc
  rcases numeral_char h c hc with hd | rfl | rfl | rfl
  · exact isMargin_of_isDigit hd
  · decide
  · decide
  · decide

theorem underscore_notMem {cs : List Char} (h : Numeral cs) :
    Mark.other '_' ∉ cs.map Mark.ofChar := by
  intro hmem
  obtain ⟨c, hc, he⟩ := List.mem_map.mp hmem
  rcases numeral_char h c hc with hd | rfl | rfl | rfl
  · obtain ⟨d, hd⟩ := ofChar_of_isDigit hd
    exact nomatch hd.symm.trans he
  · exact absurd he (by decide)
  · exact absurd he (by decide)
  · exact absurd he (by decide)

theorem spanSign_digits {cs : List Char} (h : Grammar.Digits cs) :
    spanSign (cs.map Mark.ofChar) = (false, cs.map Mark.ofChar) := by
  have hdigit : ∀ {c : Char} {ms : List Mark}, isDigit c = true →
      spanSign (Mark.ofChar c :: ms) = (false, Mark.ofChar c :: ms) := by
    intro c ms hc
    obtain ⟨d, hd⟩ := ofChar_of_isDigit hc
    rw [hd]
    rfl
  cases h with
  | whole hne hds =>
      obtain ⟨c, ds, rfl⟩ := List.exists_cons_of_ne_nil hne
      exact hdigit (hds c List.mem_cons_self)
  | @point ds fs hds _ _ =>
      cases ds with
      | nil => rw [List.nil_append, List.map_cons, ofChar_point]; rfl
      | cons c ds => exact hdigit (hds c List.mem_cons_self)

theorem isSome_readReal? {cs : List Char} (h : Numeral cs) : (readReal? cs).isSome = true := by
  have hunsigned : ∀ {ds : List Char}, Grammar.Digits ds → asWord (ds.map Mark.ofChar) = none := by
    intro ds hds
    obtain ⟨c, hc, hd⟩ := exists_digit hds
    obtain ⟨d, hd⟩ := ofChar_of_isDigit hd
    exact asWord_eq_none (List.mem_map.mpr ⟨c, hc, hd⟩)
  have hmargin := isMargin_of_numeral h
  have htrim : trimBy isMargin cs = cs :=
    trimBy_eq_self (fun c hc => hmargin c (List.mem_of_mem_head? hc))
      (fun c hc => hmargin c (List.mem_of_mem_getLast? hc))
  rw [readReal?, htrim, joinGroups_eq_self (underscore_notMem h)]
  cases h with
  | unsigned hds =>
      simp only [readSigned, spanSign_digits hds, hunsigned hds]
      exact isSome_readUnsigned hds false
  | signed hs hds =>
      rcases hs with rfl | rfl
      · rw [List.map_cons, show Mark.ofChar '-' = .other '-' by decide]
        simp only [readSigned, spanSign, hunsigned hds]
        exact isSome_readUnsigned hds true
      · rw [List.map_cons, show Mark.ofChar '+' = .other '+' by decide]
        simp only [readSigned, spanSign, hunsigned hds]
        exact isSome_readUnsigned hds false

end TurtleLogo.Decimal
