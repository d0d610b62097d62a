/-
# `TurtleLogo.Proofs.Text.Letters` — texts in other letters

Two texts have the same letters if they differ in the case of ASCII letters
only, character by character (`SameLetters`).  A class of characters that holds
either all ASCII letters or none of them does not tell such texts apart, and
neither does the lower-case form, although it looks at what stands around a
character: around a capital sigma it only asks whether there are letters.
-/
import Mathlib.Data.List.Forall2
import TurtleLogo.Text.Lowercase

namespace TurtleLogo.Text

/-! ## ASCII letters by their numbers

The two forms of a letter lie a fixed distance apart, and the letters lie
together: this is all that the classes of characters have to be asked about. -/

theorem isAsciiLetter_iff {c : Char} :
    isAsciiLetter c = true ↔ 97 ≤ c.toNat ∧ c.toNat ≤ 122 ∨ 65 ≤ c.toNat ∧ c.toNat ≤ 90 := by
  have hval : c.val.toNat = c.toNat := rfl
  have ha : 'a'.val.toNat = 97 := rfl
  have hz : 'z'.val.toNat = 122 := rfl
  have hA : 'A'.val.toNat = 65 := rfl
  have hZ : 'Z'.val.toNat = 90 := rfl
  simp only [isAsciiLetter, Bool.or_eq_true, Bool.and_eq_true, decide_eq_true_eq, Char.le_def,
    UInt32.le_iff_toNat_le, ha, hz, hA, hZ, hval]

theorem toLower_toNat (c : Char) :
    c.toLower.toNat = if 65 ≤ c.toNat ∧ c.toNat ≤ 90 then c.toNat + 32 else c.toNat := by
  have hval : c.val.toNat = c.toNat := rfl
  have hA : 'A'.val.toNat = 65 := rfl
  have hZ : 'Z'.val.toNat = 90 := rfl
  unfold Char.toLower
  simp only [ge_iff_le, UInt32.le_iff_toNat_le, hA, hZ, hval]
  split
  · next h =>
      have hshift : ('a'.val - 'A'.val).toNat = 32 := rfl
      show (c.val + ('a'.val - 'A'.val)).toNat = _
      rw [UInt32.toNat_add, hshift, hval]
      omega
  · rfl

theorem toUpper_toNat (c : Char) :
    c.toUpper.toNat = if 97 ≤ c.toNat ∧ c.toNat ≤ 122 then c.toNat - 32 else c.toNat := by
  have hval : c.val.toNat = c.toNat := rfl
  have ha : 'a'.val.toNat = 97 := rfl
  have hz : 'z'.val.toNat = 122 := rfl
  unfold Char.toUpper
  simp only [UInt32.le_iff_toNat_le, ha, hz, hval]
  split
  · next h =>
      -- the shift is negative, so it is counted around the whole range
      have hshift : ('A'.val - 'a'.val).toNat = 2 ^ 32 - 32 := rfl
      show (c.val + ('A'.val - 'a'.val)).toNat = _
      rw [UInt32.toNat_add, hshift, hval]
      omega
  · rfl

theorem not_isAsciiLetter_of_le {c : Char} (h : 0x80 ≤ c.toNat) : isAsciiLetter c = false := by
  rw [Bool.eq_false_iff, ne_eq, isAsciiLetter_iff]
  omega

theorem beq_false_of_class {p : Char → Bool} {c x : Char} (hc : p c = true) (hx : p x = false) :
    (c == x) = false := by
  cases he : c == x with
  | false => rfl
  | true => exact absurd hc (by rw [eq_of_beq he, hx]; decide)

/-! ## The same letters

Two characters are the same letter if they are equal or two forms of one ASCII
letter. -/

/-- Characters that differ at most in the case of an ASCII letter. -/
def SameLetter (c d : Char) : Prop :=
  c.toLower = d.toLower

/-- Texts that differ at most in the case of ASCII letters. -/
def SameLetters (a b : String) : Prop :=
  List.Forall₂ SameLetter a.toList b.toList

instance : DecidableRel SameLetter := fun c d =>
  inferInstanceAs (Decidable (c.toLower = d.toLower))

instance : DecidableRel SameLetters := fun a b =>
  inferInstanceAs (Decidable (List.Forall₂ SameLetter a.toList b.toList))

theorem sameLetters_refl (a : String) : SameLetters a a :=
  List.forall₂_same.mpr fun _ _ => rfl

section Classes

variable {c d : Char}

theorem SameLetter.eq_or_letters (h : SameLetter c d) :
    c = d ∨ isAsciiLetter c = true ∧ isAsciiLetter d = true := by
  have number := congrArg Char.toNat h
  rw [toLower_toNat, toLower_toNat] at number
  rw [isAsciiLetter_iff, isAsciiLetter_iff]
  by_cases same : c.toNat = d.toNat
  · exact .inl (Char.toNat_inj.mp same)
  · right
    split at number <;> split at number <;> omega

/-- What is the same of all ASCII letters does not tell them apart. -/
theorem SameLetter.value_eq {α : Type} {f : Char → α} {a : α} (h : SameLetter c d)
    (letters : ∀ c, isAsciiLetter c = true → f c = a) : f d = f c := by
  rcases h.eq_or_letters with rfl | ⟨hc, hd⟩
  · rfl
  · rw [letters c hc, letters d hd]

theorem SameLetter.toUpper_eq (h : SameLetter c d) : d.toUpper = c.toUpper := by
  have number := congrArg Char.toNat h
  rw [toLower_toNat, toLower_toNat] at number
  apply Char.toNat_inj.mp
  rw [toUpper_toNat, toUpper_toNat]
  split at number <;> split at number <;> split <;> split <;> omega

end Classes

/-! ## Lower-case forms

The lower-case form of a character may hang on its surroundings, through what is
cased and what is to be ignored.  Both are told by classes that do not see the
case of ASCII letters. -/

theorem SameLetter.isCased_eq {c d : Char} (h : SameLetter c d) : isCased d = isCased c :=
  h.value_eq (a := true) fun c hc => by rw [isCased, hc, Bool.true_or]

theorem SameLetter.isCaseIgnorable_eq {c d : Char} (h : SameLetter c d) :
    isCaseIgnorable d = isCaseIgnorable c := by
  refine h.value_eq (a := false) fun c hc => ?_
  have small : ¬ 0x80 ≤ c.toNat := fun large =>
    nomatch hc.symm.trans (not_isAsciiLetter_of_le large)
  have apart : ∀ x : Char, isAsciiLetter x = false → (c == x) = false := fun x hx =>
    beq_false_of_class hc hx
  simp [isCaseIgnorable, apart '\x27' rfl, apart '.' rfl, apart ':' rfl, apart '^' rfl,
    apart '\x60' rfl, small]

theorem SameLetter.lowerChar_eq {c d : Char} (h : SameLetter c d) : lowerChar d = lowerChar c := by
  have small : ∀ {c : Char}, isAsciiLetter c = true → lowerChar c = c.toLower := by
    intro c hc
    rw [lowerChar, if_pos]
    by_contra large
    exact nomatch hc.symm.trans (not_isAsciiLetter_of_le (Nat.le_of_not_lt large))
  rcases h.eq_or_letters with rfl | ⟨hc, hd⟩
  · rfl
  · rw [small hc, small hd, h]

theorem meetsCased_eq {cs ds : List Char} (h : List.Forall₂ SameLetter cs ds) :
    meetsCased ds = meetsCased cs := by
  induction h with
  | nil => rfl
  | cons hc _ ih => rw [meetsCased, meetsCased, hc.isCaseIgnorable_eq, hc.isCased_eq, ih]

theorem lowerAt_eq {c d : Char} {before before' after after' : List Char} (h : SameLetter c d)
    (hbefore : List.Forall₂ SameLetter before before')
    (hafter : List.Forall₂ SameLetter after after') :
    lowerAt before' d after' = lowerAt before c after := by
  rcases h.eq_or_letters with rfl | ⟨hc, hd⟩
  · rw [lowerAt, lowerAt, meetsCased_eq hbefore, meetsCased_eq hafter]
  · have plain : ∀ {c : Char} {before after : List Char}, isAsciiLetter c = true →
        lowerAt before c after = [lowerChar c] := by
      intro c before after hc
      have sigma : (c == '\u03a3') = false := beq_false_of_class hc rfl
      have dotted : (c == '\u0130') = false := beq_false_of_class hc rfl
      simp [lowerAt, sigma, dotted]
    rw [plain hc, plain hd, h.lowerChar_eq]

theorem lowerFrom_eq {cs ds : List Char} (h : List.Forall₂ SameLetter cs ds) :
    ∀ {before before' : List Char}, List.Forall₂ SameLetter before before' →
      lowerFrom before' ds = lowerFrom before cs := by
  induction h with
  | nil => exact fun _ => rfl
  | cons hc hcs ih =>
      intro before before' hbefore
      rw [lowerFrom, lowerFrom, lowerAt_eq hc hbefore hcs, ih (.cons hc hbefore)]

theorem SameLetters.lower_eq {a b : String} (h : SameLetters a b) : lower b = lower a := by
  rw [lower, lower, lowerFrom_eq h .nil]

/-- A capital sigma that ends a word does so among capitals as well. -/
example : lower "aΣ" = "aς" ∧ lower "AΣ" = "aς" ∧ lower "aΣb" = "aσb" := by decide +kernel

end TurtleLogo.Text
