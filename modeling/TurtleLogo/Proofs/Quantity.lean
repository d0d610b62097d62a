/-
# `TurtleLogo.Proofs.Quantity` — calculations that have a result

A calculation fails when a whole number is beyond the reals or when a power
cannot tell the sign of its result.  Neither happens among reals, and a whole
number within the reals may meet a real one.
-/
import TurtleLogo.Quantity

namespace TurtleLogo.Quantity

/-- Quantities given as reals. -/
def IsReal (q : Quantity) : Prop :=
  ∃ x, q = .real x

/-- Quantities that there is a real number for. -/
def InReals (q : Quantity) : Prop :=
  ∃ x, q.toFloat = .ok x

/-- Amounts that can be driven: there is a real number for them with and without their sign. -/
def Measurable (q : Quantity) : Prop :=
  q.InReals ∧ q.abs.InReals

theorem isReal_real (x : Float) : (Quantity.real x).IsReal :=
  ⟨x, rfl⟩

theorem IsReal.inReals {q : Quantity} (h : q.IsReal) : q.InReals := by
  obtain ⟨x, rfl⟩ := h
  exact ⟨x, rfl⟩

theorem IsReal.measurable {q : Quantity} (h : q.IsReal) : q.Measurable := by
  obtain ⟨x, rfl⟩ := h
  exact ⟨⟨x, rfl⟩, ⟨x.abs, rfl⟩⟩

theorem inReals_of_isOk {q : Quantity} (h : q.toFloat.isOk = true) : q.InReals := by
  cases hx : q.toFloat with
  | ok x => exact ⟨x, hx⟩
  | error fault =>
      rw [hx] at h
      exact nomatch h

theorem combine_isReal (onWhole : Int → Int → Int) (onReal : Float → Float → Float)
    {a b : Quantity} (ha : a.InReals) (hb : b.IsReal) :
    ∃ q, combine onWhole onReal a b = .ok q ∧ q.IsReal := by
  obtain ⟨y, rfl⟩ := hb
  obtain ⟨x, hx⟩ := ha
  unfold toFloat at hx
  cases hv : a.value with
  | inl n =>
      rw [hv] at hx
      have hn : realOf n = .ok x := hx
      refine ⟨.real (onReal x y), ?_, isReal_real _⟩
      unfold combine
      rw [hv]
      simp only [value, hn, Except.map]
  | inr z =>
      refine ⟨.real (onReal z y), ?_, isReal_real _⟩
      unfold combine
      rw [hv]
      rfl

end TurtleLogo.Quantity
