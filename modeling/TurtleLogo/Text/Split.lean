/-
# `TurtleLogo.Text.Split` — a text cut at a character

The cut is made at the first occurrence, so the part before it never holds the
character, and nothing but the character itself is lost.
-/
namespace TurtleLogo.Text

/-- The text before the first `mark` and the text behind it, if there is a `mark`. -/
def splitFirst (mark : Char) : List Char → Option (List Char × List Char)
  | [] => none
  | c :: cs =>
    if c = mark then some ([], cs) else (splitFirst mark cs).map fun (before, behind) => (c :: before, behind)

theorem splitFirst_eq_some_iff {mark : Char} {cs before behind : List Char} :
    splitFirst mark cs = some (before, behind) ↔ cs = before ++ mark :: behind ∧ mark ∉ before := by
  induction cs generalizing before with
  | nil => simp [splitFirst]
  | cons c cs ih =>
    by_cases h : c = mark
    · subst h
      cases before with
      | nil => simp [splitFirst]
      | cons b before => simp [splitFirst]; intro hb _ hne; exact absurd hb hne
    · cases before with
      | nil => simp [splitFirst, h]
      | cons b before =>
        simp only [splitFirst, h, if_false, Option.map_eq_some_iff, Prod.exists, Prod.mk.injEq,
          List.cons.injEq, List.cons_append, List.mem_cons, not_or]
        constructor
        · rintro ⟨x, y, hxy, ⟨rfl, rfl⟩, rfl⟩
          exact ⟨⟨rfl, (ih.1 hxy).1⟩, fun e => h e.symm, (ih.1 hxy).2⟩
        · rintro ⟨⟨rfl, hcs⟩, _, hmem⟩
          exact ⟨before, behind, ih.2 ⟨hcs, hmem⟩, ⟨rfl, rfl⟩, rfl⟩

end TurtleLogo.Text
