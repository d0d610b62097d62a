/-
# `TurtleLogo.Proofs.Program.Literals` — string literals

A string literal is written down as a pattern:

    " any characters, as few as possible, pairs of backslashes, as few as possible, "

with no line feed among the characters and no backslash directly before the pairs.
There may be many ways to match a text with it, and the first one counts
(`LazyMatch`): the scanner takes that one and nothing else
(`cutString_eq_some_iff`), so what closes a string is the first quote behind an even
number of backslashes.

What a literal stands for is found by two replacements, one after the other.  On the
lexemes of strings they come to the same as reading the escapes once from left to
right (`unquote_eq_unescape`): a quote in there always has a backslash of its own, so
replacing the escaped quotes neither makes a pair of backslashes nor breaks one.
-/
import TurtleLogo.Proofs.Program.Printing

namespace TurtleLogo.Grammar

/-! ## The pattern

The two parts of a match that can grow, the characters and the pairs of
backslashes, are kept apart, and of all matches the one that is tried first
counts. -/

/-- `Fit inner pairs l`: the pattern matches `l` with `inner` for the characters and some number of
pairs of backslashes. -/
structure Fit (inner : List Char) (pairs : Nat) (l : List Char) : Prop where
  text : l = '"' :: (inner ++ (List.replicate (2 * pairs) '\\' ++ ['"']))
  inline : '\n' ∉ inner
  behind : inner.getLast? ≠ some '\\'

/-- `LazyMatch cs l r`: of all ways to match the front of `cs` with the pattern, the first one takes
`l` and leaves `r`.  Fewer characters come before more, and then fewer pairs before more. -/
def LazyMatch (cs l r : List Char) : Prop :=
  ∃ inner pairs, cs = l ++ r ∧ Fit inner pairs l ∧
    ∀ inner' pairs' l' r', cs = l' ++ r' → Fit inner' pairs' l' →
      inner.length < inner'.length ∨ inner.length = inner'.length ∧ pairs ≤ pairs'

theorem getLast?_of_cons_ne {c d : Char} {cs : List Char} (h : (c :: cs).getLast? ≠ some d) :
    cs.getLast? ≠ some d := by
  cases cs with
  | nil => exact nofun
  | cons e es => rwa [List.getLast?_cons_cons] at h

/-- What stands between the quotes of a lexeme, with the pairs of backslashes at its end. -/
theorem Escaped.fit {body : List Char} (h : Escaped body) :
    ∃ inner pairs, Fit inner pairs ('"' :: (body ++ ['"'])) := by
  suffices ∃ inner pairs, body = inner ++ List.replicate (2 * pairs) '\\' ∧ '\n' ∉ inner ∧
      inner.getLast? ≠ some '\\' by
    obtain ⟨inner, pairs, rfl, inline, behind⟩ := this
    exact ⟨inner, pairs, by rw [List.append_assoc], inline, behind⟩
  have more : ∀ (front : List Char) {inner : List Char}, inner ≠ [] →
      inner.getLast? ≠ some '\\' → (front ++ inner).getLast? ≠ some '\\' := by
    intro front inner hne hlast
    rwa [List.getLast?_append_of_ne_nil _ hne]
  induction h with
  | nil => exact ⟨[], 0, rfl, nofun, nofun⟩
  | @plain c cs hback _ hline _ ih =>
      obtain ⟨inner, pairs, rfl, inline, behind⟩ := ih
      refine ⟨c :: inner, pairs, rfl, by simp [hline.symm, inline], ?_⟩
      by_cases hinner : inner = []
      · simpa [hinner] using hback
      · exact more [c] hinner behind
  | @pair c cs hline _ ih =>
      obtain ⟨inner, pairs, rfl, inline, behind⟩ := ih
      by_cases hinner : inner = []
      · subst hinner
        by_cases hback : c = '\\'
        · subst hback
          exact ⟨[], pairs + 1, rfl, nofun, nofun⟩
        · exact ⟨['\\', c], pairs, rfl, by simp [hline.symm], by simpa using hback⟩
      · refine ⟨'\\' :: c :: inner, pairs, rfl, by simp [hline.symm, inline], ?_⟩
        exact more ['\\', c] hinner behind

/-- No quote in a lexeme stands behind an even number of backslashes. -/
theorem Escaped.not_closed {body : List Char} (h : Escaped body) :
    ∀ (inner : List Char) {rest : List Char} {pairs : Nat}, inner.getLast? ≠ some '\\' →
      body ≠ inner ++ (List.replicate (2 * pairs) '\\' ++ '"' :: rest) := by
  induction h with
  | nil => simp
  | @plain c cs hback hquote _ _ ih =>
      intro inner rest pairs behind heq
      cases inner with
      | nil =>
          cases pairs with
          | zero => exact hquote (List.cons.inj heq).1
          | succ pairs => exact hback (List.cons.inj heq).1
      | cons d inner => exact ih inner (getLast?_of_cons_ne behind) (List.cons.inj heq).2
  | @pair c cs _ _ ih =>
      intro inner rest pairs behind heq
      match inner, behind with
      | [], _ =>
          cases pairs with
          | zero => exact nomatch (List.cons.inj heq).1
          | succ pairs =>
              obtain ⟨-, hcs⟩ := List.cons.inj (List.cons.inj heq).2
              exact ih [] nofun hcs
      | [d], behind =>
          obtain ⟨rfl, -⟩ := List.cons.inj heq
          exact behind rfl
      | d :: e :: inner, behind =>
          obtain ⟨-, hcs⟩ := List.cons.inj (List.cons.inj heq).2
          exact ih inner (getLast?_of_cons_ne (getLast?_of_cons_ne behind)) hcs

/-! ## The scanner takes the first match

The scanner passes over a string once, without going back.  It ends where the
first match ends, because a quote behind an odd number of backslashes closes in no
match. -/

theorem cutStringBody_isSome_cons {c : Char} {cs : List Char} (hback : c ≠ '\\') (hline : c ≠ '\n')
    (h : (cutStringBody cs).isSome = true) : (cutStringBody (c :: cs)).isSome = true := by
  by_cases hquote : c = '"'
  · subst hquote
    simp [cutStringBody]
  · simp [cutStringBody, hback, hline, h]

theorem cutStringBody_isSome_pair {c : Char} {cs : List Char} (hline : c ≠ '\n')
    (h : (cutStringBody cs).isSome = true) : (cutStringBody ('\\' :: c :: cs)).isSome = true := by
  simp [cutStringBody, hline, h]

/-- Where the pattern matches at all, the scanner finds a string. -/
theorem cutStringBody_isSome {rest : List Char} : ∀ (inner : List Char) {pairs : Nat},
    '\n' ∉ inner → inner.getLast? ≠ some '\\' →
      (cutStringBody (inner ++ (List.replicate (2 * pairs) '\\' ++ '"' :: rest))).isSome = true
  | [], 0, _, _ => by simp [cutStringBody]
  | [], pairs + 1, _, _ =>
      cutStringBody_isSome_pair (by decide) (cutStringBody_isSome [] nofun nofun)
  | [c], pairs, inline, behind => by
      have hback : c ≠ '\\' := by simpa using behind
      have hline : c ≠ '\n' := by simpa using Ne.symm (List.ne_of_not_mem_cons inline)
      exact cutStringBody_isSome_cons hback hline (cutStringBody_isSome [] nofun nofun)
  | c :: d :: inner, pairs, inline, behind => by
      simp only [List.mem_cons, not_or] at inline
      obtain ⟨hc, hd, inline⟩ := inline
      by_cases hback : c = '\\'
      · subst hback
        exact cutStringBody_isSome_pair (Ne.symm hd)
          (cutStringBody_isSome inner inline (getLast?_of_cons_ne (getLast?_of_cons_ne behind)))
      · exact cutStringBody_isSome_cons hback (Ne.symm hc)
          (cutStringBody_isSome (d :: inner) (by simp [hd, inline]) (getLast?_of_cons_ne behind))
termination_by inner pairs => inner.length + pairs

theorem Fit.before {inner inner' l l' r r' : List Char} {pairs pairs' : Nat} (h : Fit inner pairs l)
    (h' : Fit inner' pairs' l') (heq : l ++ r = l' ++ r') (hlen : l.length ≤ l'.length) :
    inner.length < inner'.length ∨ inner.length = inner'.length ∧ pairs ≤ pairs' := by
  obtain ⟨rfl, -, behind⟩ := h
  obtain ⟨rfl, -, -⟩ := h'
  simp only [List.length_cons, List.length_append, List.length_replicate, List.length_nil] at hlen
  rcases Nat.lt_trichotomy inner.length inner'.length with hlt | heqlen | hgt
  · exact .inl hlt
  · exact .inr ⟨heqlen, by omega⟩
  · -- else the last of the characters is one of the other's backslashes
    refine absurd ?_ behind
    have there := congrArg (fun cs : List Char => cs[inner.length]?) heq
    simp only [List.cons_append, List.append_assoc] at there
    obtain ⟨k, hk⟩ : ∃ k, inner.length = k + 1 := ⟨inner.length - 1, by omega⟩
    rw [hk, List.getElem?_cons_succ, List.getElem?_cons_succ, List.getElem?_append_left (by omega),
      List.getElem?_append_right (by omega), List.getElem?_append_left (by simp; omega),
      List.getElem?_replicate_of_lt (by omega)] at there
    rw [List.getLast?_eq_getElem?, hk]
    exact there

theorem LazyMatch.of_cutString {cs l r : List Char} (h : cutString cs = some (l, r)) :
    LazyMatch cs l r := by
  obtain ⟨rfl, body, rfl, hbody⟩ := cuts_string.sound h
  obtain ⟨inner, pairs, hfit⟩ := hbody.fit
  refine ⟨inner, pairs, rfl, hfit, fun inner' pairs' l' r' heq hfit' => ?_⟩
  refine hfit.before hfit' heq (Nat.le_of_not_lt fun hshort => ?_)
  -- a shorter match would be closed within the lexeme
  obtain ⟨rfl, -, behind⟩ := hfit'
  simp only [List.cons_append, List.append_assoc, List.cons.injEq, true_and, List.nil_append] at heq
  have hfront : inner' ++ (List.replicate (2 * pairs') '\\' ++ ['"']) <+: body ++ '"' :: r :=
    ⟨r', by simp [heq]⟩
  have hlen : (inner' ++ (List.replicate (2 * pairs') '\\' ++ ['"'])).length ≤ body.length :=
    Nat.le_of_lt_succ (by simpa using hshort)
  obtain ⟨rest, hrest⟩ := List.prefix_of_prefix_length_le hfront (List.prefix_append ..) hlen
  rw [List.append_assoc, List.append_assoc] at hrest
  exact hbody.not_closed inner' behind hrest.symm

theorem LazyMatch.unique {cs l l' r r' : List Char} (h : LazyMatch cs l r)
    (h' : LazyMatch cs l' r') : l = l' ∧ r = r' := by
  obtain ⟨inner, pairs, heq, hfit, hfirst⟩ := h
  obtain ⟨inner', pairs', heq', hfit', hfirst'⟩ := h'
  refine List.append_inj (heq.symm.trans heq') ?_
  have one := hfirst _ _ _ _ heq' hfit'
  have other := hfirst' _ _ _ _ heq hfit
  obtain ⟨rfl, -, -⟩ := hfit
  obtain ⟨rfl, -, -⟩ := hfit'
  simp only [List.length_cons, List.length_append, List.length_replicate, List.length_nil]
  omega

/-- The scanner takes as a string what the pattern matches first. -/
theorem cutString_eq_some_iff {cs l r : List Char} :
    cutString cs = some (l, r) ↔ LazyMatch cs l r := by
  refine ⟨LazyMatch.of_cutString, fun h => ?_⟩
  obtain ⟨inner, pairs, rfl, ⟨rfl, inline, behind⟩, -⟩ := id h
  obtain ⟨⟨l', r'⟩, hcut⟩ :
      ∃ cut, cutStringBody (inner ++ (List.replicate (2 * pairs) '\\' ++ '"' :: r)) = some cut :=
    Option.isSome_iff_exists.mp (cutStringBody_isSome inner inline behind)
  have hstring : cutString ('"' :: (inner ++ (List.replicate (2 * pairs) '\\' ++ ['"'])) ++ r) =
      some ('"' :: l', r') := by
    simp [cutString, hcut, Cut.push]
  obtain ⟨hl, hr⟩ := h.unique (.of_cutString hstring)
  rw [hstring, hl, hr]

/-! ## What a literal stands for

The second replacement does not see what the first one has made, because every
quote in a lexeme has its own backslash, which goes away with it. -/

/-- Reads the escapes of a text once from left to right: an escaped quote is a quote, an escaped
backslash a backslash, and any other backslash stays. -/
def unescape : List Char → List Char
  | '\\' :: '"' :: cs => '"' :: unescape cs
  | '\\' :: '\\' :: cs => '\\' :: unescape cs
  | c :: cs => c :: unescape cs
  | [] => []

theorem Escaped.stops_quote {cs : List Char} (h : Escaped cs) : ∀ c ∈ cs.head?, c ≠ '"' := by
  cases h with
  | nil => exact nofun
  | plain _ hquote _ _ =>
      intro c hc
      obtain rfl := Option.some.inj hc
      exact hquote
  | pair _ _ =>
      intro c hc
      obtain rfl := Option.some.inj hc
      decide

/-- Between the quotes of a lexeme the two replacements read the escapes once. -/
theorem Escaped.replaced {body : List Char} (h : Escaped body) :
    replacePairs '\\' '\\' '\\' (replacePairs '\\' '"' '"' body) = unescape body := by
  induction h with
  | nil => rfl
  | @plain c cs hback _ _ _ ih =>
      rw [replacePairs_cons_ne _ hback, replacePairs_cons_ne _ hback, ih]
      simp [unescape, hback]
  | @pair c cs _ hcs ih =>
      by_cases hquote : c = '"'
      · subst hquote
        have first : replacePairs '\\' '"' '"' ('\\' :: '"' :: cs) =
            '"' :: replacePairs '\\' '"' '"' cs := by simp [replacePairs]
        rw [first, replacePairs_cons_ne _ (by decide), ih]
        rfl
      · rw [replacePairs_cons_stops (by simpa using hquote)]
        by_cases hback : c = '\\'
        · subst hback
          have second : ∀ ds, replacePairs '\\' '\\' '\\' ('\\' :: '\\' :: ds) =
              '\\' :: replacePairs '\\' '\\' '\\' ds := fun ds => by simp [replacePairs]
          rw [replacePairs_cons_stops hcs.stops_quote, second, ih]
          rfl
        · rw [replacePairs_cons_ne _ hback, replacePairs_cons_stops (by simpa using hback),
            replacePairs_cons_ne _ hback, ih]
          simp [unescape, hquote, hback]

theorem unquote_eq_unescape {l : List Char} (h : Quotation l) :
    unquote l = unescape (l.drop 1).dropLast := by
  obtain ⟨body, rfl, hbody⟩ := h
  have inner : (('"' :: (body ++ ['"'])).drop 1).dropLast = body := by simp
  rw [unquote, inner, hbody.replaced]

/-! ## Literals in a text

A quote begins no other lexeme, so a literal is scanned wherever a string may
stand, among whatever terminals. -/

/-- Of all terminals only a string may begin with a quote, so it does not matter which others are
tried. -/
theorem firstMatch_string {cs l r : List Char} (h : cutString cs = some (l, r))
    {p : Terminal → Bool} (hp : p (.atom .string) = true) :
    firstMatch cs (Terminal.all.filter p) = some (.atom .string, l, r) := by
  have hcomment : cutComment cs = none := by
    obtain ⟨rfl, body, rfl, -⟩ := cuts_string.sound h
    rfl
  obtain ⟨ts, hall⟩ : ∃ ts, Terminal.all = .comment :: .atom .string :: ts := ⟨_, rfl⟩
  rw [hall, List.filter_cons, List.filter_cons_of_pos hp]
  split
  · simp [firstMatch, Terminal.cut, hcomment, h]
  · simp [firstMatch, Terminal.cut, h]

theorem scan_string {cs l r : List Char} (h : cutString cs = some (l, r))
    {accepts : Terminal → Bool} (ha : accepts (.atom .string) = true) :
    scan accepts cs = some (.atom .string, l, r) :=
  firstMatch_string h (by simp [ha])

theorem scanAny_string {cs l r : List Char} (h : cutString cs = some (l, r)) :
    scanAny cs = some (.atom .string, l, r) := by
  have hfirst := firstMatch_string h (p := fun _ => true) rfl
  rw [List.filter_true] at hfirst
  simp [scanAny, hfirst]

/-- Whatever is scanned as a string, with or without regard to what is accepted, was cut off as
one. -/
theorem cutString_of_scanned {cs l r : List Char} {accepts : Terminal → Bool}
    (h : scan accepts cs = some (.atom .string, l, r) ∨ scanAny cs = some (.atom .string, l, r)) :
    cutString cs = some (l, r) := by
  rcases h with h | h
  · exact (firstMatch_sound h).2
  · unfold scanAny at h
    split at h
    · split at h <;> exact nomatch h
    · exact (firstMatch_sound h).2

end TurtleLogo.Grammar

namespace TurtleLogo

open Grammar

/-- String literals are taken as they are written down and stand for what they say.  The scanner
takes the first match of the pattern; the literal of a text without line feeds is one string
wherever a string may stand, whatever follows it, and stands for that text; and whatever is scanned
as a string stands for what is between its quotes with the escapes read once from left to right. -/
theorem string_literals_decode :
    (∀ cs l r, cutString cs = some (l, r) ↔ LazyMatch cs l r) ∧
    (∀ s : String, '\n' ∉ s.toList → ∀ (accepts : Terminal → Bool),
      accepts (.atom .string) = true → ∀ (behind : List Char) (here : Position),
        scan accepts (quote s.toList ++ behind) = some (.atom .string, quote s.toList, behind) ∧
          scanAny (quote s.toList ++ behind) = some (.atom .string, quote s.toList, behind) ∧
          atomExpr? .string ⟨.atom .string, quote s.toList, here⟩ = some (.string s)) ∧
    ∀ (accepts : Terminal → Bool) (cs l r : List Char),
      scan accepts cs = some (.atom .string, l, r) ∨ scanAny cs = some (.atom .string, l, r) →
        ∀ here : Position, atomExpr? .string ⟨.atom .string, l, here⟩ =
          some (.string (String.ofList (unescape (l.drop 1).dropLast))) := by
  refine ⟨fun _ _ _ => cutString_eq_some_iff, ?_, ?_⟩
  · intro s hs accepts ha behind here
    have hcut : cutString (quote s.toList ++ behind) = some (quote s.toList, behind) :=
      cuts_string.complete (quotation_quote hs) fun _ _ => rfl
    refine ⟨scan_string hcut ha, scanAny_string hcut, ?_⟩
    rw [atomExpr?, unquote_quote, String.ofList_toList]
  · intro accepts cs l r scanned here
    obtain ⟨-, hquotation⟩ := cuts_string.sound (cutString_of_scanned scanned)
    rw [atomExpr?, unquote_eq_unescape hquotation]

def idleLiteral : List Char :=
  "\"\\a\\\\\\\"b\"".toList

/-- The literal of a text that ends with a backslash, in front of another one. -/
theorem string_literals_decode_backslashes :
    '\n' ∉ "say \"hi\"\\".toList ∧
      scan State.caret.accepts ("\"say \\\"hi\\\"\\\\\"".toList ++ idleLiteral) =
        some (.atom .string, "\"say \\\"hi\\\"\\\\\"".toList, idleLiteral) ∧
      atomExpr? .string ⟨.atom .string, "\"say \\\"hi\\\"\\\\\"".toList, .first⟩ =
        some (.string "say \"hi\"\\") ∧
      scan State.caret.accepts idleLiteral = some (.atom .string, idleLiteral, []) ∧
      atomExpr? .string ⟨.atom .string, idleLiteral, .first⟩ = some (.string "\\a\\\"b") := by
  obtain ⟨-, literal, scanned⟩ := string_literals_decode
  have inline : '\n' ∉ "say \"hi\"\\".toList := by decide
  have first := literal "say \"hi\"\\" inline State.caret.accepts rfl idleLiteral .first
  have second : scan State.caret.accepts idleLiteral = some (.atom .string, idleLiteral, []) := rfl
  exact ⟨inline, first.1, first.2.2, second, scanned _ _ _ _ (.inl second) .first⟩

end TurtleLogo
