/-
# `TurtleLogo.Proofs.Program.Printing` — what is printed is parsed again

A draft is a program before it is written down: a tree that the grammar can
build, with the spelling of each keyword, name, number and comment.  Drafts of
expressions are indexed by the rung on which they stand, and the body of a loop
is never empty, so that every draft can be written.

    Draft.words, Outline.words     the words of a draft, line ends where they are needed
    print                          their layout
    Draft.expr, Outline.command    the tree that a draft is, without lines

`parse_print` says that parsing what is printed succeeds and gives the tree, up
to the lines on which its commands start.
-/
import TurtleLogo.Proofs.Grammar.Layout
import TurtleLogo.Proofs.Grammar.Sentence

namespace TurtleLogo

open Grammar

/-- The texts with which a terminal is spelled. -/
def Spelling (t : Terminal) : Type := { cs : List Char // t.Lexeme cs }

mutual
/-- An expression to be written, on a rung of the ladder.  A string is given by what it stands
for. -/
inductive Draft : Rung → Type
  | number (n : Spelling (.atom .number)) : Draft .value
  | string (s : List Char) (h : '\n' ∉ s) : Draft .value
  | ident (name : Spelling (.atom .ident)) : Draft .value
  | group (e : Draft (.chain .comparison)) : Draft .value
  | factor (b : Draft .value) : Draft .factor
  | power (b x : Draft .value) : Draft .factor
  | chain {l : Level} (e : Draft l.operandRung) (rest : DraftLinks l) : Draft (.chain l)

inductive DraftLinks : Level → Type
  | nil {l : Level} : DraftLinks l
  | cons {l : Level} (op : Operator) (h : op.level? = some l) (e : Draft l.operandRung)
      (rest : DraftLinks l) : DraftLinks l
end

mutual
/-- A command to be written. -/
inductive Outline where
  | order (what : Order) (short : Bool) (k : Spelling (.keyword (.order what short)))
      (e : Draft (.chain .comparison))
  | pen (up short : Bool) (k : Spelling (.keyword (.pen up short)))
  | stop (k : Spelling (.keyword .stop))
  | comment (text : Spelling .comment)
  | loop (k : Spelling (.keyword .loop)) (times : Draft (.chain .comparison)) (first : Outline)
      (rest : Outlines)

inductive Outlines where
  | nil
  | cons (c : Outline) (rest : Outlines)
end

/-! ## Words

Printing decides three things: where line ends stand, how a string is written, and
that words are set apart by single spaces. -/

/-- How a string is written between its quotes: backslashes and quotes are escaped. -/
def escape : List Char → List Char
  | [] => []
  | c :: cs => if c = '\\' ∨ c = '"' then '\\' :: c :: escape cs else c :: escape cs

def quote (s : List Char) : List Char :=
  '"' :: (escape s ++ ['"'])

def Operator.words : Operator → List Word
  | .add => [(.addOp, ['+'])]
  | .sub => [(.addOp, ['-'])]
  | .mul => [(.mulOp, ['*'])]
  | .div => [(.mulOp, ['/'])]
  | .eq => [signWord .eq]
  | .ne => [signWord .bang, signWord .eq]
  | .lt => [signWord .less]
  | .gt => [signWord .more]
  | .le => [signWord .less, signWord .eq]
  | .ge => [signWord .more, signWord .eq]
  | .other _ => []

mutual
def Draft.words : {r : Rung} → Draft r → List Word
  | _, .number n => [(.atom .number, n.1)]
  | _, .string s _ => [(.atom .string, quote s)]
  | _, .ident name => [(.atom .ident, name.1)]
  | _, .group e => bracketWord .lpar :: (e.words ++ [bracketWord .rpar])
  | _, .factor b => b.words
  | _, .power b x => b.words ++ (.caret, ['^']) :: x.words
  | _, .chain e rest => e.words ++ rest.words

def DraftLinks.words : {l : Level} → DraftLinks l → List Word
  | _, .nil => []
  | _, .cons op _ e rest => op.words ++ (e.words ++ rest.words)
end

/-- The line end behind a comment. -/
def Outline.break : Outline → List Word
  | .comment _ => [breakWord]
  | _ => []

mutual
def Outline.words : Outline → List Word
  | .order what short k e => (.keyword (.order what short), k.1) :: e.words
  | .pen up short k => [(.keyword (.pen up short), k.1)]
  | .stop k => [(.keyword .stop, k.1)]
  | .comment text => [(.comment, text.1)]
  | .loop k times first rest =>
    (.keyword .loop, k.1) :: (times.words ++ bracketWord .lsqb ::
      (first.words ++ first.break ++ rest.words ++ [bracketWord .rsqb]))

/-- The words of the commands in a loop's brackets, with a line end behind each comment. -/
def Outlines.words : Outlines → List Word
  | .nil => []
  | .cons c rest => c.words ++ c.break ++ rest.words
end

/-- The words of a program, with a line end behind each command. -/
def programWords (d : List Outline) : List Word :=
  d.flatMap fun c => c.words ++ [breakWord]

/-- The text of a program. -/
def print (d : List Outline) : String :=
  String.ofList (layout (programWords d))

/-! ## Trees

The same draft as a tree.  Numbers and strings have the values of their texts; no
command has a line yet. -/

mutual
def Draft.expr : {r : Rung} → Draft r → Expr
  | _, .number n => .number ((Decimal.readReal? n.1).get (Decimal.isSome_readReal? n.2))
  | _, .string s _ => .string (String.ofList s)
  | _, .ident name => .ident (String.ofList name.1)
  | _, .group e => .group e.expr
  | _, .factor b => .factor b.expr
  | _, .power b x => .power b.expr x.expr
  | _, @Draft.chain l e rest => .chain l e.expr rest.links

def DraftLinks.links : {l : Level} → DraftLinks l → Links
  | _, .nil => .nil
  | _, .cons op _ e rest => .cons op e.expr rest.links
end

mutual
def Outline.command : Outline → Command
  | .order what _ _ e => .order what e.expr none
  | .pen up _ _ => .gesture (if up then .penUp else .penDown) none
  | .stop _ => .gesture .stop none
  | .comment text => .comment (String.ofList text.1) none
  | .loop _ times first rest => .loop times.expr (first.command :: rest.commands) none

def Outlines.commands : Outlines → List Command
  | .nil => []
  | .cons c rest => c.command :: rest.commands
end

mutual
def Command.bare : Command → Command
  | .order what e _ => .order what e none
  | .gesture what _ => .gesture what none
  | .loop times body _ => .loop times (bareAll body) none
  | .comment text _ => .comment text none
  | .unknown _ => .unknown none
  | .stray typeName rendering => .stray typeName rendering

def bareAll : List Command → List Command
  | [] => []
  | c :: cs => c.bare :: bareAll cs
end

/-! ## Strings

A string that is written with its escapes is read back.  The two replacements are
looked at one by one: the first leaves backslashes doubled, the second halves
them. -/

theorem escape_head (s : List Char) : ∀ c ∈ (escape s).head?, c ≠ '"' := by
  cases s with
  | nil => exact fun c hc => nomatch hc
  | cons a s =>
      intro c hc
      unfold escape at hc
      split at hc
      · obtain rfl : '\\' = c := Option.some.inj hc
        decide
      · next ha =>
          obtain rfl : a = c := Option.some.inj hc
          exact fun hquote => ha (.inr hquote)

theorem escaped_escape {s : List Char} (h : '\n' ∉ s) : Escaped (escape s) := by
  induction s with
  | nil => exact .nil
  | cons c s ih =>
      have hc : c ≠ '\n' := fun heq => h (heq ▸ List.mem_cons_self)
      have hs := ih fun hmem => h (List.mem_cons_of_mem c hmem)
      unfold escape
      split
      · exact .pair hc hs
      · next hplain =>
          exact .plain (fun heq => hplain (.inl heq)) (fun heq => hplain (.inr heq)) hc hs

/-- Backslashes doubled, and nothing else: what is left when the escaped quotes are replaced. -/
def doubled : List Char → List Char
  | [] => []
  | c :: cs => if c = '\\' then '\\' :: '\\' :: doubled cs else c :: doubled cs

theorem replacePairs_cons_ne {a b r c : Char} (cs : List Char) (h : c ≠ a) :
    replacePairs a b r (c :: cs) = c :: replacePairs a b r cs := by
  cases cs with
  | nil => rfl
  | cons d cs => simp [replacePairs, h]

theorem replacePairs_cons_stops {a b r c : Char} {cs : List Char} (h : ∀ d ∈ cs.head?, d ≠ b) :
    replacePairs a b r (c :: cs) = c :: replacePairs a b r cs := by
  cases cs with
  | nil => rfl
  | cons d cs => simp [replacePairs, h d rfl]

/-- Replacing the escaped quotes leaves the doubled backslashes. -/
theorem replace_quotes (s : List Char) :
    replacePairs '\\' '"' '"' (escape s) = doubled s := by
  induction s with
  | nil => rfl
  | cons c s ih =>
      unfold escape doubled
      by_cases hback : c = '\\'
      · subst hback
        rw [if_pos (.inl rfl), if_pos rfl]
        rw [replacePairs_cons_stops (by simp), replacePairs_cons_stops (escape_head s), ih]
      · rw [if_neg hback]
        by_cases hquote : c = '"'
        · subst hquote
          rw [if_pos (.inr rfl)]
          simp [replacePairs, ih]
        · rw [if_neg (not_or.mpr ⟨hback, hquote⟩), replacePairs_cons_ne _ hback, ih]

theorem replace_backslashes (s : List Char) :
    replacePairs '\\' '\\' '\\' (doubled s) = s := by
  induction s with
  | nil => rfl
  | cons c s ih =>
      unfold doubled
      split
      · next hback => simp [replacePairs, ih, hback]
      · next hback => rw [replacePairs_cons_ne _ hback, ih]

theorem unquote_quote (s : List Char) : unquote (quote s) = s := by
  have hinner : ((quote s).drop 1).dropLast = escape s := by simp [quote]
  rw [unquote, hinner, replace_quotes, replace_backslashes]

theorem quotation_quote {s : List Char} (h : '\n' ∉ s) : Quotation (quote s) :=
  ⟨escape s, rfl, escaped_escape h⟩

/-! ## Words that spell the tree

By mutual induction on the draft, following the constructors of what is spelled. -/

theorem forall₂_signs : ∀ {ss : List Sign} {ts : List Token}, ts.map Token.word = ss.map signWord →
    List.Forall₂ (fun t s => Token.Is t (.sign s)) ts ss
  | [], ts, h => by
      obtain rfl := List.map_eq_nil_iff.mp h
      exact .nil
  | s :: ss, ts, h => by
      obtain ⟨t, ts, rfl, ht, hts⟩ := List.map_eq_cons_iff.mp h
      exact .cons (is_of_word ht (lexeme_sign s)).1 (forall₂_signs hts)

theorem Operator.spells {op : Operator} {l : Level} {ts : List Token} (hl : op.level? = some l)
    (h : ts.map Token.word = op.words) : SpellsOperator l op ts := by
  have hsum : ∀ {c : Char} {op : Operator}, ts.map Token.word = [(.addOp, [c])] →
      (c == '+' || c == '-') = true → Operator.ofSymbol? (String.ofList [c]) = some op →
      SpellsOperator .sum op ts := by
    intro c op h hc hop
    obtain ⟨t, rfl, ht, hlexeme⟩ := is_of_words h ⟨c, rfl, hc⟩
    exact .sum ht (by rw [Token.text, hlexeme, hop])
  have hproduct : ∀ {c : Char} {op : Operator}, ts.map Token.word = [(.mulOp, [c])] →
      (c == '*' || c == '/') = true → Operator.ofSymbol? (String.ofList [c]) = some op →
      SpellsOperator .product op ts := by
    intro c op h hc hop
    obtain ⟨t, rfl, ht, hlexeme⟩ := is_of_words h ⟨c, rfl, hc⟩
    exact .product ht (by rw [Token.text, hlexeme, hop])
  have hcomparison : ∀ c : Comparator, ts.map Token.word = c.signs.map signWord →
      SpellsOperator .comparison c.operator ts := fun c hc => .comparison (forall₂_signs hc)
  cases op with
  | add => cases hl; exact hsum h rfl (by decide)
  | sub => cases hl; exact hsum h rfl (by decide)
  | mul => cases hl; exact hproduct h rfl (by decide)
  | div => cases hl; exact hproduct h rfl (by decide)
  | eq => cases hl; exact hcomparison .eq h
  | ne => cases hl; exact hcomparison .ne h
  | lt => cases hl; exact hcomparison .lt h
  | gt => cases hl; exact hcomparison .gt h
  | le => cases hl; exact hcomparison .le h
  | ge => cases hl; exact hcomparison .ge h
  | other _ => cases hl

mutual
theorem Draft.spells : ∀ {r : Rung} (d : Draft r) {ts : List Token},
    ts.map Token.word = d.words → Spells r d.expr ts
  | _, .number n, ts, h => by
      obtain ⟨t, rfl, ht, hlexeme⟩ := is_of_words h n.2
      refine .number ht ?_
      rw [hlexeme, Option.some_get]
  | _, .string s hs, ts, h => by
      obtain ⟨t, rfl, ht, hlexeme⟩ := is_of_words h (quotation_quote hs)
      have hspells := Spells.string ht
      rw [hlexeme, unquote_quote] at hspells
      exact hspells
  | _, .ident name, ts, h => by
      obtain ⟨t, rfl, ht, hlexeme⟩ := is_of_words h name.2
      have hspells := Spells.ident ht
      rw [Token.text, hlexeme] at hspells
      exact hspells
  | _, .group e, ts, h => by
      obtain ⟨lp, ts, rfl, hlp, h⟩ := List.map_eq_cons_iff.mp h
      obtain ⟨ts, us, rfl, hts, h⟩ := List.map_eq_append_iff.mp h
      obtain ⟨rp, rfl, hrp, -⟩ := is_of_words h (lexeme_bracket .rpar)
      exact .group (is_of_word hlp (lexeme_bracket .lpar)).1 (e.spells hts) hrp
  | _, .factor b, _, h => .factor (b.spells h)
  | _, .power b x, ts, h => by
      obtain ⟨ts, us, rfl, hts, h⟩ := List.map_eq_append_iff.mp h
      obtain ⟨t, us, rfl, ht, hus⟩ := List.map_eq_cons_iff.mp h
      exact .power (b.spells hts) (is_of_word ht lexeme_caret).1 (x.spells hus)
  | _, .chain e rest, ts, h => by
      obtain ⟨ts, us, rfl, hts, hus⟩ := List.map_eq_append_iff.mp h
      exact .chain (e.spells hts) (rest.spells hus)

theorem DraftLinks.spells : ∀ {l : Level} (d : DraftLinks l) {ts : List Token},
    ts.map Token.word = d.words → SpellsLinks l d.links ts
  | _, .nil, ts, h => by
      obtain rfl := List.map_eq_nil_iff.mp h
      exact .nil
  | _, .cons op hop e rest, ts, h => by
      obtain ⟨os, us, rfl, hos, h⟩ := List.map_eq_append_iff.mp h
      obtain ⟨ts, us, rfl, hts, hus⟩ := List.map_eq_append_iff.mp h
      exact .cons (Operator.spells hop hos) (e.spells hts) (rest.spells hus)
end

/-- The line end that a comment needs in brackets is one that may stand there. -/
theorem Outline.break_spells (c : Outline) {ts : List Token} (h : ts.map Token.word = c.break) :
    Break ts := by
  cases c with
  | comment text =>
      obtain ⟨t, rfl, ht, -⟩ := is_of_words h lexeme_break
      exact .line ht
  | _ =>
      obtain rfl := List.map_eq_nil_iff.mp h
      exact .none

mutual
theorem Outline.spells : ∀ (d : Outline) {ts : List Token}, ts.map Token.word = d.words →
    ∃ c, SpellsCommand c ts ∧ c.bare = d.command
  | .order what short k e, ts, h => by
      obtain ⟨t, us, rfl, ht, hus⟩ := List.map_eq_cons_iff.mp h
      exact ⟨_, .order (is_of_word ht k.2).1 (e.spells hus), rfl⟩
  | .pen up short k, ts, h => by
      obtain ⟨t, rfl, ht, -⟩ := is_of_words h k.2
      exact ⟨_, .pen ht, rfl⟩
  | .stop k, ts, h => by
      obtain ⟨t, rfl, ht, -⟩ := is_of_words h k.2
      exact ⟨_, .stop ht, rfl⟩
  | .comment text, ts, h => by
      obtain ⟨t, rfl, ht, hlexeme⟩ := is_of_words h text.2
      exact ⟨_, .comment ht, by rw [Token.text, hlexeme]; rfl⟩
  | .loop k times first rest, ts, h => by
      obtain ⟨t, us, rfl, ht, h⟩ := List.map_eq_cons_iff.mp h
      obtain ⟨ts, us, rfl, hts, h⟩ := List.map_eq_append_iff.mp h
      obtain ⟨lb, us, rfl, hlb, h⟩ := List.map_eq_cons_iff.mp h
      obtain ⟨us, vs, rfl, h, hvs⟩ := List.map_eq_append_iff.mp h
      obtain ⟨us, ws, rfl, h, hws⟩ := List.map_eq_append_iff.mp h
      obtain ⟨us, nl, rfl, hus, hnl⟩ := List.map_eq_append_iff.mp h
      obtain ⟨rb, rfl, hrb, -⟩ := is_of_words hvs (lexeme_bracket .rsqb)
      obtain ⟨c, hc, hbare⟩ := first.spells hus
      obtain ⟨cs, hcs, hbares⟩ := rest.spells hws
      have hbody := SpellsBody.cons hc (first.break_spells hnl) hcs
      rw [← List.append_assoc] at hbody
      refine ⟨_, .loop (is_of_word ht k.2).1 (times.spells hts)
        (is_of_word hlb (lexeme_bracket .lsqb)).1 .none hbody (List.cons_ne_nil c cs) hrb, ?_⟩
      rw [Command.bare, bareAll, hbare, hbares]
      rfl

theorem Outlines.spells : ∀ (d : Outlines) {ts : List Token}, ts.map Token.word = d.words →
    ∃ cs, SpellsBody cs ts ∧ bareAll cs = d.commands
  | .nil, ts, h => by
      obtain rfl := List.map_eq_nil_iff.mp h
      exact ⟨[], .nil, rfl⟩
  | .cons d rest, ts, h => by
      obtain ⟨us, vs, rfl, h, hvs⟩ := List.map_eq_append_iff.mp h
      obtain ⟨us, nl, rfl, hus, hnl⟩ := List.map_eq_append_iff.mp h
      obtain ⟨c, hc, hbare⟩ := d.spells hus
      obtain ⟨cs, hcs, hbares⟩ := rest.spells hvs
      have hbody := SpellsBody.cons hc (d.break_spells hnl) hcs
      rw [← List.append_assoc] at hbody
      refine ⟨c :: cs, hbody, ?_⟩
      rw [bareAll, hbare, hbares]
      rfl
end

theorem programWords_spells : ∀ (d : List Outline) {ts : List Token},
    ts.map Token.word = programWords d →
      ∃ cs, SpellsLines cs ts ∧ bareAll cs = d.map Outline.command
  | [], ts, h => by
      obtain rfl := List.map_eq_nil_iff.mp h
      exact ⟨[], .nil, rfl⟩
  | c :: d, ts, h => by
      obtain ⟨us, vs, rfl, h, hvs⟩ := List.map_eq_append_iff.mp h
      obtain ⟨us, nl, rfl, hus, hnl⟩ := List.map_eq_append_iff.mp h
      obtain ⟨t, rfl, ht, -⟩ := is_of_words hnl lexeme_break
      obtain ⟨cmd, hc, hbare⟩ := c.spells hus
      obtain ⟨cs, hcs, hbares⟩ := programWords_spells d hvs
      refine ⟨cmd :: cs, ?_, ?_⟩
      · rw [List.append_assoc]
        exact .cons hc ht hcs
      · rw [bareAll, hbare, hbares]
        rfl

/-! ## Words that can be read again

The words of a draft have no two line ends in a row and something behind every
comment, so that their layout is cut into these words again. -/

theorem plain_keyword {k : Keyword} (l : Spelling (.keyword k)) : Plain (.keyword k, l.1) :=
  ⟨l.2, nofun, nofun, nofun⟩

theorem plain_caret : Plain (.caret, ['^']) :=
  ⟨lexeme_caret, nofun, nofun, nofun⟩

theorem Operator.words_plain (op : Operator) : ∀ w ∈ op.words, Plain w := by
  have hadd : ∀ {c : Char}, (c == '+' || c == '-') = true → Plain (.addOp, [c]) := fun hc =>
    ⟨⟨_, rfl, hc⟩, nofun, nofun, nofun⟩
  have hmul : ∀ {c : Char}, (c == '*' || c == '/') = true → Plain (.mulOp, [c]) := fun hc =>
    ⟨⟨_, rfl, hc⟩, nofun, nofun, nofun⟩
  cases op with
  | add | sub => simpa [Operator.words] using hadd rfl
  | mul | div => simpa [Operator.words] using hmul rfl
  | eq | lt | gt => simpa [Operator.words] using plain_sign _
  | ne | le | ge => simpa [Operator.words] using ⟨plain_sign _, plain_sign _⟩
  | other _ => exact fun w hw => nomatch hw

mutual
theorem Draft.words_plain : ∀ {r : Rung} (d : Draft r), ∀ w ∈ d.words, Plain w
  | _, .number n => List.forall_mem_singleton.mpr (plain_atom n.2)
  | _, .string _ hs => List.forall_mem_singleton.mpr (plain_atom (quotation_quote hs))
  | _, .ident name => List.forall_mem_singleton.mpr (plain_atom name.2)
  | _, .group e => by
      simp only [Draft.words, List.forall_mem_cons, List.forall_mem_append]
      exact ⟨plain_bracket _, e.words_plain, plain_bracket _, fun w hw => nomatch hw⟩
  | _, .factor b => b.words_plain
  | _, .power b x => by
      simp only [Draft.words, List.forall_mem_cons, List.forall_mem_append]
      exact ⟨b.words_plain, plain_caret, x.words_plain⟩
  | _, .chain e rest => by
      simp only [Draft.words, List.forall_mem_append]
      exact ⟨e.words_plain, rest.words_plain⟩

theorem DraftLinks.words_plain : ∀ {l : Level} (d : DraftLinks l), ∀ w ∈ d.words, Plain w
  | _, .nil => fun w hw => nomatch hw
  | _, .cons op _ e rest => by
      simp only [DraftLinks.words, List.forall_mem_append]
      exact ⟨op.words_plain, e.words_plain, rest.words_plain⟩
end

mutual
/-- A command may be followed by a line end; in brackets it may be followed by anything, with the
line end that a comment needs. -/
theorem Outline.orderly : ∀ d : Outline,
    Orderly (d.words ++ [breakWord]) ∧ Orderly (d.words ++ d.break)
  | .order what short k e => by
      have hplain : ∀ w ∈ Outline.words (.order what short k e), Plain w := by
        simp only [Outline.words, List.forall_mem_cons]
        exact ⟨plain_keyword k, e.words_plain⟩
      exact ⟨orderly_line hplain (List.cons_ne_nil _ _),
        (orderly_of_plain hplain).append orderly_nil⟩
  | .pen up short k =>
      ⟨.break k.2 nofun nofun, (plain_keyword k).orderly⟩
  | .stop k => ⟨.break k.2 nofun nofun, (plain_keyword k).orderly⟩
  | .comment text => ⟨.break text.2 nofun nofun, .break text.2 nofun nofun⟩
  | .loop k times first rest => by
      have hhead : Orderly ((.keyword .loop, k.1) :: (times.words ++ bracketWord .lsqb ::
          (first.words ++ first.break ++ rest.words))) :=
        (plain_keyword k).orderly.cons ((orderly_of_plain times.words_plain).append
          ((plain_bracket .lsqb).orderly.cons (first.orderly.2.append rest.orderly)))
      have hline := hhead.append
        (.break (lexeme_bracket .rsqb) (nofun : Terminal.bracket .rsqb ≠ .blank) nofun)
      have hinner := hhead.append (plain_bracket .rsqb).orderly
      simp only [List.cons_append, List.append_assoc] at hline hinner
      simp only [Outline.words, Outline.break, List.cons_append, List.append_assoc, List.nil_append,
        List.append_nil]
      exact ⟨hline, hinner⟩

theorem Outlines.orderly : ∀ d : Outlines, Orderly d.words
  | .nil => orderly_nil
  | .cons c rest => c.orderly.2.append rest.orderly
end

theorem programWords_orderly : ∀ d : List Outline, Orderly (programWords d)
  | [] => orderly_nil
  | c :: d => c.orderly.1.append (programWords_orderly d)

/-- Parsing undoes printing, up to the lines of the commands. -/
theorem parse_print (d : List Outline) :
    ∃ p, Program.parse (print d) = .ok p ∧ bareAll p = d.map Outline.command := by
  obtain ⟨us, hlexed, hus⟩ := (programWords_orderly d).toLegible.lexed .first
  obtain ⟨p, hp, hbare⟩ := programWords_spells d hus
  refine ⟨p, Program.parse_eq_ok_iff.mpr ?_, hbare⟩
  rw [print, String.toList_ofList]
  exact parse_eq_program_iff.mpr ⟨us, hlexed, [], _, .none, hp, rfl⟩

end TurtleLogo
