/-
# `TurtleLogo.Proofs.Program.Respelling` — programs in another spelling

A program may be respelled word by word: any keyword by another one for the same
command, in capitals or not, and names and comments in other letters.  Strings,
numbers and signs stay as they are, and so do the blanks, even where there are
none.

    Respells w v        the word `v` is another spelling of the word `w`
    Respelling s s'     the words that the parser finds in `s`, respelled, make up `s'`

A respelled text is cut into the respelled words (`Lexed.respelled`): a word is
made longer by no letter or by any, so which letter comes next makes no
difference.  The tree then differs in names and comments only, and a variable is
found by the lower-case form of its name, so the program runs as before, up to
the name that an error tells (`Akin`).
-/
import TurtleLogo.Proofs.Grammar.Sentence
import TurtleLogo.Proofs.Program.Splitting
import TurtleLogo.Proofs.Program.Tracking

namespace TurtleLogo

open Text

namespace Grammar

/-! ## Other letters of one class

The classes of characters by which the scanner cuts hold all ASCII letters or
none, so they do not see a change of case; nor do the forms of names, keywords and
comments. -/

section Classes

variable {c d : Char}

theorem capital?_eq (h : SameLetter c d) : capital? d = capital? c := by
  rcases h.eq_or_letters with rfl | ⟨hc, hd⟩
  · rfl
  · rw [capital?, capital?, if_pos hc, if_pos hd, h.toUpper_eq]

theorem startsName_of_isAsciiLetter (h : isAsciiLetter c = true) : startsName c = true := by
  rw [startsName, capital?, if_pos h]
  rfl

theorem startsName_eq (h : SameLetter c d) : startsName d = startsName c :=
  h.value_eq fun _ => startsName_of_isAsciiLetter

theorem isWordChar_eq (h : SameLetter c d) : isWordChar d = isWordChar c :=
  h.value_eq fun _ hc => isWordChar_of_startsName (startsName_of_isAsciiLetter hc)

theorem continuesRem_eq (h : SameLetter c d) : continuesRem d = continuesRem c :=
  h.value_eq (a := true) fun c hc => by
    rw [continuesRem, startsName_of_isAsciiLetter hc, Bool.true_or]

theorem isInline_eq (h : SameLetter c d) : isInline d = isInline c :=
  h.value_eq fun _ hc => isInline_of_class hc rfl rfl

/-- A lexeme is made longer by any character with which a name may begin, or by none of them. -/
theorem continues_eq {t : Terminal} (hc : startsName c = true) (hd : startsName d = true) :
    t.continues d = t.continues c := by
  have number : ∀ {c : Char}, startsName c = true → (isDigit c || c == '.') = false := by
    intro c hc
    have digit : isDigit c = false := by
      by_contra h
      exact nomatch hc.symm.trans (startsName_false_of_digit (Bool.eq_true_of_not_eq_false h))
    rw [digit, beq_false_of_class hc (by decide)]
    rfl
  have inline : ∀ {c : Char}, startsName c = true → isInline c = true := fun hc =>
    isInline_of_class hc (by decide) (by decide)
  have layout : ∀ {c : Char}, startsName c = true → isLayout c = false := fun hc =>
    isLayout_false_of_class hc (by decide) (by decide) (by decide) (by decide)
  have space : ∀ {c : Char}, startsName c = true → isSpace c = false := fun hc =>
    isSpace_false_of_class hc (by decide) (by decide)
  match t with
  | .comment => exact (inline hd).trans (inline hc).symm
  | .atom .number => exact (number hd).trans (number hc).symm
  | .atom .ident =>
      exact (isWordChar_of_startsName hd).trans (isWordChar_of_startsName hc).symm
  | .newline => exact (layout hd).trans (layout hc).symm
  | .blank => exact (space hd).trans (space hc).symm
  | .atom .string | .keyword _ | .addOp | .mulOp | .caret | .sign _ | .bracket _ => rfl

end Classes

theorem forall₂_all {p : Char → Bool} (hp : ∀ {c d : Char}, SameLetter c d → p d = p c)
    {cs ds : List Char} (h : List.Forall₂ SameLetter cs ds) (hcs : ∀ c ∈ cs, p c = true) :
    ∀ d ∈ ds, p d = true := by
  induction h with
  | nil => exact hcs
  | cons hc _ ih =>
      obtain ⟨first, others⟩ := List.forall_mem_cons.mp hcs
      exact List.forall_mem_cons.mpr ⟨(hp hc).trans first, ih others⟩

instance (word l : List Char) : Decidable (Worded word l) :=
  inferInstanceAs (Decidable (List.Forall₂ (fun letter c => isLetter letter c = true) word l))

theorem Worded.respelled {word cs ds : List Char} (hcs : Worded word cs)
    (h : List.Forall₂ SameLetter cs ds) : Worded word ds := by
  induction hcs generalizing ds with
  | nil =>
      cases h
      exact .nil
  | cons hc _ ih =>
      cases h with
      | cons hd h =>
          refine .cons ?_ (ih h)
          rw [isLetter, capital?_eq hd]
          exact hc

theorem Remark.respelled {cs ds : List Char} (hcs : Remark cs)
    (h : List.Forall₂ SameLetter cs ds) : Remark ds := by
  cases hcs with
  | mark hcs =>
      cases h with
      | @cons _ d _ ds hd h =>
          obtain rfl : '#' = d := hd.eq_or_letters.resolve_right fun letters => nomatch letters.1
          exact .mark (forall₂_all isInline_eq h hcs)
  | word hw hstops hcs =>
      obtain ⟨v, ds, rfl, hv, h⟩ := forall₂_append_left h
      refine .word (hw.respelled hv) ?_ (forall₂_all isInline_eq h hcs)
      cases h with
      | nil => exact hstops
      | cons hd _ => exact stops_cons.mpr ((continuesRem_eq hd).trans (stops_cons.mp hstops))

theorem name_respelled {cs ds : List Char} (hcs : Run startsName isWordChar cs)
    (h : List.Forall₂ SameLetter cs ds) : Run startsName isWordChar ds := by
  obtain ⟨c, cs, rfl, hc, hmore⟩ := hcs
  cases h with
  | cons hd h => exact ⟨_, _, rfl, (startsName_eq hd).trans hc, forall₂_all isWordChar_eq h hmore⟩

/-- Terminals whose tokens can be respelled. -/
def Terminal.isLoose : Terminal → Bool
  | .keyword _ | .comment | .atom .ident => true
  | _ => false

/-- A lexeme that can be respelled begins with a letter, or with a number sign. -/
theorem Terminal.Lexeme.loose_front {t : Terminal} {c : Char} {cs : List Char}
    (h : t.Lexeme (c :: cs)) (ht : t.isLoose = true) : c = '#' ∨ startsName c = true := by
  match t, ht, h with
  | .keyword _, _, h => exact .inr (Worded.startsName h List.mem_cons_self)
  | .atom .ident, _, ⟨_, _, he, hc, _⟩ =>
      obtain ⟨rfl, -⟩ := List.cons.inj he
      exact .inr hc
  | .comment, _, h =>
      generalize hl : c :: cs = l at h
      cases h with
      | mark _ => exact .inl (List.cons.inj hl).1
      | word hw _ _ =>
          cases hw with
          | cons hletter _ =>
              obtain ⟨rfl, -⟩ := List.cons.inj hl
              exact .inr (startsName_of_isLetter hletter)

/-! ## Respelled words

Whether what comes next makes a word longer is asked by its first character.  In
another spelling it is a letter again, or the same character. -/

/-- `Respells w v`: the word `v` is another spelling of `w`, a keyword for the same command, or the
same name or comment in other letters. -/
inductive Respells : Word → Word → Prop
  | same (w : Word) : Respells w w
  | keyword {k k' : Keyword} {l l' : List Char} : k'.kind = k.kind →
      Worded k'.spelling.toList l' → Respells (.keyword k, l) (.keyword k', l')
  | comment {l l' : List Char} : List.Forall₂ SameLetter l l' → Respells (.comment, l) (.comment, l')
  | ident {l l' : List Char} : List.Forall₂ SameLetter l l' →
      Respells (.atom .ident, l) (.atom .ident, l')

section Respells

variable {w v : Word}

theorem Respells.lexeme (h : Respells w v) (hw : w.1.Lexeme w.2) : v.1.Lexeme v.2 := by
  cases h with
  | same => exact hw
  | keyword _ hword => exact hword
  | comment letters => exact Remark.respelled hw letters
  | ident letters => exact name_respelled hw letters

theorem Respells.meaning (h : Respells w v) : Says SameLetters w v := by
  have texts : ∀ {l l' : List Char}, List.Forall₂ SameLetter l l' →
      SameLetters (String.ofList l) (String.ofList l') := by
    intro l l' letters
    rw [SameLetters, String.toList_ofList, String.toList_ofList]
    exact letters
  cases h with
  | same => exact says_of_eq sameLetters_refl rfl
  | @keyword _ k' _ _ hkind _ => exact ⟨k', rfl, hkind⟩
  | comment letters => exact ⟨rfl, texts letters⟩
  | ident letters => exact ⟨rfl, texts letters⟩

theorem Respells.eq_of_not_loose (h : Respells w v) (hw : w.1.isLoose = false) : v = w := by
  cases h with
  | same => rfl
  | keyword _ _ | comment _ | ident _ => exact nomatch hw

theorem Respells.continues_eq (h : Respells w v) : v.1.continues = w.1.continues := by
  cases h with
  | same | keyword _ _ | comment _ | ident _ => rfl

/-- A respelled word begins with the same character, or both begin with a letter. -/
theorem Respells.front (h : Respells w v) (hw : w.1.Lexeme w.2) :
    ∃ c cs d ds, w.2 = c :: cs ∧ v.2 = d :: ds ∧
      (d = c ∨ startsName c = true ∧ startsName d = true) := by
  obtain ⟨c, cs, hc⟩ := List.exists_cons_of_ne_nil hw.ne_nil
  obtain ⟨d, ds, hd⟩ := List.exists_cons_of_ne_nil (h.lexeme hw).ne_nil
  refine ⟨c, cs, d, ds, hc, hd, ?_⟩
  have lettered : List.Forall₂ SameLetter (c :: cs) (d :: ds) →
      d = c ∨ startsName c = true ∧ startsName d = true := by
    rintro (_ | ⟨same, -⟩)
    rcases same.eq_or_letters with rfl | ⟨hc, hd⟩
    · exact .inl rfl
    · exact .inr ⟨startsName_of_isAsciiLetter hc, startsName_of_isAsciiLetter hd⟩
  cases h with
  | same => exact .inl (List.cons.inj (hd.symm.trans hc)).1
  | keyword _ hword =>
      obtain rfl : _ = c :: cs := hc
      obtain rfl : _ = d :: ds := hd
      exact .inr ⟨Worded.startsName hw List.mem_cons_self, hword.startsName List.mem_cons_self⟩
  | comment letters =>
      obtain rfl : _ = c :: cs := hc
      obtain rfl : _ = d :: ds := hd
      exact lettered letters
  | ident letters =>
      obtain rfl : _ = c :: cs := hc
      obtain rfl : _ = d :: ds := hd
      exact lettered letters

theorem Respells.count_eq (h : Respells w v) (hw : w.1.Lexeme w.2) :
    v.2.count '\n' = w.2.count '\n' := by
  have none : ∀ {u : Word}, u.1.Lexeme u.2 → u.1 ≠ .newline → u.2.count '\n' = 0 := by
    intro u hu hne
    refine List.count_eq_zero.mpr fun hmem => ?_
    exact (hu.break hmem rfl).elim hne fun hstring => hstring.2 rfl
  have hv := h.lexeme hw
  cases h with
  | same => rfl
  | keyword _ _ | comment _ | ident _ => rw [none hw nofun, none hv nofun]

/-- What follows a respelled word does not make the word before it longer. -/
theorem Respells.stops {p : Char → Bool} {r r' : List Char} (h : Respells w v)
    (hw : w.1.Lexeme w.2)
    (hp : ∀ {c d : Char}, startsName c = true → startsName d = true → p d = p c)
    (stops : Stops p (w.2 ++ r)) : Stops p (v.2 ++ r') := by
  obtain ⟨c, cs, d, ds, hc, hd, front⟩ := h.front hw
  rw [hc, List.cons_append, stops_cons] at stops
  rw [hd, List.cons_append, stops_cons]
  rcases front with rfl | ⟨hname, hname'⟩
  · exact stops
  · exact (hp hname hname').trans stops

end Respells

/-! ## Respelled texts

By induction on the tokens: each is cut off in front of the respelled ones behind
it, and the places move, but not the lines. -/

def wordsText (ws : List Word) : List Char :=
  ws.flatMap Prod.snd

/-- A respelled word is cut off in front of respelled words. -/
theorem cut_respelled {t : Token} {v : Word} {us : List Token} {ws : List Word} {cs : List Char}
    (hcut : t.terminal.cut cs = some (t.lexeme, spelling us)) (is : ∀ u ∈ us, u.Is u.terminal)
    (hv : Respells t.word v) (hws : List.Forall₂ Respells (us.map Token.word) ws) :
    v.1.cut (v.2 ++ wordsText ws) = some (v.2, wordsText ws) := by
  have hlexeme := hv.lexeme (t.terminal.cuts.sound hcut).2
  cases us with
  | nil =>
      cases hws
      exact v.1.cuts.complete hlexeme (stops_nil _)
  | cons u us =>
      have hu : u.word.1.Lexeme u.word.2 := (is u List.mem_cons_self).2
      cases hws with
      | @cons _ w _ ws hw hws =>
          rcases t.terminal.cut_stops hcut with stops | ⟨hnumber, hpoint⟩
          · refine v.1.cuts.complete hlexeme ?_
            rw [hv.continues_eq]
            exact hw.stops hu continues_eq stops
          · -- a number in front of a point, with which no word begins that is respelled
            obtain rfl := hv.eq_of_not_loose (by rw [show t.word.1 = _ from hnumber]; rfl)
            have tight : u.word.1.isLoose = false := by
              by_contra loose
              obtain ⟨c, l, hl⟩ := List.exists_cons_of_ne_nil hu.ne_nil
              have hc : c = '.' := by
                have hhead : (u.word.2 ++ spelling us).head? = some '.' := hpoint
                rw [hl] at hhead
                exact Option.some.inj hhead
              subst hc
              rw [hl] at hu
              rcases hu.loose_front (Bool.eq_true_of_not_eq_false loose) with h | h
              · exact absurd h (by decide)
              · exact absurd h (by decide)
            obtain rfl := hw.eq_of_not_loose tight
            exact cut_before_lexeme (hcut : t.word.1.cut cs = some (t.word.2, u.word.2 ++ _)) hu _

/-- A respelled text is cut into the respelled words, on the same lines. -/
theorem Lexed.respelled {p : Position} {cs rest : List Char} {us : List Token}
    (h : Lexed p cs us rest) (hrest : rest = []) : ∀ {ws : List Word},
      List.Forall₂ Respells (us.map Token.word) ws → ∀ q : Position, q.line = p.line →
        ∃ vs, Lexed q (wordsText ws) vs [] ∧ List.Forall₂ (Token.Like SameLetters Eq) us vs := by
  induction h with
  | nil =>
      intro ws hws q hq
      cases hws
      exact ⟨[], .nil, .nil⟩
  | @cons p cs mid rest t us hp hcut hlexed ih =>
      intro ws hws q hq
      subst hrest
      cases hws with
      | @cons _ v _ ws hv hws =>
          obtain ⟨rfl, hlexeme⟩ := t.terminal.cuts.sound hcut
          have hword : t.word.1.Lexeme t.word.2 := hlexeme
          have hline : (q.after v.2).line = (p.after t.lexeme).line := by
            rw [Position.after_line, Position.after_line, hv.count_eq hword, hq]
            rfl
          obtain ⟨vs, hvs, hlike⟩ := ih rfl hws (q.after v.2) hline
          refine ⟨⟨v.1, v.2, q⟩ :: vs, .cons rfl ?_ hvs, .cons ?_ hlike⟩
          · obtain rfl : mid = spelling us := by rw [hlexed.spelling_append, List.append_nil]
            exact cut_respelled hcut hlexed.is hv hws
          · exact ⟨hv.meaning, hv.lexeme hword, by rw [hp, hq]⟩

end Grammar

/-! ## The same values

Variables are found by the lower-case forms of their names.  If there is none, the
failure tells the name as it is spelled, which is the only difference there can
be. -/

/-- `Akin f g`: the same failure, or a variable that is unknown on the same line, told in other
letters. -/
inductive Akin : Failure → Failure → Prop
  | same (f : Failure) : Akin f f
  | unknown {a b : String} (line : Option Int) : SameLetters a b →
      Akin (.error ⟨.unknownVariable a, line⟩) (.error ⟨.unknownVariable b, line⟩)

theorem Akin.at? {f g : Failure} (h : Akin f g) (line : Option Int) :
    Akin (f.at? line) (g.at? line) := by
  cases h with
  | same => exact .same _
  | unknown place letters =>
      cases place with
      | none => exact .unknown line letters
      | some n => exact .unknown (some n) letters

theorem Tallies.andThen {F : Failure → Failure → Prop} {r r' : Reply Scalar}
    {k k' : Scalar → Reply Scalar} : Tallies F r r' → (∀ v, Tallies F (k v) (k' v)) →
      Tallies F
        (match r with
          | .error e => .error e
          | .ok v => k v)
        (match r' with
          | .error e => .error e
          | .ok v => k' v) := by
  intro h hk
  cases h with
  | ok v => exact hk v
  | error hF => exact .error hF

theorem lookup_eq {a b : String} (h : SameLetters a b) (env : Environment) :
    env.lookup b = env.lookup a := by
  rw [Environment.lookup, Environment.lookup, h.lower_eq]

theorem LikeExpr.guardValue {N : String → String → Prop} {e f : Expr} (h : LikeExpr N .value e f) :
    (∀ r, e.guardValue r = r) ∧ ∀ r, f.guardValue r = r := by
  cases h with
  | number _ | string _ | ident _ | group _ => exact ⟨fun _ => if_pos rfl, fun _ => if_pos rfl⟩

mutual
theorem LikeExpr.eval_akin (env : Environment) : ∀ {r : Rung} {e f : Expr},
    LikeExpr SameLetters r e f → Tallies Akin (e.eval env) (f.eval env)
  | _, _, _, .number x => by
      rw [Expr.eval]
      exact .ok _
  | _, _, _, .string s => by
      rw [Expr.eval]
      exact .ok _
  | _, _, _, .ident letters => by
      rw [Expr.eval, Expr.eval, lookup_eq letters env]
      cases env.lookup _ with
      | some v => exact .ok v
      | none => exact .error (.unknown none letters)
  | _, _, _, .group he => by
      rw [Expr.eval, Expr.eval]
      exact he.eval_akin env
  | _, _, _, .factor hb => by
      rw [Expr.eval, Expr.eval, hb.guardValue.1, hb.guardValue.2]
      exact hb.eval_akin env
  | _, _, _, .power hb hx => by
      rw [Expr.eval, Expr.eval, hb.guardValue.1, hb.guardValue.2, hx.guardValue.1, hx.guardValue.2]
      exact (hb.eval_akin env).andThen fun v => (hx.eval_akin env).andThen fun w =>
        tallies_self .same (v.power w)
  | _, _, _, .chain he hrest => by
      rw [Expr.eval, Expr.eval]
      exact (he.eval_akin env).andThen fun v => hrest.eval_akin env v

theorem LikeLinks.eval_akin (env : Environment) : ∀ {l : Level} {rest more : Links},
    LikeLinks SameLetters l rest more → ∀ v : Scalar,
      Tallies Akin (rest.eval env l v) (more.eval env l v)
  | _, _, _, .nil, v => by
      rw [Links.eval]
      exact .ok v
  | l, _, _, .cons op he hrest, v => by
      rw [Links.eval, Links.eval]
      refine (he.eval_akin env).andThen fun w => ?_
      exact (tallies_self .same (l.apply op v w)).andThen fun u => hrest.eval_akin env u
end

theorem fits_letters : Fits SameLetters Eq Akin where
  refl := .same
  placed := by
    rintro f g l _ akin rfl
    exact akin.at? l
  evalNumber := by
    intro e f like env what
    have tally := like.eval_akin env
    rw [Expr.evalNumber, Expr.evalNumber]
    generalize e.eval env = r at tally ⊢
    generalize f.eval env = r' at tally ⊢
    cases tally with
    | ok v => exact tallies_self .same _
    | error akin => exact .error akin

/-- The same values under the same names in other letters. -/
def SameVariables (vars vars' : List (String × Given)) : Prop :=
  List.Forall₂ (fun v v' => SameLetters v.1 v'.1 ∧ v'.2 = v.2) vars vars'

theorem SameVariables.extend_eq {vars vars' : List (String × Given)} (h : SameVariables vars vars') :
    ∀ env : Environment, env.extend vars' = env.extend vars := by
  induction h with
  | nil => exact fun _ => rfl
  | @cons v v' vars vars' hv _ ih =>
      intro env
      obtain ⟨name, given⟩ := v
      obtain ⟨name', given'⟩ := v'
      obtain ⟨letters, rfl⟩ : SameLetters name name' ∧ given' = given := hv
      rw [Environment.extend, Environment.extend, letters.lower_eq]
      cases given'.wrap with
      | ok v => exact ih _
      | error f => rfl

/-! ## Respelled programs

The tree is alike by likeness of the tokens, and the runs are alike by likeness of
the trees. -/

open Grammar

/-- `Respelling s s'`: the words that the parser finds in `s`, respelled, make up `s'`. -/
def Respelling (s s' : String) : Prop :=
  ∃ ws, List.Forall₂ Respells ((consumed s.toList).map Token.word) ws ∧ s'.toList = wordsText ws

/-- Spelling does not matter.  A program that is respelled is the same program up to the letters of
names and comments, on the same lines; and with variables whose names are in any letters it does the
same deeds and ends alike, both times well, or with the same failure on the same line. -/
theorem respelled_program_runs_alike {s s' : String} {p : Program} (h : Program.parse s = .ok p)
    (respelled : Respelling s s') :
    ∃ q, Program.parse s' = .ok q ∧ LikeCommands SameLetters Eq p q ∧
      ∀ {σ : Type} (t : Turtle σ) (timer : Timer) {vars vars' : List (String × Given)} (fuel : Nat)
        (scene : Scene σ), SameVariables vars vars' →
          let before := t.trial timer vars fuel p scene
          let after := t.trial timer vars' fuel q scene
          after.done = before.done ∧ Tallies Akin before.result after.result ∧
            t.left timer vars' fuel q scene = t.left timer vars fuel p scene := by
  obtain ⟨ws, hws, hs'⟩ := respelled
  obtain ⟨hlexed, hp⟩ := consumed_spells (Program.parse_eq_ok_iff.mp h)
  obtain ⟨vs, hvs, like⟩ := hlexed.respelled rfl hws .first rfl
  obtain ⟨q, hlike, hq⟩ := hp.like (like_significant like)
  refine ⟨q, Program.parse_eq_ok_iff.mpr ?_, hlike, ?_⟩
  · rw [hs']
    exact parse_eq_program_iff.mpr ⟨vs, hvs, hq⟩
  · intro σ t timer vars vars' fuel scene same
    have tracks : Tracks Akin (p.run t.screened.observed timer vars fuel)
        (Program.run t.screened.observed timer vars' fuel q) :=
      Program.run_tracks t timer fuel fits_letters hlike (same.extend_eq [])
    obtain ⟨⟨a, b, ha, hb, hdeeds, -⟩, hstate, tally⟩ := @tracks ⟨scene, []⟩ ⟨scene, []⟩ rfl
    refine ⟨?_, tally, hstate⟩
    show issued (Program.run t.screened.observed timer vars' fuel q ⟨scene, []⟩).2.journal =
      issued (p.run t.screened.observed timer vars fuel ⟨scene, []⟩).2.journal
    rw [ha, hb, List.append_nil, List.append_nil, hdeeds]

/-- A long keyword for a short one in front of a name that is spelled like it, with no space
between, a comment, and a variable that is unknown in the third line. -/
theorem respelled_program_runs_alike_glued :
    let s := "REPEAT n[fdFd\nrem Hi!\nbkX]\n"
    let s' := "repeat N[ForwardfD\nREM hI!\nBACKWARDx]\n"
    let one := fun name => Expr.chain .comparison (.chain .sum (.chain .product
      (.factor (.ident name)) .nil) .nil) .nil
    let p : Program := [.loop (one "n") [.order .forward (one "Fd") (some 1),
      .comment "rem Hi!" (some 2), .order .backward (one "X") (some 3)] (some 1)]
    let vars := [("n", Given.quantity (.whole 2)), ("FD", .quantity (.truth true))]
    let vars' := [("N", Given.quantity (.whole 2)), ("fd", .quantity (.truth true))]
    let scene : Scene Pose := ⟨Pose.home, []⟩
    Program.parse s = .ok p ∧ Respelling s s' ∧ SameVariables vars vars' ∧
      (kinematic.trial .clock vars 3 p scene).result =
        .error (.error ⟨.unknownVariable "X", some 3⟩) ∧
      ∃ q, Program.parse s' = .ok q ∧ LikeCommands SameLetters Eq p q ∧
        (kinematic.trial .clock vars' 3 q scene).done =
          (kinematic.trial .clock vars 3 p scene).done ∧
        Tallies Akin (kinematic.trial .clock vars 3 p scene).result
          (kinematic.trial .clock vars' 3 q scene).result := by
  intro s s' one p vars vars' scene
  have parsed : Program.parse "REPEAT n[fdFd\nrem Hi!\nbkX]\n" = .ok p := rfl
  have respelled : Respelling "REPEAT n[fdFd\nrem Hi!\nbkX]\n"
      "repeat N[ForwardfD\nREM hI!\nBACKWARDx]\n" := by
    refine ⟨[(.keyword .loop, "repeat".toList), (.blank, [' ']), (.atom .ident, ['N']),
      bracketWord .lsqb, (.keyword (.order .forward false), "Forward".toList),
      (.atom .ident, ['f', 'D']), breakWord, (.comment, "REM hI!".toList), breakWord,
      (.keyword (.order .backward false), "BACKWARD".toList), (.atom .ident, ['x']),
      bracketWord .rsqb, breakWord], ?_, rfl⟩
    show List.Forall₂ Respells [(.keyword .loop, "REPEAT".toList), (.blank, [' ']),
      (.atom .ident, ['n']), bracketWord .lsqb, (.keyword (.order .forward true), ['f', 'd']),
      (.atom .ident, ['F', 'd']), breakWord, (.comment, "rem Hi!".toList), breakWord,
      (.keyword (.order .backward true), ['b', 'k']), (.atom .ident, ['X']), bracketWord .rsqb,
      breakWord] _
    exact .cons (.keyword rfl (by decide)) (.cons (.same _) (.cons (.ident (by decide))
      (.cons (.same _) (.cons (.keyword rfl (by decide)) (.cons (.ident (by decide))
      (.cons (.same _) (.cons (.comment (by decide)) (.cons (.same _)
      (.cons (.keyword rfl (by decide)) (.cons (.ident (by decide))
      (.cons (.same _) (.cons (.same _) .nil))))))))))))
  have same : SameVariables vars vars' :=
    .cons ⟨by decide, rfl⟩ (.cons ⟨by decide, rfl⟩ .nil)
  obtain ⟨q, hq, like, alike⟩ := respelled_program_runs_alike parsed respelled
  have runs := alike kinematic .clock 3 scene same
  exact ⟨parsed, respelled, same, rfl, q, hq, like, runs.1, runs.2.1⟩

end TurtleLogo
