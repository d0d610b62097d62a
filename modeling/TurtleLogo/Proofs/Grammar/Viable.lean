/-
# `TurtleLogo.Proofs.Grammar.Viable` — what has been read can always be read on

Errors are reported at the first place where they can be: whatever stands before
it can be continued to a program.  The continuation completes the rules that are
under way, one after the other.  `State.plan` says for each state with which rule
that is done, `State.lacking` what of the rule is missing, and `Symbol.sample`
gives words for it.  Each step lowers the stack, and in the end a whole program
is left on it (`Ready.completes`).

The words have to be read again as such.  Behind a line end no line end may
come, and behind a comment nothing else, which is why it matters in which states
these can be: `State.afterBreak` and `State.beforeBreak`.
-/
import Mathlib.Data.List.Induction
import TurtleLogo.Program.Parse
import TurtleLogo.Proofs.Grammar.Layout
import TurtleLogo.Proofs.Grammar.Sentence

namespace TurtleLogo.Grammar

/-! ## How each state goes on

For every state one rule is chosen of those under way in it, and with it what is
missing.  That the choice can be followed from edge to edge is decided on the
table. -/

/-- The rule with which a state is completed. -/
def State.plan : State → Rule
  | .start | .accepted => .program false false
  | .opened => .program true false
  | .listed lead => .program lead true
  | .commanded more | .ended more => .lines more
  | .keyword (.order what short) | .ordered what short => .order what short
  | .keyword (.pen up short) => .pen up short
  | .keyword .stop => .stop
  | .keyword .loop | .counted => .loop false
  | .bracket lead | .body lead | .bracketed lead => .loop lead
  | .comment => .comment
  | .kind k => .command k
  | .atom a => .atom a
  | .paren | .grouped | .closed => .group
  | .left l => .chain l false
  | .links l => .chain l true
  | .operator l more | .linked l more => .link l more
  | .sign s => .comparator (s.alone?.getD .ne)
  | .signs s => .comparator (s.withEq?.getD .ne)
  | .based => .factor
  | .caret | .raised => .power
  | .inner more | .innerEnded more => .body more true

/-- What is missing of the rule with which a state is completed. -/
def State.lacking (s : State) : List Symbol :=
  s.plan.rhs.drop (s.main.elim 0 fun k => k.read.length)

theorem main_eq_none {s : State} (h : s.main = none) : s = .accepted := by
  cases s with
  | accepted => rfl
  | _ => cases h

def State.afterBreak : State → Bool
  | .opened | .listed _ | .ended _ | .bracket _ | .body _ | .innerEnded _ | .accepted => true
  | _ => false

def State.beforeBreak : State → Bool
  | .comment | .kind _ | .commanded _ | .inner _ => true
  | _ => false

/-- What is decided edge by edge: the main rule of a state that an edge leads to is completed as
planned, and the state knows of a line end or a comment on the edge. -/
theorem plan_table {b s : State} {X : Symbol} (h : b.next X = some s) :
    (∀ k ∈ s.main, s.plan.whole = ⟨k.aim, k.read ++ s.lacking⟩) ∧
      (X = .terminal .newline → s.afterBreak = true) ∧
      (X = .terminal .comment → s.beforeBreak = true) := by
  have table : ∀ b ∈ State.all, ∀ X ∈ Symbol.all, ∀ s ∈ b.next X,
      (∀ k ∈ s.main, s.plan.whole = ⟨k.aim, k.read ++ s.lacking⟩) ∧
      (X = .terminal .newline → s.afterBreak = true) ∧
      (X = .terminal .comment → s.beforeBreak = true) := by decide +kernel
  exact table b b.mem_all X X.mem_all s h

theorem plan_whole {b s : State} {X : Symbol} {k : Pending} (h : b.next X = some s)
    (hk : s.main = some k) : s.plan.whole = ⟨k.aim, k.read ++ s.lacking⟩ :=
  (plan_table h).1 k hk

theorem afterBreak_of_newline {b s : State} (h : b.next (.terminal .newline) = some s) :
    s.afterBreak = true :=
  (plan_table h).2.1 rfl

theorem beforeBreak_of_comment {b s : State} (h : b.next (.terminal .comment) = some s) :
    s.beforeBreak = true :=
  (plan_table h).2.2 rfl

/-! ## Words for what is missing

There are words for each symbol that can be missing: `a` for an operand, `STOP`
for a body, and marks and line ends as they are.  Written one after the other they
are legible behind whatever was read last. -/

/-- The symbols for which there are words to go on with. -/
def Symbol.sampled : Symbol → Bool
  | .terminal .newline | .terminal (.bracket _) | .terminal (.sign _) | .nonterminal .body
  | .nonterminal (.chain _) | .nonterminal .factor | .nonterminal .value => true
  | _ => false

/-- Words that spell a symbol. -/
def Symbol.sample : Symbol → List Word
  | .terminal .newline => [breakWord]
  | .terminal (.bracket b) => [bracketWord b]
  | .terminal (.sign s) => [signWord s]
  | .nonterminal .body => [(.keyword .stop, Keyword.stop.spelling.toList)]
  | .nonterminal _ => [(.atom .ident, ['a'])]
  | .terminal _ => []

theorem lexeme_stop : (Terminal.keyword .stop).Lexeme Keyword.stop.spelling.toList := by
  show Worded _ _
  exact .cons rfl (.cons rfl (.cons rfl (.cons rfl .nil)))

theorem lexeme_name : (Terminal.atom .ident).Lexeme ['a'] :=
  ⟨'a', [], rfl, rfl, fun _ hx => nomatch hx⟩

theorem Symbol.sample_plain {X : Symbol} (h : X.sampled = true)
    (hbreak : X ≠ .terminal .newline) : ∀ w ∈ X.sample, Plain w := by
  match X, h with
  | .terminal .newline, _ => exact absurd rfl hbreak
  | .terminal (.bracket b), _ => exact List.forall_mem_singleton.mpr (plain_bracket b)
  | .terminal (.sign s), _ => exact List.forall_mem_singleton.mpr (plain_sign s)
  | .nonterminal .body, _ =>
      exact List.forall_mem_singleton.mpr ⟨lexeme_stop, nofun, nofun, nofun⟩
  | .nonterminal (.chain _), _ => exact List.forall_mem_singleton.mpr (plain_atom lexeme_name)
  | .nonterminal .factor, _ => exact List.forall_mem_singleton.mpr (plain_atom lexeme_name)
  | .nonterminal .value, _ => exact List.forall_mem_singleton.mpr (plain_atom lexeme_name)

theorem Symbol.sample_ne_nil {X : Symbol} (h : X.sampled = true) : X.sample ≠ [] := by
  match X, h with
  | .terminal .newline, _ | .terminal (.bracket _), _ | .terminal (.sign _), _
  | .nonterminal .body, _ | .nonterminal (.chain _), _ | .nonterminal .factor, _
  | .nonterminal .value, _ => exact List.cons_ne_nil _ _

theorem Symbol.sample_stands {X : Symbol} (h : X.sampled = true) {ts : List Token}
    (hts : ts.map Token.word = X.sample) : ∃ item, Stands X item ts := by
  have hname : ts.map Token.word = [(.atom .ident, ['a'])] → ∃ e, Spells .value e ts := by
    intro hts
    obtain ⟨t, rfl, ht, -⟩ := is_of_words hts lexeme_name
    exact ⟨_, .ident ht⟩
  match X, h with
  | .terminal .newline, _ =>
      obtain ⟨t, rfl, ht, -⟩ := is_of_words hts lexeme_break
      exact ⟨.token t, t, rfl, rfl, ht⟩
  | .terminal (.bracket b), _ =>
      obtain ⟨t, rfl, ht, -⟩ := is_of_words hts (lexeme_bracket b)
      exact ⟨.token t, t, rfl, rfl, ht⟩
  | .terminal (.sign s), _ =>
      obtain ⟨t, rfl, ht, -⟩ := is_of_words hts (lexeme_sign s)
      exact ⟨.token t, t, rfl, rfl, ht⟩
  | .nonterminal .body, _ =>
      obtain ⟨t, rfl, ht, -⟩ := is_of_words hts lexeme_stop
      exact ⟨_, _, rfl, .cons (.stop ht) .none .nil, List.cons_ne_nil _ _⟩
  | .nonterminal (.chain l), _ =>
      obtain ⟨e, he⟩ := hname hts
      cases l with
      | product => exact ⟨_, _, rfl, he.climb 2⟩
      | sum => exact ⟨_, _, rfl, he.climb 3⟩
      | comparison => exact ⟨_, _, rfl, he.climb 4⟩
  | .nonterminal .factor, _ =>
      obtain ⟨e, he⟩ := hname hts
      exact ⟨_, _, rfl, he.climb 1⟩
  | .nonterminal .value, _ =>
      obtain ⟨e, he⟩ := hname hts
      exact ⟨_, e, rfl, he⟩

theorem sample_standAll : ∀ {Xs : List Symbol}, (∀ X ∈ Xs, X.sampled = true) →
    ∀ {ts : List Token}, ts.map Token.word = Xs.flatMap Symbol.sample →
      ∃ items, StandAll Xs items ts
  | [], _, ts, hts => by
      obtain rfl := List.map_eq_nil_iff.mp hts
      exact ⟨[], rfl, rfl⟩
  | X :: Xs, h, ts, hts => by
      obtain ⟨us, vs, rfl, hus, hvs⟩ := List.map_eq_append_iff.mp hts
      obtain ⟨item, hitem⟩ := Symbol.sample_stands (h X List.mem_cons_self) hus
      obtain ⟨items, hitems⟩ := sample_standAll (fun Y hY => h Y (List.mem_cons_of_mem X hY)) hvs
      exact ⟨item :: items, item, items, us, vs, rfl, rfl, hitem, hitems⟩

/-! ### What is missing in each state -/

/-- What is decided state by state of the missing symbols: there are words for them, a line end
is missing alone, it never is behind another one, and nothing else is where it comes next. -/
theorem lacking_table (s : State) :
    (∀ X ∈ s.lacking, X.sampled = true) ∧
      (.terminal .newline ∈ s.lacking → s.lacking = [.terminal .newline]) ∧
      (s.afterBreak = true → s.lacking ≠ [.terminal .newline]) ∧
      (s.beforeBreak = true → s.lacking = [] ∨ s.lacking = [.terminal .newline]) := by
  have table : ∀ s ∈ State.all, (∀ X ∈ s.lacking, X.sampled = true) ∧
      (.terminal .newline ∈ s.lacking → s.lacking = [.terminal .newline]) ∧
      (s.afterBreak = true → s.lacking ≠ [.terminal .newline]) ∧
      (s.beforeBreak = true → s.lacking = [] ∨ s.lacking = [.terminal .newline]) := by
    decide +kernel
  exact table s s.mem_all

theorem lacking_sampled {s : State} : ∀ X ∈ s.lacking, X.sampled = true :=
  (lacking_table s).1

theorem lacking_break {s : State} (h : .terminal .newline ∈ s.lacking) :
    s.lacking = [.terminal .newline] :=
  (lacking_table s).2.1 h

theorem lacking_afterBreak {s : State} (h : s.afterBreak = true) :
    s.lacking ≠ [.terminal .newline] :=
  (lacking_table s).2.2.1 h

theorem lacking_beforeBreak {s : State} (h : s.beforeBreak = true) :
    s.lacking = [] ∨ s.lacking = [.terminal .newline] :=
  (lacking_table s).2.2.2 h

/-- Where a completed rule leads, when nothing or a line end was missing of it. -/
theorem goto_break {s b s' : State} {k : Pending} (hk : s.main = some k)
    (hs : goto b k.aim = some s') :
    (s.lacking = [] → s.afterBreak = true → s'.afterBreak = true) ∧
      (s.lacking = [] → s.beforeBreak = true → s'.beforeBreak = true) ∧
      (s.lacking = [.terminal .newline] → s'.afterBreak = true) := by
  have table : ∀ s ∈ State.all, ∀ k ∈ s.main, ∀ b ∈ State.all, ∀ s' ∈ goto b k.aim,
      (s.lacking = [] → s.afterBreak = true → s'.afterBreak = true) ∧
      (s.lacking = [] → s.beforeBreak = true → s'.beforeBreak = true) ∧
      (s.lacking = [.terminal .newline] → s'.afterBreak = true) := by decide +kernel
  exact table s s.mem_all k hk b b.mem_all s' hs

def State.lackingWords (s : State) : List Word :=
  s.lacking.flatMap Symbol.sample

theorem lackingWords_plain {s : State} (h : s.lacking ≠ [.terminal .newline]) :
    ∀ w ∈ s.lackingWords, Plain w := by
  intro w hw
  obtain ⟨X, hX, hw⟩ := List.mem_flatMap.mp hw
  exact Symbol.sample_plain (lacking_sampled X hX) (fun hbreak => h (lacking_break (hbreak ▸ hX)))
    w hw

theorem lackingWords_break {s : State} (h : s.lacking = [.terminal .newline]) :
    s.lackingWords = [breakWord] := by
  rw [State.lackingWords, h]
  rfl

theorem lackingWords_legible (s : State) : Legible s.lackingWords := by
  by_cases h : s.lacking = [.terminal .newline]
  · rw [lackingWords_break h]
    exact legible_break
  · exact (orderly_of_plain (lackingWords_plain h)).toLegible

theorem lackingWords_ne_nil {s : State} (h : s.lacking ≠ []) : s.lackingWords ≠ [] := by
  obtain ⟨X, hX⟩ := List.exists_mem_of_ne_nil _ h
  intro hnil
  exact Symbol.sample_ne_nil (lacking_sampled X hX) (List.flatMap_eq_nil_iff.mp hnil X hX)

/-! ## Reading on

The stack gets lower with each rule that is completed in this way, until there is
a whole program on it.  The invariant is that the whole text up to here has been
read and that words can be added behind it. -/

/-- `Ready cs us σ`: the whole text `cs` has been read as `us`, and what follows can be written
behind the last token. -/
structure Ready (cs : List Char) (us : List Token) (σ : Stack) : Prop where
  lexed : Lexed .first cs us []
  spelled : Spelled σ (significant us)
  after : ∀ t ∈ us.getLast?, t.terminal = .newline → (Stack.top σ).afterBreak = true
  before : ∀ t ∈ us.getLast?, t.terminal = .comment → (Stack.top σ).beforeBreak = true

theorem Spelled.plan_whole {σ : Stack} {ts : List Token} {k : Pending} (h : Spelled σ ts)
    (hk : (Stack.top σ).main = some k) :
    (Stack.top σ).plan.whole = ⟨k.aim, k.read ++ (Stack.top σ).lacking⟩ := by
  cases h with
  | nil =>
      cases hk
      rfl
  | push _ hedge _ => exact Grammar.plan_whole hedge hk

/-- The last token behind some words is one of them, unless it is blank. -/
theorem last_word {us vs : List Token} {ws : List Word} {t : Token}
    (hvs : (significant vs).map Token.word = ws) (hws : ws ≠ []) (ht : t ∈ (us ++ vs).getLast?)
    (hblank : t.terminal ≠ .blank) : t.word ∈ ws := by
  have hne : vs ≠ [] := by
    rintro rfl
    exact hws hvs.symm
  rw [List.getLast?_append_of_ne_nil us hne] at ht
  have hmem : t ∈ significant vs :=
    List.mem_filter.mpr ⟨List.mem_of_getLast? ht, by simpa using hblank⟩
  exact hvs ▸ List.mem_map_of_mem hmem

/-- The rule under way on top of the stack is completed by writing what is missing of it. -/
theorem Ready.step {cs : List Char} {us : List Token} {σ : Stack} (h : Ready cs us σ)
    (htop : Stack.top σ ≠ .accepted) :
    ∃ new vs τ, Ready (cs ++ new) (us ++ vs) τ ∧ Stack.height τ < Stack.height σ := by
  obtain ⟨k, hk⟩ := Option.ne_none_iff_exists'.mp fun hnone => htop (main_eq_none hnone)
  have hwhole := h.spelled.plan_whole hk
  by_cases hlacking : (Stack.top σ).lacking = []
  · -- nothing is missing: the text stays as it is
    rw [hlacking] at hwhole
    obtain ⟨parts, rest, item, s, -, -, -, hs, hspelled, hheight⟩ :=
      h.spelled.fill hk hwhole ⟨rfl, rfl⟩
    obtain ⟨hafter, hbefore, -⟩ := goto_break hk hs
    refine ⟨[], [], _, ⟨?_, ?_, ?_, ?_⟩, hheight⟩
    · rw [List.append_nil, List.append_nil]
      exact h.lexed
    · rw [List.append_nil] at hspelled ⊢
      exact hspelled
    · rw [List.append_nil]
      exact fun t ht hnewline => hafter hlacking (h.after t ht hnewline)
    · rw [List.append_nil]
      exact fun t ht hcomment => hbefore hlacking (h.before t ht hcomment)
  · -- what is missing is written behind the text
    have hne := lackingWords_ne_nil hlacking
    obtain ⟨w, ws, hcons⟩ := List.exists_cons_of_ne_nil hne
    have hlegible := lackingWords_legible (Stack.top σ)
    rw [hcons] at hlegible
    have hw : w ∈ (Stack.top σ).lackingWords := hcons ▸ List.mem_cons_self
    obtain ⟨new, vs, hlexed, hwords⟩ := h.lexed.extend hlegible
      (fun t ht hnewline =>
        (lackingWords_plain (lacking_afterBreak (h.after t ht hnewline)) w hw).unbroken)
      (fun t ht hcomment => by
        have hbreak := (lacking_beforeBreak (h.before t ht hcomment)).resolve_left hlacking
        rw [lackingWords_break hbreak] at hw
        rw [List.mem_singleton.mp hw]
        rfl)
    rw [← hcons] at hwords
    obtain ⟨items, hitems⟩ := sample_standAll lacking_sampled hwords
    obtain ⟨parts, rest, item, s, -, -, -, hs, hspelled, hheight⟩ :=
      h.spelled.fill hk hwhole hitems
    refine ⟨new, vs, _, ⟨hlexed, ?_, ?_, ?_⟩, hheight⟩
    · rw [significant, List.filter_append]
      exact hspelled
    · intro t ht hnewline
      by_cases hbreak : (Stack.top σ).lacking = [.terminal .newline]
      · exact (goto_break hk hs).2.2 hbreak
      · have hword := last_word hwords hne ht (by rw [hnewline]; decide)
        exact absurd hnewline (lackingWords_plain hbreak _ hword).unbroken
    · intro t ht hcomment
      have hword := last_word hwords hne ht (by rw [hcomment]; decide)
      by_cases hbreak : (Stack.top σ).lacking = [.terminal .newline]
      · rw [lackingWords_break hbreak, List.mem_singleton] at hword
        rw [show t.terminal = .newline from congrArg Prod.fst hword] at hcomment
        cases hcomment
      · exact absurd hcomment (lackingWords_plain hbreak _ hword).remarkless

/-- What has been read can be continued to a program. -/
theorem Ready.completes {cs : List Char} {us : List Token} {σ : Stack} (h : Ready cs us σ) :
    ∃ new p, parse (cs ++ new) = .program p := by
  induction hn : Stack.height σ using Nat.strongRecOn generalizing cs us σ with
  | ind n ih =>
      by_cases htop : Stack.top σ = .accepted
      · obtain ⟨p, -, hp⟩ := h.spelled.accepted htop
        refine ⟨[], p, parse_eq_program_iff.mpr ⟨us, ?_, hp⟩⟩
        rw [List.append_nil]
        exact h.lexed
      · obtain ⟨new, vs, τ, hready, hlt⟩ := h.step htop
        obtain ⟨more, p, hp⟩ := ih (Stack.height τ) (hn ▸ hlt) hready rfl
        exact ⟨new ++ more, p, by rw [← List.append_assoc, hp]⟩

/-! ## Where the first error is

An error is met in front of a token that the state does not accept, or in front of
characters of which it can scan nothing.  Rules that were completed in vain do not
matter: what is read on is the stack behind the last token that was taken. -/

theorem Stands.of_token {X : Symbol} {t : Token} {ts : List Token} (h : Stands X (.token t) ts) :
    ∃ x, X = .terminal x ∧ ts = [t] ∧ t.terminal = x := by
  cases X with
  | terminal x =>
      obtain ⟨u, hu, rfl, hx⟩ := h
      obtain rfl := Item.token.inj hu
      exact ⟨x, rfl, rfl, hx.1⟩
  | nonterminal n =>
      cases n <;> obtain ⟨_, hitem, _⟩ := h <;> cases hitem

theorem getLast?_significant {us : List Token} {t : Token} (ht : t ∈ us.getLast?)
    (hblank : t.terminal ≠ .blank) : (significant us).getLast? = some t := by
  obtain ⟨init, rfl⟩ := List.getLast?_eq_some_iff.mp ht
  have hlast : significant [t] = [t] := significant_cons [] hblank
  rw [significant, List.filter_append, ← significant, ← significant, hlast, List.getLast?_concat]

/-- The topmost state of a fresh stack was reached by its last token. -/
theorem Spelled.edge_of_fresh {σ : Stack} {ts : List Token} {t : Token} (h : Spelled σ ts)
    (hfresh : Stack.Fresh σ) (ht : ts.getLast? = some t) :
    ∃ b : State, b.next (.terminal t.terminal) = some (Stack.top σ) := by
  cases h with
  | nil => cases ht
  | @push σ ts us s X item _ hedge hitem =>
      obtain ⟨u, rfl⟩ : ∃ u, item = .token u := hfresh (s, item) rfl
      obtain ⟨x, rfl, rfl, rfl⟩ := hitem.of_token
      rw [List.getLast?_concat, Option.some.injEq] at ht
      exact ⟨Stack.top σ, ht ▸ hedge⟩

/-- What has been read before an error is ready to be read on, without what stood behind it. -/
theorem ready_of_fresh {cs rest : List Char} {us : List Token} {σ : Stack}
    (hlexed : Lexed .first cs us rest) (hσ : Spelled σ (significant us)) (hfresh : Stack.Fresh σ) :
    Ready (spelling us) us σ := by
  have hcut : Lexed .first (spelling us ++ []) us [] := hlexed.swap fun _ _ => stops_nil _
  rw [List.append_nil] at hcut
  have hlast : ∀ t ∈ us.getLast?, t.terminal ≠ .blank →
      ∃ b : State, b.next (.terminal t.terminal) = some (Stack.top σ) := fun t ht hblank =>
    hσ.edge_of_fresh hfresh (getLast?_significant ht hblank)
  refine ⟨hcut, hσ, ?_, ?_⟩
  · intro t ht hnewline
    obtain ⟨b, hb⟩ := hlast t ht (by rw [hnewline]; decide)
    exact afterBreak_of_newline (hnewline ▸ hb)
  · intro t ht hcomment
    obtain ⟨b, hb⟩ := hlast t ht (by rw [hcomment]; decide)
    exact beforeBreak_of_comment (hcomment ▸ hb)

theorem Position.first_after_concat (cs : List Char) (c : Char) :
    Position.first.after (cs ++ [c]) = (Position.first.after cs).step c :=
  Position.after_append _ _ _

/-- The place behind a text: its length, its line feeds, and what stands behind the last one. -/
theorem Position.first_after (cs : List Char) :
    Position.first.after cs =
      ⟨cs.length, 1 + cs.count '\n', 1 + (afterLastNewline cs).length⟩ := by
  induction cs using List.reverseRecOn with
  | nil => rfl
  | append_singleton cs c ih =>
      rw [Position.first_after_concat, ih, Position.step]
      by_cases hc : c = '\n'
      · simp [hc, afterLastNewline, List.count_append, Nat.add_assoc]
      · simp [hc, afterLastNewline, List.count_append, Nat.add_assoc]

/-- Parsing ends with a program or a complaint.  A complaint about anything but the end of the
text stands in front of what could not be read, and what stands before it can be continued to a
program. -/
theorem parse_complains {cs : List Char} (h : ∀ p, parse cs ≠ .program p) :
    ∃ c, parse cs = .complaint c ∧ ∃ before behind new p, cs = before ++ behind ∧
      parse (before ++ new) = .program p ∧
      (c.what = .endOfText → behind = []) ∧
      (c.what ≠ .endOfText → behind ≠ [] ∧ c.place = Position.first.after before) := by
  obtain ⟨behind, σ, hlexed, hσ, hfresh, hend⟩ := parse_reads cs
  obtain ⟨new, p, hp⟩ := (ready_of_fresh hlexed hσ hfresh).completes
  have hcs := hlexed.spelling_append
  generalize hparse : parse cs = outcome at h hend
  cases hend with
  | @program q _ => exact absurd rfl (h q)
  | unfinished =>
      exact ⟨_, rfl, _, _, new, p, hcs, hp, fun _ => rfl, fun hne => absurd rfl hne⟩
  | surprise hwhat hplace hbehind =>
      exact ⟨_, rfl, _, _, new, p, hcs, hp, fun heq => absurd heq hwhat, fun _ =>
        ⟨hbehind, hplace⟩⟩

end TurtleLogo.Grammar

namespace TurtleLogo

open Grammar

/-- A text that is no program is answered with one error.  If the text only ends too early, it can
be continued to a program.  Otherwise the error's line and column are those of its place, and what
stands before the place can be continued to a program, so that no error is reported late. -/
theorem error_at_first_misfit {source : String} (h : ∀ p, Program.parse source ≠ .ok p) :
    ∃ c : Complaint, Grammar.parse source.toList = .complaint c ∧
      Program.parse source = .error (.error (c.toError source.toList)) ∧
      (c.what = .endOfText → ∃ rest p, Program.parse (source ++ rest) = .ok p) ∧
      (c.what ≠ .endOfText → ∃ before behind : List Char, source.toList = before ++ behind ∧
        behind ≠ [] ∧ c.place.offset = before.length ∧
        (c.toError source.toList).line = some (1 + (before.count '\n' : Int)) ∧
        (c.toError source.toList).cause =
          .parse c.what (some (1 + ((afterLastNewline before).length : Int)))
            (contextAt source.toList before.length) ∧
        ∃ rest p, Program.parse (String.ofList before ++ rest) = .ok p) := by
  obtain ⟨c, hc, before, behind, new, p, hsource, hp, hend, hplace⟩ :=
    parse_complains fun p hp => h p (Program.parse_eq_ok_iff.mpr hp)
  have hparse : Program.parse source = .error (.error (c.toError source.toList)) := by
    simp only [Program.parse, hc]
  refine ⟨c, hc, hparse, ?_, ?_⟩
  · intro hwhat
    rw [hend hwhat, List.append_nil] at hsource
    refine ⟨String.ofList new, p, Program.parse_eq_ok_iff.mpr ?_⟩
    rw [String.toList_append, String.toList_ofList, hsource, hp]
  · intro hwhat
    obtain ⟨hbehind, hplace⟩ := hplace hwhat
    rw [Position.first_after] at hplace
    refine ⟨before, behind, hsource, hbehind, by rw [hplace], ?_, ?_, String.ofList new, p, ?_⟩
    · simp [Complaint.toError, hplace]
    · simp [Complaint.toError, hplace]
    · refine Program.parse_eq_ok_iff.mpr ?_
      rw [String.toList_append, String.toList_ofList, String.toList_ofList, hp]

/-- The sign in the second line is the first thing that does not fit. -/
theorem error_at_first_misfit_sign : (∀ p, Program.parse "pu\n fd <\n" ≠ .ok p) ∧
    ∃ c : Complaint, Grammar.parse "pu\n fd <\n".toList = .complaint c ∧ c.place = ⟨7, 2, 5⟩ ∧
      ∃ rest p, Program.parse ("pu\n fd " ++ rest) = .ok p := by
  have hparse : Grammar.parse "pu\n fd <\n".toList = .complaint
      ⟨.token "LESS" "<" ["ESCAPED_STRING", "IDENT", "LPAR", "NUMBER"], ⟨7, 2, 5⟩⟩ := rfl
  have hno : ∀ p, Program.parse "pu\n fd <\n" ≠ .ok p := fun p hp => by
    rw [Program.parse_eq_ok_iff, hparse] at hp
    cases hp
  refine ⟨hno, _, hparse, rfl, ?_⟩
  obtain ⟨c, hc, -, -, hmisfit⟩ := error_at_first_misfit hno
  obtain rfl := Outcome.complaint.inj (hparse.symm.trans hc)
  obtain ⟨before, behind, hsource, -, hoffset, -, -, rest, p, hp⟩ := hmisfit nofun
  have hbefore : before = "pu\n fd ".toList := by
    have htake : (before ++ behind).take before.length = before := List.take_left
    rw [← hsource, ← hoffset] at htake
    exact htake.symm
  exact ⟨rest, p, by rw [hbefore, String.ofList_toList] at hp; exact hp⟩

end TurtleLogo
