/-
# `TurtleLogo.Proofs.Program.Evaluation` — evaluating what programs contain

Evaluation answers more trees than programs contain, and some of them with a
defect: a chain with an operator of another level, a power of a chain, a
whole number beyond the reals.  The trees that the parser builds stand on the
ladder, and the numbers that come into a run are reals.  Then every step has a
value with a real number, or an error that is told:

    Settles P r    the result `r` is in `P`, or a reported error
    OnLadder.eval_settles
                   the value of a tree on the ladder, among real variables
    Spells.onLadder, SpellsProgram.grammatical
                   what tokens spell is on the ladder
-/
import TurtleLogo.Program.Evaluate
import TurtleLogo.Proofs.Action
import TurtleLogo.Proofs.Grammar.Phrase
import TurtleLogo.Proofs.Quantity

namespace TurtleLogo

variable {α : Type}

/-- `Settles P r`: the result `r` is in `P`, or a reported error. -/
def Settles (P : α → Prop) (r : Reply α) : Prop :=
  (∃ a, r = .ok a ∧ P a) ∨ ∃ e, r = .error (.error e)

theorem settles_ok {P : α → Prop} {a : α} (h : P a) : Settles P (.ok a) :=
  .inl ⟨a, rfl, h⟩

theorem settles_error {P : α → Prop} (e : LogoError) : Settles P (.error (.error e)) :=
  .inr ⟨e, rfl⟩

theorem Settles.of_error {P : α → Prop} {r : Reply α} (h : Settles P r) {f : Failure}
    (hf : r = .error f) : f.IsReported := by
  subst hf
  rcases h with ⟨a, ha, -⟩ | ⟨e, he⟩
  · exact nomatch ha
  · exact ⟨e, Except.error.inj he⟩

theorem Settles.of_ok {P : α → Prop} {r : Reply α} (h : Settles P r) {a : α} (ha : r = .ok a) :
    P a := by
  subst ha
  rcases h with ⟨b, hb, hP⟩ | ⟨e, he⟩
  · cases hb
    exact hP
  · exact nomatch he

/-! ## Real values

Whatever is handed in is real, or cannot be used, and then that is told. -/

/-- Values whose number, if they are one, is a real. -/
def Scalar.IsReal : Scalar → Prop
  | .number q => q.IsReal
  | _ => True

/-- Environments that bind real values only. -/
def Environment.IsReal (env : Environment) : Prop :=
  ∀ name v, Bindings.get? name env = some v → v.IsReal

/-- What may be handed in: numbers within the reals, texts, wrapped values that are real, and
whatever cannot be used anyway. -/
def Given.IsUsual : Given → Prop
  | .quantity q => q.InReals
  | .scalar v => v.IsReal
  | _ => True

theorem Given.IsUsual.wrap {g : Given} (h : g.IsUsual) : Settles Scalar.IsReal g.wrap := by
  have number : ∀ {q : Quantity}, q.InReals → Settles Scalar.IsReal
      ((calculated q.toFloat).map fun x => Scalar.number (.real x)) := by
    rintro q ⟨x, hx⟩
    rw [hx]
    exact settles_ok (Quantity.isReal_real x)
  cases g with
  | quantity q =>
      cases q with
      | whole n => exact number h
      | real x => exact number h
      | truth b => exact settles_ok trivial
  | text s => exact settles_ok trivial
  | scalar v => exact settles_ok h
  | nothing => exact settles_error _
  | list items => exact settles_error _
  | table keys values => exact settles_error _

theorem Environment.IsReal.bind {env : Environment} (h : env.IsReal) (name : String) {v : Scalar}
    (hv : v.IsReal) : Environment.IsReal (Bindings.bind name v env) := by
  intro other w hw
  by_cases ho : other = name
  · subst ho
    rw [Bindings.get?_bind_self] at hw
    cases hw
    exact hv
  · rw [Bindings.get?_bind_ne v env ho] at hw
    exact h other w hw

theorem Environment.extend_settles : ∀ {vars : List (String × Given)} {env : Environment},
    env.IsReal → (∀ v ∈ vars, v.2.IsUsual) →
      Settles Environment.IsReal (Environment.extend env vars)
  | [], _, henv, _ => settles_ok henv
  | (name, given) :: rest, env, henv, hvars => by
      obtain ⟨hgiven, hrest⟩ := List.forall_mem_cons.mp hvars
      rw [Environment.extend]
      rcases Given.IsUsual.wrap hgiven with ⟨v, hv, hreal⟩ | ⟨e, he⟩
      · rw [hv]
        exact Environment.extend_settles (henv.bind _ hreal) hrest
      · rw [he]
        exact settles_error e

theorem Environment.ofGiven_settles {vars : List (String × Given)} (h : ∀ v ∈ vars, v.2.IsUsual) :
    Settles Environment.IsReal (Environment.ofGiven vars) :=
  Environment.extend_settles (fun _ _ hv => nomatch hv) h

/-! ## Operators

Every operator of arithmetic has a result on reals, if need be an infinity or the
undefined number.  So what can go wrong is the kind of an operand, and that is
told. -/

theorem bothNumbers_settles (symbol : String) {a b : Scalar} (ha : a.IsReal) (hb : b.IsReal) :
    Settles (fun p => p.1.IsReal ∧ p.2.IsReal) (bothNumbers symbol a b) := by
  cases a with
  | number p =>
      cases b with
      | number q => exact settles_ok ⟨ha, hb⟩
      | string s => exact settles_error _
      | boolean c => exact settles_error _
  | string s => exact settles_error _
  | boolean c => exact settles_error _

theorem Scalar.power_settles {a b : Scalar} (ha : a.IsReal) (hb : b.IsReal) :
    Settles Scalar.IsReal (a.power b) := by
  rw [Scalar.power]
  rcases bothNumbers_settles "^" ha hb with ⟨⟨_, _⟩, hp, ⟨x, rfl⟩, y, rfl⟩ | ⟨e, he⟩
  · rw [hp]
    exact settles_ok (Quantity.isReal_real (Float.pow x y))
  · rw [he]
    exact settles_error e

theorem Operator.arithmetic_isReal {op : Operator} {l : Level} (hl : op.level? = some l)
    (hne : l ≠ .comparison) : ∃ f, op.arithmetic? = some f ∧
      ∀ {a b : Quantity}, a.IsReal → b.IsReal → ∃ q, f a b = .ok q ∧ q.IsReal := by
  cases op with
  | add => exact ⟨_, rfl, fun ha hb => Quantity.combine_isReal _ _ ha.inReals hb⟩
  | sub => exact ⟨_, rfl, fun ha hb => Quantity.combine_isReal _ _ ha.inReals hb⟩
  | mul => exact ⟨_, rfl, fun ha hb => Quantity.combine_isReal _ _ ha.inReals hb⟩
  | div =>
      refine ⟨_, rfl, ?_⟩
      rintro a b ⟨x, rfl⟩ ⟨y, rfl⟩
      exact ⟨.real (x / y), rfl, Quantity.isReal_real _⟩
  | eq | ne | lt | gt | le | ge =>
      obtain rfl := Option.some.inj hl
      exact absurd rfl hne
  | other symbol => exact nomatch hl

theorem Operator.calculate_settles {op : Operator} {l : Level} (hl : op.level? = some l)
    (hne : l ≠ .comparison) {a b : Scalar} (ha : a.IsReal) (hb : b.IsReal) :
    Settles Scalar.IsReal (op.calculate a b) := by
  obtain ⟨f, hf, real⟩ := Operator.arithmetic_isReal hl hne
  rw [Operator.calculate, hf]
  rcases bothNumbers_settles op.symbol ha hb with ⟨⟨x, y⟩, hp, hx, hy⟩ | ⟨e, he⟩
  · obtain ⟨q, hq, hreal⟩ := real hx hy
    simp only [hp, hq]
    exact settles_ok hreal
  · rw [he]
    exact settles_error e

theorem Operator.compare_settles {op : Operator} (hl : op.level? = some .comparison) (a b : Scalar) :
    Settles Scalar.IsReal (op.compare a b) := by
  have known : ∃ test, op.comparison? = some test := by
    cases op with
    | eq | ne | lt | gt | le | ge => exact ⟨_, rfl⟩
    | add | sub | mul | div => exact nomatch Option.some.inj hl
    | other symbol => exact nomatch hl
  obtain ⟨test, htest⟩ := known
  unfold Operator.compare
  rw [htest]
  cases a with
  | number p =>
      cases b with
      | number q => exact settles_ok trivial
      | string s => exact settles_error _
      | boolean c => exact settles_error _
  | string s =>
      cases b with
      | number q => exact settles_error _
      | string t => exact settles_ok trivial
      | boolean c => exact settles_error _
  | boolean c => exact settles_error _

/-- An operator at its level settles two real values. -/
theorem Level.apply_settles {op : Operator} {l : Level} (hl : op.level? = some l) {a b : Scalar}
    (ha : a.IsReal) (hb : b.IsReal) : Settles Scalar.IsReal (l.apply op a b) := by
  cases l with
  | comparison => exact Operator.compare_settles hl a b
  | sum => exact Operator.calculate_settles hl nofun ha hb
  | product => exact Operator.calculate_settles hl nofun ha hb

/-! ## Trees on the ladder

By mutual induction on the ladder: on each rung the operators are those of its
level, so no operator is met where it is not known. -/

theorem OnLadder.isValue {e : Expr} (h : OnLadder .value e) : e.isValue = true := by
  cases h with
  | number x => rfl
  | string s => rfl
  | ident name => rfl
  | group _ => rfl

theorem OnLadder.guardValue {e : Expr} (h : OnLadder .value e) (r : Reply Scalar) :
    e.guardValue r = r :=
  if_pos h.isValue

mutual
/-- A tree on the ladder has a real value among real variables, or an error that is told. -/
theorem OnLadder.eval_settles {env : Environment} (henv : env.IsReal) :
    ∀ {r : Rung} {e : Expr}, OnLadder r e → Settles Scalar.IsReal (e.eval env)
  | _, _, .number x => by
      rw [Expr.eval]
      exact settles_ok (Quantity.isReal_real x)
  | _, _, .string s => by
      rw [Expr.eval]
      exact settles_ok trivial
  | _, _, .ident name => by
      rw [Expr.eval]
      cases hv : env.lookup name with
      | some v => exact settles_ok (henv _ v hv)
      | none => exact settles_error _
  | _, _, .group he => by
      rw [Expr.eval]
      exact he.eval_settles henv
  | _, _, .factor hb => by
      rw [Expr.eval, hb.guardValue]
      exact hb.eval_settles henv
  | _, _, .power hb hx => by
      rw [Expr.eval, hb.guardValue, hx.guardValue]
      rcases hb.eval_settles henv with ⟨v, hv, base⟩ | ⟨e, he⟩
      · rw [hv]
        rcases hx.eval_settles henv with ⟨w, hw, exponent⟩ | ⟨e, he⟩
        · rw [hw]
          exact Scalar.power_settles base exponent
        · rw [he]
          exact settles_error e
      · rw [he]
        exact settles_error e
  | _, _, .chain he hrest => by
      rw [Expr.eval]
      rcases he.eval_settles henv with ⟨v, hv, left⟩ | ⟨e, he⟩
      · rw [hv]
        exact hrest.eval_settles henv left
      · rw [he]
        exact settles_error e

theorem LinksOnLadder.eval_settles {env : Environment} (henv : env.IsReal) :
    ∀ {l : Level} {rest : Links}, LinksOnLadder l rest → ∀ {lhs : Scalar}, lhs.IsReal →
      Settles Scalar.IsReal (rest.eval env l lhs)
  | _, _, .nil l, lhs, hlhs => by
      rw [Links.eval]
      exact settles_ok hlhs
  | _, _, .cons hop he hrest, lhs, hlhs => by
      rw [Links.eval]
      rcases he.eval_settles henv with ⟨v, hv, right⟩ | ⟨e, he⟩
      · rcases Level.apply_settles hop hlhs right with ⟨w, hw, applied⟩ | ⟨e, he⟩
        · simp only [hv, hw]
          exact hrest.eval_settles henv applied
        · simp only [hv, he]
          exact settles_error e
      · simp only [he]
        exact settles_error e
end

/-- The operand of a command is a real number among real variables, or an error that is told. -/
theorem Expr.OnLadder.evalNumber_settles {env : Environment} (henv : env.IsReal) {e : Expr}
    (h : e.OnLadder) (what : String) : Settles Quantity.IsReal (e.evalNumber env what) := by
  rw [Expr.evalNumber]
  rcases OnLadder.eval_settles henv h with ⟨v, hv, real⟩ | ⟨e, he⟩
  · rw [hv]
    cases v with
    | number q => exact settles_ok real
    | boolean b => exact settles_ok (Quantity.isReal_real _)
    | string s => exact settles_error _
  · rw [he]
    exact settles_error e

/-! ## What tokens spell is on the ladder

The grammar has the same rungs, so this is an induction on what is spelled. -/

mutual
/-- Commands that programs contain: known ones, with operands on the ladder. -/
def Command.IsGrammatical : Command → Prop
  | .order _ operand _ => operand.OnLadder
  | .gesture _ _ => True
  | .loop times body _ => times.OnLadder ∧ GrammaticalAll body
  | .comment _ _ => True
  | .unknown _ => False
  | .stray _ _ => False

def GrammaticalAll : List Command → Prop
  | [] => True
  | c :: cs => c.IsGrammatical ∧ GrammaticalAll cs
end

namespace Grammar

theorem SpellsOperator.level {l : Level} {op : Operator} {ts : List Token}
    (h : SpellsOperator l op ts) : op.level? = some l := by
  have known : ∀ {t : Token} {c : Char}, t.lexeme = [c] → Operator.ofSymbol? t.text = some op →
      Operator.ofSymbol? (String.ofList [c]) = some op := by
    intro t c hl ho
    rw [← ho, Token.text, hl]
  cases h with
  | sum ht ho =>
      obtain ⟨-, c, hl, hc⟩ := ht
      have ho := known hl ho
      simp only [Bool.or_eq_true, beq_iff_eq] at hc
      rcases hc with rfl | rfl
      · have plus : Operator.ofSymbol? (String.ofList ['+']) = some .add := by decide
        obtain rfl := Option.some.inj (ho.symm.trans plus)
        rfl
      · have minus : Operator.ofSymbol? (String.ofList ['-']) = some .sub := by decide
        obtain rfl := Option.some.inj (ho.symm.trans minus)
        rfl
  | product ht ho =>
      obtain ⟨-, c, hl, hc⟩ := ht
      have ho := known hl ho
      simp only [Bool.or_eq_true, beq_iff_eq] at hc
      rcases hc with rfl | rfl
      · have times : Operator.ofSymbol? (String.ofList ['*']) = some .mul := by decide
        obtain rfl := Option.some.inj (ho.symm.trans times)
        rfl
      · have divided : Operator.ofSymbol? (String.ofList ['/']) = some .div := by decide
        obtain rfl := Option.some.inj (ho.symm.trans divided)
        rfl
  | @comparison c ts _ => cases c <;> rfl

mutual
theorem Spells.onLadder : ∀ {r : Rung} {e : Expr} {ts : List Token}, Spells r e ts → OnLadder r e
  | _, _, _, .number _ _ => .number _
  | _, _, _, .string _ => .string _
  | _, _, _, .ident _ => .ident _
  | _, _, _, .group _ he _ => .group he.onLadder
  | _, _, _, .factor hb => .factor hb.onLadder
  | _, _, _, .power hb _ hx => .power hb.onLadder hx.onLadder
  | _, _, _, .chain he hrest => .chain he.onLadder hrest.onLadder

theorem SpellsLinks.onLadder : ∀ {l : Level} {rest : Links} {ts : List Token},
    SpellsLinks l rest ts → LinksOnLadder l rest
  | _, _, _, .nil => .nil _
  | _, _, _, .cons hop he hrest => .cons hop.level he.onLadder hrest.onLadder
end

mutual
theorem SpellsCommand.grammatical : ∀ {c : Command} {ts : List Token}, SpellsCommand c ts →
    c.IsGrammatical
  | _, _, .order _ he => by
      rw [Command.IsGrammatical]
      exact he.onLadder
  | _, _, .pen _ => by
      rw [Command.IsGrammatical]
      trivial
  | _, _, .stop _ => by
      rw [Command.IsGrammatical]
      trivial
  | _, _, .comment _ => by
      rw [Command.IsGrammatical]
      trivial
  | _, _, .loop _ he _ _ hbody _ _ => by
      rw [Command.IsGrammatical]
      exact ⟨he.onLadder, hbody.grammatical⟩

theorem SpellsBody.grammatical : ∀ {cs : List Command} {ts : List Token}, SpellsBody cs ts →
    GrammaticalAll cs
  | _, _, .nil => by
      rw [GrammaticalAll]
      trivial
  | _, _, .cons hc _ hcs => by
      rw [GrammaticalAll]
      exact ⟨hc.grammatical, hcs.grammatical⟩
end

theorem SpellsLines.grammatical {cs : List Command} {ts : List Token} (h : SpellsLines cs ts) :
    GrammaticalAll cs := by
  induction h with
  | nil => trivial
  | cons hc _ _ ih => exact ⟨hc.grammatical, ih⟩

theorem SpellsProgram.grammatical {p : Program} {ts : List Token} (h : SpellsProgram p ts) :
    GrammaticalAll p := by
  obtain ⟨_, _, _, hlines, _⟩ := h
  exact hlines.grammatical

end Grammar

end TurtleLogo
