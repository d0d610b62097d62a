/-
# `TurtleLogo.Proofs.Program.Kinds` — kinds decide, values do not

Evaluating an expression among other values of the same kinds gives a value of
the same kind, or the very same error: no operator lets the value of an operand
decide whether an error is told, and which.  That holds for every tree, whether
the grammar builds it or not.

Numbers are reals in this.  A whole number, which only a value that is wrapped
already can hold, may be too large to be calculated with, and that is a defect
which does hang on the value.  Both situations are covered by one induction:

    Concur P D r r'     values of one kind, both in `P`, or the same failure, or a failure
                        in `D` on one side
    Calculates P D      calculations with numbers in `P` stay in `P` or fail by `D`
    Expr.eval_concurs   evaluation in two environments of the same kinds
-/
import TurtleLogo.Proofs.Program.Evaluation

namespace TurtleLogo

/-- Environments that bind the same names to values of the same kinds. -/
def SameKinds (env env' : Environment) : Prop :=
  ∀ name, (Bindings.get? name env).map Scalar.kind = (Bindings.get? name env').map Scalar.kind

/-! ## Results that concur

The failures in `D` are those that hang on values.  Among reals there are none,
and among numbers of all sorts they are the calculations without a result, so one
induction serves both. -/

/-- `Concur P D r r'`: values of one kind, both in `P`, or the same failure; or else one side fails
by a failure in `D`. -/
inductive Concur (P : Scalar → Prop) (D : Failure → Prop) : Reply Scalar → Reply Scalar → Prop
  | value {v w : Scalar} : v.kind = w.kind → P v → P w → Concur P D (.ok v) (.ok w)
  | error (f : Failure) : Concur P D (.error f) (.error f)
  | left {f : Failure} (r : Reply Scalar) : D f → Concur P D (.error f) r
  | right {f : Failure} (r : Reply Scalar) : D f → Concur P D r (.error f)

theorem Concur.andThen {P : Scalar → Prop} {D : Failure → Prop} {r r' : Reply Scalar}
    {k k' : Scalar → Reply Scalar} : Concur P D r r' →
      (∀ {v w : Scalar}, v.kind = w.kind → P v → P w → Concur P D (k v) (k' w)) →
      Concur P D
        (match r with
          | .error e => .error e
          | .ok v => k v)
        (match r' with
          | .error e => .error e
          | .ok v => k' v) := by
  intro h hk
  cases h with
  | value hv pv pw => exact hk hv pv pw
  | error f => exact .error f
  | left r hD => exact .left _ hD
  | right r hD => exact .right _ hD

/-- Calculations with numbers in `P` have results in `P`, or fail by `D`. -/
structure Calculates (P : Scalar → Prop) (D : Failure → Prop) : Prop where
  real : ∀ x, P (.number (.real x))
  string : ∀ s, P (.string s)
  boolean : ∀ b, P (.boolean b)
  arithmetic : ∀ {op : Operator} {f : Quantity → Quantity → Except ArithmeticFault Quantity}
    {a b : Quantity}, op.arithmetic? = some f → P (.number a) → P (.number b) →
    (∃ q, f a b = .ok q ∧ P (.number q)) ∨
      ∃ fault, f a b = .error fault ∧ D (.defect (.arithmetic fault))
  power : ∀ {a b : Quantity}, P (.number a) → P (.number b) →
    (∃ x, a.power b = .ok x) ∨
      ∃ fault, a.power b = .error fault ∧ D (.defect (.arithmetic fault))

theorem calculates_reals : Calculates Scalar.IsReal fun _ => False where
  real := Quantity.isReal_real
  string _ := trivial
  boolean _ := trivial
  arithmetic {op f a b} hf ha hb := by
    have level : ∃ l, op.level? = some l ∧ l ≠ .comparison := by
      cases op with
      | add | sub => exact ⟨.sum, rfl, nofun⟩
      | mul | div => exact ⟨.product, rfl, nofun⟩
      | eq | ne | lt | gt | le | ge | other symbol => exact nomatch hf
    obtain ⟨l, hl, hne⟩ := level
    obtain ⟨g, hg, real⟩ := Operator.arithmetic_isReal hl hne
    obtain rfl := Option.some.inj (hf.symm.trans hg)
    exact .inl (real ha hb)
  power := by
    rintro _ _ ⟨x, rfl⟩ ⟨y, rfl⟩
    exact .inl ⟨Float.pow x y, rfl⟩

/-- Whatever numbers are calculated with, the only failures are defects of calculation. -/
theorem calculates_all : Calculates (fun _ => True) Failure.IsArithmetic where
  real _ := trivial
  string _ := trivial
  boolean _ := trivial
  arithmetic {op f a b} _ _ _ := by
    cases f a b with
    | ok q => exact .inl ⟨q, rfl, trivial⟩
    | error fault => exact .inr ⟨fault, rfl, fault, rfl⟩
  power {a b} _ _ := by
    cases a.power b with
    | ok x => exact .inl ⟨x, rfl⟩
    | error fault => exact .inr ⟨fault, rfl, fault, rfl⟩

section Operators

variable {P : Scalar → Prop} {D : Failure → Prop} {v v' w w' : Scalar}

theorem bothNumbers_of_kinds (symbol : String) (hv : v.kind = v'.kind) (hw : w.kind = w'.kind) :
    (∃ a b a' b', v = .number a ∧ w = .number b ∧ v' = .number a' ∧ w' = .number b') ∨
      ∃ f, bothNumbers symbol v w = .error f ∧ bothNumbers symbol v' w' = .error f := by
  match v, v', hv, w, w', hw with
  | .number a, .number a', _, .number b, .number b', _ =>
      exact .inl ⟨a, b, a', b', rfl, rfl, rfl, rfl⟩
  | .number _, .number _, _, .string _, .string _, _ => exact .inr ⟨_, rfl, rfl⟩
  | .number _, .number _, _, .boolean _, .boolean _, _ => exact .inr ⟨_, rfl, rfl⟩
  | .string _, .string _, _, _, _, _ => exact .inr ⟨_, rfl, rfl⟩
  | .boolean _, .boolean _, _, _, _, _ => exact .inr ⟨_, rfl, rfl⟩

theorem Operator.calculate_concurs (good : Calculates P D) (op : Operator) (hv : v.kind = v'.kind)
    (hw : w.kind = w'.kind) (pv : P v) (pv' : P v') (pw : P w) (pw' : P w') :
    Concur P D (op.calculate v w) (op.calculate v' w') := by
  rcases bothNumbers_of_kinds op.symbol hv hw with
    ⟨a, b, a', b', rfl, rfl, rfl, rfl⟩ | ⟨f, hf, hf'⟩
  · cases hop : op.arithmetic? with
    | none =>
        simp only [Operator.calculate, bothNumbers, hop]
        exact .error _
    | some f =>
        simp only [Operator.calculate, bothNumbers, hop]
        rcases good.arithmetic hop pv pw with ⟨q, hq, pq⟩ | ⟨fault, hfault, hD⟩
        · rcases good.arithmetic hop pv' pw' with ⟨q', hq', pq'⟩ | ⟨fault, hfault, hD⟩
          · rw [hq, hq']
            exact .value rfl pq pq'
          · rw [hfault]
            exact .right _ hD
        · rw [hfault]
          exact .left _ hD
  · simp only [Operator.calculate, hf, hf']
    exact .error f

theorem Scalar.power_concurs (good : Calculates P D) (hv : v.kind = v'.kind)
    (hw : w.kind = w'.kind) (pv : P v) (pv' : P v') (pw : P w) (pw' : P w') :
    Concur P D (v.power w) (v'.power w') := by
  rcases bothNumbers_of_kinds "^" hv hw with ⟨a, b, a', b', rfl, rfl, rfl, rfl⟩ | ⟨f, hf, hf'⟩
  · simp only [Scalar.power, bothNumbers]
    rcases good.power pv pw with ⟨x, hx⟩ | ⟨fault, hfault, hD⟩
    · rcases good.power pv' pw' with ⟨x', hx'⟩ | ⟨fault, hfault, hD⟩
      · rw [hx, hx']
        exact .value rfl (good.real x) (good.real x')
      · rw [hfault]
        exact .right _ hD
    · rw [hfault]
      exact .left _ hD
  · simp only [Scalar.power, hf, hf']
    exact .error f

theorem Operator.compare_concurs (good : Calculates P D) (op : Operator) (hv : v.kind = v'.kind)
    (hw : w.kind = w'.kind) : Concur P D (op.compare v w) (op.compare v' w') := by
  unfold Operator.compare
  cases op.comparison? with
  | none => exact .error _
  | some test =>
      match v, v', hv, w, w', hw with
      | .number _, .number _, _, .number _, .number _, _ =>
          exact .value rfl (good.boolean _) (good.boolean _)
      | .number _, .number _, _, .string _, .string _, _ => exact .error _
      | .number _, .number _, _, .boolean _, .boolean _, _ => exact .error _
      | .string _, .string _, _, .string _, .string _, _ =>
          exact .value rfl (good.boolean _) (good.boolean _)
      | .string _, .string _, _, .number _, .number _, _ => exact .error _
      | .string _, .string _, _, .boolean _, .boolean _, _ => exact .error _
      | .boolean _, .boolean _, _, _, _, _ => exact .error _

theorem Level.apply_concurs (good : Calculates P D) (l : Level) (op : Operator)
    (hv : v.kind = v'.kind) (hw : w.kind = w'.kind) (pv : P v) (pv' : P v') (pw : P w)
    (pw' : P w') : Concur P D (l.apply op v w) (l.apply op v' w') := by
  cases l with
  | comparison => exact Operator.compare_concurs good op hv hw
  | sum => exact Operator.calculate_concurs good op hv hw pv pv' pw pw'
  | product => exact Operator.calculate_concurs good op hv hw pv pv' pw pw'

end Operators

/-! ## Trees

By mutual induction on expressions and links, whether the grammar builds them or
not. -/

section Trees

variable {P : Scalar → Prop} {D : Failure → Prop} {env env' : Environment}

/-- Environments of the same kinds, with all their values in `P`. -/
structure Abreast (P : Scalar → Prop) (env env' : Environment) : Prop where
  kinds : SameKinds env env'
  left : ∀ name v, Bindings.get? name env = some v → P v
  right : ∀ name v, Bindings.get? name env' = some v → P v

theorem Abreast.ident (h : Abreast P env env') (name : String) :
    Concur P D ((Expr.ident name).eval env) ((Expr.ident name).eval env') := by
  rw [Expr.eval, Expr.eval, Environment.lookup, Environment.lookup]
  have same := h.kinds (Text.lower name)
  cases hv : Bindings.get? (Text.lower name) env with
  | none =>
      rw [hv] at same
      rw [Option.map_eq_none_iff.mp same.symm]
      exact .error _
  | some v =>
      rw [hv] at same
      obtain ⟨w, hw, hkind⟩ := Option.map_eq_some_iff.mp same.symm
      rw [hw]
      exact .value hkind.symm (h.left _ v hv) (h.right _ w hw)

/-- Whether a single value is asked for is told by the tree alone. -/
theorem Concur.guardValue {r r' : Reply Scalar} (h : Concur P D r r') (e : Expr) :
    Concur P D (e.guardValue r) (e.guardValue r') := by
  unfold Expr.guardValue
  split
  · exact h
  · exact .error _

mutual
/-- Among values of the same kinds an expression has values of the same kind, or the same
failure. -/
theorem Expr.eval_concurs (good : Calculates P D) (h : Abreast P env env') :
    ∀ e : Expr, Concur P D (e.eval env) (e.eval env')
  | .number x => by
      rw [Expr.eval, Expr.eval]
      exact .value rfl (good.real x) (good.real x)
  | .string s => by
      rw [Expr.eval, Expr.eval]
      exact .value rfl (good.string s) (good.string s)
  | .ident name => h.ident name
  | .group e => by
      rw [Expr.eval, Expr.eval]
      exact e.eval_concurs good h
  | .factor base => by
      rw [Expr.eval, Expr.eval]
      exact (base.eval_concurs good h).guardValue base
  | .power base exponent => by
      have first := (base.eval_concurs good h).guardValue base
      have second := (exponent.eval_concurs good h).guardValue exponent
      rw [Expr.eval, Expr.eval]
      refine first.andThen fun hv pv pv' => second.andThen fun hw pw pw' => ?_
      exact Scalar.power_concurs good hv hw pv pv' pw pw'
  | .chain level left rest => by
      rw [Expr.eval, Expr.eval]
      refine (left.eval_concurs good h).andThen fun hv pv pv' => ?_
      exact rest.eval_concurs good h level hv pv pv'
  | .stray rendering => by
      rw [Expr.eval, Expr.eval]
      exact .error _

theorem Links.eval_concurs (good : Calculates P D) (h : Abreast P env env') :
    ∀ (rest : Links) (level : Level) {v v' : Scalar}, v.kind = v'.kind → P v → P v' →
      Concur P D (rest.eval env level v) (rest.eval env' level v')
  | .nil, level, v, v', hv, pv, pv' => by
      rw [Links.eval, Links.eval]
      exact .value hv pv pv'
  | .cons op operand rest, level, v, v', hv, pv, pv' => by
      rw [Links.eval, Links.eval]
      refine (operand.eval_concurs good h).andThen fun hw pw pw' => ?_
      refine (level.apply_concurs good op hv hw pv pv' pw pw').andThen fun hu pu pu' => ?_
      exact rest.eval_concurs good h level hu pu pu'
end

end Trees

/-- Among reals nothing but kinds decides. -/
theorem Expr.eval_kind {env env' : Environment} (same : SameKinds env env') (real : env.IsReal)
    (real' : env'.IsReal) (e : Expr) :
    (e.eval env).map Scalar.kind = (e.eval env').map Scalar.kind := by
  have concur := e.eval_concurs calculates_reals ⟨same, real, real'⟩
  generalize e.eval env = r at concur ⊢
  generalize e.eval env' = r' at concur ⊢
  cases concur with
  | value hkind _ _ => exact congrArg Except.ok hkind
  | error f => rfl
  | left r never => exact never.elim
  | right r never => exact never.elim

/-- Among any numbers nothing but kinds decides, unless a calculation has no result. -/
theorem Expr.eval_kind_or_arithmetic {env env' : Environment} (same : SameKinds env env')
    (e : Expr) : (e.eval env).map Scalar.kind = (e.eval env').map Scalar.kind ∨
      ∃ f : Failure, f.IsArithmetic ∧ (e.eval env = .error f ∨ e.eval env' = .error f) := by
  have concur := e.eval_concurs calculates_all ⟨same, fun _ _ _ => trivial, fun _ _ _ => trivial⟩
  generalize e.eval env = r at concur ⊢
  generalize e.eval env' = r' at concur ⊢
  cases concur with
  | value hkind _ _ => exact .inl (congrArg Except.ok hkind)
  | error f => exact .inl rfl
  | @left f r arithmetic => exact .inr ⟨f, arithmetic, .inl rfl⟩
  | @right f r arithmetic => exact .inr ⟨f, arithmetic, .inr rfl⟩

/-! ## Where truth values come from

Only a comparison makes a truth value, and no operator takes one.  So two
comparisons in a row have no value, and neither has a sum of truth values. -/

theorem Operator.compare_eq_ok {op : Operator} {v w u : Scalar} (h : op.compare v w = .ok u) :
    (∃ b, u = .boolean b) ∧ ∀ b, v ≠ .boolean b := by
  unfold Operator.compare at h
  cases hop : op.comparison? with
  | none =>
      rw [hop] at h
      exact nomatch h
  | some test =>
      rw [hop] at h
      match v, w, h with
      | .number a, .number b, h => exact ⟨⟨_, (Except.ok.inj h).symm⟩, nofun⟩
      | .string a, .string b, h => exact ⟨⟨_, (Except.ok.inj h).symm⟩, nofun⟩

theorem Operator.calculate_eq_ok {op : Operator} {v w u : Scalar} (h : op.calculate v w = .ok u) :
    u.kind = .number := by
  unfold Operator.calculate at h
  split at h
  · exact nomatch h
  · next a b _ =>
      split at h
      · next f _ =>
          generalize calculated (f a b) = r at h
          cases r with
          | error fault => exact nomatch h
          | ok q => exact Except.ok.inj h ▸ rfl
      · exact nomatch h

theorem Scalar.power_eq_ok {v w u : Scalar} (h : v.power w = .ok u) : u.kind = .number := by
  unfold Scalar.power at h
  split at h
  · next a b _ =>
      generalize calculated (a.power b) = r at h
      cases r with
      | error fault => exact nomatch h
      | ok x => exact Except.ok.inj h ▸ rfl
  · exact nomatch h

theorem Links.eval_cons_eq_ok {env : Environment} {level : Level} {v u : Scalar} {op : Operator}
    {operand : Expr} {rest : Links} (h : (Links.cons op operand rest).eval env level v = .ok u) :
    ∃ w x, level.apply op v w = .ok x ∧ rest.eval env level x = .ok u := by
  rw [Links.eval] at h
  split at h
  · cases h
  · next w _ =>
      split at h
      · cases h
      · next x hx => exact ⟨w, x, hx, h⟩

theorem Expr.eval_chain_eq_ok {env : Environment} {level : Level} {left : Expr} {rest : Links}
    {u : Scalar} (h : (Expr.chain level left rest).eval env = .ok u) :
    ∃ v, left.eval env = .ok v ∧ rest.eval env level v = .ok u := by
  rw [Expr.eval] at h
  split at h
  · cases h
  · next v hv => exact ⟨v, hv, h⟩

/-- Two or more comparisons in a row have no value: the first gives a truth value, and those are
not compared. -/
theorem Expr.eval_comparisons_ne_ok (env : Environment) (left : Expr) {rest : Links}
    (h : 2 ≤ rest.length) (u : Scalar) : (Expr.chain .comparison left rest).eval env ≠ .ok u := by
  intro value
  obtain ⟨v, -, value⟩ := Expr.eval_chain_eq_ok value
  match rest, h with
  | .cons op operand (.cons op' operand' more), _ =>
      obtain ⟨w, x, first, value⟩ := Links.eval_cons_eq_ok value
      obtain ⟨w', x', second, -⟩ := Links.eval_cons_eq_ok value
      obtain ⟨⟨b, rfl⟩, -⟩ := Operator.compare_eq_ok first
      have compared : op'.compare (.boolean b) w' = .ok x' := second
      exact (Operator.compare_eq_ok compared).2 b rfl

/-- Sums and products that have a value have a number. -/
theorem Links.eval_eq_ok_of_arithmetic {env : Environment} {level : Level}
    (hlevel : level ≠ .comparison) : ∀ {rest : Links} {v u : Scalar},
      rest.eval env level v = .ok u → rest = .nil ∧ u = v ∨ u.kind = .number
  | .nil, v, u, h => by
      rw [Links.eval] at h
      exact .inl ⟨rfl, (Except.ok.inj h).symm⟩
  | .cons op operand rest, v, u, h => by
      obtain ⟨w, x, applied, h⟩ := Links.eval_cons_eq_ok h
      have number : x.kind = .number := by
        cases level with
        | comparison => exact absurd rfl hlevel
        | sum => exact Operator.calculate_eq_ok applied
        | product => exact Operator.calculate_eq_ok applied
      rcases Links.eval_eq_ok_of_arithmetic hlevel h with ⟨-, rfl⟩ | hu
      · exact .inr number
      · exact .inr hu

/-- `TruthSource env e`: the expression `e` is a variable for a truth value or a single comparison,
in any number of groups.  Factors and chains without an operator are nothing but their operand. -/
inductive TruthSource (env : Environment) : Expr → Prop
  | ident {name : String} {b : Bool} : env.lookup name = some (.boolean b) →
      TruthSource env (.ident name)
  | comparison (left : Expr) (op : Operator) (operand : Expr) :
      TruthSource env (.chain .comparison left (.cons op operand .nil))
  | group {e : Expr} : TruthSource env e → TruthSource env (.group e)
  | factor {base : Expr} : TruthSource env base → TruthSource env (.factor base)
  | chain (level : Level) {e : Expr} : TruthSource env e → TruthSource env (.chain level e .nil)

theorem Expr.truthSource {env : Environment} {b : Bool} : ∀ {e : Expr},
    e.eval env = .ok (.boolean b) → TruthSource env e
  | .number x, h => by
      rw [Expr.eval] at h
      cases h
  | .string s, h => by
      rw [Expr.eval] at h
      cases h
  | .ident name, h => by
      rw [Expr.eval] at h
      split at h
      · next v hv =>
          obtain rfl := Except.ok.inj h
          exact .ident hv
      · cases h
  | .group e, h => by
      rw [Expr.eval] at h
      exact .group (Expr.truthSource h)
  | .factor base, h => by
      rw [Expr.eval, Expr.guardValue] at h
      split at h
      · exact .factor (Expr.truthSource h)
      · cases h
  | .power base exponent, h => by
      rw [Expr.eval] at h
      split at h
      · cases h
      · split at h
        · cases h
        · cases Scalar.power_eq_ok h
  | .chain level left rest, h => by
      obtain ⟨v, hv, hrest⟩ := Expr.eval_chain_eq_ok h
      cases rest with
      | nil =>
          rw [Links.eval] at hrest
          obtain rfl := Except.ok.inj hrest
          exact .chain level (Expr.truthSource hv)
      | cons op operand more =>
          by_cases hlevel : level = .comparison
          · subst hlevel
            cases more with
            | nil => exact .comparison left op operand
            | cons op' operand' more =>
                exact absurd h (Expr.eval_comparisons_ne_ok env left (Nat.le_add_left 2 _) _)
          · rcases Links.eval_eq_ok_of_arithmetic hlevel hrest with ⟨hnil, -⟩ | hnumber
            · cases hnil
            · cases hnumber
  | .stray rendering, h => by
      rw [Expr.eval] at h
      cases h

/-- Kinds decide how an expression is evaluated: among other values of the same kinds it has a value
of the same kind, or the same error.  (Numbers are reals; whole numbers beyond them differ only
where a calculation has no result.)  Two or more comparisons in a row never have a value, and a
truth value is that of a variable or of a single comparison. -/
theorem kinds_decide_evaluation (e : Expr) {env env' : Environment} (same : SameKinds env env') :
    (env.IsReal → env'.IsReal →
      (e.eval env).map Scalar.kind = (e.eval env').map Scalar.kind) ∧
    ((e.eval env).map Scalar.kind = (e.eval env').map Scalar.kind ∨
      ∃ f : Failure, f.IsArithmetic ∧ (e.eval env = .error f ∨ e.eval env' = .error f)) ∧
    (∀ left rest, e = .chain .comparison left rest → 2 ≤ rest.length →
      ∀ v, e.eval env ≠ .ok v) ∧
    ∀ b, e.eval env = .ok (.boolean b) → TruthSource env e := by
  refine ⟨fun real real' => e.eval_kind same real real', e.eval_kind_or_arithmetic same, ?_, ?_⟩
  · rintro left rest rfl long
    exact Expr.eval_comparisons_ne_ok env left long
  · exact fun b => Expr.truthSource

/-- A quotient by a variable, zero in one environment and a half in the other, is compared with a
string. -/
theorem kinds_decide_evaluation_quotient :
    let e : Expr := .chain .comparison (.group (.chain .product (.number 1.0)
      (.cons .div (.ident "N") .nil))) (.cons .lt (.ident "s") .nil)
    let env : Environment := [("n", .number (.real 0.0)), ("s", .string "")]
    let env' : Environment := [("s", .string "x"), ("n", .number (.real 0.5))]
    SameKinds env env' ∧ env.IsReal ∧ env'.IsReal ∧
      (e.eval env).map Scalar.kind = (e.eval env').map Scalar.kind ∧
      e.eval env = .error (Failure.of (.comparedKind "<" .number .string)) := by
  intro e env env'
  have same : SameKinds env env' := by
    intro name
    by_cases hn : "n" = name
    · subst hn
      rfl
    · by_cases hs : "s" = name
      · subst hs
        rfl
      · simp [env, env', Bindings.get?, hn, hs]
  have real : ∀ {a b : String × Scalar}, a.2.IsReal → b.2.IsReal →
      Environment.IsReal [a, b] := by
    intro a b ha hb name v hv
    simp only [Bindings.get?] at hv
    split at hv
    · exact Option.some.inj hv ▸ ha
    · split at hv
      · exact Option.some.inj hv ▸ hb
      · cases hv
  have first : env.IsReal := real (Quantity.isReal_real 0.0) trivial
  have second : env'.IsReal := real trivial (Quantity.isReal_real 0.5)
  exact ⟨same, first, second, (kinds_decide_evaluation e same).1 first second, rfl⟩

end TurtleLogo
