/-
# `TurtleLogo.Proofs.Console.Definitions` — which of several definitions counts

Definitions go through two tables.  The first one is keyed by the name as it is
spelled, and a name that is defined again keeps its place there; the second one is
keyed by the name in lower case, and is filled in the order of the first.  So among
several spellings of a variable it is the one met first last that counts, with the
value of the last definition that has this spelling:

    d.Names v           the definition `d` has a spelling of the variable `v` for its name
    Newest v ds name    of the spellings of `v` among `ds`, `name` is the one met first last
    InEffect v ds d     the definition `d` is the last one with this spelling

The last definition of all counts just as far as its spelling is that one.
-/
import Mathlib.Data.List.Forall2
import Mathlib.Data.List.Induction
import TurtleLogo.Console.Definitions
import TurtleLogo.Program.Evaluate

namespace TurtleLogo

/-! ## Tables filled in order

A table keeps its names in the order in which they were first bound, and a binding
that is repeated changes the value in its place.  So the order in which a table is
read is not the order in which it was filled. -/

namespace Bindings

variable {α : Type} {name : String} {x : α}

def names (b : Bindings α) : List String :=
  b.map Prod.fst

/-- Binds names in order. -/
def bindAll (b : Bindings α) (ps : List (String × α)) : Bindings α :=
  ps.foldl (fun b p => bind p.1 p.2 b) b

theorem bindAll_append (b : Bindings α) (ps qs : List (String × α)) :
    bindAll b (ps ++ qs) = bindAll (bindAll b ps) qs :=
  List.foldl_append

theorem get?_bindAll_of_notMem {ps : List (String × α)} (h : ∀ p ∈ ps, p.1 ≠ name) :
    ∀ b : Bindings α, get? name (bindAll b ps) = get? name b := by
  induction ps with
  | nil => exact fun _ => rfl
  | cons p ps ih =>
      intro b
      obtain ⟨hp, hps⟩ := List.forall_mem_cons.mp h
      show get? name (bindAll (bind p.1 p.2 b) ps) = get? name b
      rw [ih hps, get?_bind_ne p.2 b hp.symm]

theorem get?_bindAll_of_last {before after : List (String × α)} (h : ∀ p ∈ after, p.1 ≠ name)
    (b : Bindings α) : get? name (bindAll b (before ++ (name, x) :: after)) = some x := by
  rw [bindAll_append]
  show get? name (bindAll (bind name x (bindAll b before)) after) = some x
  rw [get?_bindAll_of_notMem h, get?_bind_self]

theorem get?_append_of_notMem {b c : Bindings α} (h : name ∉ names b) :
    get? name (b ++ c) = get? name c := by
  induction b with
  | nil => rfl
  | cons p b ih =>
      obtain ⟨key, old⟩ := p
      obtain ⟨hkey, hb⟩ := not_or.mp (mt List.mem_cons.mpr h)
      rw [List.cons_append, get?, if_neg (Ne.symm hkey), ih hb]

theorem mem_bind {p : String × α} : ∀ {b : Bindings α}, p ∈ bind name x b → p = (name, x) ∨ p ∈ b
  | [], h => .inl (List.mem_singleton.mp h)
  | (key, old) :: rest, h => by
      rw [bind] at h
      split at h
      · next hkey =>
          subst hkey
          rcases List.mem_cons.mp h with h | h
          · exact .inl h
          · exact .inr (List.mem_cons_of_mem _ h)
      · rcases List.mem_cons.mp h with h | h
        · exact .inr (h ▸ List.mem_cons_self)
        · rcases mem_bind h with h | h
          · exact .inl h
          · exact .inr (List.mem_cons_of_mem _ h)

theorem mem_bindAll {p : String × α} {ps : List (String × α)} :
    ∀ {b : Bindings α}, p ∈ bindAll b ps → p ∈ ps ∨ p ∈ b := by
  induction ps with
  | nil => exact fun h => .inr h
  | cons q ps ih =>
      intro b h
      rcases ih h with h | h
      · exact .inl (List.mem_cons_of_mem _ h)
      · rcases mem_bind h with rfl | h
        · exact .inl List.mem_cons_self
        · exact .inr h

theorem bind_append_of_mem {b c : Bindings α} (h : name ∈ names b) :
    bind name x (b ++ c) = bind name x b ++ c ∧ names (bind name x b) = names b := by
  induction b with
  | nil => exact nomatch h
  | cons p b ih =>
      obtain ⟨key, old⟩ := p
      rw [List.cons_append, bind, bind]
      split
      · exact ⟨rfl, rfl⟩
      · next hkey =>
          rcases List.mem_cons.mp h with h | h
          · exact absurd h.symm hkey
          · obtain ⟨hbind, hnames⟩ := ih h
            rw [hbind]
            exact ⟨rfl, congrArg (key :: ·) hnames⟩

theorem bind_append_of_notMem {b c : Bindings α} (h : name ∉ names b) :
    bind name x (b ++ c) = b ++ bind name x c := by
  induction b with
  | nil => rfl
  | cons p b ih =>
      obtain ⟨key, old⟩ := p
      obtain ⟨hkey, hb⟩ := not_or.mp (mt List.mem_cons.mpr h)
      rw [List.cons_append, bind, if_neg (Ne.symm hkey), ih hb, List.cons_append]

theorem bind_of_notMem {b : Bindings α} (h : name ∉ names b) :
    bind name x b = b ++ [(name, x)] := by
  have front := bind_append_of_notMem (x := x) (c := []) h
  rwa [List.append_nil] at front

theorem mem_names_bind {m : String} {b : Bindings α} (h : m = name ∨ m ∈ names b) :
    m ∈ names (bind name x b) := by
  by_cases hname : name ∈ names b
  · rw [(bind_append_of_mem (c := []) hname).2]
    rcases h with rfl | h
    · exact hname
    · exact h
  · rw [bind_of_notMem hname, names, List.map_append, List.mem_append]
    rcases h with rfl | h
    · exact .inr List.mem_cons_self
    · exact .inl h

theorem mem_names_bindAll {m : String} {ps : List (String × α)} :
    ∀ {b : Bindings α}, (m ∈ ps.map Prod.fst ∨ m ∈ names b) → m ∈ names (bindAll b ps) := by
  induction ps with
  | nil =>
      intro b h
      rcases h with h | h
      · exact nomatch h
      · exact h
  | cons p ps ih =>
      intro b h
      refine ih ?_
      rcases h with h | h
      · rcases List.mem_cons.mp h with h | h
        · exact .inr (mem_names_bind (.inl h))
        · exact .inl h
      · exact .inr (mem_names_bind (.inr h))

/-- Where a name stands in a table: as long as no new name in `P` is bound, none comes to stand
behind it. -/
theorem bindAll_place {P : String → Prop} {ps : List (String × α)} :
    ∀ {b c : Bindings α} {y : α}, name ∉ names b → (∀ p ∈ c, ¬ P p.1) →
      (∀ p ∈ ps, P p.1 → p.1 = name ∨ p.1 ∈ names b) →
      ∃ b' y' c', bindAll (b ++ (name, y) :: c) ps = b' ++ (name, y') :: c' ∧
        names b' = names b ∧ ∀ p ∈ c', ¬ P p.1 := by
  induction ps with
  | nil =>
      intro b c y _ hc _
      exact ⟨b, y, c, rfl, rfl, hc⟩
  | cons p ps ih =>
      intro b c y fresh hc old
      obtain ⟨hp, hps⟩ := List.forall_mem_cons.mp old
      show ∃ b' y' c', bindAll (bind p.1 p.2 (b ++ (name, y) :: c)) ps = _ ∧ _
      by_cases front : p.1 ∈ names b
      · -- the name stands before
        obtain ⟨hbind, same⟩ := bind_append_of_mem (x := p.2) (c := (name, y) :: c) front
        rw [hbind]
        rw [← same] at fresh hps ⊢
        exact ih fresh hc hps
      · rw [bind_append_of_notMem front, bind]
        split
        · exact ih fresh hc hps
        · next other =>
            -- the name stands behind or is new, so it is not in `P`
            have hP : ¬ P p.1 := by
              intro hP
              rcases hp hP with h | h
              · exact other h.symm
              · exact front h
            refine ih fresh (fun q hq => ?_) hps
            rcases mem_bind hq with rfl | hq
            · exact hP
            · exact hc q hq

end Bindings

/-! ## Environments

The second table is read from the first one, in its order, and spellings of one
variable fall together in it.  The last of them in that order is the one that
counts. -/

namespace Environment

theorem extend_of_notMem {key : String} : ∀ {vars : List (String × Given)} {env env' : Environment},
    extend env vars = .ok env' → (∀ p ∈ vars, Text.lower p.1 ≠ key) →
      Bindings.get? key env' = Bindings.get? key env
  | [], env, env', h, _ => by
      cases h
      rfl
  | (name, given) :: rest, env, env', h, others => by
      obtain ⟨hname, hrest⟩ := List.forall_mem_cons.mp others
      rw [extend] at h
      cases hwrap : given.wrap with
      | error e =>
          rw [hwrap] at h
          exact nomatch h
      | ok v =>
          rw [hwrap] at h
          rw [extend_of_notMem h hrest, Bindings.get?_bind_ne v env (Ne.symm hname)]

/-- The last value given for a name, whatever the case, is the value of the variable. -/
theorem extend_of_last {name : String} {given : Given} {after : List (String × Given)}
    (last : ∀ p ∈ after, Text.lower p.1 ≠ Text.lower name) :
    ∀ {before : List (String × Given)} {env env' : Environment},
      extend env (before ++ (name, given) :: after) = .ok env' →
      ∃ v, given.wrap = .ok v ∧ env'.lookup name = some v
  | [], env, env', h => by
      rw [List.nil_append, extend] at h
      cases hwrap : given.wrap with
      | error e =>
          rw [hwrap] at h
          exact nomatch h
      | ok v =>
          rw [hwrap] at h
          refine ⟨v, rfl, ?_⟩
          rw [lookup, extend_of_notMem h last, Bindings.get?_bind_self]
  | (other, first) :: before, env, env', h => by
      rw [List.cons_append, extend] at h
      cases hwrap : first.wrap with
      | error e =>
          rw [hwrap] at h
          exact nomatch h
      | ok v =>
          rw [hwrap] at h
          exact extend_of_last last h

theorem extend_isOk : ∀ {vars : List (String × Given)} (env : Environment),
    (∀ p ∈ vars, ∃ v, p.2.wrap = .ok v) → ∃ env', extend env vars = .ok env'
  | [], env, _ => ⟨env, rfl⟩
  | (name, given) :: rest, env, usable => by
      obtain ⟨⟨v, hv⟩, hrest⟩ := List.forall_mem_cons.mp usable
      rw [extend, hv]
      exact extend_isOk _ hrest

end Environment

namespace Console

open Text Decimal

/-! ## Definitions

An item spells a definition if it has an equals sign behind a name; blanks about
the name do not count, and everything behind the first equals sign is the value. -/

/-- A name and the text of a value. -/
@[ext]
structure Definition where
  name : String
  text : List Char

namespace Definition

/-- `d.Spelled item`: the item is the name of `d`, with or without blanks about it, an equals sign
and the text of the value.  The name is not empty and holds no equals sign. -/
def Spelled (d : Definition) (item : String) : Prop :=
  ∃ before, item.toList = before ++ '=' :: d.text ∧ '=' ∉ before ∧ trim before ≠ [] ∧
    d.name = String.ofList (trim before)

def value (d : Definition) : Scalar :=
  match readReal? d.text with
  | some x => .number (.real x)
  | none => .string (String.ofList d.text)

/-- Definitions of a variable, whatever the case of its name. -/
def Names (d : Definition) (v : String) : Prop :=
  lower d.name = lower v

def binding (d : Definition) : String × Given :=
  (d.name, definitionValue d.text)

theorem wrap_binding (d : Definition) : d.binding.2.wrap = .ok d.value := by
  show (definitionValue d.text).wrap = .ok d.value
  rw [definitionValue, value]
  cases readReal? d.text with
  | some x => rfl
  | none => rfl

theorem Spelled.unique {d e : Definition} {item : String} (hd : d.Spelled item)
    (he : e.Spelled item) : d = e := by
  obtain ⟨before, hitem, hmark, -, hname⟩ := hd
  obtain ⟨before', hitem', hmark', -, hname'⟩ := he
  have split : splitFirst '=' item.toList = some (before, d.text) :=
    splitFirst_eq_some_iff.mpr ⟨hitem, hmark⟩
  have split' : splitFirst '=' item.toList = some (before', e.text) :=
    splitFirst_eq_some_iff.mpr ⟨hitem', hmark'⟩
  obtain ⟨hbefore, htext⟩ := Prod.mk.inj (Option.some.inj (split.symm.trans split'))
  rw [hbefore, ← hname'] at hname
  exact Definition.ext hname htext

end Definition

theorem readDefinition_eq_ok {item : String} {p : String × Given}
    (h : readDefinition item = .ok p) : ∃ d : Definition, d.Spelled item ∧ p = d.binding := by
  rw [readDefinition] at h
  cases hsplit : splitFirst '=' item.toList with
  | none =>
      rw [hsplit] at h
      exact nomatch h
  | some parts =>
      obtain ⟨before, text⟩ := parts
      obtain ⟨hitem, hmark⟩ := splitFirst_eq_some_iff.mp hsplit
      rw [hsplit] at h
      cases hname : (trim before).isEmpty with
      | true =>
          simp only [hname] at h
          exact nomatch h
      | false =>
          simp only [hname] at h
          cases h
          have named : trim before ≠ [] := List.isEmpty_eq_false_iff.mp hname
          exact ⟨⟨String.ofList (trim before), text⟩, ⟨before, hitem, hmark, named, rfl⟩, rfl⟩

theorem addDefinitions_eq_ok : ∀ {items : List String} {defined vars : Bindings Given},
    addDefinitions defined (items.map .text) = .ok vars →
      ∃ ds : List Definition, List.Forall₂ Definition.Spelled ds items ∧
        vars = Bindings.bindAll defined (ds.map Definition.binding)
  | [], defined, vars, h => by
      cases h
      exact ⟨[], .nil, rfl⟩
  | item :: items, defined, vars, h => by
      rw [List.map_cons, addDefinitions] at h
      cases hread : readDefinition item with
      | error e =>
          rw [hread] at h
          exact nomatch h
      | ok p =>
          rw [hread] at h
          obtain ⟨d, spelled, rfl⟩ := readDefinition_eq_ok hread
          obtain ⟨ds, spells, rfl⟩ := addDefinitions_eq_ok h
          exact ⟨d :: ds, .cons spelled spells, rfl⟩

/-! ## The definition that counts

The induction is on the list of definitions, taken from its end.  A new definition
of another variable changes nothing, a spelling met before only takes the value
over, and a new spelling takes the place at the end of the table. -/

/-- `Newest v ds name`: among the definitions `ds` there is the spelling `name`, and behind the place
where it is met first every spelling of `v` is one that has been met before. -/
def Newest (v : String) (ds : List Definition) (name : String) : Prop :=
  ∃ before d after, ds = before ++ d :: after ∧ d.name = name ∧ (∀ b ∈ before, b.name ≠ name) ∧
    ∀ a ∈ after, a.Names v → a.name = name ∨ ∃ b ∈ before, b.name = a.name

/-- `InEffect v ds d`: of the definitions `ds` it is `d` that counts for the variable `v`. -/
structure InEffect (v : String) (ds : List Definition) (d : Definition) : Prop where
  names : d.Names v
  newest : Newest v ds d.name
  last : ∃ before after, ds = before ++ d :: after ∧ ∀ a ∈ after, a.name ≠ d.name

theorem inEffect_of_new {v : String} {ds : List Definition} {e : Definition} (names : e.Names v)
    (new : ∀ d ∈ ds, d.name ≠ e.name) : InEffect v (ds ++ [e]) e where
  names := names
  newest := ⟨ds, e, [], rfl, rfl, new, nofun⟩
  last := ⟨ds, [], rfl, nofun⟩

/-- What counts stays if a definition of another variable follows, or one with a spelling that has
been met before. -/
theorem InEffect.snoc {v : String} {ds : List Definition} {d e : Definition} (h : InEffect v ds d)
    (other : e.name ≠ d.name) (old : e.Names v → ∃ b ∈ ds, b.name = e.name) :
    InEffect v (ds ++ [e]) d := by
  obtain ⟨names, ⟨before, first, after, rfl, hfirst, hbefore, hafter⟩, before', after', hds, hlast⟩ := h
  refine ⟨names, ⟨before, first, after ++ [e], ?_, hfirst, hbefore, ?_⟩, before', after' ++ [e], ?_, ?_⟩
  · rw [List.append_assoc, List.cons_append]
  · intro a ha named
    rcases List.mem_append.mp ha with ha | ha
    · exact hafter a ha named
    · obtain rfl := List.mem_singleton.mp ha
      obtain ⟨b, hb, same⟩ := old named
      rcases List.mem_append.mp hb with hb | hb
      · exact .inr ⟨b, hb, same⟩
      · rcases List.mem_cons.mp hb with rfl | hb
        · exact absurd (same.symm.trans hfirst) other
        · have named' : b.Names v := (congrArg lower same).trans named
          rw [← same]
          exact hafter b hb named'
  · rw [hds, List.append_assoc, List.cons_append]
  · intro a ha
    rcases List.mem_append.mp ha with ha | ha
    · exact hlast a ha
    · obtain rfl := List.mem_singleton.mp ha
      exact other

/-- A definition that repeats the spelling of the one that counts takes its place. -/
theorem InEffect.again {v : String} {ds : List Definition} {d e : Definition} (h : InEffect v ds d)
    (same : e.name = d.name) : InEffect v (ds ++ [e]) e := by
  obtain ⟨names, ⟨before, first, after, rfl, hfirst, hbefore, hafter⟩, -⟩ := h
  rw [← same] at hfirst hbefore hafter
  refine ⟨(congrArg lower same).trans names, ⟨before, first, after ++ [e], ?_, hfirst, hbefore, ?_⟩, ?_⟩
  · rw [List.append_assoc, List.cons_append]
  · intro a ha named
    rcases List.mem_append.mp ha with ha | ha
    · exact hafter a ha named
    · obtain rfl := List.mem_singleton.mp ha
      exact .inl rfl
  · exact ⟨_, [], rfl, nofun⟩

/-- Of the definitions of a variable there is one that counts. -/
theorem exists_inEffect {v : String} {ds : List Definition} (h : ∃ d ∈ ds, d.Names v) :
    ∃ d, InEffect v ds d := by
  induction ds using List.reverseRecOn with
  | nil =>
      obtain ⟨d, hd, -⟩ := h
      exact nomatch hd
  | append_singleton ds e ih =>
      by_cases earlier : ∃ d ∈ ds, d.Names v
      · obtain ⟨d, hd⟩ := ih earlier
        by_cases same : e.name = d.name
        · exact ⟨e, hd.again same⟩
        · by_cases old : e.Names v → ∃ b ∈ ds, b.name = e.name
          · exact ⟨d, hd.snoc same old⟩
          · obtain ⟨names, new⟩ := Classical.not_imp.mp old
            exact ⟨e, inEffect_of_new names fun b hb heq => new ⟨b, hb, heq⟩⟩
      · obtain ⟨d, hd, names⟩ := h
        rcases List.mem_append.mp hd with hd | hd
        · exact absurd ⟨d, hd, names⟩ earlier
        · obtain rfl := List.mem_singleton.mp hd
          refine ⟨d, inEffect_of_new names fun b hb same => earlier ⟨b, hb, ?_⟩⟩
          exact (congrArg lower same).trans names

/-- In the table of names as they are spelled, no spelling of the variable stands behind the one
that counts. -/
theorem InEffect.place {v : String} {ds : List Definition} {d : Definition} (h : InEffect v ds d) :
    ∃ before after, Bindings.bindAll [] (ds.map Definition.binding) = before ++ d.binding :: after ∧
      ∀ p ∈ after, lower p.1 ≠ lower v := by
  obtain ⟨-, ⟨earlier, first, later, hds, hfirst, fresh, old⟩, before, after, hds', last⟩ := h
  let table := Bindings.bindAll [] (earlier.map Definition.binding)
  have new : first.name ∉ Bindings.names table := by
    intro hname
    obtain ⟨p, hp, same⟩ := List.mem_map.mp hname
    rcases Bindings.mem_bindAll hp with hp | hp
    · obtain ⟨b, hb, rfl⟩ := List.mem_map.mp hp
      exact fresh b hb (same.trans hfirst)
    · exact nomatch hp
  have met : ∀ p ∈ later.map Definition.binding, lower p.1 = lower v →
      p.1 = first.name ∨ p.1 ∈ Bindings.names table := by
    intro p hp named
    obtain ⟨a, ha, rfl⟩ := List.mem_map.mp hp
    rcases old a ha named with same | ⟨b, hb, same⟩
    · exact .inl (same.trans hfirst.symm)
    · refine .inr (Bindings.mem_names_bindAll (.inl ?_))
      rw [List.map_map]
      exact List.mem_map.mpr ⟨b, hb, same⟩
  obtain ⟨front, given, behind, place, hfront, hbehind⟩ :=
    Bindings.bindAll_place (P := fun name => lower name = lower v) (y := first.binding.2) (c := [])
      new nofun met
  have whole : Bindings.bindAll [] (ds.map Definition.binding) =
      front ++ (d.name, given) :: behind := by
    rw [hds, List.map_append, Bindings.bindAll_append, ← hfirst, ← place, ← Bindings.bind_of_notMem new]
    rfl
  -- the value is that of the last definition with this spelling
  have value : Bindings.get? d.name (Bindings.bindAll [] (ds.map Definition.binding)) =
      some (definitionValue d.text) := by
    rw [hds', List.map_append]
    refine Bindings.get?_bindAll_of_last ?_ []
    intro p hp
    obtain ⟨a, ha, rfl⟩ := List.mem_map.mp hp
    exact last a ha
  have unbound : d.name ∉ Bindings.names front := by
    rw [hfront, ← hfirst]
    exact new
  rw [whole, Bindings.get?_append_of_notMem unbound, Bindings.get?, if_pos rfl] at value
  obtain rfl := Option.some.inj value
  exact ⟨front, behind, whole, hbehind⟩

/-- The spelling of all definitions of a variable, if there is only one, is the newest. -/
theorem newest_of_alike {v name : String} {ds : List Definition} (some : ∃ d ∈ ds, d.Names v)
    (alike : ∀ d ∈ ds, d.Names v → d.name = name) : Newest v ds name := by
  obtain ⟨d, names, newest, before, after, hds, -⟩ := exists_inEffect some
  have hd : d ∈ ds := by
    rw [hds]
    exact List.mem_append_right _ List.mem_cons_self
  rw [← alike d hd names]
  exact newest

/-- The last definition of a variable is in effect if its spelling is the one met first last. -/
theorem InEffect.of_last {v : String} {ds before after : List Definition} {d : Definition}
    (place : ds = before ++ d :: after) (names : d.Names v) (last : ∀ a ∈ after, ¬ a.Names v)
    (newest : Newest v ds d.name ∨ ∀ b ∈ before, b.Names v → b.name = d.name) : InEffect v ds d := by
  refine ⟨names, ?_, before, after, place, fun a ha same => ?_⟩
  · rcases newest with newest | alike
    · exact newest
    · have hd : d ∈ ds := by
        rw [place]
        exact List.mem_append_right _ List.mem_cons_self
      refine newest_of_alike ⟨d, hd, names⟩ fun b hb named => ?_
      rw [place, List.mem_append, List.mem_cons] at hb
      rcases hb with hb | rfl | hb
      · exact alike b hb named
      · rfl
      · exact absurd named (last b hb)
  · exact last a ha ((congrArg lower same).trans names)

/-- The definition in effect gives the variable its value. -/
theorem InEffect.eval_eq {v : String} {ds : List Definition} {d : Definition} {env : Environment}
    (effective : InEffect v ds d)
    (built : Environment.ofGiven (Bindings.bindAll [] (ds.map Definition.binding)) = .ok env) :
    (Expr.ident v).eval env = .ok d.value := by
  obtain ⟨before, after, place, behind⟩ := effective.place
  rw [place] at built
  rw [← effective.names] at behind
  obtain ⟨x, hx, found⟩ := Environment.extend_of_last behind built
  obtain rfl := Except.ok.inj (d.wrap_binding.symm.trans hx)
  have same : env.lookup v = env.lookup d.name := by
    rw [Environment.lookup, Environment.lookup, effective.names]
  rw [Expr.eval, same, found]

/-- Which definition of a variable counts.  Items that are accepted spell definitions in one way, and
all of them can be used.  A variable is unknown just when no definition has a spelling of it for its
name; otherwise there is a definition in effect, and its value is what the variable stands for.  The
last definition of the variable counts if its spelling is the one met first last, and so in
particular if all of them are spelled alike. -/
theorem newest_spelling_counts {items : List String} {vars : Bindings Given}
    (accepted : readDefinitions (items.map .text) = .ok vars) :
    ∃ ds env, (∀ ds', List.Forall₂ Definition.Spelled ds' items ↔ ds' = ds) ∧
      Environment.ofGiven vars = .ok env ∧ ∀ v,
      ((Expr.ident v).eval env = .error (Failure.of (.unknownVariable v)) ↔ ∀ d ∈ ds, ¬ d.Names v) ∧
      ((∃ d ∈ ds, d.Names v) → ∃ d, InEffect v ds d) ∧
      (∀ d, InEffect v ds d → (Expr.ident v).eval env = .ok d.value) ∧
      ∀ before d after, ds = before ++ d :: after → d.Names v → (∀ a ∈ after, ¬ a.Names v) →
        Newest v ds d.name ∨ (∀ b ∈ before, b.Names v → b.name = d.name) →
        (Expr.ident v).eval env = .ok d.value := by
  obtain ⟨ds, spelled, rfl⟩ := addDefinitions_eq_ok accepted
  have defined : ∀ p ∈ Bindings.bindAll [] (ds.map Definition.binding), ∃ d ∈ ds, p = d.binding := by
    intro p hp
    rcases Bindings.mem_bindAll hp with hp | hp
    · obtain ⟨d, hd, rfl⟩ := List.mem_map.mp hp
      exact ⟨d, hd, rfl⟩
    · exact nomatch hp
  obtain ⟨env, henv⟩ := Environment.extend_isOk [] fun p hp => by
    obtain ⟨d, -, rfl⟩ := defined p hp
    exact ⟨d.value, d.wrap_binding⟩
  have only : ∀ ds', List.Forall₂ Definition.Spelled ds' items ↔ ds' = ds := by
    intro ds'
    constructor
    · intro spelled'
      exact List.left_unique_forall₂' (fun _ _ _ h h' => h.unique h') spelled' spelled
    · rintro rfl
      exact spelled
  refine ⟨ds, env, only, henv, fun v => ⟨⟨fun unknown d hd names => ?_, fun none => ?_⟩,
    exists_inEffect, fun d effective => effective.eval_eq henv, ?_⟩⟩
  · obtain ⟨e, he⟩ := exists_inEffect ⟨d, hd, names⟩
    rw [he.eval_eq henv] at unknown
    exact nomatch unknown
  · have unbound : env.lookup v = Option.none := by
      rw [Environment.lookup, Environment.extend_of_notMem henv]
      · rfl
      · intro p hp
        obtain ⟨d, hd, rfl⟩ := defined p hp
        exact none d hd
    rw [Expr.eval, unbound]
  · intro before d after place names last newest
    exact (InEffect.of_last place names last newest).eval_eq henv

/-- The spelling `A` is met after the spelling `a`, and so it counts. -/
theorem newest_spelling_counts_over_last : ∃ vars env,
    readDefinitions (["a=1", " A = x", "a=3"].map .text) = .ok vars ∧
    Environment.ofGiven vars = .ok env ∧
    (Expr.ident "a").eval env = .ok (.string " x") ∧
    (Expr.ident "b").eval env = .error (Failure.of (.unknownVariable "b")) := by
  cases accepted : readDefinitions (["a=1", " A = x", "a=3"].map .text) with
  | error e =>
      have some : (readDefinitions (["a=1", " A = x", "a=3"].map .text)).isOk := by decide +kernel
      rw [accepted] at some
      exact nomatch some
  | ok vars =>
      obtain ⟨ds, env, only, henv, counts⟩ := newest_spelling_counts accepted
      let a : Definition := ⟨"a", ['1']⟩
      let A : Definition := ⟨"A", [' ', 'x']⟩
      let again : Definition := ⟨"a", ['3']⟩
      have spelled : [a, A, again] = ds := by
        refine (only _).mp (.cons ?_ (.cons ?_ (.cons ?_ .nil)))
        · exact ⟨['a'], by decide +kernel⟩
        · exact ⟨[' ', 'A', ' '], by decide +kernel⟩
        · exact ⟨['a'], by decide +kernel⟩
      subst spelled
      have lowered : lower "A" = lower "a" := by decide +kernel
      have effective : InEffect "a" [a, A, again] A := by
        refine ⟨lowered, ⟨[a], A, [again], rfl, rfl, ?_, ?_⟩, [a], [again], rfl, ?_⟩
        · intro b hb
          obtain rfl := List.mem_singleton.mp hb
          decide
        · intro b hb _
          obtain rfl := List.mem_singleton.mp hb
          exact .inr ⟨a, List.mem_cons_self, rfl⟩
        · intro b hb
          obtain rfl := List.mem_singleton.mp hb
          decide
      have text : readReal? A.text = none := Option.isNone_iff_eq_none.mp (by decide +kernel)
      have value : A.value = .string " x" := by rw [Definition.value, text]
      refine ⟨vars, env, rfl, henv, ?_, ?_⟩
      · rw [(counts "a").2.2.1 A effective, value]
      · refine (counts "b").1.mpr ?_
        simp only [List.forall_mem_cons, Definition.Names]
        decide +kernel

end Console

end TurtleLogo
