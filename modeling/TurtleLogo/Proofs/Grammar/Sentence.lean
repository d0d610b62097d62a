/-
# `TurtleLogo.Proofs.Grammar.Sentence` — what a parsed text says, and nothing else

The grammar as it is written down for readers has optional and repeated parts:

    program     _NL? (command _NL)*
    order       keyword expression                    two spellings of each keyword
    loop        REPEAT expression [ _NL? (command _NL?)+ ]
    chain       operand (operator operand)*           at each level
    factor      value (^ value)?

`Category.form` states it, and `Derives` says which sequences of terminals it
allows.  On the side of the trees, `glyphs` reads a tree from left to right as
a list of words, values and single marks.  `parse_faithful` joins the two with
the text: what is consumed makes up the text, is a sentence of the grammar,
and reads as the tree does.
-/
import TurtleLogo.Proofs.Grammar.Reading
import TurtleLogo.Program.Parse

namespace TurtleLogo.Grammar

/-! ## Sentences

The relation between trees and tokens forgets nothing of the grammar: if the
tokens are reduced to their terminals, they follow the rules as they are written
for readers. -/

/-- The categories of the grammar. -/
inductive Category where
  | program
  | command
  | kind (k : CommandKind)
  | chain (l : Level)
  | comparator
  | factor
  | value

/-- How a category is made up. -/
inductive Form where
  | terminal (t : Terminal)
  | category (c : Category)
  | both (f g : Form)
  | either (f g : Form)
  | maybe (f : Form)
  | many (f : Form)

namespace Form

def oneOf (f : Form) : List Form → Form
  | [] => f
  | g :: gs => either f (oneOf g gs)

/-- A keyword in its long or its short spelling. -/
def keywords (k : Bool → Keyword) : Form :=
  either (terminal (.keyword (k false))) (terminal (.keyword (k true)))

def signs (s s' : Sign) : Form :=
  both (terminal (.sign s)) (terminal (.sign s'))

def newline : Form := terminal .newline

def expression : Form := category (.chain .comparison)

def operand : Level → Form
  | .comparison => category (.chain .sum)
  | .sum => category (.chain .product)
  | .product => category .factor

def operator : Level → Form
  | .comparison => category .comparator
  | .sum => terminal .addOp
  | .product => terminal .mulOp

end Form

open Form in
/-- The rules of the grammar, one for each category. -/
def Category.form : Category → Form
  | .program => both (maybe newline) (many (both (category .command) newline))
  | .command =>
    oneOf (category (.kind (.order .forward)))
      [category (.kind (.order .backward)), category (.kind (.order .right)),
       category (.kind (.order .left)), category (.kind (.pen true)),
       category (.kind (.pen false)), category (.kind (.order .sleep)), category (.kind .loop),
       category (.kind .comment), category (.kind .stop)]
  | .kind (.order what) => both (keywords (.order what)) expression
  | .kind (.pen up) => keywords (.pen up)
  | .kind .loop =>
    both (terminal (.keyword .loop)) (both expression (both (terminal (.bracket .lsqb))
      (both (maybe newline) (both
        (both (both (category .command) (maybe newline))
          (many (both (category .command) (maybe newline))))
        (terminal (.bracket .rsqb))))))
  | .kind .comment => terminal .comment
  | .kind .stop => terminal (.keyword .stop)
  | .chain l => both (operand l) (many (both (operator l) (operand l)))
  | .comparator =>
    oneOf (terminal (.sign .eq))
      [signs .bang .eq, signs .less .eq, signs .more .eq, terminal (.sign .less),
       terminal (.sign .more)]
  | .factor => both (category .value) (maybe (both (terminal .caret) (category .value)))
  | .value =>
    oneOf (terminal (.atom .number))
      [terminal (.atom .string), terminal (.atom .ident),
       both (terminal (.bracket .lpar)) (both expression (terminal (.bracket .rpar)))]

/-- `Derives f xs`: the terminals `xs` are of form `f`. -/
inductive Derives : Form → List Terminal → Prop
  | terminal {x : Terminal} : Derives (.terminal x) [x]
  | category {c : Category} {xs : List Terminal} : Derives c.form xs → Derives (.category c) xs
  | both {f g : Form} {xs ys : List Terminal} : Derives f xs → Derives g ys →
      Derives (.both f g) (xs ++ ys)
  | left {f g : Form} {xs : List Terminal} : Derives f xs → Derives (.either f g) xs
  | right {f g : Form} {xs : List Terminal} : Derives g xs → Derives (.either f g) xs
  | without {f : Form} : Derives (.maybe f) []
  | with {f : Form} {xs : List Terminal} : Derives f xs → Derives (.maybe f) xs
  | nil {f : Form} : Derives (.many f) []
  | cons {f : Form} {xs ys : List Terminal} : Derives f xs → Derives (.many f) ys →
      Derives (.many f) (xs ++ ys)

theorem Derives.oneOf {f : Form} {xs : List Terminal} (h : Derives f xs) :
    ∀ {g : Form} {gs : List Form}, f ∈ g :: gs → Derives (Form.oneOf g gs) xs
  | g, [], hf => by
      obtain rfl := List.mem_singleton.mp hf
      exact h
  | g, g' :: gs, hf => by
      rcases List.mem_cons.mp hf with rfl | hf
      · exact .left h
      · exact .right (h.oneOf hf)

theorem Derives.keywords {k : Bool → Keyword} (short : Bool) :
    Derives (Form.keywords k) [.keyword (k short)] := by
  cases short with
  | false => exact .left .terminal
  | true => exact .right .terminal

/-- The terminals of some tokens. -/
def kinds (ts : List Token) : List Terminal :=
  ts.map Token.terminal

theorem Token.Is.kinds_eq {t : Token} {x : Terminal} (h : t.Is x) : kinds [t] = [x] := by
  rw [kinds, List.map_singleton, h.1]

theorem Token.Is.derives {t : Token} {x : Terminal} (h : t.Is x) :
    Derives (.terminal x) (kinds [t]) :=
  h.kinds_eq ▸ .terminal

theorem kinds_append (ts us : List Token) : kinds (ts ++ us) = kinds ts ++ kinds us :=
  List.map_append

theorem kinds_cons (t : Token) (us : List Token) : kinds (t :: us) = kinds [t] ++ kinds us :=
  rfl

theorem kinds_of_signs {ts : List Token} {ss : List Sign}
    (h : List.Forall₂ (fun t s => Token.Is t (.sign s)) ts ss) : kinds ts = ss.map .sign := by
  induction h with
  | nil => rfl
  | @cons t s ts ss ht _ ih =>
      show t.terminal :: kinds ts = .sign s :: ss.map .sign
      rw [ht.1, ih]

theorem Comparator.derives (c : Comparator) :
    Derives (.category .comparator) (c.signs.map .sign) := by
  refine .category ?_
  cases c with
  | eq => exact .left .terminal
  | ne => exact .right (.left (.both .terminal .terminal))
  | le => exact .right (.right (.left (.both .terminal .terminal)))
  | ge => exact .right (.right (.right (.left (.both .terminal .terminal))))
  | lt => exact .right (.right (.right (.right (.left .terminal))))
  | gt => exact .right (.right (.right (.right (.right .terminal))))

theorem SpellsOperator.derives {l : Level} {op : Operator} {ts : List Token}
    (h : SpellsOperator l op ts) : Derives (.operator l) (kinds ts) := by
  cases h with
  | sum ht _ => exact ht.derives
  | product ht _ => exact ht.derives
  | @comparison c ts hts =>
      rw [kinds_of_signs hts]
      exact c.derives

/-- The form of what stands on a rung. -/
def Rung.form : Rung → Form
  | .chain l => .category (.chain l)
  | .factor => .category .factor
  | .value => .category .value

theorem operandRung_form (l : Level) : Rung.form l.operandRung = .operand l := by
  cases l <;> rfl

mutual
theorem Spells.derives : ∀ {r : Rung} {e : Expr} {ts : List Token}, Spells r e ts →
    Derives (Rung.form r) (kinds ts)
  | _, _, _, .number ht _ => .category (.left ht.derives)
  | _, _, _, .string ht => .category (.right (.left ht.derives))
  | _, _, _, .ident ht => .category (.right (.right (.left ht.derives)))
  | _, _, _, @Spells.group lp rp e ts hl he hr => by
      rw [kinds_cons, kinds_append]
      exact .category (.right (.right (.right (.both hl.derives (.both he.derives hr.derives)))))
  | _, _, _, @Spells.factor b ts hb => by
      rw [← List.append_nil (kinds ts)]
      exact .category (.both hb.derives .without)
  | _, _, _, @Spells.power b x t ts us hb ht hx => by
      rw [kinds_append, kinds_cons]
      exact .category (.both hb.derives (.with (.both ht.derives hx.derives)))
  | _, _, _, @Spells.chain l e ls ts us he hls => by
      rw [kinds_append]
      exact .category (.both (operandRung_form l ▸ he.derives) hls.derives)

theorem SpellsLinks.derives : ∀ {l : Level} {ls : Links} {ts : List Token}, SpellsLinks l ls ts →
    Derives (.many (.both (.operator l) (.operand l))) (kinds ts)
  | _, _, _, .nil => .nil
  | _, _, _, @SpellsLinks.cons l op e ls os ts us hop he hls => by
      rw [← List.append_assoc, kinds_append, kinds_append]
      exact .cons (.both hop.derives (operandRung_form l ▸ he.derives)) hls.derives
end

theorem Break.derives {nl : List Token} (h : Break nl) : Derives (.maybe .newline) (kinds nl) := by
  cases h with
  | none => exact .without
  | line ht => exact .with ht.derives

theorem Derives.command {k : CommandKind} {xs : List Terminal}
    (h : Derives (.category (.kind k)) xs) : Derives (.category .command) xs := by
  refine .category (h.oneOf ?_)
  obtain (_ | _ | _ | _ | _) | (_ | _) | _ | _ | _ := k <;> simp

mutual
theorem SpellsCommand.derives : ∀ {c : Command} {ts : List Token}, SpellsCommand c ts →
    Derives (.category .command) (kinds ts)
  | _, _, @SpellsCommand.order what short t e ts ht he => by
      refine Derives.command (k := .order what) (.category ?_)
      rw [kinds_cons, ht.kinds_eq]
      exact .both (.keywords short) he.derives
  | _, _, @SpellsCommand.pen up short t ht => by
      refine Derives.command (k := .pen up) (.category ?_)
      rw [ht.kinds_eq]
      exact .keywords short
  | _, _, .stop ht => .command (k := .stop) (.category ht.derives)
  | _, _, .comment ht => .command (k := .comment) (.category ht.derives)
  | _, _, @SpellsCommand.loop t lb rb e body ts nl us ht he hlb hnl hbody hne hrb => by
      refine Derives.command (k := .loop) (.category ?_)
      rw [kinds_cons t, kinds_append, kinds_cons lb, kinds_append, kinds_append]
      refine .both ht.derives (.both he.derives (.both hlb.derives (.both hnl.derives
        (.both ?_ hrb.derives))))
      cases hbody with
      | nil => exact absurd rfl hne
      | @cons c cs ts nl us hc hnl hcs =>
          rw [← List.append_assoc, kinds_append, kinds_append]
          exact .both (.both hc.derives hnl.derives) hcs.derives

theorem SpellsBody.derives : ∀ {cs : List Command} {ts : List Token}, SpellsBody cs ts →
    Derives (.many (.both (.category .command) (.maybe .newline))) (kinds ts)
  | _, _, .nil => .nil
  | _, _, @SpellsBody.cons c cs ts nl us hc hnl hcs => by
      rw [← List.append_assoc, kinds_append, kinds_append]
      exact .cons (.both hc.derives hnl.derives) hcs.derives
end

theorem SpellsLines.derives {cs : List Command} {ts : List Token} (h : SpellsLines cs ts) :
    Derives (.many (.both (.category .command) .newline)) (kinds ts) := by
  induction h with
  | nil => exact .nil
  | @cons c cs t ts us hc ht _ ih =>
      rw [List.append_cons, kinds_append, kinds_append]
      exact .cons (.both hc.derives ht.derives) ih

theorem SpellsProgram.derives {p : Program} {ts : List Token} (h : SpellsProgram p ts) :
    Derives (.category .program) (kinds ts) := by
  obtain ⟨nl, us, hnl, hus, rfl⟩ := h
  rw [kinds_append]
  exact .category (.both hnl.derives hus.derives)

/-! ## Reading a tree from left to right

Levels of a chain without an operator, line ends and blanks leave no trace in what
a reader sees, so a tree and its tokens can be compared as flat lists. -/

/-- What a reader sees of a token: a keyword up to its spelling, the value of a number or a string,
or the characters themselves. -/
inductive Glyph where
  | word (k : CommandKind)
  | comment (text : String)
  | number (x : Float)
  | string (s : String)
  | ident (name : String)
  | mark (c : Char)

/-- The glyph of a token.  Line ends and blanks have none, nor has a number without a value. -/
def Token.glyph? (t : Token) : Option Glyph :=
  match t.terminal with
  | .keyword k => some (.word k.kind)
  | .comment => some (.comment t.text)
  | .atom .number => (Decimal.readReal? t.lexeme).map .number
  | .atom .string => some (.string (String.ofList (unquote t.lexeme)))
  | .atom .ident => some (.ident t.text)
  | .newline | .blank => none
  | .addOp | .mulOp | .caret | .sign _ | .bracket _ => t.lexeme.head?.map .mark

def Operator.glyphs (op : Operator) : List Glyph :=
  op.symbol.toList.map .mark

mutual
def Expr.glyphs : Expr → List Glyph
  | .number x => [.number x]
  | .string s => [.string s]
  | .ident name => [.ident name]
  | .group e => .mark '(' :: (Expr.glyphs e ++ [.mark ')'])
  | .factor b => Expr.glyphs b
  | .power b x => Expr.glyphs b ++ .mark '^' :: Expr.glyphs x
  | .chain _ e rest => Expr.glyphs e ++ Links.glyphs rest
  | .stray _ => []

def Links.glyphs : Links → List Glyph
  | .nil => []
  | .cons op e rest => Operator.glyphs op ++ (Expr.glyphs e ++ Links.glyphs rest)
end

mutual
def Command.glyphs : Command → List Glyph
  | .order what e _ => .word (.order what) :: Expr.glyphs e
  | .gesture .penUp _ => [.word (.pen true)]
  | .gesture .penDown _ => [.word (.pen false)]
  | .gesture .stop _ => [.word .stop]
  | .loop e body _ =>
    .word .loop :: (Expr.glyphs e ++ .mark '[' :: (commandsGlyphs body ++ [.mark ']']))
  | .comment text _ => [.comment text]
  | .unknown _ | .stray .. => []

def commandsGlyphs : List Command → List Glyph
  | [] => []
  | c :: cs => Command.glyphs c ++ commandsGlyphs cs
end

/-- The tokens that a reader sees: neither blanks nor line ends. -/
def visible (us : List Token) : List Token :=
  us.filter fun t => t.terminal != .blank && t.terminal != .newline

/-- `Shows ts gs`: a reader sees the glyphs `gs` in the tokens `ts`. -/
def Shows (ts : List Token) (gs : List Glyph) : Prop :=
  (visible ts).map Token.glyph? = gs.map some

theorem Shows.append {ts us : List Token} {gs hs : List Glyph} (h : Shows ts gs)
    (h' : Shows us hs) : Shows (ts ++ us) (gs ++ hs) := by
  unfold Shows visible at *
  rw [List.filter_append, List.map_append, List.map_append, h, h']

theorem Shows.cons {t : Token} {us : List Token} {g : Glyph} {gs : List Glyph}
    (h : Shows [t] [g]) (h' : Shows us gs) : Shows (t :: us) (g :: gs) :=
  Shows.append h h'

theorem shows_nil : Shows [] [] := rfl

theorem Token.Is.shows {t : Token} {x : Terminal} {g : Glyph} (h : t.Is x) (hb : x ≠ .blank)
    (hn : x ≠ .newline) (hg : t.glyph? = some g) : Shows [t] [g] := by
  have hvisible : visible [t] = [t] := by simp [visible, h.1, hb, hn]
  rw [Shows, hvisible, List.map_singleton, hg]
  rfl

theorem Token.Is.shows_newline {t : Token} (h : t.Is .newline) : Shows [t] [] := by
  simp [Shows, visible, h.1]

/-- The character of a terminal that has only one. -/
def Terminal.char? : Terminal → Option Char
  | .caret => some '^'
  | .sign s => some s.char
  | .bracket b => some b.char
  | _ => none

theorem Token.Is.shows_char {t : Token} {x : Terminal} {c : Char} (h : t.Is x)
    (hx : x.char? = some c) : Shows [t] [.mark c] := by
  cases x with
  | caret | sign s | bracket b =>
      obtain ⟨hterminal, c', hlexeme, hc'⟩ := h
      have hc : c' = c := (beq_iff_eq.mp hc').trans (Option.some.inj hx)
      simp [Shows, visible, Token.glyph?, hterminal, hlexeme, hc]
  | _ => cases hx

theorem shows_signs {ts : List Token} {ss : List Sign}
    (h : List.Forall₂ (fun t s => Token.Is t (.sign s)) ts ss) :
    Shows ts (ss.map fun s => .mark s.char) := by
  induction h with
  | nil => exact shows_nil
  | cons ht _ ih => exact Shows.cons (ht.shows_char rfl) ih

theorem Token.Is.shows_operator {t : Token} {x : Terminal} {op : Operator} (h : t.Is x)
    (hx : x = .addOp ∨ x = .mulOp) (hop : Operator.ofSymbol? t.text = some op) :
    Shows [t] (Operator.glyphs op) := by
  have hsymbol : op.symbol.toList = t.lexeme := by
    have heq : op.symbol = t.text := by simpa using List.find?_some hop
    rw [heq, Token.text, String.toList_ofList]
  rw [Operator.glyphs, hsymbol]
  rcases hx with rfl | rfl
  · obtain ⟨hterminal, c, hlexeme, -⟩ := h
    simp [Shows, visible, Token.glyph?, hterminal, hlexeme]
  · obtain ⟨hterminal, c, hlexeme, -⟩ := h
    simp [Shows, visible, Token.glyph?, hterminal, hlexeme]

theorem SpellsOperator.shows {l : Level} {op : Operator} {ts : List Token}
    (h : SpellsOperator l op ts) : Shows ts (Operator.glyphs op) := by
  cases h with
  | sum ht hop => exact ht.shows_operator (.inl rfl) hop
  | product ht hop => exact ht.shows_operator (.inr rfl) hop
  | @comparison c ts hts =>
      have hglyphs : Operator.glyphs c.operator = c.signs.map fun s => .mark s.char := by
        cases c <;> rfl
      rw [hglyphs]
      exact shows_signs hts

theorem Break.shows {nl : List Token} (h : Break nl) : Shows nl [] := by
  cases h with
  | none => exact shows_nil
  | line ht => exact ht.shows_newline

mutual
theorem Spells.shows : ∀ {r : Rung} {e : Expr} {ts : List Token}, Spells r e ts →
    Shows ts (Expr.glyphs e)
  | _, _, _, .number ht hx => ht.shows nofun nofun (by simp [Token.glyph?, ht.1, hx])
  | _, _, _, .string ht => ht.shows nofun nofun (by simp [Token.glyph?, ht.1])
  | _, _, _, .ident ht => ht.shows nofun nofun (by simp [Token.glyph?, ht.1])
  | _, _, _, .group hl he hr =>
      Shows.cons (hl.shows_char rfl) (he.shows.append (hr.shows_char rfl))
  | _, _, _, .factor hb => hb.shows
  | _, _, _, .power hb ht hx => hb.shows.append (Shows.cons (ht.shows_char rfl) hx.shows)
  | _, _, _, .chain he hls => he.shows.append hls.shows

theorem SpellsLinks.shows : ∀ {l : Level} {ls : Links} {ts : List Token}, SpellsLinks l ls ts →
    Shows ts (Links.glyphs ls)
  | _, _, _, .nil => shows_nil
  | _, _, _, .cons hop he hls => hop.shows.append (he.shows.append hls.shows)
end

theorem Token.Is.shows_keyword {t : Token} {k : Keyword} (h : t.Is (.keyword k)) :
    Shows [t] [.word k.kind] :=
  h.shows nofun nofun (by simp [Token.glyph?, h.1])

mutual
theorem SpellsCommand.shows : ∀ {c : Command} {ts : List Token}, SpellsCommand c ts →
    Shows ts (Command.glyphs c)
  | _, _, .order ht he => Shows.cons ht.shows_keyword he.shows
  | _, _, @SpellsCommand.pen up _ _ ht => by
      cases up with
      | false => exact ht.shows_keyword
      | true => exact ht.shows_keyword
  | _, _, .stop ht => ht.shows_keyword
  | _, _, .comment ht => ht.shows nofun nofun (by simp [Token.glyph?, ht.1])
  | _, _, .loop ht he hlb hnl hbody _ hrb =>
      Shows.cons ht.shows_keyword (he.shows.append (Shows.cons (hlb.shows_char rfl)
        (hnl.shows.append (hbody.shows.append (hrb.shows_char rfl)))))

theorem SpellsBody.shows : ∀ {cs : List Command} {ts : List Token}, SpellsBody cs ts →
    Shows ts (commandsGlyphs cs)
  | _, _, .nil => shows_nil
  | _, _, .cons hc hnl hcs => hc.shows.append (hnl.shows.append hcs.shows)
end

theorem SpellsLines.shows {cs : List Command} {ts : List Token} (h : SpellsLines cs ts) :
    Shows ts (commandsGlyphs cs) := by
  induction h with
  | nil => exact shows_nil
  | cons hc ht _ ih => exact hc.shows.append (ht.shows_newline.append ih)

theorem SpellsProgram.shows {p : Program} {ts : List Token} (h : SpellsProgram p ts) :
    Shows ts (commandsGlyphs p) := by
  obtain ⟨nl, us, hnl, hus, rfl⟩ := h
  exact hnl.shows.append hus.shows

/-! ## Parsed texts

The three views of a text come together here: its characters, its terminals and
its tree. -/

theorem visible_significant (us : List Token) : visible (significant us) = visible us := by
  unfold visible significant
  rw [List.filter_filter]
  congr 1
  funext t
  cases t.terminal != .blank <;> simp

end TurtleLogo.Grammar

namespace TurtleLogo

open Grammar

theorem Program.parse_eq_ok_iff {source : String} {p : Program} :
    Program.parse source = .ok p ↔ Grammar.parse source.toList = .program p := by
  simp only [Program.parse]
  cases Grammar.parse source.toList with
  | program q => simp
  | complaint c => simp
  | stuck => simp

/-- Nothing of a parsed text is lost and nothing is invented.  The tokens that are consumed, blanks
among them, are lexemes of their terminals and make up the text; without the blanks they are a
sentence of the grammar; and what is left without the line ends reads as the tree does. -/
theorem parse_faithful {source : String} {p : Program} (h : Program.parse source = .ok p) :
    (∀ t ∈ consumed source.toList, t.terminal.Lexeme t.lexeme) ∧
      (consumed source.toList).flatMap Token.lexeme = source.toList ∧
      Derives (.category .program) ((significant (consumed source.toList)).map Token.terminal) ∧
      (visible (consumed source.toList)).map Token.glyph? = (commandsGlyphs p).map some := by
  obtain ⟨hlexed, hp⟩ := consumed_spells (Program.parse_eq_ok_iff.mp h)
  refine ⟨fun t ht => (hlexed.is t ht).2, ?_, hp.derives, ?_⟩
  · have htext := hlexed.spelling_append
    rw [List.append_nil] at htext
    exact htext.symm
  · rw [← visible_significant]
    exact hp.shows

/-- A loop with a comment in its brackets, a name spelled like a keyword, an operator of two signs
and a number. -/
theorem parse_faithful_loop :
    let source := "repeat fd<=n [# a\nlt \"b\"^c\nbk 2.50]\n"
    let one := fun e => Expr.chain .sum (.chain .product e .nil) .nil
    let whole := fun e => Expr.chain .comparison (one e) .nil
    let p := [Command.loop
      (.chain .comparison (one (.factor (.ident "fd")))
        (.cons .le (one (.factor (.ident "n"))) .nil))
      [.comment "# a" (some 1),
       .order .left (whole (.power (.string "b") (.ident "c"))) (some 2),
       .order .backward (whole (.factor (.number 2.5))) (some 3)]
      (some 1)]
    Program.parse source = .ok p ∧
      (visible (consumed source.toList)).map Token.glyph? = (commandsGlyphs p).map some :=
  ⟨rfl, (parse_faithful rfl).2.2.2⟩

end TurtleLogo
