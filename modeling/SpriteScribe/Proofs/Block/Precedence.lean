/-
The text of an operator block says which operator is applied to what. Text is read by cutting it into
tokens and reading these with the grammar of expressions; a text that is put together from expressions
the way the grammar puts together their tokens is read as what it was put together for (`Spelled`).
Templates ask for parentheses around operators inside operators, which is enough for every block of
operators and calls to be read back as it was, at any depth.
-/
import Mathlib.Data.List.SplitBy
import SpriteScribe.Block.Render
import SpriteScribe.Proofs.Block.Grammar
import SpriteScribe.Proofs.Lookup

namespace SpriteScribe.Grammar

/-! ## Cutting text into tokens -/

/-- A character of names and numbers, which are operands alike. -/
def isWordChar (c : Char) : Bool := c.isAlphanum || c = '_' || c = '$'

def isSignChar (c : Char) : Bool := ['!', '%', '&', '*', '+', '-', '/', '<', '=', '>', '|'].contains c

/-- Whether a character belongs to the same token as the one before it. Signs are taken together as far
as they go: side by side they are another operator, if any. -/
def joins (c d : Char) : Bool := isWordChar c && isWordChar d || isSignChar c && isSignChar d

/-- What is not a word, as it is written. -/
def marks : List (List Char × List Token) :=
  [([' '], []), (['('], [.lparen]), ([')'], [.rparen]), ([','], [.comma]), (['.'], [.dot]), (['!'], [.bang]),
   (['|', '|'], [.op .or]), (['&', '&'], [.op .and]), (['=', '='], [.op .eq]), (['<'], [.op .lt]),
   (['>'], [.op .gt]), (['+'], [.op .add]), (['-'], [.op .sub]), (['*'], [.op .mul]), (['/'], [.op .div]),
   (['%'], [.op .mod])]

/-- What a run of characters that belong together stands for. -/
def ofRun? (run : List Char) : Option (List Token) :=
  if run.all isWordChar then some [.word run] else marks.lookup run

/-- The tokens of a text, unless there is something in it that is none. -/
def tokens? (cs : List Char) : Option (List Token) := ((cs.splitBy joins).mapM ofRun?).map List.flatten

theorem tokens?_append {a b : List Char} {ts us : List Token}
    (hjoin : ∀ x ∈ a.getLast?, ∀ y ∈ b.head?, joins x y = false) (ha : tokens? a = some ts)
    (hb : tokens? b = some us) : tokens? (a ++ b) = some (ts ++ us) := by
  obtain ⟨ta, hta, rfl⟩ := Option.map_eq_some_iff.1 ha
  obtain ⟨tb, htb, rfl⟩ := Option.map_eq_some_iff.1 hb
  rw [tokens?, List.splitBy_append hjoin, List.mapM_append, hta, htb]
  simp

/-- A word as a text. -/
def isWord (w : List Char) : Bool := !w.isEmpty && w.all isWordChar

theorem tokens?_word {w : List Char} (hw : isWord w = true) : tokens? w = some [.word w] := by
  rw [isWord, Bool.and_eq_true, Bool.not_eq_true', List.isEmpty_eq_false_iff] at hw
  obtain ⟨hne, hall⟩ := hw
  have hchain : w.IsChain fun x y => joins x y = true := by
    refine (List.pairwise_of_forall_mem_list fun x hx y hy => ?_).isChain
    simp [joins, List.all_eq_true.1 hall x hx, List.all_eq_true.1 hall y hy]
  rw [tokens?, List.splitBy_of_isChain hne hchain]
  simp [ofRun?, hall]

/-- A character that belongs to no other. -/
def isLone (c : Char) : Bool := !isWordChar c && !isSignChar c

theorem joins_lone_left {c : Char} (hc : isLone c = true) (d : Char) : joins c d = false := by
  simp only [isLone, Bool.and_eq_true, Bool.not_eq_true'] at hc
  simp [joins, hc.1, hc.2]

theorem joins_lone_right {d : Char} (hd : isLone d = true) (c : Char) : joins c d = false := by
  simp only [isLone, Bool.and_eq_true, Bool.not_eq_true'] at hd
  simp [joins, hd.1, hd.2]

/-- A lone character sets off what is before it from what is after it. -/
theorem tokens?_lone {a b : List Char} {c : Char} {ts us vs : List Token} (hc : isLone c = true)
    (ha : tokens? a = some ts) (hm : tokens? [c] = some us) (hb : tokens? b = some vs) :
    tokens? (a ++ c :: b) = some (ts ++ (us ++ vs)) := by
  refine tokens?_append (fun x _ y hy => ?_) ha (tokens?_append (a := [c]) (fun x hx y _ => ?_) hm hb)
  · rw [List.head?_cons, Option.mem_some_iff] at hy
    exact joins_lone_right (hy ▸ hc) x
  · rw [List.getLast?_singleton, Option.mem_some_iff] at hx
    exact joins_lone_left (hx ▸ hc) y

theorem not_isWordChar_of_sign {c : Char} (hc : isSignChar c = true) : isWordChar c = false := by
  have hall : ['!', '%', '&', '*', '+', '-', '/', '<', '=', '>', '|'].all (!isWordChar ·) = true := by decide
  simpa using List.all_eq_true.1 hall c (List.contains_iff_mem.1 hc)

/-- Whether a token is an operator, of one operand or of two. -/
def Token.isOperator : Token → Bool
  | .op _ => true
  | .bang => true
  | _ => false

theorem Token.isPlain_of_isOperator {t : Token} (ht : t.isOperator = true) : t.isPlain = true := by
  cases t <;> first | rfl | cases ht

theorem Token.not_fits_of_isOperator {t : Token} (ht : t.isOperator = true) : ¬ t.Fits 7 := by
  intro h
  cases t with
  | op o => have hle := o.level_le; have h : 7 ≤ o.level := h; omega
  | bang => exact absurd (show 7 ≤ 6 from h) (by omega)
  | _ => cases ht

theorem marks_sign : ∀ m ∈ marks, m.1.head?.any isSignChar = true → ∃ t, m.2 = [t] ∧ t.isOperator = true := by
  have hall : marks.all (fun m =>
      !m.1.head?.any isSignChar || (m.2.length == 1 && m.2.all Token.isOperator)) = true := by
    decide
  intro m hm hsign
  have hm := List.all_eq_true.1 hall m hm
  simp only [hsign, Bool.not_true, Bool.false_or, Bool.and_eq_true, beq_iff_eq, List.length_eq_one_iff] at hm
  obtain ⟨⟨t, ht⟩, hop⟩ := hm
  exact ⟨t, ht, by simpa [ht] using hop⟩

/-- A text that begins with a sign begins with an operator. -/
theorem tokens?_of_sign {c : Char} {cs : List Char} {ts : List Token} (hc : isSignChar c = true)
    (h : tokens? (c :: cs) = some ts) : ∃ t us, ts = t :: us ∧ t.isOperator = true := by
  obtain ⟨us, hus, rfl⟩ := Option.map_eq_some_iff.1 h
  have hflat := List.flatten_splitBy joins (c :: cs)
  have hne := List.nil_notMem_splitBy joins (c :: cs)
  rcases hruns : (c :: cs).splitBy joins with - | ⟨- | ⟨d, run⟩, runs⟩
  · rw [hruns] at hflat; cases hflat
  · rw [hruns] at hne; simp at hne
  · rw [hruns] at hflat hus
    obtain rfl : d = c := (List.cons.inj hflat).1
    rw [List.mapM_cons, Option.bind_eq_bind, Option.bind_eq_some_iff] at hus
    obtain ⟨first, hfirst, hus⟩ := hus
    obtain ⟨rest, -, hrest⟩ := Option.bind_eq_some_iff.1 hus
    cases hrest
    rw [ofRun?, List.all_cons, not_isWordChar_of_sign hc, if_neg (by simp)] at hfirst
    obtain ⟨t, rfl, ht⟩ := marks_sign (d :: run, first) (mem_of_lookup hfirst) hc
    exact ⟨t, rest.flatten, rfl, ht⟩

/-! ## Texts of expressions -/

/-- A text that is read as an expression of a level. -/
def Spelled (n : Nat) (cs : List Char) (e : Tree) : Prop := ∃ ts, tokens? cs = some ts ∧ Derives n ts e

/-- A text that is read as the arguments of a call. -/
def SpelledArgs (cs : List Char) (es : List Tree) : Prop := ∃ ts, tokens? cs = some ts ∧ DerivesArgs ts es

/-- What a text is read as. -/
def Reads (text : String) (e : Tree) : Prop := Spelled 0 text.toList e

theorem Reads.unique {text : String} {e e' : Tree} (h : Reads text e) (h' : Reads text e') : e = e' := by
  obtain ⟨ts, ht, h⟩ := h
  obtain ⟨ts', ht', h'⟩ := h'
  cases ht.symm.trans ht'
  exact h.unique h'

/-- How an operator is written between its operands. -/
def Operator.sign : Operator → List Char
  | .or => ['|', '|']
  | .and => ['&', '&']
  | .eq => ['=', '=']
  | .lt => ['<']
  | .gt => ['>']
  | .add => ['+']
  | .sub => ['-']
  | .mul => ['*']
  | .div => ['/']
  | .mod => ['%']

theorem tokens?_sign (o : Operator) : tokens? o.sign = some [.op o] := by
  cases o <;> rfl

namespace Spelled

variable {n : Nat} {cs ds : List Char} {e l r : Tree} {es : List Tree}

theorem of_le {m : Nat} (h : Spelled m cs e) (hn : n ≤ m) : Spelled n cs e := by
  obtain ⟨ts, ht, h⟩ := h
  exact ⟨ts, ht, h.of_le hn h.le⟩

/-- What calls and names begin with is no sign. -/
theorem not_sign (h : Spelled 7 cs e) : ∀ c ∈ cs.head?, isSignChar c = false := by
  intro c hc
  obtain ⟨ts, ht, h⟩ := h
  obtain ⟨cs, rfl⟩ := List.head?_eq_some_iff.1 hc
  by_contra hsign
  obtain ⟨t, us, rfl, hop⟩ := tokens?_of_sign (Bool.not_eq_false _ ▸ hsign) ht
  exact Token.not_fits_of_isOperator hop (h.surface_fits t (mem_surface .nil (Token.isPlain_of_isOperator hop) us))

theorem name {w : List Char} (hw : isWord w = true) : Spelled 8 w (.name w) :=
  ⟨[.word w], tokens?_word hw, .name w⟩

theorem group (h : Spelled 0 cs e) : Spelled 8 ('(' :: (cs ++ [')'])) e := by
  obtain ⟨ts, ht, h⟩ := h
  have hclose := tokens?_lone (c := ')') rfl ht rfl (b := []) rfl
  exact ⟨_, tokens?_lone (c := '(') rfl (a := []) rfl rfl hclose, .group h⟩

theorem member {w : List Char} (h : Spelled 7 cs e) (hw : isWord w = true) :
    Spelled 7 (cs ++ '.' :: w) (.member e w) := by
  obtain ⟨ts, ht, h⟩ := h
  exact ⟨_, tokens?_lone (c := '.') rfl ht rfl (tokens?_word hw), .member w h⟩

theorem call (h : Spelled 7 cs e) (hs : SpelledArgs ds es) : Spelled 7 (cs ++ '(' :: (ds ++ [')'])) (.call e es) := by
  obtain ⟨ts, ht, h⟩ := h
  obtain ⟨us, hu, hs⟩ := hs
  have hclose := tokens?_lone (c := ')') rfl hu rfl (b := []) rfl
  exact ⟨_, tokens?_lone (c := '(') rfl ht rfl hclose, .call h hs⟩

/-- Negation is the one operator with nothing between it and its operand. -/
theorem not (h : Spelled 7 cs e) : Spelled 6 ('!' :: cs) (.not e) := by
  have hhead := h.not_sign
  obtain ⟨ts, ht, h⟩ := h
  refine ⟨_, tokens?_append (a := ['!']) (fun x hx y hy => ?_) rfl ht, .not (h.of_le (by omega) (by omega))⟩
  rw [List.getLast?_singleton, Option.mem_some_iff] at hx
  subst hx
  rw [joins, hhead y hy]; rfl

theorem binary (o : Operator) (hl : Spelled o.level cs l) (hr : Spelled (o.level + 1) ds r) :
    Spelled o.level (cs ++ ' ' :: (o.sign ++ ' ' :: ds)) (.binary o l r) := by
  obtain ⟨ts, ht, hl⟩ := hl
  obtain ⟨us, hu, hr⟩ := hr
  have hright := tokens?_lone (c := ' ') rfl (tokens?_sign o) rfl hu
  exact ⟨_, tokens?_lone (c := ' ') rfl ht rfl hright, .binary o hl hr⟩

end Spelled

namespace SpelledArgs

theorem none : SpelledArgs [] [] := ⟨[], rfl, .none⟩

theorem last {cs : List Char} {e : Tree} (h : Spelled 0 cs e) : SpelledArgs cs [e] := by
  obtain ⟨ts, ht, h⟩ := h
  exact ⟨ts, ht, .last h⟩

theorem more {cs ds : List Char} {e e' : Tree} {es : List Tree} (h : Spelled 0 cs e) (hs : SpelledArgs ds (e' :: es)) :
    SpelledArgs (cs ++ ',' :: ' ' :: ds) (e :: e' :: es) := by
  obtain ⟨ts, ht, h⟩ := h
  obtain ⟨us, hu, hs⟩ := hs
  have hne : us ≠ [] := by
    rintro rfl
    cases hs.nil_inv
  have hblank := tokens?_lone (c := ' ') rfl (a := []) rfl rfl hu
  exact ⟨_, tokens?_lone (c := ',') rfl ht rfl hblank, .more h hs hne⟩

end SpelledArgs

end SpriteScribe.Grammar

namespace SpriteScribe

open Grammar

/-! ## Expression blocks -/

/-- What a block applies to its arguments. -/
inductive Head where
  | operator (o : Operator)
  | negation
  | random
  | method (selector : String)
deriving DecidableEq, Repr

namespace Head

def table : List (String × Head) :=
  [("reportSum", .operator .add), ("reportDifference", .operator .sub), ("reportProduct", .operator .mul),
   ("reportQuotient", .operator .div), ("reportModulus", .operator .mod), ("reportLessThan", .operator .lt),
   ("reportEquals", .operator .eq), ("reportGreaterThan", .operator .gt), ("reportAnd", .operator .and),
   ("reportOr", .operator .or), ("reportNot", .negation), ("reportRandom", .random)]

def ofSelector (selector : String) : Head := (table.lookup selector).getD (.method selector)

def isIdentifier (w : List Char) : Bool := isWord w && w.head?.all (!·.isDigit)

/-- Whether a block can have so many arguments. A method has a name that can be written, and no template. -/
def takes : Head → Nat → Bool
  | .operator _, n => n == 2
  | .negation, n => n == 1
  | .random, n => n == 2
  | .method s, _ => isIdentifier s.toList && (Template.lookup? s).isNone

/-- What the block says, applied to what its arguments say. -/
def apply : Head → List Tree → Tree
  | .operator o, [l, r] => .binary o l r
  | .negation, [e] => .not e
  | .random, es => .call (.name "random".toList) es
  | .method s, es => .call (.member (.name "this".toList) s.toList) es
  | _, es => .call (.name []) es

end Head

/-- An operand: letters and digits, at least one. -/
def isOperand (w : List Char) : Bool := !w.isEmpty && w.all Char.isAlphanum

mutual

/-- An argument that is an operand or an expression block. -/
def Arg.isExpression : Arg → Bool
  | .literal w => isOperand w.toList
  | .block b => b.isExpression
  | _ => false

/-- A block that is an operator, a negation, a random number or a call, of as many arguments as it can
have, where these are expressions again. -/
def Block.isExpression : Block → Bool
  | .mk s args => (Head.ofSelector s).takes args.length && areExpressions args

def areExpressions : List Arg → Bool
  | [] => true
  | a :: as => a.isExpression && areExpressions as

end

mutual

/-- What an argument says; those that are no expressions do not matter. -/
def Arg.tree : Arg → Tree
  | .literal w => .name w.toList
  | .block b => b.tree
  | _ => .name []

/-- What a block says. -/
def Block.tree : Block → Tree
  | .mk s args => (Head.ofSelector s).apply (trees args)

def trees : List Arg → List Tree
  | [] => []
  | a :: as => a.tree :: trees as

end

theorem areExpressions_eq (args : List Arg) : areExpressions args = args.all Arg.isExpression := by
  induction args with
  | nil => rfl
  | cons a as ih => rw [areExpressions, ih, List.all_cons]

theorem trees_eq (args : List Arg) : trees args = args.map Arg.tree := by
  induction args with
  | nil => rfl
  | cons a as ih => rw [trees, ih, List.map_cons]

theorem Block.isExpression_mk {s : String} {args : List Arg} (h : (Block.mk s args).isExpression = true) :
    (Head.ofSelector s).takes args.length = true ∧ ∀ a ∈ args, a.isExpression = true := by
  rw [Block.isExpression, areExpressions_eq, Bool.and_eq_true, List.all_eq_true] at h
  exact h

/-- Induction over a block and the blocks that are its arguments. -/
theorem Block.argInduction {P : Block → Prop}
    (step : ∀ s args, (∀ b, Arg.block b ∈ args → P b) → P (.mk s args)) : ∀ b, P b
  | .mk s args => step s args fun b _ => argInduction step b
termination_by b => sizeOf b
decreasing_by
  have hlt := List.sizeOf_lt_of_mem ‹Arg.block b ∈ args›
  simp only [Arg.block.sizeOf_spec, Block.mk.sizeOf_spec] at hlt ⊢
  omega

/-! ## Templates of expression blocks -/

namespace Head

/-- The template of a block. -/
def template? : Head → Option Template
  | .operator o => some (.operator (String.ofList ("$p1 ".toList ++ o.sign ++ " $p2".toList)))
  | .negation => some (.operator "!$p1")
  | .random => some (.plain "random($1, $2)")
  | .method _ => none

theorem ofSelector_cases (s : String) :
    (s, ofSelector s) ∈ table ∨ ofSelector s = .method s := by
  cases h : table.lookup s with
  | none => exact .inr (by rw [ofSelector, h]; rfl)
  | some head =>
    refine .inl ?_
    rw [ofSelector, h]
    exact mem_of_lookup h

theorem lookup?_of_takes {s : String} {n : Nat} (h : (ofSelector s).takes n = true) :
    Template.lookup? s = (ofSelector s).template? := by
  have hall : table.all (fun row => Template.lookup? row.1 = row.2.template?) = true := by rfl
  rcases ofSelector_cases s with hmem | hmethod
  · exact of_decide_eq_true (List.all_eq_true.1 hall _ hmem)
  · rw [hmethod, takes, Bool.and_eq_true, Option.isNone_iff_eq_none] at h
    rw [hmethod, h.2, template?]

/-- The selector of a block. -/
def selector : Head → String
  | .method s => s
  | head => ((table.find? (·.2 == head)).map Prod.fst).getD ""

theorem selector_ofSelector (s : String) : (ofSelector s).selector = s := by
  have hall : table.all (fun row => row.2.selector = row.1) = true := by rfl
  rcases ofSelector_cases s with hmem | hmethod
  · exact of_decide_eq_true (List.all_eq_true.1 hall _ hmem)
  · rw [hmethod, selector]

end Head

/-- The text of an argument where a template asks for parentheses around operators. -/
def Arg.operandText (a : Arg) : List Char :=
  if a.needsParens then '(' :: ((a.render .expression).toList ++ [')']) else (a.render .expression).toList

section Filling

variable (a b : Arg)

theorem toList_fill (t : String) (args : List Operand) :
    (fill t args).toList = (Piece.ofTemplate t).flatMap fun p => (p.fill args).toList := by
  rw [fill, String.toList_join, List.flatMap_map]

theorem Placeholder.toList_write_parens (p : Placeholder) (hp : p.parens = true) (hb : p.block = false)
    (hs : p.string = false) : (p.write ⟨fun mode => a.render mode, a.needsParens⟩).toList = a.operandText := by
  simp only [Placeholder.write, hp, hb, hs, Arg.operandText, Bool.true_and]
  cases a.needsParens <;> simp

theorem toList_fill_first (as : List Arg) :
    ((Piece.hole ⟨['p'], ['1']⟩).fill (operands (a :: as))).toList = a.operandText :=
  Placeholder.toList_write_parens a ⟨1, false, false, true⟩ rfl rfl rfl

theorem toList_fill_second (as : List Arg) :
    ((Piece.hole ⟨['p'], ['2']⟩).fill (operands (a :: b :: as))).toList = b.operandText :=
  Placeholder.toList_write_parens b ⟨2, false, false, true⟩ rfl rfl rfl

theorem toList_fill_operator (o : Operator) :
    (fill (String.ofList ("$p1 ".toList ++ o.sign ++ " $p2".toList)) (operands [a, b])).toList =
      a.operandText ++ ' ' :: (o.sign ++ ' ' :: b.operandText) := by
  have hpieces : Piece.ofTemplate (String.ofList ("$p1 ".toList ++ o.sign ++ " $p2".toList)) =
      .hole ⟨['p'], ['1']⟩ :: ((' ' :: (o.sign ++ [' '])).map .plain ++ [.hole ⟨['p'], ['2']⟩]) := by
    cases o <;> rfl
  rw [toList_fill, hpieces, List.flatMap_cons, List.flatMap_append, List.flatMap_map, List.flatMap_singleton,
    toList_fill_first, toList_fill_second]
  simp [Piece.fill]

theorem toList_fill_negation : (fill "!$p1" (operands [a])).toList = '!' :: a.operandText := by
  have hpieces : Piece.ofTemplate "!$p1" = [.plain '!', .hole ⟨['p'], ['1']⟩] := by rfl
  rw [toList_fill, hpieces, List.flatMap_cons, List.flatMap_singleton, toList_fill_first]
  simp [Piece.fill]

theorem toList_fill_random : (fill "random($1, $2)" (operands [a, b])).toList =
    "random".toList ++
      '(' :: (((a.render .expression).toList ++ ',' :: ' ' :: (b.render .expression).toList) ++ [')']) := by
  have hpieces : Piece.ofTemplate "random($1, $2)" =
      "random(".toList.map .plain ++
        .hole ⟨[], ['1']⟩ :: .plain ',' :: .plain ' ' :: .hole ⟨[], ['2']⟩ :: [.plain ')'] := by
    rfl
  have hfirst : (Piece.hole ⟨[], ['1']⟩).fill (operands [a, b]) = a.render .expression := rfl
  have hsecond : (Piece.hole ⟨[], ['2']⟩).fill (operands [a, b]) = b.render .expression := rfl
  rw [toList_fill, hpieces, List.flatMap_append, List.flatMap_cons, List.flatMap_cons, List.flatMap_cons,
    List.flatMap_cons, hfirst, hsecond]
  simp [Piece.fill]

end Filling

/-! ## Reading back what was written -/

theorem isWord_of_isOperand {w : List Char} (h : isOperand w = true) : isWord w = true := by
  rw [isOperand, Bool.and_eq_true, List.all_eq_true] at h
  rw [isWord, Bool.and_eq_true, List.all_eq_true]
  exact ⟨h.1, fun c hc => by simp [isWordChar, h.2 c hc]⟩

/-- The level that the text of a block is read at: with a template that needs parentheses it has to be
expected to be any. -/
def Block.level (b : Block) : Nat := if needsParens b.selector then 0 else 7

section Operands

variable {a : Arg} (ha : a.isExpression = true)
  (ih : ∀ b, a = .block b → b.isExpression = true → Spelled b.level (b.render .expression).toList b.tree)

include ha ih

theorem Arg.spelled : Spelled 0 (a.render .expression).toList a.tree := by
  cases a with
  | literal w => exact (Spelled.name (isWord_of_isOperand ha)).of_le (by omega)
  | block b => exact (ih b rfl ha).of_le (Nat.zero_le _)
  | _ => cases ha

/-- In parentheses where it needs them, an argument is as good an operand as a call. -/
theorem Arg.operandText_spelled : Spelled 7 a.operandText a.tree := by
  unfold Arg.operandText
  split
  · exact (Arg.spelled ha ih).group.of_le (by omega)
  · rename_i hparens
    cases a with
    | literal w => exact (Spelled.name (isWord_of_isOperand ha)).of_le (by omega)
    | block b =>
      have h := ih b rfl ha
      rwa [Block.level, if_neg (by simpa [Arg.needsParens, Block.selector] using hparens)] at h
    | _ => cases ha

end Operands

theorem toList_methodCall (s : String) (args : List String) :
    (methodCall s args ++ if RenderMode.expression = .statement then ";" else "").toList =
      ("this".toList ++ '.' :: s.toList) ++ '(' :: ((commaSeparated args).toList ++ [')']) := by
  simp [methodCall]

theorem commaSeparated_spelled {args : List Arg} (h : ∀ a ∈ args, Spelled 0 (a.render .expression).toList a.tree) :
    SpelledArgs (commaSeparated (expressions args)).toList (trees args) := by
  induction args with
  | nil => exact .none
  | cons a as ih =>
    have ha := h a List.mem_cons_self
    have has := ih fun b hb => h b (List.mem_cons_of_mem _ hb)
    cases as with
    | nil => exact .last ha
    | cons b as =>
      have htext : (commaSeparated (expressions (a :: b :: as))).toList =
          (a.render .expression).toList ++ ',' :: ' ' :: (commaSeparated (expressions (b :: as))).toList := by
        simp only [expressions, commaSeparated, String.intercalate_cons_cons, String.toList_append]
        simp
      rw [htext]
      exact .more ha has

/-- The text of an expression block is read as what the block says. -/
theorem Block.spelled (b : Block) (h : b.isExpression = true) :
    Spelled b.level (b.render .expression).toList b.tree := by
  induction b using Block.argInduction with
  | step s args ih =>
    obtain ⟨htakes, hargs⟩ := Block.isExpression_mk h
    have htemplate := Head.lookup?_of_takes htakes
    have harg := fun a ha => Arg.spelled (hargs a ha) fun b hb => ih b (hb ▸ ha)
    have hoperand := fun a ha => Arg.operandText_spelled (hargs a ha) fun b hb => ih b (hb ▸ ha)
    rw [Block.level, Block.selector, needsParens, Block.render, Block.tree, htemplate]
    cases hhead : Head.ofSelector s with
    | operator o =>
      rw [hhead] at htakes
      obtain ⟨a, b, rfl⟩ := List.length_eq_two.1 (beq_iff_eq.1 htakes)
      -- an operator is never an operand without parentheses, so to be read at any level is enough
      have hle := o.level_le
      have hl := (hoperand a (by simp)).of_le (n := o.level) (by omega)
      have hr := (hoperand b (by simp)).of_le (n := o.level + 1) (by omega)
      have hbinary := (Spelled.binary o hl hr).of_le (Nat.zero_le _)
      rwa [← toList_fill_operator] at hbinary
    | negation =>
      rw [hhead] at htakes
      obtain ⟨a, rfl⟩ := List.length_eq_one_iff.1 (beq_iff_eq.1 htakes)
      have hnot := (hoperand a (by simp)).not.of_le (Nat.zero_le _)
      rwa [← toList_fill_negation] at hnot
    | random =>
      rw [hhead] at htakes
      obtain ⟨a, b, rfl⟩ := List.length_eq_two.1 (beq_iff_eq.1 htakes)
      have hargs' : SpelledArgs _ _ := .more (harg a (by simp)) (.last (harg b (by simp)))
      have hcall := Spelled.call ((Spelled.name (w := "random".toList) rfl).of_le (by omega)) hargs'
      rwa [← toList_fill_random] at hcall
    | method s' =>
      -- a call stands without parentheses wherever it is, and its arguments need none
      obtain rfl : s' = s := by
        have hselector := Head.selector_ofSelector s
        rwa [hhead] at hselector
      rw [hhead, Head.takes, Head.isIdentifier, Bool.and_eq_true, Bool.and_eq_true] at htakes
      have hthis : Spelled 7 "this".toList _ := (Spelled.name rfl).of_le (by omega)
      have hcall := (hthis.member htakes.1.1).call (commaSeparated_spelled harg)
      rwa [← toList_methodCall] at hcall

/-! ## No two expression blocks say the same -/

/-- The block that says something, with what its arguments say. -/
def Head.ofTree? : Tree → Option (Head × List Tree)
  | .binary o l r => some (.operator o, [l, r])
  | .not e => some (.negation, [e])
  | .call (.name _) es => some (.random, es)
  | .call (.member _ w) es => some (.method (String.ofList w), es)
  | _ => none

theorem Head.ofTree?_apply {head : Head} {es : List Tree} (h : head.takes es.length = true) :
    Head.ofTree? (head.apply es) = some (head, es) := by
  cases head with
  | operator o =>
    obtain ⟨l, r, rfl⟩ := List.length_eq_two.1 (beq_iff_eq.1 h)
    rfl
  | negation =>
    obtain ⟨e, rfl⟩ := List.length_eq_one_iff.1 (beq_iff_eq.1 h)
    rfl
  | random => rfl
  | method s => simp [Head.apply, Head.ofTree?]

theorem Block.ofTree?_tree {s : String} {args : List Arg} (h : (Block.mk s args).isExpression = true) :
    Head.ofTree? (Block.mk s args).tree = some (Head.ofSelector s, args.map Arg.tree) := by
  rw [Block.tree, trees_eq]
  exact Head.ofTree?_apply (by rw [List.length_map]; exact (Block.isExpression_mk h).1)

theorem Block.tree_ne_name {b : Block} (h : b.isExpression = true) (w : List Char) : b.tree ≠ .name w := by
  obtain ⟨s, args⟩ := b
  intro htree
  have hhead := Block.ofTree?_tree h
  rw [htree] at hhead
  cases hhead

theorem Arg.tree_inj {a a' : Arg} (ha : a.isExpression = true) (ha' : a'.isExpression = true)
    (ih : ∀ b, a = .block b → ∀ b', b.isExpression = true → b'.isExpression = true → b.tree = b'.tree → b = b')
    (h : a.tree = a'.tree) : a = a' := by
  cases a with
  | literal w =>
    cases a' with
    | literal w' => rw [String.toList_injective (Tree.name.inj h)]
    | block b' => exact absurd h.symm (Block.tree_ne_name ha' _)
    | _ => cases ha'
  | block b =>
    cases a' with
    | literal w' => exact absurd h (Block.tree_ne_name ha _)
    | block b' => rw [ih b rfl b' ha ha' h]
    | _ => cases ha'
  | _ => cases ha

theorem Block.tree_inj (b : Block) : ∀ b', b.isExpression = true → b'.isExpression = true →
    b.tree = b'.tree → b = b' := by
  induction b using Block.argInduction with
  | step s args ih =>
    rintro ⟨s', args'⟩ h h' htree
    have hhead := Block.ofTree?_tree h
    rw [htree, Block.ofTree?_tree h', Option.some.injEq, Prod.mk.injEq] at hhead
    obtain ⟨hhead, hmap⟩ := hhead
    have hs := Head.selector_ofSelector s'
    rw [hhead, Head.selector_ofSelector] at hs
    have hargs := (Block.isExpression_mk h).2
    have hargs' := (Block.isExpression_mk h').2
    have heq : args = args' := by
      refine List.ext_getElem (by simpa using congrArg List.length hmap.symm) fun i hi hi' => ?_
      have htrees : args[i].tree = args'[i].tree := by
        have hget := congrArg (·[i]?) hmap
        simpa [hi, hi'] using hget.symm
      exact Arg.tree_inj (hargs _ (List.getElem_mem hi)) (hargs' _ (List.getElem_mem hi'))
        (fun b hb => ih b (hb ▸ List.getElem_mem hi)) htrees
    rw [hs, heq]

/-- Operators in operators are parenthesised as their precedence asks for: the text of an expression
block is read as the tree of the block and as no other, so blocks with one text are one block. -/
theorem Block.reads_render_iff {b : Block} (h : b.isExpression = true) :
    (∀ e, Reads (b.render .expression) e ↔ e = b.tree) ∧
      ∀ b' : Block, b'.isExpression = true → b'.render .expression = b.render .expression → b' = b := by
  have hreads : ∀ {b : Block}, b.isExpression = true → Reads (b.render .expression) b.tree :=
    fun h => (Block.spelled _ h).of_le (Nat.zero_le _)
  constructor
  · intro e
    constructor
    · exact fun he => he.unique (hreads h)
    · rintro rfl
      exact hreads h
  · intro b' h' htext
    have he : Reads (b.render .expression) b'.tree := htext ▸ hreads h'
    exact b'.tree_inj b h' h (he.unique (hreads h))

/-- A difference as the second operand of a difference, with a negated call in it. -/
def nestedDifference : Block :=
  .mk "reportDifference" [.literal "a", .block (.mk "reportDifference" [.literal "b",
    .block (.mk "reportNot" [.block (.mk "size" [.literal "c",
      .block (.mk "reportSum" [.literal "1", .literal "2"])])])])]

theorem Block.reads_render_iff_nestedDifference :
    nestedDifference.isExpression = true ∧
      nestedDifference.render .expression = "a - (b - (!this.size(c, 1 + 2)))" ∧
      (∀ e, Reads "a - (b - (!this.size(c, 1 + 2)))" e ↔
        e = .binary .sub (.name ['a']) (.binary .sub (.name ['b'])
          (.not (.call (.member (.name "this".toList) "size".toList)
            [.name ['c'], .binary .add (.name ['1']) (.name ['2'])])))) ∧
      ∀ b : Block, b.isExpression = true → b.render .expression = "a - (b - (!this.size(c, 1 + 2)))" →
        b = nestedDifference := by
  have hexpr : nestedDifference.isExpression = true := by decide
  have htext : nestedDifference.render .expression = "a - (b - (!this.size(c, 1 + 2)))" := by decide +kernel
  have hread := Block.reads_render_iff hexpr
  rw [htext] at hread
  exact ⟨hexpr, htext, hread⟩

end SpriteScribe
