/-
Where one statement ends and the next begins. The statements of a script stand on lines of their own, and
only calls of methods get a semicolon. A line that begins with a parenthesis or a square bracket is read as
going on with the line before it, unless that one ends with a semicolon or a brace. Which blocks begin and
end so is decided by their templates and by the arguments at the edges of these (`Block.Continues`,
`Block.Stops`), so two statements stay apart just if the first stops or the second does not continue.
-/
import SpriteScribe.Proofs.Block.Brackets
import SpriteScribe.Proofs.Block.Precedence

namespace SpriteScribe

/-! ## Edges of texts -/

/-- A bracket that a line goes on with. -/
def isOpening (c : Char) : Bool := c = '(' || c = '['

/-- A character that a line ends with for good. -/
def isFinal (c : Char) : Bool := c = ';' || c = '\x7d'

/-- Whether a text would be read as going on with what stands before it. -/
def Text.continues (s : String) : Bool := s.toList.head?.any isOpening

/-- Whether a text ends so that nothing goes on with it. -/
def Text.stops (s : String) : Bool := s.toList.getLast?.any isFinal

/-- Whether the first character is of a class; there is none in an empty text. -/
def begins (p : Char → Bool) (cs : List Char) : Bool := cs.head?.any p

section Edges

variable {p : Char → Bool}

@[simp] theorem begins_nil : begins p [] = false := rfl

@[simp] theorem begins_cons (c : Char) (cs : List Char) : begins p (c :: cs) = p c := rfl

theorem begins_append (cs ds : List Char) : begins p (cs ++ ds) = (begins p cs || cs.isEmpty && begins p ds) := by
  cases cs <;> simp

theorem Text.continues_eq (s : String) : Text.continues s = begins isOpening s.toList := rfl

theorem Text.stops_eq (s : String) : Text.stops s = begins isFinal s.toList.reverse := by
  rw [Text.stops, begins, List.head?_reverse]

/-- What decides about the first character of a filled template: the placeholder that it begins with, if
it does, and the character after that, or else the first one. -/
def edge (p : Char → Bool) : List Piece → Option (Option Hole × Bool)
  | .plain c :: _ => some (none, p c)
  | .hole h :: .plain c :: _ => some (some h, p c)
  | _ => none

theorem begins_flatMap {f : Piece → List Char} (hf : ∀ c, f (.plain c) = [c]) {ps : List Piece} {hole? : Option Hole}
    {next : Bool} (h : edge p ps = some (hole?, next)) : begins p (ps.flatMap f) =
      hole?.elim next fun hole => begins p (f (.hole hole)) || (f (.hole hole)).isEmpty && next := by
  unfold edge at h
  split at h
  · cases h
    rw [List.flatMap_cons, hf]
    rfl
  · cases h
    rw [List.flatMap_cons, begins_append, List.flatMap_cons, hf]
    rfl
  · cases h

end Edges

/-! ## Edges of blocks -/

/-- The operators between two operands. -/
def binarySelectors : List String :=
  ["reportSum", "reportDifference", "reportProduct", "reportQuotient", "reportModulus", "reportLessThan",
   "reportEquals", "reportGreaterThan", "reportAnd", "reportOr"]

/-- The argument that the text of a block begins with, counted from zero. -/
def leadingArgs : List (String × Nat) := binarySelectors.map (·, 0) ++ [("reportMap", 0), ("reportAttributeOf", 1)]

/-- The operand that the text of a block ends with. -/
def trailingArgs : List (String × Nat) := binarySelectors.map (·, 1) ++ [("reportNot", 0)]

/-- The body that the text of a control structure ends with. -/
def bodyArgs : List (String × Nat) := [("doForever", 0), ("doUntil", 1), ("doIf", 1), ("doIfElse", 2)]

/-- The blocks whose text begins with a bracket, whatever their arguments are. -/
def bracketSelectors : List String := ["doRepeat", "reportNewList", "reportJoinWords"]

mutual

/-- Arguments whose text begins with a bracket. -/
inductive Arg.Continues : Arg → Prop
  | literal {value : String} : Text.continues value = true → Arg.Continues (.literal value)
  | list {items : List Arg} : Arg.Continues (.list items)
  | block {b : Block} : Block.Continues b → Arg.Continues (.block b)
  | script {owner : String} {blocks : List Block} : Text.continues owner = true →
      Arg.Continues (.script (.mk owner true blocks))

/-- Blocks whose text begins with a bracket: always, or because of the argument that it begins with, which
may stand in parentheses. With an empty text before it, the bracket of an attribute comes first. -/
inductive Block.Continues : Block → Prop
  | bracket {selector : String} {args : List Arg} : selector ∈ bracketSelectors → Block.Continues (.mk selector args)
  | parens {selector : String} {args : List Arg} {i : Nat} {a : Arg} : leadingArgs.lookup selector = some i →
      args[i]? = some a → a.needsParens = true → Block.Continues (.mk selector args)
  | operand {selector : String} {args : List Arg} {i : Nat} {a : Arg} : leadingArgs.lookup selector = some i →
      args[i]? = some a → Arg.Continues a → Block.Continues (.mk selector args)
  | bare {args : List Arg} : args[1]? = some (.literal "") → Block.Continues (.mk "reportAttributeOf" args)

end

mutual

/-- Arguments whose text ends with a semicolon or a brace. -/
inductive Arg.Stops : Arg → Prop
  | literal {value : String} : Text.stops value = true → Arg.Stops (.literal value)
  | block {b : Block} : Template.lookup? b.selector ≠ none → Block.Stops b → Arg.Stops (.block b)
  | script {s : Script} : Arg.Stops (.script s)

/-- Blocks whose text, as a statement, ends with a semicolon or a brace: calls of methods, which get a
semicolon, and templates because of the operand without parentheses, or the body, that they end with. -/
inductive Block.Stops : Block → Prop
  | call {selector : String} {args : List Arg} : Template.lookup? selector = none → Block.Stops (.mk selector args)
  | operand {selector : String} {args : List Arg} {i : Nat} {a : Arg} : trailingArgs.lookup selector = some i →
      args[i]? = some a → a.needsParens = false → Arg.Stops a → Block.Stops (.mk selector args)
  | body {selector : String} {args : List Arg} {i : Nat} {a : Arg} : bodyArgs.lookup selector = some i →
      args[i]? = some a → Arg.Stops a → Block.Stops (.mk selector args)

end

/-! ## Edges of templates -/

/-- The placeholder of an operand, counted from zero. -/
def Hole.operand (i : Nat) : Hole := ⟨['p'], [Nat.digitChar (i + 1)]⟩

/-- The placeholder of a body. -/
def Hole.body (i : Nat) : Hole := ⟨['b'], [Nat.digitChar (i + 1)]⟩

/-- How templates and the tables above fit together. -/
theorem table_edges {selector : String} {t : Template} (h : Template.lookup? selector = some t) :
    (selector ∈ bracketSelectors ↔ selector = "doRepeat" ∨ ∀ text, t.form ≠ .pattern text) ∧
      ((∀ text, t.form ≠ .pattern text) → trailingArgs.lookup selector = none ∧ bodyArgs.lookup selector = none) ∧
      (trailingArgs.lookup selector = none ∨ bodyArgs.lookup selector = none) := by
  have hall : Template.table.all (fun row => match row.2.form with
      | .pattern _ => (row.1 ∈ bracketSelectors ↔ row.1 = "doRepeat") ∧
          (trailingArgs.lookup row.1 = none ∨ bodyArgs.lookup row.1 = none)
      | _ => row.1 ∈ bracketSelectors ∧ trailingArgs.lookup row.1 = none ∧ bodyArgs.lookup row.1 = none) = true := by
    decide
  have hrow := List.all_eq_true.1 hall _ (mem_of_lookup h)
  obtain ⟨form, parens⟩ := t
  cases form with
  | pattern text =>
    have hrow := of_decide_eq_true hrow
    exact ⟨by simpa using hrow.1, fun hno => absurd rfl (hno text), hrow.2⟩
  | listLiteral =>
    have hrow := of_decide_eq_true hrow
    exact ⟨by simpa using hrow.1, fun _ => hrow.2, .inl hrow.2.1⟩
  | joinedWords =>
    have hrow := of_decide_eq_true hrow
    exact ⟨by simpa using hrow.1, fun _ => hrow.2, .inl hrow.2.1⟩

theorem edge_front {selector text : String} {parens : Bool}
    (h : Template.lookup? selector = some ⟨.pattern text, parens⟩) :
    edge isOpening (Piece.ofTemplate text) = some ((leadingArgs.lookup selector).map Hole.operand,
      selector = "doRepeat" || selector = "reportAttributeOf") := by
  have hall : Template.table.all (fun row => match row.2.form with
      | .pattern text => edge isOpening (Piece.ofTemplate text) = some ((leadingArgs.lookup row.1).map Hole.operand,
          row.1 = "doRepeat" || row.1 = "reportAttributeOf")
      | _ => true) = true := by decide
  exact of_decide_eq_true (List.all_eq_true.1 hall _ (mem_of_lookup h))

/-- No template itself ends with a semicolon or a brace. -/
theorem edge_back {selector text : String} {parens : Bool}
    (h : Template.lookup? selector = some ⟨.pattern text, parens⟩) :
    edge isFinal (Piece.ofTemplate text).reverse = some
      (((trailingArgs.lookup selector).map Hole.operand).or ((bodyArgs.lookup selector).map Hole.body), false) := by
  have hall : Template.table.all (fun row => match row.2.form with
      | .pattern text => edge isFinal (Piece.ofTemplate text).reverse = some
          (((trailingArgs.lookup row.1).map Hole.operand).or ((bodyArgs.lookup row.1).map Hole.body), false)
      | _ => true) = true := by decide
  exact of_decide_eq_true (List.all_eq_true.1 hall _ (mem_of_lookup h))

/-! ## What is filled in at an edge -/

theorem getElem?_operands (args : List Arg) (i : Nat) :
    (operands args)[i]? = args[i]?.map fun a => ⟨fun mode => a.render mode, a.needsParens⟩ := by
  induction args generalizing i with
  | nil => rfl
  | cons a as ih =>
    cases i with
    | zero => rfl
    | succ i => rw [operands, List.getElem?_cons_succ, List.getElem?_cons_succ, ih]

theorem Placeholder.resolve_operands {p : Placeholder} {i : Nat} (h : p.index = i + 1) (args : List Arg) :
    p.resolve (operands args) =
      (args[i]?.map fun a => p.write ⟨fun mode => a.render mode, a.needsParens⟩).getD undefinedText := by
  unfold Placeholder.resolve
  simp only [h, getElem?_operands]
  cases args[i]? <;> rfl

section Filled

variable {i : Nat} (hi : i < 9) (args : List Arg)

include hi

theorem toList_fill_operandHole : ((Piece.hole (Hole.operand i)).fill (operands args)).toList =
    (args[i]?.map Arg.operandText).getD undefinedText.toList := by
  have hhole : ∀ i < 9, (Hole.operand i).placeholder = ⟨i + 1, false, false, true⟩ := by decide
  rw [Piece.fill, hhole i hi, Placeholder.resolve_operands rfl]
  cases args[i]? with
  | none => rfl
  | some a => exact Placeholder.toList_write_parens a ⟨i + 1, false, false, true⟩ rfl rfl rfl

theorem toList_fill_bodyHole : ((Piece.hole (Hole.body i)).fill (operands args)).toList =
    (args[i]?.map fun a => (a.render .block).toList).getD undefinedText.toList := by
  have hhole : ∀ i < 9, (Hole.body i).placeholder = ⟨i + 1, true, false, false⟩ := by decide
  rw [Piece.fill, hhole i hi, Placeholder.resolve_operands rfl]
  cases args[i]? <;> rfl

end Filled

theorem toList_fill_plain (args : List Operand) (c : Char) : ((Piece.plain c).fill args).toList = [c] := by
  simp [Piece.fill]

theorem leadingArgs_lt {selector : String} {i : Nat} (h : leadingArgs.lookup selector = some i) :
    i < 9 ∧ selector ∉ bracketSelectors ∧ Template.lookup? selector ≠ none := by
  have hall : ∀ x ∈ leadingArgs, x.2 < 9 ∧ x.1 ∉ bracketSelectors ∧ Template.lookup? x.1 ≠ none := by decide
  exact hall _ (mem_of_lookup h)

/-! ## Scripts -/

theorem toList_intercalate_cons (sep x : String) (xs : List String) :
    ∃ rest, (sep.intercalate (x :: xs)).toList = x.toList ++ rest := by
  cases xs with
  | nil => exact ⟨[], by simp⟩
  | cons y ys => exact ⟨sep.toList ++ (sep.intercalate (y :: ys)).toList, by simp [String.intercalate_cons_cons]⟩

theorem toList_intercalate_concat (sep x : String) (xs : List String) :
    ∃ before, (sep.intercalate (xs ++ [x])).toList = before ++ x.toList := by
  induction xs with
  | nil => exact ⟨[], by simp⟩
  | cons y ys ih =>
    obtain ⟨before, hbefore⟩ := ih
    obtain ⟨z, zs, hz⟩ := List.exists_cons_of_ne_nil (show ys ++ [x] ≠ [] by simp)
    refine ⟨y.toList ++ sep.toList ++ before, ?_⟩
    rw [List.cons_append, hz, String.intercalate_cons_cons, ← hz, String.toList_append, String.toList_append, hbefore]
    simp

theorem begins_openingLine (owner : String) (isHeader : Bool) (kind : HeaderKind) (mode : RenderMode) :
    (openingLine owner isHeader kind mode).toList ≠ [] ∧
      begins isOpening (openingLine owner isHeader kind mode).toList = (isHeader && Text.continues owner) := by
  cases isHeader with
  | true =>
    have hdot : (openingLine owner true kind mode).toList =
        owner.toList ++ '.' :: (kind.method.toList ++ "(function () \x7b".toList) := by simp [openingLine]
    rw [hdot, begins_append, begins_cons, Text.continues_eq]
    exact ⟨by simp, by simp [isOpening]⟩
  | false =>
    rw [openingLine, if_neg (by simp), Bool.false_and]
    split <;> exact ⟨by decide, by decide⟩

theorem Script.begins_render (s : Script) (mode : RenderMode) :
    begins isOpening (s.render mode).toList = (s.isHeader && Text.continues s.owner) := by
  obtain ⟨owner, isHeader, blocks⟩ := s
  rw [Script.render]
  obtain ⟨rest, hrest⟩ := toList_intercalate_cons "\n"
    (openingLine owner isHeader (Script.mk owner isHeader blocks).headerKind mode)
    (((statements blocks).drop (if isHeader then 1 else 0)).flatMap indent ++ [closingLine isHeader])
  obtain ⟨hne, hbegins⟩ := begins_openingLine owner isHeader (Script.mk owner isHeader blocks).headerKind mode
  rw [hrest, begins_append, hbegins, List.isEmpty_eq_false_iff.2 hne, Bool.false_and, Bool.or_false]
  rfl

/-- Every script ends with a brace, or with the semicolon of a registration. -/
theorem Script.begins_reverse_render (s : Script) (mode : RenderMode) :
    begins isFinal (s.render mode).toList.reverse = true := by
  obtain ⟨owner, isHeader, blocks⟩ := s
  rw [Script.render, ← List.cons_append]
  obtain ⟨before, hbefore⟩ := toList_intercalate_concat "\n" (closingLine isHeader)
    (openingLine owner isHeader (Script.mk owner isHeader blocks).headerKind mode ::
      ((statements blocks).drop (if isHeader then 1 else 0)).flatMap indent)
  rw [hbefore, List.reverse_append, begins_append]
  cases isHeader <;> rfl

/-! ## First characters -/

theorem Block.render_ne_nil (b : Block) (mode : RenderMode) : (b.render mode).toList ≠ [] := by
  obtain ⟨selector, args⟩ := b
  rw [Block.render]
  split
  · rename_i text parens hrow
    have hedge := edge_front hrow
    rw [toList_fill]
    unfold edge at hedge
    split at hedge
    · rename_i hps
      rw [hps]
      simp [toList_fill_plain]
    · rename_i hps
      rw [hps]
      simp [toList_fill_plain]
    · cases hedge
  · simp [bracketed]
  · simp [bracketed]
  · simp [methodCall]

section Front

variable {a : Arg} (ih : ∀ b, a = .block b → ∀ mode, begins isOpening (b.render mode).toList = true ↔ b.Continues)

include ih

theorem Arg.begins_render (mode : RenderMode) : begins isOpening (a.render mode).toList = true ↔ a.Continues := by
  cases a with
  | literal value =>
    rw [Arg.render, ← Text.continues_eq]
    exact ⟨.literal, fun h => by cases h; assumption⟩
  | color c => rw [Arg.render]; exact ⟨fun h => by simp [Color.render, isOpening] at h, fun h => by cases h⟩
  | list items => rw [Arg.render]; exact ⟨fun _ => .list, fun _ => by simp [bracketed, isOpening]⟩
  | block b =>
    rw [Arg.render, ih b rfl mode]
    exact ⟨.block, fun h => by cases h; assumption⟩
  | script s =>
    obtain ⟨owner, isHeader, blocks⟩ := s
    rw [Arg.render, Script.begins_render, Bool.and_eq_true]
    constructor
    · rintro ⟨hh, ho⟩
      cases hh
      exact .script ho
    · intro h
      cases h
      exact ⟨rfl, by assumption⟩
  | unclassified tag => rw [Arg.render]; exact ⟨fun h => absurd h (by decide), fun h => by cases h⟩

theorem Arg.begins_operandText :
    begins isOpening a.operandText = true ↔ a.needsParens = true ∨ a.Continues := by
  unfold Arg.operandText
  split
  · rename_i hparens
    exact ⟨fun _ => .inl hparens, fun _ => rfl⟩
  · rename_i hparens
    rw [Arg.begins_render ih]
    exact ⟨.inr, fun h => h.resolve_left hparens⟩

end Front

theorem Arg.operandText_eq_nil {a : Arg} : a.operandText = [] ↔ a = .literal "" := by
  constructor
  · intro h
    unfold Arg.operandText at h
    split at h
    · cases h
    · cases a with
      | literal value =>
        rw [Arg.render] at h
        rw [String.toList_eq_nil_iff.1 h]
      | color c => simp [Arg.render, Color.render] at h
      | list items => simp [Arg.render, bracketed] at h
      | block b => exact absurd h (by rw [Arg.render]; exact b.render_ne_nil _)
      | script s =>
        have hends := s.begins_reverse_render .expression
        rw [Arg.render] at h
        rw [h] at hends
        cases hends
      | unclassified tag => rw [Arg.render] at h; cases h
  · rintro rfl
    rfl

theorem Block.continues_of_leading {selector : String} {args : List Arg} {i : Nat}
    (hl : leadingArgs.lookup selector = some i) : (Block.mk selector args).Continues ↔
      ∃ a, args[i]? = some a ∧
        ((a.needsParens = true ∨ a.Continues) ∨ a = .literal "" ∧ selector = "reportAttributeOf") := by
  constructor
  · intro h
    cases h with
    | bracket hs => exact absurd hs (leadingArgs_lt hl).2.1
    | parens hl' ha hp => cases hl.symm.trans hl'; exact ⟨_, ha, .inl (.inl hp)⟩
    | operand hl' ha hc => cases hl.symm.trans hl'; exact ⟨_, ha, .inl (.inr hc)⟩
    | bare ha =>
      obtain rfl : i = 1 := Option.some.inj (hl.symm.trans (by decide))
      exact ⟨_, ha, .inr ⟨rfl, rfl⟩⟩
  · rintro ⟨a, ha, (hp | hc) | ⟨rfl, rfl⟩⟩
    · exact .parens hl ha hp
    · exact .operand hl ha hc
    · obtain rfl : i = 1 := Option.some.inj (hl.symm.trans (by decide))
      exact .bare ha

theorem Block.continues_of_not_leading {selector : String} {args : List Arg}
    (hl : leadingArgs.lookup selector = none) : (Block.mk selector args).Continues ↔ selector ∈ bracketSelectors := by
  constructor
  · intro h
    cases h with
    | bracket hs => exact hs
    | parens hl' => rw [hl] at hl'; cases hl'
    | operand hl' => rw [hl] at hl'; cases hl'
    | bare => exact absurd hl (by decide)
  · exact .bracket

theorem Block.Continues.lookup_ne_none {selector : String} {args : List Arg} (h : (Block.mk selector args).Continues) :
    Template.lookup? selector ≠ none := by
  cases hl : leadingArgs.lookup selector with
  | none =>
    have hall : ∀ s ∈ bracketSelectors, Template.lookup? s ≠ none := by decide
    exact hall selector ((continues_of_not_leading hl).1 h)
  | some i => exact (leadingArgs_lt hl).2.2

/-- The text of a block begins with a bracket just if the block continues, in every mode. -/
theorem Block.begins_render (b : Block) : ∀ mode, begins isOpening (b.render mode).toList = true ↔ b.Continues := by
  induction b using Block.argInduction with
  | step selector args ih =>
    intro mode
    rw [Block.render]
    split
    · rename_i text parens hrow
      rw [toList_fill, begins_flatMap (toList_fill_plain _) (edge_front hrow)]
      cases hl : leadingArgs.lookup selector with
      | none =>
        rw [continues_of_not_leading hl, (table_edges hrow).1]
        have hattribute : selector ≠ "reportAttributeOf" := by rintro rfl; exact absurd hl (by decide)
        simp [hattribute]
      | some i =>
        have hrepeat : selector ≠ "doRepeat" := by
          rintro rfl
          exact (leadingArgs_lt hl).2.1 (by decide)
        rw [continues_of_leading hl, Option.map_some, Option.elim_some, toList_fill_operandHole (leadingArgs_lt hl).1]
        cases ha : args[i]? with
        | none => simp [undefinedText, isOpening]
        | some a =>
          have hfirst := Arg.begins_operandText (a := a) fun b hb => ih b (hb ▸ List.mem_of_getElem? ha)
          simp [hfirst, Arg.operandText_eq_nil, hrepeat]
    · rename_i hrow
      exact ⟨fun _ => .bracket ((table_edges hrow).1.2 (.inr fun _ h => by cases h)),
        fun _ => by simp [bracketed, isOpening]⟩
    · rename_i hrow
      exact ⟨fun _ => .bracket ((table_edges hrow).1.2 (.inr fun _ h => by cases h)),
        fun _ => by simp [bracketed, isOpening]⟩
    · rename_i hrow
      exact ⟨fun h => by simp [methodCall, isOpening] at h, fun h => absurd hrow h.lookup_ne_none⟩

/-! ## Last characters -/

section Back

variable {a : Arg} (ih : ∀ b, a = .block b → ∀ mode, begins isFinal (b.render mode).toList.reverse = true ↔
  b.Stops ∧ (mode = .statement ∨ Template.lookup? b.selector ≠ none))

include ih

theorem Arg.begins_reverse_render {mode : RenderMode} (hmode : mode ≠ .statement) :
    begins isFinal (a.render mode).toList.reverse = true ↔ a.Stops := by
  cases a with
  | literal value =>
    rw [Arg.render, ← Text.stops_eq]
    exact ⟨.literal, fun h => by cases h; assumption⟩
  | color c => rw [Arg.render]; exact ⟨fun h => by simp [Color.render, isFinal] at h, fun h => by cases h⟩
  | list items => rw [Arg.render]; exact ⟨fun h => by simp [bracketed, isFinal] at h, fun h => by cases h⟩
  | block b =>
    rw [Arg.render, ih b rfl mode]
    constructor
    · rintro ⟨hb, hm | hl⟩
      · exact absurd hm hmode
      · exact .block hl hb
    · intro h
      cases h with
      | block hl hb => exact ⟨hb, .inr hl⟩
  | script s => rw [Arg.render]; exact ⟨fun _ => .script, fun _ => s.begins_reverse_render mode⟩
  | unclassified tag => rw [Arg.render]; exact ⟨fun h => absurd h (by decide), fun h => by cases h⟩

theorem Arg.begins_reverse_operandText :
    begins isFinal a.operandText.reverse = true ↔ a.needsParens = false ∧ a.Stops := by
  unfold Arg.operandText
  split
  · rename_i hparens
    simp [hparens, isFinal]
  · rename_i hparens
    rw [Arg.begins_reverse_render ih (by decide)]
    simp [hparens]

end Back

theorem trailingArgs_lt {selector : String} {i : Nat} (h : trailingArgs.lookup selector = some i) : i < 9 := by
  have hall : ∀ x ∈ trailingArgs, x.2 < 9 := by decide
  exact hall _ (mem_of_lookup h)

theorem bodyArgs_lt {selector : String} {i : Nat} (h : bodyArgs.lookup selector = some i) : i < 9 := by
  have hall : ∀ x ∈ bodyArgs, x.2 < 9 := by decide
  exact hall _ (mem_of_lookup h)

/-- A block with a template stops because of the argument at the end of it, or not at all. -/
theorem Block.stops_of_lookup {selector : String} {args : List Arg} {t : Template}
    (hrow : Template.lookup? selector = some t) : (Block.mk selector args).Stops ↔
      (∃ i a, trailingArgs.lookup selector = some i ∧ args[i]? = some a ∧ a.needsParens = false ∧ a.Stops) ∨
      ∃ i a, bodyArgs.lookup selector = some i ∧ args[i]? = some a ∧ a.Stops := by
  constructor
  · intro h
    cases h with
    | call hnone => rw [hrow] at hnone; cases hnone
    | operand hl ha hp hs => exact .inl ⟨_, _, hl, ha, hp, hs⟩
    | body hl ha hs => exact .inr ⟨_, _, hl, ha, hs⟩
  · rintro (⟨i, a, hl, ha, hp, hs⟩ | ⟨i, a, hl, ha, hs⟩)
    · exact .operand hl ha hp hs
    · exact .body hl ha hs

/-- The text of a block ends with a semicolon or a brace just if the block stops. Calls do only as statements. -/
theorem Block.begins_reverse_render (b : Block) : ∀ mode, begins isFinal (b.render mode).toList.reverse = true ↔
    b.Stops ∧ (mode = .statement ∨ Template.lookup? b.selector ≠ none) := by
  induction b using Block.argInduction with
  | step selector args ih =>
    intro mode
    have hargs : ∀ {i : Nat} {a : Arg}, args[i]? = some a → ∀ b, a = .block b → ∀ mode,
        begins isFinal (b.render mode).toList.reverse = true ↔
          b.Stops ∧ (mode = .statement ∨ Template.lookup? b.selector ≠ none) :=
      fun ha b hb => ih b (hb ▸ List.mem_of_getElem? ha)
    rw [Block.render, Block.selector]
    split
    · rename_i text parens hrow
      -- read from the end, every piece is filled the other way round
      have hplain : ∀ c, (List.reverse ∘ fun p : Piece => (p.fill (operands args)).toList) (.plain c) = [c] := by
        intro c
        simp [toList_fill_plain]
      rw [toList_fill, List.reverse_flatMap, begins_flatMap hplain (edge_back hrow), stops_of_lookup hrow]
      cases ht : trailingArgs.lookup selector with
      | some i =>
        have hb : bodyArgs.lookup selector = none := by
          simpa [ht] using (table_edges hrow).2.2
        rw [Option.map_some, Option.some_or, Option.elim_some, Function.comp_apply,
          toList_fill_operandHole (trailingArgs_lt ht)]
        cases ha : args[i]? with
        | none => simp [undefinedText, isFinal, hb, ha]
        | some a => simp [Arg.begins_reverse_operandText (hargs ha), hb, ha, hrow]
      | none =>
        cases hb : bodyArgs.lookup selector with
        | some i =>
          rw [Option.map_none, Option.none_or, Option.map_some, Option.elim_some, Function.comp_apply,
            toList_fill_bodyHole (bodyArgs_lt hb)]
          cases ha : args[i]? with
          | none => simp [undefinedText, isFinal, ha]
          | some a =>
            have hlast := Arg.begins_reverse_render (hargs ha) (show RenderMode.block ≠ .statement by decide)
            simp [hlast, ha, hrow]
        | none => simp
    · rename_i hrow
      have hnone := (table_edges hrow).2.1 fun _ h => by cases h
      rw [stops_of_lookup hrow]
      simp [bracketed, isFinal, hnone.1, hnone.2]
    · rename_i hrow
      have hnone := (table_edges hrow).2.1 fun _ h => by cases h
      rw [stops_of_lookup hrow]
      simp [bracketed, isFinal, hnone.1, hnone.2]
    · rename_i hrow
      have hstops : (Block.mk selector args).Stops := .call hrow
      by_cases hm : mode = .statement
      · simp [hm, hstops, isFinal]
      · simp [hm, hrow, methodCall, isFinal]

/-! ## Scripts and their statements -/

/-- The blocks of a script that are written as statements. -/
def Script.body (s : Script) : List Block := s.blocks.drop (if s.isHeader then 1 else 0)

theorem statements_eq (blocks : List Block) : statements blocks = blocks.map (Block.render .statement) := by
  induction blocks with
  | nil => rfl
  | cons b bs ih => rw [statements, ih, List.map_cons]

theorem Script.render_eq (s : Script) (mode : RenderMode) : s.render mode =
    "\n".intercalate (openingLine s.owner s.isHeader s.headerKind mode ::
      ((s.body.map (Block.render .statement)).flatMap indent ++ [closingLine s.isHeader])) := by
  obtain ⟨owner, isHeader, blocks⟩ := s
  rw [Script.render, statements_eq, ← List.map_drop]
  rfl

theorem Block.stops_render_iff (b : Block) : Text.stops (b.render .statement) = true ↔ b.Stops := by
  rw [Text.stops_eq, b.begins_reverse_render]
  simp

theorem Block.continues_render_iff (b : Block) : Text.continues (b.render .statement) = true ↔ b.Continues :=
  b.begins_render .statement

/-- Which statements stay apart. A script is written with the statements of its blocks one after the other,
each on lines of its own. Of two that follow on each other the first ends with a semicolon or a brace, or
the second begins with no bracket, just if the first block stops or the second does not continue. -/
theorem statements_apart_iff (s : Script) :
    (∀ mode, s.render mode = "\n".intercalate (openingLine s.owner s.isHeader s.headerKind mode ::
      ((s.body.map (Block.render .statement)).flatMap indent ++ [closingLine s.isHeader]))) ∧
    ∀ b c, [b, c] <:+: s.body →
      (Text.stops (b.render .statement) = true ∨ Text.continues (c.render .statement) = false ↔
        b.Stops ∨ ¬ c.Continues) := by
  refine ⟨s.render_eq, fun b c _ => ?_⟩
  rw [b.stops_render_iff, ← c.continues_render_iff, Bool.not_eq_true]

/-- A repetition, whose text begins and ends with a parenthesis. -/
def loop : Block := .mk "doRepeat" [.literal "4", .script (.mk "cat" false [.mk "turn" [.literal "90"]])]

theorem loop_continues : loop.Continues := .bracket (by decide)

theorem loop_not_stops : ¬ loop.Stops := by
  have hedges : trailingArgs.lookup "doRepeat" = none ∧ bodyArgs.lookup "doRepeat" = none := by decide
  intro h
  cases h with
  | call hl => exact absurd hl (by decide)
  | operand hl => rw [hedges.1] at hl; cases hl
  | body hl => rw [hedges.2] at hl; cases hl

/-- A script with repetitions after a call and after a condition. -/
def loopScript : Script :=
  .mk "cat" true [.mk "receiveGo" [], .mk "turn" [], loop,
    .mk "doIf" [.literal "x", .script (.mk "cat" false [])], loop]

theorem statements_apart_iff_loopScript :
    [.mk "turn" [], loop] <:+: loopScript.body ∧
    (Text.stops ((Block.mk "turn" []).render .statement) = true ∨ Text.continues (loop.render .statement) = false) ∧
    (Text.stops ((Block.mk "doIf" [.literal "x", .script (.mk "cat" false [])]).render .statement) = true ∨
      Text.continues (loop.render .statement) = false) := by
  obtain ⟨-, hiff⟩ := statements_apart_iff loopScript
  have hcall : [.mk "turn" [], loop] <:+: loopScript.body := ⟨[], _, rfl⟩
  have hcondition : (Block.mk "doIf" [.literal "x", .script (.mk "cat" false [])]).Stops :=
    .body (i := 1) (by decide) rfl .script
  exact ⟨hcall, (hiff _ _ hcall).2 (.inl (.call (by decide))),
    (hiff _ _ ⟨[.mk "turn" [], loop], [], rfl⟩).2 (.inl hcondition)⟩

/-- Two repetitions do not stay apart: the second is read as a call of what the first returns. -/
theorem loops_not_apart :
    ¬ ∀ (s : Script) (b c : Block), [b, c] <:+: s.body →
      Text.stops (b.render .statement) = true ∨ Text.continues (c.render .statement) = false := by
  intro h
  have htwice : [loop, loop] <:+: (Script.mk "cat" true [.mk "receiveGo" [], loop, loop]).body := ⟨[], [], rfl⟩
  obtain hstops | hcontinues := h _ _ _ htwice
  · exact loop_not_stops (loop.stops_render_iff.1 hstops)
  · exact absurd (loop.continues_render_iff.2 loop_continues) (by rw [hcontinues]; decide)

end SpriteScribe
