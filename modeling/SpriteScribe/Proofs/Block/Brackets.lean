/-
Every bracket in program text is closed. Arguments, blocks, scripts and sprites are written with
literals, components of colours, selectors of methods and names of owners as they stand in the project
(`texts`). If these are well nested then so is the text, at any depth of nesting and with any number of
arguments: what the templates and the frames of scripts add is closed where it was opened, whatever is
filled in, and quoting and indentation do not touch brackets.
-/
import SpriteScribe.Proofs.Text.Brackets
import SpriteScribe.Sprite.Basic

namespace SpriteScribe

open SpriteScribe.Text

/-! ## What is taken over from a project -/

mutual

/-- The texts of a project that show in an argument. -/
def Arg.texts : Arg → List String
  | .literal value => [value]
  | .color c => c.components
  | .list items => argTexts items
  | .block b => b.texts
  | .script s => s.texts
  | .unclassified _ => []

/-- The selector of a block shows unless the block has a template. -/
def Block.texts : Block → List String
  | .mk selector args => (if (Template.lookup? selector).isNone then [selector] else []) ++ argTexts args

def Script.texts : Script → List String
  | .mk owner _ blocks => owner :: blockTexts blocks

def argTexts : List Arg → List String
  | [] => []
  | a :: as => a.texts ++ argTexts as

def blockTexts : List Block → List String
  | [] => []
  | b :: bs => b.texts ++ blockTexts bs

end

def Sprite.texts (s : Sprite) : List String := s.name :: s.scripts.flatMap Script.texts

/-! ## Templates -/

/-- The character that stands for itself in a piece, if it is none to be filled. -/
def Piece.plainChar? : Piece → Option Char
  | .plain c => some c
  | .hole _ => none

/-- What templates add is well nested, with nothing filled in. -/
theorem table_wellNested {selector text : String} {parens : Bool}
    (h : Template.lookup? selector = some ⟨.pattern text, parens⟩) :
    WellNested ((Piece.ofTemplate text).filterMap Piece.plainChar?) := by
  have hall : Template.table.all (fun row => match row.2.form with
      | .pattern text => decide (WellNested ((Piece.ofTemplate text).filterMap Piece.plainChar?))
      | _ => true) = true := by decide
  exact of_decide_eq_true (List.all_eq_true.1 hall _ (mem_of_lookup h))

/-- An argument as a template sees it, well nested in every mode. -/
def Operand.IsNested (a : Operand) : Prop := ∀ mode, WellNested (a.text mode).toList

theorem Placeholder.wellNested_write (p : Placeholder) {a : Operand} (h : a.IsNested) :
    WellNested (p.write a).toList := by
  unfold Placeholder.write
  extract_lets raw
  have hraw : WellNested raw.toList := h _
  split
  · exact wellNested_quote hraw
  · split
    · exact hraw
    · split
      · rw [String.toList_append, String.toList_append]
        exact hraw.wrap (o := '(') (c := ')') (by decide)
      · exact hraw

theorem Placeholder.wellNested_resolve (p : Placeholder) {args : List Operand} (h : ∀ a ∈ args, a.IsNested) :
    WellNested (p.resolve args).toList := by
  unfold Placeholder.resolve
  split
  · decide
  · split
    · decide
    · rename_i a ha
      exact p.wellNested_write (h a (List.mem_of_getElem? ha))

/-- Whatever is filled in is passed over, so only what the template itself says counts. -/
theorem awaiting_fill {args : List Operand} (h : ∀ a ∈ args, a.IsNested) (st : List Char) (ps : List Piece) :
    awaiting st (ps.flatMap fun p => (p.fill args).toList) = awaiting st (ps.filterMap Piece.plainChar?) := by
  induction ps generalizing st with
  | nil => rfl
  | cons p ps ih =>
    rw [List.flatMap_cons, awaiting_append]
    cases p with
    | plain c =>
      have hplain : (Piece.plain c :: ps).filterMap Piece.plainChar? = c :: ps.filterMap Piece.plainChar? := rfl
      rw [hplain, awaiting_cons, Piece.fill, String.toList_singleton, awaiting_cons]
      simp [ih]
    | hole hole =>
      have hhole : (Piece.hole hole :: ps).filterMap Piece.plainChar? = ps.filterMap Piece.plainChar? := rfl
      rw [hhole, Piece.fill, (hole.placeholder.wellNested_resolve h).awaiting]
      exact ih st

theorem wellNested_fill {selector text : String} {parens : Bool}
    (hrow : Template.lookup? selector = some ⟨.pattern text, parens⟩) {args : List Operand}
    (h : ∀ a ∈ args, a.IsNested) : WellNested (fill text args).toList := by
  rw [fill, String.toList_join, List.flatMap_map, wellNested_iff, awaiting_fill h]
  exact (table_wellNested hrow).awaiting []

/-! ## Lists and calls -/

theorem wellNested_commaSeparated {items : List String} (h : AllNested items) :
    WellNested (commaSeparated items).toList := wellNested_intercalate (by decide) h

theorem wellNested_bracketed {items : List String} (h : AllNested items) : WellNested (bracketed items).toList := by
  rw [bracketed, String.toList_append, String.toList_append]
  exact (wellNested_commaSeparated h).wrap (o := '[') (c := ']') (by decide)

/-- Something in parentheses, after a text. -/
theorem wellNested_parens {head : String} (hhead : WellNested head.toList) {items : List String} (h : AllNested items) :
    WellNested (head ++ "(" ++ commaSeparated items ++ ")").toList := by
  simp only [String.toList_append, List.append_assoc]
  exact hhead.append ((wellNested_commaSeparated h).wrap (o := '(') (c := ')') (by decide))

theorem Color.wellNested_render {c : Color} (h : AllNested c.components) : WellNested c.render.toList := by
  have heq : c.render = "new Color" ++ "(" ++ commaSeparated c.components ++ ")" := by
    rw [Color.render]; rfl
  rw [heq]
  exact wellNested_parens (by decide) h

theorem wellNested_methodCall {selector : String} (hs : WellNested selector.toList) {args : List String}
    (h : AllNested args) : WellNested (methodCall selector args).toList := by
  refine wellNested_parens ?_ h
  rw [String.toList_append]
  exact WellNested.append (by decide) hs

/-! ## Scripts -/

theorem HeaderKind.wellNested_method (k : HeaderKind) : WellNested k.method.toList := by
  cases k <;> decide

/-- The first line of a script opens what its last line closes. -/
theorem awaiting_openingLine {owner : String} (h : WellNested owner.toList) (isHeader : Bool) (kind : HeaderKind)
    (mode : RenderMode) :
    ∃ closing, awaiting [] (openingLine owner isHeader kind mode).toList = some closing ∧
      awaiting closing (closingLine isHeader).toList = some [] := by
  cases isHeader with
  | true =>
    refine ⟨['\x7d', ')'], ?_, by decide⟩
    have hmethod := kind.wellNested_method
    simp only [openingLine, if_true, String.toList_append, awaiting_append, h.awaiting, Option.bind_some]
    rw [show awaiting [] ".".toList = some [] from rfl, Option.bind_some, hmethod.awaiting, Option.bind_some]
    rfl
  | false =>
    refine ⟨['\x7d'], ?_, by decide⟩
    rw [openingLine, if_neg (by simp)]
    split <;> decide

/-- A script is well nested if its body is. -/
theorem wellNested_frame {owner : String} (howner : WellNested owner.toList) (isHeader : Bool) (kind : HeaderKind)
    (mode : RenderMode) {body : List String} (h : AllNested body) :
    WellNested ("\n".intercalate (openingLine owner isHeader kind mode ::
      (body.flatMap indent ++ [closingLine isHeader]))).toList := by
  obtain ⟨closing, hopening, hclosing⟩ := awaiting_openingLine howner isHeader kind mode
  have hbody : awaitingAll closing (body.flatMap indent) = some closing := by
    induction body with
    | nil => rfl
    | cons x xs ih =>
      rw [List.flatMap_cons, awaitingAll_append, awaitingAll_indent, (h x List.mem_cons_self).awaiting]
      exact ih fun y hy => h y (List.mem_cons_of_mem _ hy)
  have hend : WellNested "\n".toList := by decide
  rw [wellNested_iff, awaiting_intercalate hend, awaitingAll_cons, hopening, Option.bind_some, awaitingAll_append,
    hbody, Option.bind_some, awaitingAll_cons, hclosing]
  rfl

/-! ## All of them -/

mutual

theorem Arg.wellNested_render (mode : RenderMode) : ∀ a : Arg, AllNested a.texts → WellNested (a.render mode).toList
  | .literal value, h => by
    rw [Arg.render]
    exact h value (by simp [Arg.texts])
  | .color c, h => by
    rw [Arg.render]
    rw [Arg.texts] at h
    exact c.wellNested_render h
  | .list items, h => by
    rw [Arg.render]
    rw [Arg.texts] at h
    exact wellNested_bracketed (expressions_allNested items h)
  | .block b, h => by
    rw [Arg.render]
    rw [Arg.texts] at h
    exact b.wellNested_render mode h
  | .script s, h => by
    rw [Arg.render]
    rw [Arg.texts] at h
    exact s.wellNested_render mode h
  | .unclassified _, _ => by
    rw [Arg.render]
    decide

theorem Block.wellNested_render (mode : RenderMode) :
    ∀ b : Block, AllNested b.texts → WellNested (b.render mode).toList
  | .mk selector args, h => by
    rw [Block.texts] at h
    obtain ⟨hs, hargs⟩ := h.of_append
    rw [Block.render]
    split
    · rename_i hrow
      exact wellNested_fill hrow (operands_isNested args hargs)
    · exact wellNested_bracketed (spread_allNested args hargs)
    · rw [String.toList_append]
      exact (wellNested_bracketed (spread_allNested args hargs)).append (by decide)
    · rename_i hnone
      rw [hnone] at hs
      have hcall := wellNested_methodCall (hs selector (by simp)) (expressions_allNested args hargs)
      rw [String.toList_append]
      refine hcall.append ?_
      split <;> decide

theorem Script.wellNested_render (mode : RenderMode) :
    ∀ s : Script, AllNested s.texts → WellNested (s.render mode).toList
  | .mk owner isHeader blocks, h => by
    rw [Script.texts] at h
    have hblocks := statements_allNested blocks fun t ht => h t (List.mem_cons_of_mem _ ht)
    rw [Script.render]
    exact wellNested_frame (h owner List.mem_cons_self) isHeader _ mode fun t ht => hblocks t (List.mem_of_mem_drop ht)

theorem expressions_allNested : ∀ as : List Arg, AllNested (argTexts as) → AllNested (expressions as)
  | [], _ => by rw [expressions]; nofun
  | a :: as, h => by
    rw [argTexts] at h
    rw [expressions]
    exact .cons (a.wellNested_render .expression h.of_append.1) (expressions_allNested as h.of_append.2)

theorem operands_isNested : ∀ as : List Arg, AllNested (argTexts as) → ∀ x ∈ operands as, x.IsNested
  | [], _, x, hx => by rw [operands] at hx; cases hx
  | a :: as, h, x, hx => by
    rw [argTexts] at h
    rw [operands] at hx
    rcases List.mem_cons.1 hx with rfl | hx
    · exact fun mode => a.wellNested_render mode h.of_append.1
    · exact operands_isNested as h.of_append.2 x hx

theorem spread_allNested : ∀ as : List Arg, AllNested (argTexts as) → AllNested (spread as)
  | [], _ => by rw [spread]; nofun
  | a :: as, h => by
    rw [argTexts] at h
    have hrest := spread_allNested as h.of_append.2
    cases a with
    | list items =>
      rw [Arg.texts] at h
      rw [spread]
      exact (expressions_allNested items h.of_append.1).append hrest
    | _ =>
      rw [spread]
      · exact .cons (Arg.wellNested_render .expression _ h.of_append.1) hrest
      · nofun

theorem statements_allNested : ∀ bs : List Block, AllNested (blockTexts bs) → AllNested (statements bs)
  | [], _ => by rw [statements]; nofun
  | b :: bs, h => by
    rw [blockTexts] at h
    rw [statements]
    exact .cons (b.wellNested_render .statement h.of_append.1) (statements_allNested bs h.of_append.2)

end

theorem Sprite.wellNested_render {s : Sprite} (h : AllNested s.texts) : WellNested s.render.toList := by
  have hname : WellNested s.name.toList := h s.name List.mem_cons_self
  have hscripts : AllNested (s.scripts.map (Script.render .statement)) := by
    intro t ht
    obtain ⟨script, hscript, rfl⟩ := List.mem_map.1 ht
    exact script.wellNested_render .statement fun t ht =>
      h t (List.mem_cons_of_mem _ (List.mem_flatMap.2 ⟨script, hscript, ht⟩))
  unfold Sprite.render
  rw [String.toList_append, String.toList_append]
  exact (hname.append (by decide)).append (wellNested_intercalate (by decide) hscripts)

/-- The text of an argument, a block or a script, in every mode, and that of a sprite are well nested
if everything taken over from the project is, whatever the templates and the numbers of arguments. -/
theorem render_wellNested :
    (∀ (a : Arg) (mode : RenderMode), AllNested a.texts → WellNested (a.render mode).toList) ∧
    (∀ (b : Block) (mode : RenderMode), AllNested b.texts → WellNested (b.render mode).toList) ∧
    (∀ (s : Script) (mode : RenderMode), AllNested s.texts → WellNested (s.render mode).toList) ∧
    ∀ s : Sprite, AllNested s.texts → WellNested s.render.toList :=
  ⟨fun a mode => a.wellNested_render mode, fun b mode => b.wellNested_render mode,
    fun s mode => s.wellNested_render mode, fun _ => Sprite.wellNested_render⟩

/-- A condition with only one branch where two are asked for, and with brackets in a quoted text. -/
def halfCondition : Block :=
  .mk "doIfElse" [.block (.mk "reportAttributeOf" [.literal "at[(0)]", .color ⟨["f(1)", "\x7b\x7d"]⟩]),
    .script (.mk "cat[0]" false [.mk "say(now)" [.list [.literal "[]"]]])]

theorem render_wellNested_halfCondition :
    AllNested halfCondition.texts ∧ WellNested (halfCondition.render .statement).toList ∧
    WellNested (Sprite.render ⟨"cat", "Cat", [.mk "cat" true [.mk "receiveGo" [], halfCondition]]⟩).toList := by
  have h : AllNested halfCondition.texts := by unfold AllNested; decide
  refine ⟨h, render_wellNested.2.1 _ _ h, render_wellNested.2.2.2 _ ?_⟩
  unfold AllNested
  decide

end SpriteScribe
