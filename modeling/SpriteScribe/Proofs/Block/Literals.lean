/-
Where string literals stand in program text. An argument that a placeholder asks for as a string literal may
stand deep inside blocks, lists and scripts, each of which indents, joins or quotes what is in it (`Layer`).
Whatever that argument is, also a script of many lines, its literal has no line end. So it stays in one piece
on one line, and the text around it is the same for all arguments; only a literal around it escapes it once
more.
-/
import SpriteScribe.Proofs.Block.Layout
import SpriteScribe.Proofs.Text.Quoted
import Mathlib.Data.List.Nodup

namespace SpriteScribe

open SpriteScribe.Text

/-! ## Parts of a text -/

namespace Text

/-- A piece without separators stays in one piece, wherever the text around it is cut. -/
theorem splitOn_around (sep : Char) (pre post : List Char) : ∃ above before after below, ∀ middle, sep ∉ middle →
    (pre ++ middle ++ post).splitOn sep = above ++ (before ++ middle ++ after) :: below := by
  induction pre with
  | nil =>
    obtain ⟨after, below, hpost⟩ := List.exists_cons_of_ne_nil (List.splitOn_ne_nil sep post)
    refine ⟨[], [], after, below, fun middle hmiddle => ?_⟩
    induction middle with
    | nil => exact hpost
    | cons c middle ih =>
      rw [List.mem_cons, not_or] at hmiddle
      have hrest := ih hmiddle.2
      simp only [List.nil_append, List.cons_append] at hrest ⊢
      rw [List.splitOn_cons_eq_if_modifyHead, if_neg (by simpa using Ne.symm hmiddle.1), hrest]
      rfl
  | cons c pre ih =>
    obtain ⟨above, before, after, below, hcut⟩ := ih
    by_cases hc : c = sep
    · refine ⟨[] :: above, before, after, below, fun middle hmiddle => ?_⟩
      rw [List.cons_append, List.cons_append, List.splitOn_cons_eq_if_modifyHead, if_pos (by simpa using hc),
        hcut middle hmiddle]
      rfl
    · obtain _ | ⟨first, above⟩ := above
      · refine ⟨[], c :: before, after, below, fun middle hmiddle => ?_⟩
        rw [List.cons_append, List.cons_append, List.splitOn_cons_eq_if_modifyHead, if_neg (by simpa using hc),
          hcut middle hmiddle]
        rfl
      · refine ⟨(c :: first) :: above, before, after, below, fun middle hmiddle => ?_⟩
        rw [List.cons_append, List.cons_append, List.splitOn_cons_eq_if_modifyHead, if_neg (by simpa using hc),
          hcut middle hmiddle]
        rfl

end Text

/-- Of a text that varies, a part stands between beginnings and ends that do not. -/
def Shows {α : Type} (text : α → String) (part : α → List Char) : Prop :=
  ∃ before after, ∀ a, (text a).toList = before ++ part a ++ after

namespace Shows

variable {α : Type} {text : α → String} {part : α → List Char} (h : Shows text part)

include h

theorem prepend (s : String) : Shows (fun a => s ++ text a) part := by
  obtain ⟨before, after, htext⟩ := h
  exact ⟨s.toList ++ before, after, fun a => by simp [htext]⟩

theorem append (s : String) : Shows (fun a => text a ++ s) part := by
  obtain ⟨before, after, htext⟩ := h
  exact ⟨before, after ++ s.toList, fun a => by simp [htext]⟩

theorem intercalate (sep : String) (xs ys : List String) :
    Shows (fun a => sep.intercalate (xs ++ text a :: ys)) part := by
  have hrest : Shows (fun a => sep.intercalate (text a :: ys)) part := by
    cases ys with
    | nil => simpa only [String.intercalate_singleton] using h
    | cons y ys => simpa only [String.intercalate_cons_cons] using (h.append sep).append _
  cases xs with
  | nil => exact hrest
  | cons x xs =>
    simp only [intercalate_append sep (List.cons_ne_nil x xs) (List.cons_ne_nil _ _)]
    exact hrest.prepend _

theorem quote : Shows (fun a => Text.quote (text a)) fun a => (part a).flatMap escape := by
  obtain ⟨before, after, htext⟩ := h
  exact ⟨'"' :: before.flatMap escape, after.flatMap escape ++ ['"'], fun a => by simp [toList_quote, htext]⟩

/-- A part without line ends stands on one line, and the lines above and below that one do not vary. -/
theorem lines (hpart : ∀ a, '\n' ∉ part a) :
    ∃ above line below, Shows line part ∧ ∀ a, Text.lines (text a) = above ++ line a :: below := by
  obtain ⟨pre, post, htext⟩ := h
  obtain ⟨above, before, after, below, hcut⟩ := splitOn_around '\n' pre post
  refine ⟨above.map String.ofList, fun a => String.ofList (before ++ part a ++ after), below.map String.ofList,
    ⟨before, after, fun a => String.toList_ofList⟩, fun a => ?_⟩
  rw [Text.lines, htext, hcut _ (hpart a), List.map_append, List.map_cons]

/-- Indented among other texts, line by line, the part stays where it is. -/
theorem indented (hpart : ∀ a, '\n' ∉ part a) (first last : String) (xs ys : List String) :
    Shows (fun a => "\n".intercalate (first :: ((xs ++ text a :: ys).flatMap indent ++ [last]))) part := by
  obtain ⟨above, line, below, hline, hlines⟩ := h.lines hpart
  have hall : ∀ a, first :: ((xs ++ text a :: ys).flatMap indent ++ [last]) =
      (first :: (xs.flatMap indent ++ above.map ("\t" ++ ·))) ++
        ("\t" ++ line a) :: (below.map ("\t" ++ ·) ++ ys.flatMap indent ++ [last]) := by
    intro a
    simp [indent, hlines]
  simp only [hall]
  exact (hline.prepend "\t").intercalate "\n" _ _

end Shows

/-! ## Places of arguments -/

/-- A place for an argument in a block, among other arguments. -/
structure Slot where
  selector : String
  before : List Arg
  after : List Arg

/-- The block with an argument in its place. -/
def Slot.block (x : Slot) (a : Arg) : Block := .mk x.selector (x.before ++ a :: x.after)

/-- How the argument is written, if it is: as the placeholder of its number says if the block has a pattern, and
else as an expression. -/
def Slot.placeholder? (x : Slot) : Option Placeholder :=
  match Template.lookup? x.selector with
  | some ⟨.pattern text, _⟩ => (placeholders text).find? (·.index == x.before.length + 1)
  | _ => some (.ofFlags [] (x.before.length + 1))

/-- What an argument may be part of: a list, a block, or a block that is a statement of a script. -/
inductive Layer where
  | item (before after : List Arg)
  | argument (slot : Slot)
  | statement (owner : String) (isHeader : Bool) (above : List Block) (slot : Slot) (below : List Block)

namespace Layer

/-- What the argument is part of. -/
def around : Layer → Arg → Arg
  | .item before after, a => .list (before ++ a :: after)
  | .argument slot, a => .block (slot.block a)
  | .statement owner isHeader above slot below, a => .script (.mk owner isHeader (above ++ slot.block a :: below))

/-- How the argument is written in it, if it is: the first block of a header is not. -/
def placeholder? : Layer → Option Placeholder
  | .item before _ => some (.ofFlags [] (before.length + 1))
  | .argument slot => slot.placeholder?
  | .statement _ isHeader above slot _ => if isHeader && above.isEmpty then none else slot.placeholder?

/-- Whether the argument is written as a string literal. -/
def quotes (l : Layer) : Bool := l.placeholder?.any (·.string)

end Layer

/-- An argument with all that it is part of, from the inside out. -/
def surround (layers : List Layer) (a : Arg) : Arg := layers.foldl (fun inner l => l.around inner) a

/-- A text after some more literals around it. -/
def requoted (times : Nat) (cs : List Char) : List Char := (List.flatMap escape)^[times] cs

/-! ## Blocks -/

theorem expressions_eq (args : List Arg) : expressions args = args.map (Arg.render .expression) := by
  induction args with
  | nil => rfl
  | cons a as ih => rw [expressions, ih, List.map_cons]

theorem spread_append (as bs : List Arg) : spread (as ++ bs) = spread as ++ spread bs := by
  induction as with
  | nil => rfl
  | cons a as ih => cases a <;> simp [spread, ih]

theorem spread_around (before after : List Arg) (a : Arg) :
    spread (before ++ a :: after) = spread before ++ (spread [a] ++ spread after) := by
  rw [← spread_append, ← spread_append]
  rfl

/-- An argument as templates see it. -/
def Arg.operand (a : Arg) : Operand := ⟨fun mode => a.render mode, a.needsParens⟩

theorem Placeholder.resolve_around {p : Placeholder} {before : List Arg} (hp : p.index = before.length + 1)
    (a : Arg) (after : List Arg) : p.resolve (operands (before ++ a :: after)) = p.write a.operand := by
  rw [Placeholder.resolve_operands hp, List.getElem?_append_right (Nat.le_refl _), Nat.sub_self]
  rfl

/-- A placeholder with another number does not see the argument. -/
theorem Placeholder.resolve_around_ne {p : Placeholder} {before : List Arg} (hp : p.index ≠ before.length + 1)
    (a b : Arg) (after : List Arg) :
    p.resolve (operands (before ++ a :: after)) = p.resolve (operands (before ++ b :: after)) := by
  cases hi : p.index with
  | zero =>
    unfold Placeholder.resolve
    rw [hi]
  | succ i =>
    rw [Placeholder.resolve_operands hi, Placeholder.resolve_operands hi]
    rcases Nat.lt_trichotomy i before.length with hlt | rfl | hgt
    · rw [List.getElem?_append_left hlt, List.getElem?_append_left hlt]
    · exact absurd hi hp
    · obtain ⟨j, hj⟩ : ∃ j, i - before.length = j + 1 := ⟨i - before.length - 1, by omega⟩
      rw [List.getElem?_append_right hgt.le, List.getElem?_append_right hgt.le, hj, List.getElem?_cons_succ,
        List.getElem?_cons_succ]

/-- No pattern writes an argument twice. -/
theorem placeholders_nodup {selector text : String} {parens : Bool}
    (h : Template.lookup? selector = some ⟨.pattern text, parens⟩) : ((placeholders text).map (·.index)).Nodup := by
  have hall : Template.table.all (fun row => match row.2.form with
      | .pattern text => ((placeholders text).map (·.index)).Nodup
      | _ => true) = true := by decide
  exact of_decide_eq_true (List.all_eq_true.1 hall _ (mem_of_lookup h))

/-- A pattern that has one placeholder with the number of an argument writes that argument once, and the rest of
its text does not depend on it. -/
theorem shows_fill {text : String} (hnodup : ((placeholders text).map (·.index)).Nodup) {p : Placeholder}
    (hmem : p ∈ placeholders text) {before after : List Arg} (hp : p.index = before.length + 1) :
    Shows (fun a => fill text (operands (before ++ a :: after))) fun a => (p.write a.operand).toList := by
  obtain ⟨h, hhole, rfl⟩ := List.mem_map.1 hmem
  obtain ⟨piece, hpiece, hholes⟩ := List.mem_filterMap.1 hhole
  obtain ⟨left, right, hpieces⟩ := List.append_of_mem hpiece
  obtain rfl : piece = .hole h := by
    cases piece with
    | plain c => cases hholes
    | hole g => cases hholes; rfl
  have hother : ∀ q ∈ left ++ right, ∀ a b : Arg,
      (q.fill (operands (before ++ a :: after))).toList = (q.fill (operands (before ++ b :: after))).toList := by
    intro q hq a b
    cases q with
    | plain c => rfl
    | hole g =>
      rw [Piece.fill, Piece.fill, Placeholder.resolve_around_ne ?_ a b]
      -- its number would occur twice
      intro hg
      rw [placeholders, hpieces, List.filterMap_append, List.filterMap_cons_some hholes, List.map_append,
        List.map_cons, List.map_append, List.map_cons, List.nodup_middle, List.nodup_cons, ← List.map_append,
        ← List.map_append, ← List.filterMap_append] at hnodup
      refine hnodup.1 (List.mem_map.2 ⟨g.placeholder, List.mem_map.2 ⟨g, ?_, rfl⟩, hg.trans hp.symm⟩)
      exact List.mem_filterMap.2 ⟨_, hq, rfl⟩
  refine ⟨left.flatMap fun q => (q.fill (operands (before ++ default :: after))).toList,
    right.flatMap fun q => (q.fill (operands (before ++ default :: after))).toList, fun a => ?_⟩
  rw [toList_fill, hpieces, List.flatMap_append, List.flatMap_cons, Piece.fill, Placeholder.resolve_around hp,
    List.append_assoc]
  congr 1
  · exact List.flatMap_congr fun q hq => hother q (List.mem_append_left _ hq) a default
  · congr 1
    exact List.flatMap_congr fun q hq => hother q (List.mem_append_right _ hq) a default

/-- An argument that varies and holds a part at a fixed place, in whatever way it is written. -/
structure Holds (F : Arg → Arg) (part : Arg → List Char) : Prop where
  render : ∀ mode, Shows (fun a => (F a).render mode) part
  needsParens : ∃ parens, ∀ a, (F a).needsParens = parens
  /-- Also as items of a list that it is spread in. -/
  items : ∃ xs text ys, Shows text part ∧ ∀ a, spread [F a] = xs ++ text a :: ys

/-- What becomes of a part at a placeholder. -/
def Placeholder.carry (p : Placeholder) (part : List Char) : List Char :=
  if p.string then part.flatMap escape else part

theorem newline_not_mem_flatMap_escape (cs : List Char) : '\n' ∉ cs.flatMap escape :=
  fun hmem => absurd (not_control_of_mem_flatMap_escape _ hmem) (by decide)

theorem newline_not_mem_quote (s : String) : '\n' ∉ (quote s).toList := by
  rw [toList_quote]
  simpa using newline_not_mem_flatMap_escape s.toList

theorem Placeholder.newline_not_mem_carry (p : Placeholder) {part : List Char} (h : '\n' ∉ part) :
    '\n' ∉ p.carry part := by
  unfold Placeholder.carry
  split
  · exact newline_not_mem_flatMap_escape part
  · exact h

theorem Shows.within {α : Type} {outer inner : α → String} {part : α → List Char}
    (ho : Shows outer fun a => (inner a).toList) (hi : Shows inner part) : Shows outer part := by
  obtain ⟨before, after, houter⟩ := ho
  obtain ⟨before', after', hinner⟩ := hi
  exact ⟨before ++ before', after' ++ after, fun a => by simp [houter, hinner]⟩

theorem Holds.write {F : Arg → Arg} {part : Arg → List Char} (h : Holds F part) (p : Placeholder) :
    Shows (fun a => p.write (F a).operand) fun a => p.carry (part a) := by
  obtain ⟨parens, hparens⟩ := h.needsParens
  unfold Placeholder.write Placeholder.carry Arg.operand
  simp only [hparens]
  split
  · exact (h.render _).quote
  · split
    · exact h.render _
    · split
      · exact ((h.render _).prepend "(").append ")"
      · exact h.render _

theorem Holds.shows_items {F : Arg → Arg} {part : Arg → List Char} (h : Holds F part) (before after : List Arg) :
    Shows (fun a => commaSeparated (expressions (before ++ F a :: after))) part := by
  simp only [expressions_eq, List.map_append, List.map_cons]
  exact (h.render .expression).intercalate ", " _ _

theorem Holds.shows_spread {F : Arg → Arg} {part : Arg → List Char} (h : Holds F part) (before after : List Arg) :
    Shows (fun a => bracketed (spread (before ++ F a :: after))) part := by
  obtain ⟨xs, text, ys, htext, hspread⟩ := h.items
  have hitems : ∀ a, spread (before ++ F a :: after) =
      (spread before ++ xs) ++ text a :: (ys ++ spread after) := by
    intro a
    rw [spread_around, hspread]
    simp
  simp only [bracketed, hitems]
  exact ((htext.intercalate ", " _ _).prepend "[").append "]"

section Slots

variable {x : Slot} {p : Placeholder} (hp : x.placeholder? = some p)

include hp

/-- The text of a block shows the argument as its placeholder asks for it, if the block has a pattern. -/
theorem Slot.shows_pattern {text : String} {parens : Bool}
    (hrow : Template.lookup? x.selector = some ⟨.pattern text, parens⟩) (mode : RenderMode) :
    Shows (fun a => (x.block a).render mode) fun a => (p.write a.operand).toList := by
  simp only [Slot.placeholder?, hrow] at hp
  have hindex : p.index = x.before.length + 1 := by simpa using List.find?_some hp
  simp only [Slot.block, Block.render, hrow]
  exact shows_fill (placeholders_nodup hrow) (List.mem_of_find?_eq_some hp) hindex

/-- Only patterns ask for string literals. -/
theorem Slot.exists_pattern (hs : p.string = true) :
    ∃ text parens, Template.lookup? x.selector = some ⟨.pattern text, parens⟩ := by
  unfold Slot.placeholder? at hp
  split at hp
  · rename_i text parens hrow
    exact ⟨text, parens, hrow⟩
  · cases hp
    cases hs

/-- A string literal of an argument is in the text of its block. -/
theorem Slot.shows_quote (hs : p.string = true) (mode : RenderMode) : Shows (fun a => (x.block a).render mode)
    fun a => (quote (a.render (if p.block then .block else .expression))).toList := by
  obtain ⟨text, parens, hrow⟩ := Slot.exists_pattern hp hs
  simpa [Placeholder.write, hs, Arg.operand] using Slot.shows_pattern hp hrow mode

/-- What an argument holds is in the text of its block. -/
theorem Slot.shows {F : Arg → Arg} {part : Arg → List Char} (hF : Holds F part) (mode : RenderMode) :
    Shows (fun a => (x.block (F a)).render mode) fun a => p.carry (part a) := by
  cases hrow : Template.lookup? x.selector with
  | none =>
    simp only [Slot.placeholder?, hrow, Option.some.injEq] at hp
    subst hp
    simp only [Slot.block, Block.render, hrow, methodCall]
    exact (((hF.shows_items _ _).prepend _).append _).append _
  | some t =>
    obtain ⟨form, parens⟩ := t
    cases form with
    | pattern text =>
      obtain ⟨before, after, htext⟩ := Slot.shows_pattern hp hrow mode
      exact Shows.within ⟨before, after, fun a => htext (F a)⟩ (hF.write p)
    | listLiteral =>
      simp only [Slot.placeholder?, hrow, Option.some.injEq] at hp
      subst hp
      simp only [Slot.block, Block.render, hrow]
      exact hF.shows_spread _ _
    | joinedWords =>
      simp only [Slot.placeholder?, hrow, Option.some.injEq] at hp
      subst hp
      simp only [Slot.block, Block.render, hrow]
      exact (hF.shows_spread _ _).append _

end Slots

/-! ## Layers -/

section Layers

variable {G : Arg → Block} {part : Arg → List Char}

theorem Holds.ofBlock (h : ∀ mode, Shows (fun a => (G a).render mode) part) {selector : String}
    (hselector : ∀ a, (G a).selector = selector) : Holds (fun a => .block (G a)) part where
  render mode := by simpa only [Arg.render] using h mode
  needsParens := ⟨SpriteScribe.needsParens selector, fun a => by rw [Arg.needsParens, hselector]⟩
  items := ⟨[], fun a => (G a).render .expression, [], h .expression, fun a => by simp [spread, Arg.render]⟩

/-- A statement of a script, which is not the first block of a header, keeps what it shows on one line. -/
theorem Script.shows_render (h : Shows (fun a => (G a).render .statement) part) (hpart : ∀ a, '\n' ∉ part a)
    {isHeader : Bool} {above : List Block} (hhat : (isHeader && above.isEmpty) = false) (owner : String)
    (below : List Block) (mode : RenderMode) :
    Shows (fun a => (Script.mk owner isHeader (above ++ G a :: below)).render mode) part := by
  simp only [Script.render_eq]
  cases isHeader with
  | false =>
    have hopening : ∀ kind, openingLine owner false kind mode = openingLine owner false .message mode := fun _ => rfl
    simp only [Script.owner, Script.isHeader, hopening, Script.body, Script.blocks, Bool.false_eq_true, if_false,
      List.drop_zero, List.map_append, List.map_cons]
    exact h.indented hpart _ _ _ _
  | true =>
    obtain _ | ⟨hat, above⟩ := above
    · cases hhat
    · simp only [Script.owner, Script.isHeader, Script.headerKind, Script.body, Script.blocks, if_true,
        List.cons_append, List.drop_succ_cons, List.drop_zero, List.map_append, List.map_cons]
      exact h.indented hpart _ _ _ _

theorem Holds.ofStatement (h : Shows (fun a => (G a).render .statement) part) (hpart : ∀ a, '\n' ∉ part a)
    {isHeader : Bool} {above : List Block} (hhat : (isHeader && above.isEmpty) = false) (owner : String)
    (below : List Block) : Holds (fun a => .script (.mk owner isHeader (above ++ G a :: below))) part where
  render mode := by simpa only [Arg.render] using Script.shows_render h hpart hhat owner below mode
  needsParens := ⟨false, fun _ => rfl⟩
  items := ⟨[], _, [], Script.shows_render h hpart hhat owner below .expression,
    fun a => by simp [spread, Arg.render]⟩

theorem Holds.ofItem {F : Arg → Arg} (h : Holds F part) (before after : List Arg) :
    Holds (fun a => .list (before ++ F a :: after)) part where
  render mode := by simpa only [Arg.render, bracketed] using ((h.shows_items before after).prepend "[").append "]"
  needsParens := ⟨false, fun _ => rfl⟩
  items := ⟨before.map (Arg.render .expression), _, after.map (Arg.render .expression), h.render .expression,
    fun a => by simp [spread, expressions_eq]⟩

end Layers

theorem Layer.placeholder?_statement {owner : String} {isHeader : Bool} {above below : List Block} {slot : Slot}
    {p : Placeholder} (h : (Layer.statement owner isHeader above slot below).placeholder? = some p) :
    (isHeader && above.isEmpty) = false ∧ slot.placeholder? = some p := by
  simp only [Layer.placeholder?] at h
  split at h
  · cases h
  · rename_i hhat
    exact ⟨by simpa using hhat, h⟩

section Around

variable {l : Layer} {p : Placeholder} (hp : l.placeholder? = some p)

include hp

/-- A string literal of an argument is in what it is part of. -/
theorem Layer.holds_quote (hs : p.string = true) :
    Holds l.around fun a => (quote (a.render (if p.block then .block else .expression))).toList := by
  cases l with
  | item before after => cases hp; cases hs
  | argument slot => exact .ofBlock (Slot.shows_quote hp hs) fun _ => rfl
  | statement owner isHeader above slot below =>
    obtain ⟨hhat, hslot⟩ := Layer.placeholder?_statement hp
    exact .ofStatement (Slot.shows_quote hslot hs .statement) (fun a => newline_not_mem_quote _) hhat owner below

/-- What an argument holds is in what it is part of. -/
theorem Layer.holds {F : Arg → Arg} {part : Arg → List Char} (hF : Holds F part) (hpart : ∀ a, '\n' ∉ part a) :
    Holds (fun a => l.around (F a)) fun a => p.carry (part a) := by
  cases l with
  | item before after => cases hp; exact hF.ofItem before after
  | argument slot => exact .ofBlock (Slot.shows hp hF) fun _ => rfl
  | statement owner isHeader above slot below =>
    obtain ⟨hhat, hslot⟩ := Layer.placeholder?_statement hp
    exact .ofStatement (Slot.shows hslot hF .statement) (fun a => p.newline_not_mem_carry (hpart a)) hhat owner below

end Around

/-- Any number of layers keep what an argument holds in one piece; each literal among them escapes it. -/
theorem surround_holds {layers : List Layer} (hw : ∀ l ∈ layers, l.placeholder? ≠ none) {F : Arg → Arg}
    {part : Arg → List Char} (hF : Holds F part) (hpart : ∀ a, '\n' ∉ part a) :
    Holds (fun a => surround layers (F a)) (fun a => requoted (layers.countP Layer.quotes) (part a)) ∧
      ∀ a, '\n' ∉ requoted (layers.countP Layer.quotes) (part a) := by
  induction layers generalizing F part with
  | nil => exact ⟨hF, hpart⟩
  | cons l layers ih =>
    obtain ⟨p, hp⟩ := Option.ne_none_iff_exists'.1 (hw l List.mem_cons_self)
    have hcarry : ∀ cs, requoted ((l :: layers).countP Layer.quotes) cs =
        requoted (layers.countP Layer.quotes) (p.carry cs) := by
      intro cs
      have hquotes : l.quotes = p.string := by rw [Layer.quotes, hp]; rfl
      rw [List.countP_cons, hquotes]
      cases hs : p.string with
      | false => simp [Placeholder.carry, hs]
      | true => simp [Placeholder.carry, hs, requoted]
    simp only [hcarry]
    exact ih (fun l' hl' => hw l' (List.mem_cons_of_mem _ hl')) (Layer.holds hp hF hpart)
      fun a => p.newline_not_mem_carry (hpart a)

/-- String literals are safe, and they stand for what they quote. A literal begins and ends with a quote, and
inside it every quote is escaped, no escape is left open, there are no control characters, and reading the
escapes gives the text back, so different texts have different literals. Wherever an argument is written as a
literal, however deep in blocks, lists and scripts, the literal stands on one line of the text as it is, but for
the literals around it, and all else in the text is the same for every argument. -/
theorem quote_safe_faithful :
    (∀ s : String, ∃ inside, (quote s).toList = '"' :: inside ++ ['"'] ∧
      (∀ before after, inside = before ++ '"' :: after → escapesNext before = true) ∧ escapesNext inside = false ∧
      (∀ c ∈ inside, 0x20 ≤ c.toNat) ∧ unescape inside = some s.toList) ∧
    Function.Injective quote ∧
    ∀ (l : Layer) (p : Placeholder) (outer : List Layer) (mode : RenderMode), l.placeholder? = some p →
      p.string = true → (∀ o ∈ outer, o.placeholder? ≠ none) →
      ∃ above before after below, ∀ a : Arg, lines ((surround (l :: outer) a).render mode) =
        above ++ String.ofList (before ++ requoted (outer.countP Layer.quotes)
          (quote (a.render (if p.block then .block else .expression))).toList ++ after) :: below := by
  refine ⟨fun s => ?_, quote_injective, fun l p outer mode hp hs hw => ?_⟩
  · exact ⟨s.toList.flatMap escape, toList_quote s, fun _ _ => escapesNext_of_quote_mem, escapesNext_flatMap_escape _,
      not_control_of_mem_flatMap_escape, unescape_flatMap_escape _⟩
  · obtain ⟨hholds, hone⟩ := surround_holds hw (Layer.holds_quote hp hs) fun a => newline_not_mem_quote _
    obtain ⟨above, line, below, ⟨before, after, hline⟩, hlines⟩ := (hholds.render mode).lines hone
    refine ⟨above, before, after, below, fun a => ?_⟩
    rw [← hline a, String.ofList_toList]
    exact hlines a

/-- The name of an attribute of a dog. -/
def attributeName : Layer := .argument ⟨"reportAttributeOf", [], [.literal "dog"]⟩

/-- Said in a loop of a header script. -/
def saidInLoop : List Layer :=
  [.statement "cat" false [] ⟨"say", [], []⟩ [], .statement "cat" true [.mk "receiveGo" []] ⟨"doForever", [], []⟩ []]

/-- A function of several lines with a quote and a backslash. -/
def shoutFunction : Arg := .script (.mk "cat" false [.mk "shout" [.literal "\"\\"]])

theorem quote_safe_faithful_function :
    attributeName.placeholder? = some ⟨1, false, true, false⟩ ∧ (∀ o ∈ saidInLoop, o.placeholder? ≠ none) ∧
    ∃ above before after below, lines ((surround (attributeName :: saidInLoop) shoutFunction).render .statement) =
      above ++ String.ofList
        (before ++ "\"function () \x7b\\n\\tthis.shout(\\\"\\\\);\\n\x7d\"".toList ++ after) :: below := by
  have hquoted : requoted (saidInLoop.countP Layer.quotes) (quote (shoutFunction.render .expression)).toList =
      "\"function () \x7b\\n\\tthis.shout(\\\"\\\\);\\n\x7d\"".toList := by rfl
  have hplace : attributeName.placeholder? = some ⟨1, false, true, false⟩ := by rfl
  have hwritten : ∀ o ∈ saidInLoop, o.placeholder? ≠ none := by decide
  obtain ⟨above, before, after, below, hlines⟩ := quote_safe_faithful.2.2 _ _ _ .statement hplace rfl hwritten
  exact ⟨hplace, hwritten, above, before, after, below, hquoted ▸ hlines shoutFunction⟩

end SpriteScribe
