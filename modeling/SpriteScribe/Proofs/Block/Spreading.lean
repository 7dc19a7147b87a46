/-
Lists among the arguments of a block. The blocks that are written as lists take a list among their arguments for
its items, one level deep and no further, so such a list makes no difference if there is none among its items. A
block with a single list for an argument is written as the list is written by itself, with all the lists inside.
-/
import SpriteScribe.Proofs.Block.Literals

namespace SpriteScribe

/-- The items that an argument adds to a list: those of a list, and otherwise itself. -/
def Arg.items : Arg → List Arg
  | .list items => items
  | a => [a]

/-- An argument that is no list. -/
def Arg.IsSingle (a : Arg) : Prop := ∀ items, a ≠ .list items

theorem Arg.IsSingle.items_eq {a : Arg} (h : a.IsSingle) : a.items = [a] := by
  cases a with
  | list items => exact absurd rfl (h items)
  | _ => rfl

theorem flatMap_items {as : List Arg} (h : ∀ a ∈ as, a.IsSingle) : as.flatMap Arg.items = as := by
  induction as with
  | nil => rfl
  | cons a as ih =>
    rw [List.flatMap_cons, (h a List.mem_cons_self).items_eq, ih fun b hb => h b (List.mem_cons_of_mem _ hb),
      List.singleton_append]

/-- Arguments are spread one level deep, and each item is written as an expression. -/
theorem spread_eq (args : List Arg) : spread args = (args.flatMap Arg.items).map (Arg.render .expression) := by
  induction args with
  | nil => rfl
  | cons a as ih =>
    rw [List.flatMap_cons, List.map_append, ← ih]
    cases a with
    | list items => rw [spread, expressions_eq]; rfl
    | _ => rfl

theorem flatMap_items_list (items : List Arg) : [Arg.list items].flatMap Arg.items = items := List.append_nil items

/-! ## Blocks that are written as lists -/

/-- The text of a list with the items of some arguments. -/
def listText (args : List Arg) : String :=
  "[" ++ ", ".intercalate ((args.flatMap Arg.items).map (Arg.render .expression)) ++ "]"

theorem Block.render_newList (mode : RenderMode) (args : List Arg) :
    (Block.mk "reportNewList" args).render mode = listText args := by
  have hrow : Template.lookup? "reportNewList" = some ⟨.listLiteral, false⟩ := by decide
  rw [Block.render, hrow]
  simp only [spread_eq]
  rfl

theorem Block.render_joinWords (mode : RenderMode) (args : List Arg) :
    (Block.mk "reportJoinWords" args).render mode = listText args ++ ".join('')" := by
  have hrow : Template.lookup? "reportJoinWords" = some ⟨.joinedWords, false⟩ := by decide
  rw [Block.render, hrow]
  simp only [spread_eq]
  rfl

/-- Spreading a list among the arguments agrees with writing the list. The blocks for lists and for joined words
have the items of their arguments in brackets, with commas between them and none for a list that is empty. A list
of single items can be put there item by item. A list block with one list for its arguments is written as this
list is, whatever its items are and whatever the list stands for. -/
theorem spreading_agrees (mode : RenderMode) (items : List Arg) :
    (∀ args, (Block.mk "reportNewList" args).render mode = listText args ∧
      (Block.mk "reportJoinWords" args).render mode = listText args ++ ".join('')") ∧
    ((∀ a ∈ items, a.IsSingle) → ∀ before after, ∀ selector ∈ ["reportNewList", "reportJoinWords"],
      (Block.mk selector (before ++ [Arg.list items] ++ after)).render mode =
        (Block.mk selector (before ++ items ++ after)).render mode) ∧
    ∀ mode', (Block.mk "reportNewList" [.list items]).render mode = (Arg.list items).render mode' := by
  refine ⟨fun args => ⟨Block.render_newList mode args, Block.render_joinWords mode args⟩, ?_, ?_⟩
  · intro hsingle before after selector hselector
    have htext : listText (before ++ [Arg.list items] ++ after) = listText (before ++ items ++ after) := by
      unfold listText
      simp only [List.flatMap_append, flatMap_items_list, flatMap_items hsingle]
    simp only [List.mem_cons, List.not_mem_nil, or_false] at hselector
    rcases hselector with rfl | rfl
    · rw [Block.render_newList, Block.render_newList, htext]
    · rw [Block.render_joinWords, Block.render_joinWords, htext]
  · intro mode'
    rw [Block.render_newList, Arg.render, expressions_eq, listText, flatMap_items_list]
    rfl

/-- Two items without a list, one of them a block. -/
def wordAndSum : List Arg := [.literal "b", .block (.mk "reportSum" [.literal "1", .literal "2"])]

/-- A list of single items stands between an empty one and one that has an empty list in it. -/
theorem spreading_agrees_wordAndSum :
    (∀ a ∈ wordAndSum, a.IsSingle) ∧
    (Block.mk "reportJoinWords" ([Arg.list []] ++ [Arg.list wordAndSum] ++ [Arg.list [.list []]])).render .statement =
      (Block.mk "reportJoinWords" ([Arg.list []] ++ wordAndSum ++ [Arg.list [.list []]])).render .statement ∧
    (Block.mk "reportJoinWords" ([Arg.list []] ++ [Arg.list wordAndSum] ++ [Arg.list [.list []]])).render .statement =
      "[b, 1 + 2, []].join('')" := by
  have hsingle : ∀ a ∈ wordAndSum, a.IsSingle := by
    intro a ha items hlist
    subst hlist
    simp [wordAndSum] at ha
  have hsame := (spreading_agrees .statement wordAndSum).2.1 hsingle [.list []] [.list [.list []]]
    "reportJoinWords" (by simp)
  exact ⟨hsingle, hsame, by decide +kernel⟩

end SpriteScribe
