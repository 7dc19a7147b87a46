/-
What of a document matters to its program. Compiling reads the names of elements, the `name` of sprites,
the `s` of blocks and the text of literals, options and colours. Everything else can be left out of the
document (`Element.essence`): comments, instructions, other attributes, text in other elements, and how
the text of an element is cut into pieces. Leaving it out changes neither the program and its warnings nor
the error, so two documents that differ in such things only are the same to the compiler.
-/
import SpriteScribe.Proofs.Lookup
import SpriteScribe.Proofs.Project.Acceptance

namespace SpriteScribe

/-! ## The essence of a document -/

namespace Markup

/-- The names of the elements whose text is read. -/
def textTags : List String := ["l", "option", "color"]

/-- Whether an attribute is read, by the name of its element and its key. -/
def isRead (name key : String) : Bool := (name == "sprite" && key == "name") || (name == "block" && key == "s")

/-- The text among the children of an element as one piece, if it is read. -/
def joinedText (name : String) (children : List Node) : List Node :=
  if name ∈ textTags then [.text (String.join (children.filterMap Node.characters?))] else []

mutual

/-- A document without comments, instructions and what else is not read. The text that is read comes in
one piece, before the child elements. -/
def Element.essence : Element → Element
  | .mk name attributes children =>
    .mk name (attributes.filter fun a => isRead name a.1) (joinedText name children ++ essences children)

/-- The child elements among nodes, each by its essence. -/
def essences : List Node → List Node
  | [] => []
  | .element e :: rest => .element e.essence :: essences rest
  | _ :: rest => essences rest

end

theorem essences_eq : ∀ ns : List Node, essences ns = (ns.filterMap Node.element?).map fun e => .element e.essence
  | [] => by rw [essences]; rfl
  | .element e :: rest => by rw [essences, essences_eq rest]; rfl
  | .text _ :: rest => by rw [essences, essences_eq rest]; rfl; nofun
  | .cdata _ :: rest => by rw [essences, essences_eq rest]; rfl; nofun
  | .comment _ :: rest => by rw [essences, essences_eq rest]; rfl; nofun
  | .instruction _ _ :: rest => by rw [essences, essences_eq rest]; rfl; nofun

namespace Element

@[simp] theorem name_essence (e : Element) : e.essence.name = e.name := by
  cases e; rw [essence]; rfl

@[simp] theorem childElements_essence (e : Element) : e.essence.childElements = e.childElements.map essence := by
  obtain ⟨name, attributes, children⟩ := e
  have htext : (joinedText name children).filterMap Node.element? = [] := by
    unfold joinedText; split <;> rfl
  have hes : (essences children).filterMap Node.element? = (children.filterMap Node.element?).map essence := by
    rw [essences_eq, List.filterMap_map]
    exact congrFun List.filterMap_eq_map _
  rw [essence]
  show (joinedText name children ++ essences children).filterMap Node.element? = _
  rw [List.filterMap_append, htext, List.nil_append, hes]
  rfl

/-- An attribute that is read stays. -/
theorem attr?_essence {e : Element} {key : String} (h : isRead e.name key = true) :
    e.essence.attr? key = e.attr? key := by
  obtain ⟨name, attributes, children⟩ := e
  rw [essence]
  exact lookup_filter_key (p := isRead name) h attributes

/-- Text that is read stays, whatever pieces it came in. -/
theorem text_essence {e : Element} (h : e.name ∈ textTags) : e.essence.text = e.text := by
  obtain ⟨name, attributes, children⟩ := e
  have htext : joinedText name children = [.text (mk name attributes children).text] := if_pos h
  have hes : (essences children).filterMap Node.characters? = [] := by
    rw [essences_eq, List.filterMap_map, List.filterMap_eq_nil_iff]
    intro x _
    rfl
  rw [essence]
  show String.join ((joinedText name children ++ essences children).filterMap Node.characters?) = _
  rw [List.filterMap_append, hes, htext, List.append_nil]
  exact String.empty_append

/-! ## Search -/

theorem childrenNamed_essence (e : Element) (name : String) :
    e.essence.childrenNamed name = (e.childrenNamed name).map essence := by
  rw [childrenNamed, childElements_essence, List.filter_map]
  congr 2
  funext x
  simp

theorem descend_essence (es : List Element) (path : List String) :
    descend (es.map essence) path = (descend es path).map essence := by
  induction path generalizing es with
  | nil => rfl
  | cons name path ih =>
    show descend ((es.map essence).flatMap (·.childrenNamed name)) path = _
    have hstep : (es.map essence).flatMap (·.childrenNamed name) =
        (es.flatMap (·.childrenNamed name)).map essence := by
      simp only [List.flatMap_map, childrenNamed_essence, List.map_flatMap]
    rw [hstep, ih]
    rfl

theorem find_essence (e : Element) (path : String) : e.essence.find path = (e.find path).map essence :=
  descend_essence [e] _

theorem findFromRoot_essence (e : Element) (path : String) :
    e.essence.findFromRoot path = (e.findFromRoot path).map essence := by
  simp only [findFromRoot, name_essence]
  split
  · exact descend_essence [e] _
  · rfl

end Element

end Markup

open SpriteScribe.Markup

/-! ## Building -/

theorem literalText_essence {e : Element} (h : e.name = "l") : literalText e.essence = literalText e := by
  have hfind : (e.childElements.map Element.essence).find? (·.name == "option") =
      (e.childElements.find? (·.name == "option")).map Element.essence := by
    rw [List.find?_map]
    congr 2
    funext x
    simp
  unfold literalText
  rw [Element.childElements_essence, hfind]
  cases hopt : e.childElements.find? (·.name == "option") with
  | none => exact Element.text_essence (by rw [h]; decide)
  | some option =>
    have hname : option.name = "option" := by simpa using List.find?_some hopt
    exact Element.text_essence (by rw [hname]; decide)

theorem Build.each_map {α β γ : Type} {f : β → Build γ} {g : α → β} {f' : α → Build γ} :
    ∀ {xs : List α}, (∀ x ∈ xs, f (g x) = f' x) → each f (xs.map g) = each f' xs
  | [], _ => rfl
  | x :: xs, h => by
    rw [List.map_cons, each, each, h x List.mem_cons_self, each_map fun y hy => h y (List.mem_cons_of_mem _ hy)]

theorem Build.collect_map {α β γ : Type} {f : β → Build (Option γ)} {g : α → β} {f' : α → Build (Option γ)}
    {xs : List α} (h : ∀ x ∈ xs, f (g x) = f' x) : collect f (xs.map g) = collect f' xs := by
  rw [collect, collect, each_map h]

section

variable (ctx : BuildContext)

theorem buildBlock_essence {e : Element} (hn : e.name = "block")
    (ih : ∀ x ∈ e.childElements, ∀ selector, buildArg ctx selector x.essence = buildArg ctx selector x) :
    buildBlock ctx e.essence = buildBlock ctx e := by
  have hattr : e.essence.attributes.lookup "s" = e.attributes.lookup "s" :=
    Element.attr?_essence (by rw [hn]; decide)
  have hrequired : required e.name e.essence.attributes "s" = required e.name e.attributes "s" := by
    unfold required; rw [hattr]
  unfold buildBlock
  rw [Element.name_essence, hrequired, Element.childElements_essence]
  congr 1
  funext selector
  rw [Build.each_map fun x hx => ih x hx selector]

theorem buildItem_essence {e : Element} (ih : e.name = "block" → buildBlock ctx e.essence = buildBlock ctx e) :
    buildItem ctx e.essence = buildItem ctx e := by
  unfold buildItem
  rw [Element.name_essence]
  split
  · rename_i hn
    rw [ih hn]
  · rfl

/-- Building from the essence of an element is building from the element. -/
theorem build_essence (e : Element) :
    (∀ selector, buildArg ctx selector e.essence = buildArg ctx selector e) ∧
      (e.name = "block" → buildBlock ctx e.essence = buildBlock ctx e) := by
  induction e using Element.childInduction with
  | _ e ih =>
    have hblock : e.name = "block" → buildBlock ctx e.essence = buildBlock ctx e :=
      fun hn => buildBlock_essence ctx hn fun x hx => (ih x hx).1
    refine ⟨fun selector => ?_, hblock⟩
    rw [buildArg_eq, buildArg_eq, Element.name_essence]
    -- the name of the element says what is read of it
    rcases ofTag_cases e.name with ⟨hn, hk⟩ | ⟨hn, hk⟩ | ⟨-, hk⟩ | ⟨hn, hk⟩ | ⟨-, hk⟩ | ⟨-, hk⟩ <;> simp only [hk]
    · rw [literalText_essence hn]
    · rw [Element.text_essence (by rw [hn]; decide)]
    · rw [Element.childElements_essence, Build.each_map fun x hx => (ih x hx).1 selector]
    · rw [hblock hn]
    · rw [Element.childElements_essence, Build.collect_map fun x hx => buildItem_essence ctx (ih x hx).2]

theorem buildScript_essence (declared : String) (e : Element) :
    buildScript ctx declared e.essence = buildScript ctx declared e := by
  unfold buildScript
  rw [Element.childElements_essence, Build.collect_map fun x _ => buildItem_essence ctx (build_essence ctx x).2]

theorem buildSprite_essence (declared : String) (e : Element) :
    buildSprite ctx declared e.essence = buildSprite ctx declared e := by
  rw [buildSprite_eq, buildSprite_eq, Element.find_essence,
    Build.collect_map fun x _ => buildScript_essence ctx declared x]

end

/-! ## Calls and projects -/

namespace Compiler

theorem makeSprite_essence (c : Compiler) {e : Element} (hn : e.name = "sprite") :
    c.makeSprite e.essence = c.makeSprite e := by
  have hattr : e.essence.attr? "name" = e.attr? "name" := Element.attr?_essence (by rw [hn]; decide)
  unfold makeSprite
  rw [hattr, Element.name_essence]
  simp only [buildSprite_essence]

theorem makeSprites_essence (c : Compiler) {es : List Element} (h : ∀ e ∈ es, e.name = "sprite") :
    c.makeSprites (es.map Element.essence) = c.makeSprites es := by
  induction es generalizing c with
  | nil => rfl
  | cons e es ih =>
    rw [List.map_cons, makeSprites, makeSprites, makeSprite_essence c (h e List.mem_cons_self)]
    rcases c.makeSprite e with ⟨c', err | s⟩
    · rfl
    · exact ih c' fun f hf => h f (List.mem_cons_of_mem _ hf)

end Compiler

theorem spriteElements_essence (root : Element) :
    spriteElements root.essence = (spriteElements root).map Element.essence := by
  unfold spriteElements
  rw [List.map_flatMap]
  exact congrArg (List.flatMap · spritePaths) (funext root.findFromRoot_essence)

theorem name_of_mem_spriteElements {root e : Element} (h : root.name = "project" ∨ root.name = "snapdata")
    (he : e ∈ spriteElements root) : e.name = "sprite" := by
  rw [← map_spritePlaces h] at he
  obtain ⟨x, hx, rfl⟩ := List.mem_map.1 he
  exact name_of_mem_spritePlaces hx

/-- Compiling the essence of a document is compiling the document. -/
theorem compileProject_essence (strict : Bool) (root : Element) :
    compileProject strict root.essence = compileProject strict root := by
  unfold compileProject
  rw [Element.name_essence]
  split
  · rename_i hr
    rw [spriteElements_essence, Compiler.makeSprites_essence _ fun e he => name_of_mem_spriteElements hr he]
  · rfl

/-- Documents that come to the same without what is not read compile to the same: the program, the
warnings, the error and the log are the same. -/
theorem compileProject_of_essence_eq (strict : Bool) {root other : Element} (h : root.essence = other.essence) :
    compileProject strict root = compileProject strict other := by
  rw [← compileProject_essence strict root, h, compileProject_essence]

/-- A project with a literal, and nothing in it that is not read. -/
def bareProject : Element :=
  .mk "project" [] [.element (.mk "stage" [] [.element (.mk "sprites" [] [.element
    (.mk "sprite" [("name", "Cat")] [.element (.mk "scripts" [] [.element (.mk "script" []
      [.element (.mk "block" [("s", "receiveGo")] []),
       .element (.mk "block" [("s", "bubble")]
         [.element (.mk "l" [] [.text "one two", .element (.mk "hint" [] [])])])])])])])])]

/-- The same with comments, an instruction, layout and further attributes, and with the literal in pieces
around the element inside it. -/
def layoutProject : Element :=
  .mk "project" [("app", "Editor")] [.comment "saved", .element (.mk "stage" [("width", "480")]
    [.text "\n  ", .element (.mk "sprites" [] [.element
      (.mk "sprite" [("idx", "1"), ("name", "Cat"), ("x", "0")] [.cdata "", .element (.mk "scripts" [("s", "1")]
        [.element (.mk "script" [("name", "n")]
          [.element (.mk "block" [("s", "receiveGo"), ("id", "7")] [.text "when"]), .instruction "fold" none,
           .element (.mk "block" [("s", "bubble")] [.element (.mk "l" [("s", "2")]
             [.text "one", .comment "here", .cdata " ", .element (.mk "hint" [] []), .text "two"])])])])])])])]

theorem compileProject_of_essence_eq_layout :
    layoutProject.essence = bareProject.essence ∧ (compileProject true layoutProject).result = .ok
      ⟨"var cat;\n\ncat = new Sprite();\n\ncat.onReceiveGo(function () \x7b\n\tthis.bubble(one two);\n\x7d);", []⟩ := by
  have hessence : layoutProject.essence = bareProject.essence := by rfl
  refine ⟨hessence, ?_⟩
  rw [compileProject_of_essence_eq true hessence]
  rfl

end SpriteScribe
