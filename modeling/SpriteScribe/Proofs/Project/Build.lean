/-
Building, said of child elements. Text, comments and instructions between the children of an
element play no part in building, so the arguments of a block are its child elements built one
after the other, and a script goes through its child elements in the same way. In this form a law
of building is proven by induction on elements (`Element.childInduction`), with one lemma for
`Build.each`.
-/
import SpriteScribe.Project.Build

namespace SpriteScribe

open SpriteScribe.Markup

/-! ## Results in sequence -/

namespace Build

variable {α β γ : Type}

theorem bind_eq (b : Build α) (f : α → Build β) : b >>= f = b.andThen f := rfl

theorem bind_ok (ws : List Warning) (a : α) (f : α → Build β) :
    (⟨ws, .ok a⟩ : Build α) >>= f = ⟨ws ++ (f a).warnings, (f a).result⟩ := rfl

theorem bind_error (ws : List Warning) (e : CompileError) (f : α → Build β) :
    (⟨ws, .error e⟩ : Build α) >>= f = ⟨ws, .error e⟩ := rfl

theorem id_map_eq (b : Build α) : id <$> b = b := by
  obtain ⟨ws, e | a⟩ := b
  · rfl
  · show (⟨ws ++ [], .ok a⟩ : Build α) = _
    rw [List.append_nil]

theorem bind_assoc_eq (b : Build α) (f : α → Build β) (g : β → Build γ) :
    b >>= f >>= g = b >>= fun a => f a >>= g := by
  obtain ⟨ws, e | a⟩ := b
  · rfl
  · rw [bind_ok, bind_ok, bind_eq (f a) g, andThen]
    rcases h : (f a).result with e | c
    · rw [bind_error]
    · rw [bind_ok, List.append_assoc]

instance : LawfulMonad Build := LawfulMonad.mk' Build id_map_eq (fun _ _ => rfl) bind_assoc_eq

/-- A sequence has a value when both of its parts do. -/
theorem bind_result_ok {b : Build α} {f : α → Build β} {r : β} :
    (b >>= f).result = .ok r ↔ ∃ a, b.result = .ok a ∧ (f a).result = .ok r := by
  obtain ⟨ws, e | a⟩ := b
  · rw [bind_error]; simp
  · rw [bind_ok]; simp

/-- The same with the warnings, which are those of both parts in order. -/
theorem bind_eq_ok {b : Build α} {f : α → Build β} {r : β} {ws : List Warning} (h : b >>= f = ⟨ws, .ok r⟩) :
    ∃ us a vs, b = ⟨us, .ok a⟩ ∧ f a = ⟨vs, .ok r⟩ ∧ ws = us ++ vs := by
  obtain ⟨us, e | a⟩ := b
  · cases h
  · rw [bind_ok] at h
    cases hf : f a with
    | mk vs r' =>
      rw [hf] at h
      cases h
      exact ⟨us, a, vs, rfl, hf, rfl⟩

/-! ## Lists -/

/-- Builds something from each of a list, in order. -/
def each (f : α → Build β) : List α → Build (List β)
  | [] => pure []
  | x :: xs => do
    let y ← f x
    let ys ← each f xs
    return y :: ys

/-- Builds something from each of a list, in order, and keeps what there is. -/
def collect (f : α → Build (Option β)) (xs : List α) : Build (List β) := do
  return (← each f xs).filterMap id

theorem collect_cons (f : α → Build (Option β)) (x : α) (xs : List α) :
    collect f (x :: xs) = do
      let y ← f x
      let ys ← collect f xs
      return y.toList ++ ys := by
  simp only [collect, each, bind_assoc, pure_bind]
  congr 1; funext y; congr 1; funext ys
  cases y <;> rfl

/-- Everything in the result was built from one of the list. -/
theorem each_result_ok {f : α → Build β} : ∀ {xs : List α} {ys : List β}, (each f xs).result = .ok ys →
    ∀ y ∈ ys, ∃ x ∈ xs, (f x).result = .ok y
  | [], ys, h, y, hy => by cases h; cases hy
  | x :: xs, ys, h, y, hy => by
    obtain ⟨z, hz, h⟩ := bind_result_ok.1 h
    obtain ⟨zs, hzs, h⟩ := bind_result_ok.1 h
    cases h
    rcases List.mem_cons.1 hy with rfl | hy
    · exact ⟨x, List.mem_cons_self, hz⟩
    · obtain ⟨x', hx', hxy⟩ := each_result_ok hzs y hy
      exact ⟨x', List.mem_cons_of_mem _ hx', hxy⟩

theorem collect_result_ok {f : α → Build (Option β)} {xs : List α} {ys : List β}
    (h : (collect f xs).result = .ok ys) : ∀ y ∈ ys, ∃ x ∈ xs, (f x).result = .ok (some y) := by
  obtain ⟨os, hos, h⟩ := bind_result_ok.1 h
  cases h
  intro y hy
  obtain ⟨o, ho, rfl⟩ := List.mem_filterMap.1 hy
  exact each_result_ok hos (some y) ho

end Build

/-! ## Child elements -/

namespace Markup

mutual

/-- Induction on elements: what passes from the child elements to their parent holds of all. -/
theorem Element.childInduction {P : Element → Prop} (h : ∀ e, (∀ x ∈ e.childElements, P x) → P e) :
    ∀ e, P e
  | .mk _ _ children => h _ (Node.childInduction h children)

theorem Node.childInduction {P : Element → Prop} (h : ∀ e, (∀ x ∈ e.childElements, P x) → P e) :
    ∀ (ns : List Node), ∀ x ∈ ns.filterMap Node.element?, P x
  | [], x, hx => by cases hx
  | .element e :: rest, x, hx => by
    rcases List.mem_cons.1 hx with he | hx
    · rw [he]; exact Element.childInduction h e
    · exact Node.childInduction h rest x hx
  | .text _ :: rest, x, hx => Node.childInduction h rest x hx
  | .cdata _ :: rest, x, hx => Node.childInduction h rest x hx
  | .comment _ :: rest, x, hx => Node.childInduction h rest x hx
  | .instruction _ _ :: rest, x, hx => Node.childInduction h rest x hx

end

end Markup

/-- The arguments among nodes are the elements among them, built in order. -/
theorem buildArgs_eq (ctx : BuildContext) (selector : String) :
    ∀ ns : List Node, buildArgs ctx selector ns =
      Build.each (buildArg ctx selector) (ns.filterMap Node.element?)
  | [] => by rw [buildArgs]; rfl
  | .element e :: rest => by rw [buildArgs, buildArgs_eq ctx selector rest]; rfl
  | .text _ :: rest => by rw [buildArgs, buildArgs_eq ctx selector rest]; rfl; nofun
  | .cdata _ :: rest => by rw [buildArgs, buildArgs_eq ctx selector rest]; rfl; nofun
  | .comment _ :: rest => by rw [buildArgs, buildArgs_eq ctx selector rest]; rfl; nofun
  | .instruction _ _ :: rest => by rw [buildArgs, buildArgs_eq ctx selector rest]; rfl; nofun

/-- The block that an element is. -/
def buildBlock (ctx : BuildContext) (e : Element) : Build Block := do
  let selector ← required e.name e.attributes "s"
  return .mk selector (← Build.each (buildArg ctx selector) e.childElements)

/-- What a child element contributes to a script: a block, or only a warning. -/
def buildItem (ctx : BuildContext) (e : Element) : Build (Option Block) :=
  if e.name = "block" then do return some (← buildBlock ctx e)
  else do
    .warn (.skippedElement e.name ctx.owner)
    return none

/-- The blocks among nodes are those of the elements among them, built in order. -/
theorem buildBlocks_eq (ctx : BuildContext) :
    ∀ ns : List Node, buildBlocks ctx ns = Build.collect (buildItem ctx) (ns.filterMap Node.element?)
  | [] => by rw [buildBlocks]; rfl
  | .element (.mk name attributes children) :: rest => by
    rw [buildBlocks, buildBlocks_eq ctx rest]
    show _ = Build.collect (buildItem ctx) (.mk name attributes children :: rest.filterMap Node.element?)
    rw [Build.collect_cons, buildItem]
    split <;> rename_i hn
    · rw [if_pos (show (Element.mk name attributes children).name = "block" from hn)]
      simp only [buildBlock, bind_assoc, pure_bind, buildArgs_eq]
      rfl
    · rw [if_neg (show ¬ (Element.mk name attributes children).name = "block" from hn)]
      simp only [bind_assoc, pure_bind, Option.toList_none, List.nil_append, bind_pure]
      rfl
  | .text _ :: rest => by rw [buildBlocks, buildBlocks_eq ctx rest]; rfl; nofun
  | .cdata _ :: rest => by rw [buildBlocks, buildBlocks_eq ctx rest]; rfl; nofun
  | .comment _ :: rest => by rw [buildBlocks, buildBlocks_eq ctx rest]; rfl; nofun
  | .instruction _ _ :: rest => by rw [buildBlocks, buildBlocks_eq ctx rest]; rfl; nofun

/-- An argument by the kind of its element, in terms of child elements. -/
theorem buildArg_eq (ctx : BuildContext) (selector : String) (e : Element) :
    buildArg ctx selector e = match ArgKind.ofTag e.name with
      | .literal => pure (.literal (literalText e))
      | .color => pure (.color (.parse e.text))
      | .list => do return .list (← Build.each (buildArg ctx selector) e.childElements)
      | .block => do return .block (← buildBlock ctx e)
      | .script => do return .script (.mk ctx.owner false (← Build.collect (buildItem ctx) e.childElements))
      | .unknown => unclassified ctx e.name selector := by
  obtain ⟨name, attributes, children⟩ := e
  rw [buildArg]
  show _ = match ArgKind.ofTag name with
    | .literal => _ | .color => _ | .list => _ | .block => _ | .script => _ | .unknown => _
  cases ArgKind.ofTag name with
  | literal => rfl
  | color => rfl
  | list => simp only [buildArgs_eq]; rfl
  | block => simp only [buildArgs_eq, buildBlock, bind_assoc, pure_bind]; rfl
  | script => simp only [buildBlocks_eq]; rfl
  | unknown => rfl

/-! ## Sprites -/

/-- What a script element contributes to a sprite: a header script, or only a warning. -/
def buildScript (ctx : BuildContext) (declared : String) (e : Element) : Build (Option Script) := do
  let blocks ← Build.collect (buildItem ctx) e.childElements
  if blocks.isEmpty then do
    .warn (.emptyScript declared)
    return none
  else return some (.mk ctx.owner true blocks)

theorem buildScripts_eq (ctx : BuildContext) (declared : String) :
    ∀ es : List Element, buildScripts ctx declared es = Build.collect (buildScript ctx declared) es
  | [] => rfl
  | e :: es => by
    rw [buildScripts, Build.collect_cons, buildScript, buildBlocks_eq, bind_assoc]
    congr 1; funext blocks
    split
    · rw [bind_assoc, buildScripts_eq ctx declared es]
      simp
    · rw [pure_bind, buildScripts_eq ctx declared es]
      rfl

theorem buildSprite_eq (ctx : BuildContext) (declared : String) (e : Element) :
    buildSprite ctx declared e = do
      return ⟨ctx.owner, declared, ← Build.collect (buildScript ctx declared) (e.find "scripts/script")⟩ := by
  rw [buildSprite, buildScripts_eq]

end SpriteScribe
