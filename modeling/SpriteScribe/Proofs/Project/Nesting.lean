/-
What is inside a sprite that was built. The scripts among the arguments of its blocks, at every
depth, belong to the sprite and are no headers; an argument is unclassified only if its element
has none of the names of arguments and such elements are accepted; and the scripts of the sprite
itself are headers of its own with at least one block.
-/
import SpriteScribe.Proofs.Project.Build

namespace SpriteScribe

open SpriteScribe.Markup

/-! ## Arguments at every depth -/

mutual

/-- An argument with all arguments inside it. -/
def Arg.nested : Arg → List Arg
  | .literal value => [.literal value]
  | .color c => [.color c]
  | .list items => .list items :: nestedArgs items
  | .block b => .block b :: b.nested
  | .script s => .script s :: s.nested
  | .unclassified tag => [.unclassified tag]

/-- The arguments of a block, with all arguments inside them. -/
def Block.nested : Block → List Arg
  | .mk _ args => nestedArgs args

/-- The arguments of the blocks of a script, with all arguments inside them. -/
def Script.nested : Script → List Arg
  | .mk _ _ blocks => nestedBlocks blocks

def nestedArgs : List Arg → List Arg
  | [] => []
  | a :: as => a.nested ++ nestedArgs as

def nestedBlocks : List Block → List Arg
  | [] => []
  | b :: bs => b.nested ++ nestedBlocks bs

end

theorem mem_nestedArgs {x : Arg} : ∀ {as : List Arg}, x ∈ nestedArgs as ↔ ∃ a ∈ as, x ∈ a.nested
  | [] => by simp [nestedArgs]
  | a :: as => by simp [nestedArgs, mem_nestedArgs]

theorem mem_nestedBlocks {x : Arg} : ∀ {bs : List Block}, x ∈ nestedBlocks bs ↔ ∃ b ∈ bs, x ∈ b.nested
  | [] => by simp [nestedBlocks]
  | b :: bs => by simp [nestedBlocks, mem_nestedBlocks]

/-! ## Unclassified arguments -/

/-- The names of the elements that can be told to be arguments. -/
def argTags : List String := ["l", "color", "list", "block", "script"]

theorem ofTag_eq_unknown_iff (tag : String) : ArgKind.ofTag tag = .unknown ↔ tag ∉ argTags := by
  unfold ArgKind.ofTag
  constructor
  · intro h
    repeat' split at h
    all_goals first | cases h; done | simp_all [argTags]
  · intro h
    simp only [argTags, List.mem_cons, List.not_mem_nil, or_false, not_or] at h
    obtain ⟨h1, h2, h3, h4, h5⟩ := h
    rw [if_neg h1, if_neg h2, if_neg h3, if_neg h4, if_neg h5]

/-- An argument is left unclassified only where that is accepted. -/
theorem unclassified_ok {ctx : BuildContext} {tag selector : String} {a : Arg}
    (h : (unclassified ctx tag selector).result = .ok a) : ctx.strict = false ∧ a = .unclassified tag := by
  unfold unclassified at h
  split at h
  · cases h
  · rename_i hs
    obtain ⟨-, -, ha⟩ := Build.bind_result_ok.1 h
    cases ha
    exact ⟨by simpa using hs, rfl⟩

/-! ## What holds of the arguments of a sprite -/

/-- What holds of an argument, apart from those inside it, that was built for a sprite. -/
def Arg.Fits (ctx : BuildContext) : Arg → Prop
  | .script s => s.isHeader = false ∧ s.owner = ctx.owner
  | .unclassified tag => tag ∉ argTags ∧ ctx.strict = false
  | _ => True

theorem each_fits {ctx : BuildContext} {selector : String} {es : List Element} {as : List Arg}
    (ih : ∀ e ∈ es, ∀ a, (buildArg ctx selector e).result = .ok a → ∀ x ∈ a.nested, x.Fits ctx)
    (h : (Build.each (buildArg ctx selector) es).result = .ok as) : ∀ x ∈ nestedArgs as, x.Fits ctx := by
  intro x hx
  obtain ⟨a, ha, hx⟩ := mem_nestedArgs.1 hx
  obtain ⟨e, he, hea⟩ := Build.each_result_ok h a ha
  exact ih e he a hea x hx

theorem buildItem_ok {ctx : BuildContext} {e : Element} {b : Block} (h : (buildItem ctx e).result = .ok (some b)) :
    e.name = "block" ∧ (buildBlock ctx e).result = .ok b := by
  unfold buildItem at h
  split at h
  · rename_i hn
    obtain ⟨b', hb, h⟩ := Build.bind_result_ok.1 h
    cases h
    exact ⟨hn, hb⟩
  · obtain ⟨-, -, h⟩ := Build.bind_result_ok.1 h
    cases h

theorem collect_fits {ctx : BuildContext} {es : List Element} {bs : List Block}
    (ih : ∀ e ∈ es, ∀ b, (buildBlock ctx e).result = .ok b → ∀ x ∈ b.nested, x.Fits ctx)
    (h : (Build.collect (buildItem ctx) es).result = .ok bs) : ∀ x ∈ nestedBlocks bs, x.Fits ctx := by
  intro x hx
  obtain ⟨b, hb, hx⟩ := mem_nestedBlocks.1 hx
  obtain ⟨e, he, heb⟩ := Build.collect_result_ok h b hb
  exact ih e he b (buildItem_ok heb).2 x hx

/-- Building fits, for an element read as an argument and for one read as a block: an argument may
be a script, whose blocks are again read as blocks. -/
theorem build_fits (ctx : BuildContext) (e : Element) :
    (∀ selector a, (buildArg ctx selector e).result = .ok a → ∀ x ∈ a.nested, x.Fits ctx) ∧
    (∀ b, (buildBlock ctx e).result = .ok b → ∀ x ∈ b.nested, x.Fits ctx) := by
  induction e using Element.childInduction with
  | _ e ih =>
    have hblock : ∀ b, (buildBlock ctx e).result = .ok b → ∀ x ∈ b.nested, x.Fits ctx := by
      intro b h
      obtain ⟨selector, -, h⟩ := Build.bind_result_ok.1 h
      obtain ⟨args, hargs, h⟩ := Build.bind_result_ok.1 h
      cases h
      rw [Block.nested]
      exact each_fits (fun x hx a => (ih x hx).1 selector a) hargs
    refine ⟨fun selector a h => ?_, hblock⟩
    rw [buildArg_eq] at h
    cases hk : ArgKind.ofTag e.name with
    | literal => rw [hk] at h; cases h; simp [Arg.nested, Arg.Fits]
    | color => rw [hk] at h; cases h; simp [Arg.nested, Arg.Fits]
    | list =>
      rw [hk] at h
      obtain ⟨items, hi, h⟩ := Build.bind_result_ok.1 h
      cases h
      have hf := each_fits (fun x hx a => (ih x hx).1 selector a) hi
      simpa [Arg.nested, Arg.Fits] using hf
    | block =>
      rw [hk] at h
      obtain ⟨b, hb, h⟩ := Build.bind_result_ok.1 h
      cases h
      simpa [Arg.nested, Arg.Fits] using hblock b hb
    | script =>
      rw [hk] at h
      obtain ⟨blocks, hb, h⟩ := Build.bind_result_ok.1 h
      cases h
      have hf := collect_fits (fun x hx b => (ih x hx).2 b) hb
      simpa [Arg.nested, Script.nested, Arg.Fits, Script.isHeader, Script.owner] using hf
    | unknown =>
      rw [hk] at h
      obtain ⟨hs, rfl⟩ := unclassified_ok h
      simpa [Arg.nested, Arg.Fits, hs] using (ofTag_eq_unknown_iff e.name).1 hk

/-! ## Sprites -/

/-- A script that a sprite with an identifier may have. -/
structure Script.IsOwn (ctx : BuildContext) (s : Script) : Prop where
  header : s.isHeader = true
  blocks : s.blocks ≠ []
  owner : s.owner = ctx.owner
  nested : ∀ x ∈ s.nested, x.Fits ctx

theorem buildScript_ok {ctx : BuildContext} {declared : String} {e : Element} {s : Script}
    (h : (buildScript ctx declared e).result = .ok (some s)) : s.IsOwn ctx := by
  obtain ⟨blocks, hb, h⟩ := Build.bind_result_ok.1 h
  split at h
  · obtain ⟨-, -, h⟩ := Build.bind_result_ok.1 h
    cases h
  · rename_i hne
    cases h
    refine ⟨rfl, by simpa [Script.blocks] using hne, rfl, ?_⟩
    rw [Script.nested]
    exact collect_fits (fun x _ b => (build_fits ctx x).2 b) hb

/-- A sprite that was built has the identifier it was built for, the declared name, and scripts of
its own. -/
theorem buildSprite_ok {ctx : BuildContext} {declared : String} {e : Element} {s : Sprite}
    (h : (buildSprite ctx declared e).result = .ok s) :
    s.name = ctx.owner ∧ s.declared = declared ∧ ∀ script ∈ s.scripts, script.IsOwn ctx := by
  rw [buildSprite_eq] at h
  obtain ⟨scripts, hs, h⟩ := Build.bind_result_ok.1 h
  cases h
  refine ⟨rfl, rfl, fun script hmem => ?_⟩
  obtain ⟨x, -, hx⟩ := Build.collect_result_ok hs script hmem
  exact buildScript_ok hx

end SpriteScribe
