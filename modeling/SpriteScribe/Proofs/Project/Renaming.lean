/-
A sprite under two identifiers. Building it goes the same way under both: the same error, or sprites whose
blocks are written the same, and warnings that differ in the identifier they quote. The two runs are
followed side by side (`Build.Alike`). An identifier is handed to every script at every depth, but the
scripts inside blocks are no headers, and only a header is written with the name of its owner. So in the
text of the sprite the identifier shows where the sprite is created and where its scripts are registered,
and nowhere else.
-/
import SpriteScribe.Proofs.Project.Framing
import Mathlib.Data.List.Forall2

namespace SpriteScribe

open SpriteScribe.Markup SpriteScribe.Text

/-! ## Two builds side by side -/

namespace Build

variable {α β γ δ : Type} {W : Warning → Warning → Prop}

/-- Results that correspond: values that are related, or the same error. -/
inductive SameResult (R : α → β → Prop) : Except CompileError α → Except CompileError β → Prop
  | ok {a : α} {b : β} : R a b → SameResult R (.ok a) (.ok b)
  | error (err : CompileError) : SameResult R (.error err) (.error err)

/-- Builds that go alike: their warnings correspond one to one, and so do their results. -/
structure Alike (W : Warning → Warning → Prop) (R : α → β → Prop) (b : Build α) (c : Build β) : Prop where
  warnings : List.Forall₂ W b.warnings c.warnings
  result : SameResult R b.result c.result

namespace Alike

theorem pure {R : α → β → Prop} {a : α} {b : β} (h : R a b) : Alike W R (Pure.pure a) (Pure.pure b) :=
  ⟨.nil, .ok h⟩

theorem warn {w v : Warning} (h : W w v) : Alike W Eq (Build.warn w) (Build.warn v) :=
  ⟨.cons h .nil, .ok rfl⟩

theorem bind {R : α → β → Prop} {S : γ → δ → Prop} {b : Build α} {c : Build β} {f : α → Build γ} {g : β → Build δ}
    (h : Alike W R b c) (hf : ∀ x y, R x y → Alike W S (f x) (g y)) : Alike W S (b >>= f) (c >>= g) := by
  obtain ⟨us, r⟩ := b
  obtain ⟨vs, r'⟩ := c
  obtain ⟨hw, hr⟩ := h
  cases hr with
  | error err => exact ⟨hw, .error err⟩
  | ok hxy =>
    obtain ⟨hw', hr'⟩ := hf _ _ hxy
    exact ⟨List.rel_append hw hw', hr'⟩

theorem each {R : β → γ → Prop} {f : α → Build β} {g : α → Build γ} :
    ∀ {xs : List α}, (∀ x ∈ xs, Alike W R (f x) (g x)) → Alike W (List.Forall₂ R) (Build.each f xs) (Build.each g xs)
  | [], _ => pure .nil
  | x :: xs, h => by
    refine bind (h x List.mem_cons_self) fun y z hyz => ?_
    refine bind (each fun x' hx' => h x' (List.mem_cons_of_mem _ hx')) fun ys zs hrest => ?_
    exact pure (.cons hyz hrest)

theorem collect {R : β → γ → Prop} {f : α → Build (Option β)} {g : α → Build (Option γ)} {xs : List α}
    (h : ∀ x ∈ xs, Alike W (Option.Rel R) (f x) (g x)) :
    Alike W (List.Forall₂ R) (Build.collect f xs) (Build.collect g xs) :=
  bind (each h) fun _ _ hos => pure (List.rel_filterMap (fun _ _ ho => ho) hos)

end Alike

end Build

/-! ## Arguments and blocks that are written the same -/

/-- Arguments that make no difference to the text of the block they are in. -/
structure Arg.SameText (a b : Arg) : Prop where
  render : ∀ mode, a.render mode = b.render mode
  needsParens : a.needsParens = b.needsParens
  spread : SpriteScribe.spread [a] = SpriteScribe.spread [b]

structure Block.SameText (b c : Block) : Prop where
  selector : b.selector = c.selector
  render : ∀ mode, b.render mode = c.render mode

theorem Arg.SameText.refl (a : Arg) : a.SameText a := ⟨fun _ => rfl, rfl, rfl⟩

theorem spread_cons (a : Arg) (as : List Arg) : spread (a :: as) = spread [a] ++ spread as := by
  cases a <;> simp [spread]

section Lists

variable {as bs : List Arg} {blocks blocks' : List Block}

theorem expressions_congr (h : List.Forall₂ Arg.SameText as bs) : expressions as = expressions bs := by
  induction h with
  | nil => rfl
  | cons hab _ ih => rw [expressions, expressions, hab.render, ih]

theorem operands_congr (h : List.Forall₂ Arg.SameText as bs) : operands as = operands bs := by
  induction h with
  | nil => rfl
  | cons hab _ ih => rw [operands, operands, funext hab.render, hab.needsParens, ih]

theorem spread_congr (h : List.Forall₂ Arg.SameText as bs) : spread as = spread bs := by
  induction h with
  | nil => rfl
  | @cons a b as bs hab _ ih => rw [spread_cons a as, spread_cons b bs, hab.spread, ih]

theorem map_render_congr (h : List.Forall₂ Block.SameText blocks blocks') :
    blocks.map (Block.render .statement) = blocks'.map (Block.render .statement) := by
  induction h with
  | nil => rfl
  | cons hbc _ ih => rw [List.map_cons, List.map_cons, hbc.render, ih]

theorem Block.sameText_mk (selector : String) (h : List.Forall₂ Arg.SameText as bs) :
    (Block.mk selector as).SameText (.mk selector bs) := by
  refine ⟨rfl, fun mode => ?_⟩
  rw [Block.render, Block.render, expressions_congr h, operands_congr h, spread_congr h]

theorem Arg.sameText_list (h : List.Forall₂ Arg.SameText as bs) : (Arg.list as).SameText (.list bs) := by
  refine ⟨fun mode => ?_, rfl, ?_⟩
  · rw [Arg.render, Arg.render, expressions_congr h]
  · simp only [spread, expressions_congr h]

theorem Arg.sameText_block {b c : Block} (h : b.SameText c) : (Arg.block b).SameText (.block c) := by
  refine ⟨fun mode => ?_, ?_, ?_⟩
  · rw [Arg.render, Arg.render, h.render]
  · rw [Arg.needsParens, Arg.needsParens, h.selector]
  · simp only [spread, Arg.render, h.render]

/-- A script that is no header is written without the name of its owner. -/
theorem Arg.sameText_script (n m : String) (h : List.Forall₂ Block.SameText blocks blocks') :
    (Arg.script (.mk n false blocks)).SameText (.script (.mk m false blocks')) := by
  have hrender : ∀ mode, (Script.mk n false blocks).render mode = (Script.mk m false blocks').render mode := by
    intro mode
    rw [Script.render_eq, Script.render_eq]
    show "\n".intercalate (_ :: ((blocks.map (Block.render .statement)).flatMap indent ++ _)) =
      "\n".intercalate (_ :: ((blocks'.map (Block.render .statement)).flatMap indent ++ _))
    rw [map_render_congr h]
    rfl
  refine ⟨fun mode => ?_, rfl, ?_⟩
  · rw [Arg.render, Arg.render, hrender]
  · simp only [spread, Arg.render, hrender]

end Lists

/-! ## Building -/

/-- Warnings with the same text, but for the identifier of a sprite that is quoted at the end. -/
def Warning.SameBut (n m : String) (w v : Warning) : Prop :=
  w.message = v.message ∨
    ∃ text, w.message = text ++ "'" ++ n ++ "'." ∧ v.message = text ++ "'" ++ m ++ "'."

section Build

variable (n m : String) (strict : Bool)

theorem unidentifiedArgument_sameBut (tag selector : String) :
    Warning.SameBut n m (.unidentifiedArgument tag selector n) (.unidentifiedArgument tag selector m) := by
  have hmessage : ∀ owner, (Warning.unidentifiedArgument tag selector owner).message =
      "Unidentified argument <" ++ tag ++ "> in block '" ++ selector ++ "' of sprite " ++ "'" ++ owner ++ "'." := by
    intro owner
    rw [@String.append_assoc (_ ++ selector) _ "'"]
    rfl
  exact .inr ⟨_, hmessage n, hmessage m⟩

theorem skippedElement_sameBut (tag : String) :
    Warning.SameBut n m (.skippedElement tag n) (.skippedElement tag m) := by
  have hmessage : ∀ owner, (Warning.skippedElement tag owner).message =
      "Skipping <" ++ tag ++ "> inside a script of sprite " ++ "'" ++ owner ++ "'." := by
    intro owner
    rw [@String.append_assoc (_ ++ tag) _ "'"]
    rfl
  exact .inr ⟨_, hmessage n, hmessage m⟩

theorem required_alike {W : Warning → Warning → Prop} (name : String) (attributes : List (String × String))
    (key : String) : Build.Alike W Eq (required name attributes key) (required name attributes key) := by
  unfold required
  split
  · exact ⟨.nil, .ok rfl⟩
  · exact ⟨.nil, .error _⟩

theorem unclassified_alike (tag selector : String) :
    Build.Alike (Warning.SameBut n m) Arg.SameText (unclassified ⟨n, strict⟩ tag selector)
      (unclassified ⟨m, strict⟩ tag selector) := by
  cases strict with
  | true => exact ⟨.nil, .error _⟩
  | false => exact .bind (.warn (unidentifiedArgument_sameBut n m tag selector)) fun _ _ _ => .pure (.refl _)

theorem buildBlock_alike {e : Element}
    (ih : ∀ x ∈ e.childElements, ∀ selector, Build.Alike (Warning.SameBut n m) Arg.SameText
      (buildArg ⟨n, strict⟩ selector x) (buildArg ⟨m, strict⟩ selector x)) :
    Build.Alike (Warning.SameBut n m) Block.SameText (buildBlock ⟨n, strict⟩ e) (buildBlock ⟨m, strict⟩ e) := by
  refine .bind (required_alike _ _ _) ?_
  rintro selector - rfl
  exact .bind (.each fun x hx => ih x hx selector) fun _ _ hargs => .pure (Block.sameText_mk selector hargs)

theorem buildItem_alike {e : Element}
    (ih : Build.Alike (Warning.SameBut n m) Block.SameText (buildBlock ⟨n, strict⟩ e) (buildBlock ⟨m, strict⟩ e)) :
    Build.Alike (Warning.SameBut n m) (Option.Rel Block.SameText) (buildItem ⟨n, strict⟩ e)
      (buildItem ⟨m, strict⟩ e) := by
  unfold buildItem
  split
  · exact .bind ih fun _ _ hb => .pure (.some hb)
  · exact .bind (.warn (skippedElement_sameBut n m e.name)) fun _ _ _ => .pure .none

/-- Building an argument or a block goes alike for both identifiers. The scripts inside are built as no
headers, so what is built is written the same. -/
theorem build_alike (e : Element) :
    (∀ selector, Build.Alike (Warning.SameBut n m) Arg.SameText (buildArg ⟨n, strict⟩ selector e)
      (buildArg ⟨m, strict⟩ selector e)) ∧
    Build.Alike (Warning.SameBut n m) Block.SameText (buildBlock ⟨n, strict⟩ e) (buildBlock ⟨m, strict⟩ e) := by
  induction e using Element.childInduction with
  | _ e ih =>
    have hblock := buildBlock_alike n m strict fun x hx => (ih x hx).1
    refine ⟨fun selector => ?_, hblock⟩
    rw [buildArg_eq, buildArg_eq]
    cases ArgKind.ofTag e.name with
    | literal => exact .pure (.refl _)
    | color => exact .pure (.refl _)
    | list => exact .bind (.each fun x hx => (ih x hx).1 selector) fun _ _ h => .pure (Arg.sameText_list h)
    | block => exact .bind hblock fun _ _ h => .pure (Arg.sameText_block h)
    | script =>
      refine .bind (.collect fun x hx => buildItem_alike n m strict (ih x hx).2) fun _ _ h => ?_
      exact .pure (Arg.sameText_script n m h)
    | unknown => exact unclassified_alike n m strict e.name selector

/-- The same header script under two identifiers. -/
inductive Script.Renamed : Script → Script → Prop
  | mk {blocks blocks' : List Block} : List.Forall₂ Block.SameText blocks blocks' →
      Renamed (.mk n true blocks) (.mk m true blocks')

/-- The same sprite under two identifiers. -/
inductive Sprite.Renamed : Sprite → Sprite → Prop
  | mk {declared : String} {scripts scripts' : List Script} : List.Forall₂ (Script.Renamed n m) scripts scripts' →
      Renamed ⟨n, declared, scripts⟩ ⟨m, declared, scripts'⟩

theorem buildScript_alike (declared : String) (e : Element) :
    Build.Alike (Warning.SameBut n m) (Option.Rel (Script.Renamed n m)) (buildScript ⟨n, strict⟩ declared e)
      (buildScript ⟨m, strict⟩ declared e) := by
  refine .bind (.collect fun x _ => buildItem_alike n m strict (build_alike n m strict x).2) fun blocks blocks' h => ?_
  cases h with
  | nil => exact .bind (.warn (.inl rfl)) fun _ _ _ => .pure .none
  | cons hb hbs => exact .pure (.some (.mk (.cons hb hbs)))

theorem buildSprite_alike (declared : String) (e : Element) :
    Build.Alike (Warning.SameBut n m) (Sprite.Renamed n m) (buildSprite ⟨n, strict⟩ declared e)
      (buildSprite ⟨m, strict⟩ declared e) := by
  rw [buildSprite_eq, buildSprite_eq]
  exact .bind (.collect fun x _ => buildScript_alike n m strict declared x) fun _ _ h => .pure (.mk h)

end Build

/-! ## Lines -/

/-- A line that begins with a tab, an empty line, or the last line of a script. -/
def isShared (l : String) : Bool := l.toList.head? == some '\t' || l == "" || l == "\x7d);"

/-- What follows the identifier of a sprite where it is created and where its scripts are registered. -/
def headings : List String :=
  [" = new Sprite();", ".onReceiveGo(function () \x7b", ".onReceiveClick(function () \x7b",
   ".onReceiveMessage(function () \x7b"]

/-- Lines in the same place of the text of a sprite under two identifiers: a shared line, or a heading after
the identifier. -/
def SameLine (n m l k : String) : Prop :=
  (isShared l = true ∧ k = l) ∨
    (isShared l = false ∧ isShared k = false ∧ ∃ heading ∈ headings, l = n ++ heading ∧ k = m ++ heading)

/-- A name that is not empty and has only characters that identifiers keep. -/
structure IsOwnerName (name : String) : Prop where
  nonempty : name.toList ≠ []
  kept : ∀ c ∈ name.toList, isAlphanumeric c = true ∨ c = '_' ∨ c = '$'

namespace IsOwnerName

variable {name : String}

theorem of_all (hne : name.toList ≠ []) (h : name.toList.all Identifier.isKept = true) : IsOwnerName name :=
  ⟨hne, fun c hc => (Identifier.isKept_iff c).1 (List.all_eq_true.1 h c hc)⟩

theorem not_mem (h : IsOwnerName name) {c : Char} (hc : Identifier.isKept c = false) : c ∉ name.toList :=
  Identifier.not_mem_of_kept h.kept hc

theorem isShared_append (h : IsOwnerName name) (rest : String) : isShared (name ++ rest) = false := by
  obtain ⟨c, cs, hcs⟩ := List.exists_cons_of_ne_nil h.nonempty
  have htab := h.not_mem Identifier.isKept_tab
  have hbrace := h.not_mem (show Identifier.isKept '\x7d' = false by decide +kernel)
  rw [hcs, List.mem_cons, not_or] at htab hbrace
  have hline : (name ++ rest).toList = c :: (cs ++ rest.toList) := by
    rw [String.toList_append, hcs, List.cons_append]
  have hne : ∀ t : String, t.toList.head? ≠ some c → name ++ rest ≠ t := by
    rintro t ht rfl
    rw [hline] at ht
    exact ht rfl
  have hempty := hne "" (by nofun)
  have hclosing := hne "\x7d);" (fun heq => hbrace.1 (Option.some.inj heq))
  simp only [isShared, hline, List.head?_cons, Bool.or_eq_false_iff, beq_eq_false_iff_ne]
  exact ⟨⟨fun heq => htab.1 (Option.some.inj heq).symm, hempty⟩, hclosing⟩

end IsOwnerName

/-- Texts whose lines correspond still do when they are joined with empty lines between them. -/
theorem forall₂_lines_intercalate_blank {R : String → String → Prop} (hempty : R "" "") {xs ys : List String}
    (h : List.Forall₂ (fun x y => List.Forall₂ R (lines x) (lines y)) xs ys) :
    List.Forall₂ R (lines ("\n\n".intercalate xs)) (lines ("\n\n".intercalate ys)) := by
  induction h with
  | nil => exact .cons hempty .nil
  | cons hxy hrest ih =>
    cases hrest with
    | nil => simpa using hxy
    | cons _ _ =>
      rw [String.intercalate_cons_cons, String.intercalate_cons_cons, lines_append_blank, lines_append_blank]
      exact List.rel_append hxy (.cons hempty ih)

section Lines

variable {n m : String} (hn : IsOwnerName n) (hm : IsOwnerName m)

include hn hm

theorem sameLine_heading {heading : String} (h : heading ∈ headings) : SameLine n m (n ++ heading) (m ++ heading) :=
  .inr ⟨hn.isShared_append _, hm.isShared_append _, heading, h, rfl, rfl⟩

theorem sameLine_openingLine (kind : HeaderKind) :
    SameLine n m (openingLine n true kind .statement) (openingLine m true kind .statement) := by
  rw [openingLine_header, openingLine_header]
  refine sameLine_heading hn hm ?_
  cases kind <;> decide

/-- In a script the identifier shows on the first line only. -/
theorem Script.Renamed.lines {s t : Script} (h : Script.Renamed n m s t) :
    List.Forall₂ (SameLine n m) (lines (s.render .statement)) (lines (t.render .statement)) := by
  obtain @⟨blocks, blocks', hblocks⟩ := h
  have hkind : (Script.mk n true blocks).headerKind = (Script.mk m true blocks').headerKind := by
    cases hblocks with
    | nil => rfl
    | cons hb _ => exact congrArg HeaderKind.ofHat hb.selector
  have hbody : (Script.mk n true blocks).body.map (Block.render .statement) =
      (Script.mk m true blocks').body.map (Block.render .statement) := by
    show (blocks.drop 1).map _ = (blocks'.drop 1).map _
    rw [List.map_drop, List.map_drop, map_render_congr hblocks]
  rw [Script.lines_render (s := .mk n true blocks) (hn.not_mem Identifier.isKept_newline),
    Script.lines_render (s := .mk m true blocks') (hm.not_mem Identifier.isKept_newline), hkind, hbody]
  have hclosing : isShared (closingLine true) = true := by decide
  refine .cons (sameLine_openingLine hn hm _) (List.rel_append ?_ (.cons (.inl ⟨hclosing, rfl⟩) .nil))
  rw [List.forall₂_same]
  intro l hl
  exact .inl ⟨by simp [isShared, head?_of_mem_indent hl], rfl⟩

theorem Sprite.Renamed.lines {s t : Sprite} (h : Sprite.Renamed n m s t) :
    List.Forall₂ (SameLine n m) (lines s.render) (lines t.render) := by
  obtain @⟨declared, scripts, scripts', hscripts⟩ := h
  have hhead : ∀ name : String, name ++ " = new Sprite();\n\n" = name ++ " = new Sprite();" ++ "\n\n" := by
    intro name
    rw [String.append_assoc]
    rfl
  have hline : ∀ {name : String}, IsOwnerName name →
      Text.lines (name ++ " = new Sprite();") = [name ++ " = new Sprite();"] := by
    intro name hname
    apply lines_of_not_mem
    rw [String.toList_append, List.mem_append, not_or]
    exact ⟨hname.not_mem Identifier.isKept_newline, by decide⟩
  unfold Sprite.render
  rw [hhead, hhead, lines_append_blank, lines_append_blank, hline hn, hline hm]
  refine .cons (sameLine_heading hn hm (by decide)) (.cons (.inl ⟨rfl, rfl⟩) ?_)
  apply forall₂_lines_intercalate_blank (.inl ⟨rfl, rfl⟩)
  rw [List.forall₂_map_left_iff, List.forall₂_map_right_iff]
  exact hscripts.imp fun _ _ hs => Script.Renamed.lines hn hm hs

end Lines

/-- A sprite does not depend on its identifier. Under any two identifiers, an element fails to build with
the same error or it builds, with warnings that correspond one to one and differ in the identifier that
they quote. The texts then have the same number of lines. Lines that begin with a tab, empty lines and the
last lines of scripts are the same, and any other is the identifier followed by the rest of the line that
creates the sprite or registers a script, which is the same. -/
theorem buildSprite_renamed (strict : Bool) (declared : String) (e : Element) {n m : String} (hn : IsOwnerName n)
    (hm : IsOwnerName m) :
    List.Forall₂ (Warning.SameBut n m) (buildSprite ⟨n, strict⟩ declared e).warnings
      (buildSprite ⟨m, strict⟩ declared e).warnings ∧
    ((∃ err, (buildSprite ⟨n, strict⟩ declared e).result = .error err ∧
        (buildSprite ⟨m, strict⟩ declared e).result = .error err) ∨
      ∃ s t, (buildSprite ⟨n, strict⟩ declared e).result = .ok s ∧
        (buildSprite ⟨m, strict⟩ declared e).result = .ok t ∧
        List.Forall₂ (SameLine n m) (lines s.render) (lines t.render)) := by
  obtain ⟨hwarnings, hresult⟩ := buildSprite_alike n m strict declared e
  refine ⟨hwarnings, ?_⟩
  generalize (buildSprite ⟨n, strict⟩ declared e).result = r at hresult ⊢
  generalize (buildSprite ⟨m, strict⟩ declared e).result = r' at hresult ⊢
  cases hresult with
  | error err => exact .inl ⟨err, rfl, rfl⟩
  | ok hrenamed => exact .inr ⟨_, _, rfl, rfl, hrenamed.lines hn hm⟩

/-- A sprite with a script inside a block, a literal of two lines that looks like code of the sprite, and
something of each kind to warn about. -/
def nestedSprite : Element :=
  .mk "sprite" [("name", "Cat")] [.element (.mk "scripts" []
    [.element (.mk "script" []
      [.element (.mk "block" [("s", "receiveGo")] []),
       .element (.mk "block" [("s", "doForever")] [.element (.mk "script" []
         [.element (.mk "block" [("s", "bubble")] [.element (.mk "l" [] [.text "1\ncat.onReceiveGo"]),
            .element (.mk "wish" [] [])]),
          .element (.mk "comment" [] [])])])]),
     .element (.mk "script" [] [])])]

/-- What is built from it under an identifier. -/
def nestedBuilt (name : String) : Sprite :=
  ⟨name, "Cat", [.mk name true [.mk "receiveGo" [], .mk "doForever" [.script (.mk name false
    [.mk "bubble" [.literal "1\ncat.onReceiveGo", .unclassified "wish"]])]]]⟩

theorem buildSprite_renamed_nested :
    (buildSprite ⟨"cat", false⟩ "Cat" nestedSprite).result = .ok (nestedBuilt "cat") ∧
    (buildSprite ⟨"9_$", false⟩ "Cat" nestedSprite).result = .ok (nestedBuilt "9_$") ∧
    List.Forall₂ (SameLine "cat" "9_$") (lines (nestedBuilt "cat").render) (lines (nestedBuilt "9_$").render) ∧
    List.Forall₂ (Warning.SameBut "cat" "9_$")
      [.unidentifiedArgument "wish" "bubble" "cat", .skippedElement "comment" "cat", .emptyScript "Cat"]
      [.unidentifiedArgument "wish" "bubble" "9_$", .skippedElement "comment" "9_$", .emptyScript "Cat"] := by
  have hcat : buildSprite ⟨"cat", false⟩ "Cat" nestedSprite = ⟨[.unidentifiedArgument "wish" "bubble" "cat",
      .skippedElement "comment" "cat", .emptyScript "Cat"], .ok (nestedBuilt "cat")⟩ := by rfl
  have hother : buildSprite ⟨"9_$", false⟩ "Cat" nestedSprite = ⟨[.unidentifiedArgument "wish" "bubble" "9_$",
      .skippedElement "comment" "9_$", .emptyScript "Cat"], .ok (nestedBuilt "9_$")⟩ := by rfl
  have hrenamed := buildSprite_renamed false "Cat" nestedSprite (n := "cat") (m := "9_$")
    (.of_all (by decide) (by decide +kernel)) (.of_all (by decide) (by decide +kernel))
  rw [hcat, hother] at hrenamed
  obtain ⟨hwarnings, ⟨err, herr, -⟩ | ⟨s, t, hs, ht, hlines⟩⟩ := hrenamed
  · cases herr
  · cases hs
    cases ht
    exact ⟨by rw [hcat], by rw [hother], hlines, hwarnings⟩

end SpriteScribe
