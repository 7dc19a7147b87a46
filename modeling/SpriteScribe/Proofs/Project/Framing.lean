/-
How the text of a program is divided, whatever the project holds. The first line declares the
identifiers of the sprites in increasing order. After it the outer lines, neither empty nor indented,
are those that create a sprite and those that open and close its scripts, in order, and nothing
else: every line of a body is indented however it came about, and no identifier holds a line end.
-/
import SpriteScribe.Proofs.Block.Layout
import SpriteScribe.Proofs.Project.Registry

namespace SpriteScribe

open SpriteScribe.Markup SpriteScribe.Text

/-! ## Lines that begin with an identifier -/

namespace Identifier

theorem not_mem_of_kept {cs : List Char} (h : ∀ c ∈ cs, isAlphanumeric c = true ∨ c = '_' ∨ c = '$') {c : Char}
    (hc : isKept c = false) : c ∉ cs := by
  intro hm
  have := (isKept_iff c).2 (h c hm)
  rw [hc] at this; cases this

theorem isKept_newline : isKept '\n' = false := by decide +kernel

theorem isKept_tab : isKept '\t' = false := by decide +kernel

theorem isOuter_append_of_isValid {name : String} (hv : IsValid name) (rest : String) :
    isOuter (name ++ rest) = true := by
  have ht := not_mem_of_kept hv.kept isKept_tab
  obtain ⟨c, cs, hc⟩ := List.exists_cons_of_ne_nil hv.nonempty
  unfold isOuter
  rw [String.toList_append, hc]
  rw [hc, List.mem_cons, not_or] at ht
  simpa using fun h => ht.1 h.symm

/-- What follows an identifier on its line is one outer line with it. -/
theorem outerLines_append_of_isValid {name rest : String} (hv : IsValid name) (hr : '\n' ∉ rest.toList) :
    outerLines (name ++ rest) = [name ++ rest] := by
  have hn := not_mem_of_kept hv.kept isKept_newline
  refine outerLines_of_isOuter ?_ (isOuter_append_of_isValid hv rest)
  rw [String.toList_append, List.mem_append, not_or]
  exact ⟨hn, hr⟩

end Identifier

/-! ## Scripts and sprites -/

/-- The outer lines of a sprite whose scripts begin with these blocks. -/
def frame (name : String) (hats : List String) : List String :=
  (name ++ " = new Sprite();") :: hats.flatMap fun hat => [registrationLine name hat, "\x7d);"]

/-- A header script shows its registration and its end; its body is indented, so it does not show. -/
theorem Script.outerLines_render {ctx : BuildContext} {s : Script} (hs : s.IsOwn ctx)
    (hv : Identifier.IsValid ctx.owner) :
    outerLines (s.render .statement) = [registrationLine ctx.owner s.hat, "\x7d);"] := by
  have howner : '\n' ∉ s.owner.toList := by
    rw [hs.owner]
    exact Identifier.not_mem_of_kept hv.kept Identifier.isKept_newline
  have hopening : isOuter (openingLine ctx.owner true s.headerKind .statement) = true := by
    rw [openingLine_header]
    exact Identifier.isOuter_append_of_isValid hv _
  rw [outerLines, s.lines_render howner, hs.header, hs.owner, List.filter_cons_of_pos hopening, List.filter_append,
    filter_isOuter_indent, s.openingLine_eq_registrationLine]
  rfl

def Sprite.hats (s : Sprite) : List String := s.scripts.map Script.hat

theorem Sprite.outerLines_render {k : String} {strict : Bool} {s : Sprite} (hn : s.name = k)
    (hv : Identifier.IsValid k) (hs : ∀ script ∈ s.scripts, script.IsOwn ⟨k, strict⟩) :
    outerLines s.render = frame k s.hats := by
  have hhead : s.name ++ " = new Sprite();\n\n" = k ++ " = new Sprite();" ++ "\n\n" := by
    rw [hn, String.append_assoc]; rfl
  unfold Sprite.render frame hats
  rw [hhead, outerLines_append_blank, outerLines_intercalate_blank,
    Identifier.outerLines_append_of_isValid hv (by decide), List.singleton_append, List.flatMap_map, List.flatMap_map]
  congr 1
  apply List.flatMap_congr
  intro script hscript
  exact Script.outerLines_render (hs script hscript) hv

/-! ## The first blocks of scripts in the project -/

/-- The selectors of the first blocks of the scripts of a sprite element, in document order. Scripts
without blocks do not count. -/
def scriptHats (e : Element) : List String :=
  (e.find "scripts/script").filterMap fun x => (x.childrenNamed "block").head?.bind (·.attr? "s")

theorem buildBlock_selector {ctx : BuildContext} {e : Element} {b : Block}
    (h : (buildBlock ctx e).result = .ok b) : e.attr? "s" = some b.selector := by
  obtain ⟨selector, hs, h⟩ := Build.bind_result_ok.1 h
  obtain ⟨args, -, h⟩ := Build.bind_result_ok.1 h
  cases h
  unfold required at hs
  split at hs
  · rename_i hl; cases hs; exact hl
  · cases hs

theorem collect_hat {ctx : BuildContext} : ∀ {es : List Element} {bs : List Block},
    (Build.collect (buildItem ctx) es).result = .ok bs →
      bs.head?.map Block.selector = (es.filter (·.name == "block")).head?.bind (·.attr? "s")
  | [], bs, h => by cases h; rfl
  | e :: es, bs, h => by
    rw [Build.collect_cons] at h
    obtain ⟨o, ho, h⟩ := Build.bind_result_ok.1 h
    obtain ⟨bs', hbs, h⟩ := Build.bind_result_ok.1 h
    cases h
    cases o with
    | some b =>
      obtain ⟨hn, hb⟩ := buildItem_ok ho
      rw [List.filter_cons_of_pos (by simp [hn])]
      exact (buildBlock_selector hb).symm
    | none =>
      have hn : ¬ e.name = "block" := by
        intro hn
        rw [buildItem, if_pos hn] at ho
        obtain ⟨b, -, h⟩ := Build.bind_result_ok.1 ho
        cases h
      rw [List.filter_cons_of_neg (by simpa using hn)]
      exact collect_hat hbs

theorem buildScript_hat {ctx : BuildContext} {declared : String} {e : Element} {o : Option Script}
    (h : (buildScript ctx declared e).result = .ok o) :
    o.map Script.hat = (e.childrenNamed "block").head?.bind (·.attr? "s") := by
  obtain ⟨blocks, hb, h⟩ := Build.bind_result_ok.1 h
  have hhat := collect_hat hb
  rw [Element.childrenNamed, ← hhat]
  cases blocks with
  | nil => obtain ⟨-, -, h⟩ := Build.bind_result_ok.1 h; cases h; rfl
  | cons b bs => cases h; rfl

theorem collect_scriptHats {ctx : BuildContext} {declared : String} :
    ∀ {es : List Element} {scripts : List Script},
      (Build.collect (buildScript ctx declared) es).result = .ok scripts →
        scripts.map Script.hat = es.filterMap fun x => (x.childrenNamed "block").head?.bind (·.attr? "s")
  | [], scripts, h => by cases h; rfl
  | e :: es, scripts, h => by
    rw [Build.collect_cons] at h
    obtain ⟨o, ho, h⟩ := Build.bind_result_ok.1 h
    obtain ⟨scripts', hss, h⟩ := Build.bind_result_ok.1 h
    cases h
    rw [List.filterMap_cons, ← buildScript_hat ho, List.map_append, collect_scriptHats hss]
    cases o <;> rfl

theorem buildSprite_hats {ctx : BuildContext} {declared : String} {e : Element} {s : Sprite}
    (h : (buildSprite ctx declared e).result = .ok s) : s.hats = scriptHats e := by
  rw [buildSprite_eq] at h
  obtain ⟨scripts, hs, h⟩ := Build.bind_result_ok.1 h
  cases h
  exact collect_scriptHats hs

/-! ## Programs -/

namespace Compiler

theorem Attempt.hats {c c' : Compiler} {e : Element} {s : Sprite} (h : Attempt c e c' (.ok s)) :
    s.hats = scriptHats e := by
  cases h with
  | made _ _ hb => exact buildSprite_hats hb

/-- A successful run registers one sprite for each element, declared as the element says and with the
scripts of the element. -/
theorem makeSprites_hats {c : Compiler} {es : List Element} (h : (c.makeSprites es).2 = .ok ()) :
    ((c.makeSprites es).1.sprites.map fun x => (some x.2.declared, x.2.hats)).Perm
      ((es.map fun e => (e.attr? "name", scriptHats e)) ++ c.sprites.map fun x => (some x.2.declared, x.2.hats)) := by
  induction es generalizing c with
  | nil => exact .refl _
  | cons e es ih =>
    have ha := attempt_makeSprite c e
    rw [makeSprites] at h ⊢
    rcases hm : c.makeSprite e with ⟨c', err | s⟩ <;> rw [hm] at h ha
    · cases h
    · -- the new sprite is somewhere among the others, so the order of elements is lost
      obtain ⟨hn, -, hperm, -⟩ := ha.registered
      have hnew := hperm.map fun x : String × Sprite => (some x.2.declared, x.2.hats)
      rw [List.map_cons, ← hn, ha.hats] at hnew
      exact (ih h).trans ((hnew.append_left _).trans List.perm_middle)

theorem commaSeparated_no_newline {names : List String} (h : ∀ k ∈ names, '\n' ∉ k.toList) :
    '\n' ∉ (commaSeparated names).toList := by
  induction names with
  | nil => simp [commaSeparated]
  | cons k names ih =>
    have hk := h k List.mem_cons_self
    have hrest := ih fun k' hk' => h k' (List.mem_cons_of_mem _ hk')
    cases names with
    | nil => simpa [commaSeparated] using hk
    | cons k' names =>
      rw [commaSeparated, String.intercalate_cons_cons, String.toList_append, String.toList_append,
        List.mem_append, List.mem_append, not_or, not_or]
      exact ⟨⟨hk, by decide⟩, hrest⟩

/-- The lines of a program with sprites: the declaration, and after it the frames of the sprites. -/
theorem lines_render {c : Compiler} (hw : c.WF) (hne : c.sprites ≠ []) :
    ∃ rest, lines c.render = ("var " ++ ", ".intercalate c.spriteNames ++ ";") :: rest ∧
      rest.filter isOuter = c.sprites.flatMap fun x => frame x.1 x.2.hats := by
  have hempty : c.sprites.isEmpty = false := by simpa using hne
  have hbody : ∀ x ∈ c.sprites, outerLines x.2.render = frame x.1 x.2.hats := fun x hx =>
    Sprite.outerLines_render (hw.named x.1 x.2 hx) (hw.valid x.1 (List.mem_map.2 ⟨x, hx, rfl⟩))
      (hw.scripts x.1 x.2 hx)
  have hdecl : '\n' ∉ ("var " ++ commaSeparated c.spriteNames ++ ";").toList := by
    have hnames := commaSeparated_no_newline fun k hk =>
      Identifier.not_mem_of_kept (hw.valid k hk).kept Identifier.isKept_newline
    simp only [String.toList_append, List.mem_append, not_or]
    exact ⟨⟨by decide, hnames⟩, by decide⟩
  have htext : c.render = "var " ++ commaSeparated c.spriteNames ++ ";" ++ "\n" ++
      ("" ++ "\n" ++ "\n\n".intercalate (c.sprites.map fun entry => entry.2.render)) := by
    unfold render
    rw [hempty]
    apply String.toList_injective
    simp
  rw [htext, lines_append, lines_of_not_mem hdecl]
  refine ⟨_, rfl, ?_⟩
  show outerLines _ = _
  rw [outerLines_append, outerLines_empty, List.nil_append, outerLines_intercalate_blank, List.flatMap_map]
  exact List.flatMap_congr hbody

end Compiler

/-- The text of a project that compiles. It is empty just if there is no sprite. Otherwise its first
line declares the identifiers in strictly increasing order, and its outer lines after that are for
each sprite its creation and, for each script in document order, the registration for the event of
the first block and the closing line. There is one sprite for each sprite element. -/
theorem compileProject_framing {strict : Bool} {root : Element} {p : Program}
    (h : (compileProject strict root).result = .ok p) :
    ∃ sprites, sprites = ((Compiler.new strict).makeSprites (spriteElements root)).1.sprites ∧
      (p.text = "" ↔ sprites = []) ∧
      (sprites.map Prod.fst).Pairwise (· < ·) ∧
      (sprites ≠ [] → ∃ rest, lines p.text = ("var " ++ ", ".intercalate (sprites.map Prod.fst) ++ ";") :: rest ∧
        rest.filter isOuter = sprites.flatMap fun x => frame x.1 x.2.hats) ∧
      (sprites.map fun x => (some x.2.declared, x.2.hats)).Perm
        ((spriteElements root).map fun e => (e.attr? "name", scriptHats e)) := by
  obtain ⟨hmade, rfl⟩ := compileProject_ok h
  have hhats := Compiler.makeSprites_hats hmade
  rw [Compiler.makeSprites_eq_after hmade] at hhats ⊢
  obtain ⟨hw, -⟩ := Compiler.after_wf (Compiler.new_wf strict) (spriteElements root)
  refine ⟨_, rfl, ⟨fun htext => ?_, fun hnil => ?_⟩, hw.sorted, fun hne => Compiler.lines_render hw hne, ?_⟩
  · -- with a sprite there is a declaration
    by_contra hne
    obtain ⟨rest, hlines, -⟩ := Compiler.lines_render hw hne
    have hhead := congrArg List.head? hlines
    rw [show Compiler.render _ = "" from htext] at hhead
    simp [lines] at hhead
  · show Compiler.render _ = ""
    unfold Compiler.render; rw [hnil]; rfl
  · simpa [Compiler.new] using hhats

/-- A script that begins with some block and says something. -/
def sayingScript (hat : String) (text : String) : Element :=
  .mk "script" [] [.element (.mk "block" [("s", hat)] []),
    .element (.mk "block" [("s", "say")] [.element (.mk "l" [] [.text text])])]

/-- A project with scripts for every kind of event, and a literal that is spelled like the end of its script
and a further sprite. -/
def forgedProject : Element :=
  .mk "project" [] [.element (.mk "stage" [] [.element (.mk "sprites" [] [.element
    (.mk "sprite" [("name", "Cat")] [.element (.mk "scripts" []
      [.element (sayingScript "receiveGo" "1);\n\x7d);\n\ndog = new Sprite();"),
       .element (sayingScript "receiveClick" "2"), .element (sayingScript "receiveMessage" "3")])])])])]

theorem compileProject_framing_forged :
    ∃ p, (compileProject false forgedProject).result = .ok p ∧ ∃ rest, lines p.text = "var cat;" :: rest ∧
      rest.filter isOuter =
        ["cat = new Sprite();", "cat.onReceiveGo(function () \x7b", "\x7d);",
          "cat.onReceiveClick(function () \x7b", "\x7d);", "cat.onReceiveMessage(function () \x7b", "\x7d);"] := by
  have hok : (compileProject false forgedProject).result.toOption.isSome = true := by decide +kernel
  cases h : (compileProject false forgedProject).result with
  | error e => rw [h] at hok; cases hok
  | ok p =>
    obtain ⟨sprites, rfl, -, -, hlines, -⟩ := compileProject_framing h
    obtain ⟨rest, hfirst, hrest⟩ := hlines (by nofun)
    exact ⟨p, rfl, rest, hfirst.trans (congrArg (· :: rest) (by decide +kernel)), hrest.trans (by decide +kernel)⟩

end SpriteScribe
