/-
The warnings of a project that compiles. `Raised` says what there is to warn about: the notes of every
element that compiling comes to, under the identifier of the sprite around it, and every header script
without blocks. The warnings are exactly these, in the order of the document, and their texts are those
that `Announced` spells out. Those about arguments of unknown shape are as many as the unclassified arguments
of the sprites, and the log has the same warnings.
-/
import SpriteScribe.Proofs.Project.Acceptance
import SpriteScribe.Proofs.Project.Notes
import SpriteScribe.Proofs.Project.Strictness

namespace SpriteScribe

open SpriteScribe.Markup

/-! ## What there is to warn about -/

/-- The element of a sprite, with its position and the sprite that compiling makes of it. -/
def MadeAt (root : Element) (p : Position) (e : Element) (s : Sprite) : Prop :=
  ∃ before after, spritePlaces root = before ++ (p, e) :: after ∧
    (((Compiler.new false).after (before.map Prod.snd)).makeSprite e).2 = .ok s

/-- What compiling warns about, by position. The sprite that a note names is the one it stands in, and a
script without blocks is noted after everything inside it. -/
inductive Raised (root : Element) : Position → Warning → Prop
  | note {o p q : Position} {sprite e : Element} {s : Sprite} {type : String} {w : Warning} :
      MadeAt root o sprite s → Visited root p e type → o <+: p → Note s.name e type q w → Raised root (p ++ q) w
  | empty {o q : Position} {sprite x : Element} {s : Sprite} : MadeAt root o sprite s →
      (q, x) ∈ sprite.places ["scripts", "script"] → x.childrenNamed "block" = [] →
      Raised root (o ++ (q ++ [x.childElements.length])) (.emptyScript s.declared)

/-- The texts of the warnings, by position. An argument of unknown shape is announced with the block around it
and the identifier of the sprite, an element of a script that is no block with that identifier, and a script
without blocks with the declared name of the sprite. -/
inductive Announced (root : Element) : Position → String → Prop
  | argument {o p q : Position} {sprite e x : Element} {s : Sprite} {type : String} :
      MadeAt root o sprite s → Visited root p e type → o <+: p → e.name = "block" ∨ e.name = "list" →
      (q, x) ∈ e.childPlaces → x.name ∉ ["l", "color", "list", "block", "script"] →
      Announced root (p ++ q) ("Unidentified argument <" ++ x.name ++ "> in block '" ++ typeInside e type ++
        "' of sprite '" ++ s.name ++ "'.")
  | element {o p q : Position} {sprite e x : Element} {s : Sprite} {type : String} :
      MadeAt root o sprite s → Visited root p e type → o <+: p → e.name = "script" →
      (q, x) ∈ e.childPlaces → x.name ≠ "block" →
      Announced root (p ++ q) ("Skipping <" ++ x.name ++ "> inside a script of sprite '" ++ s.name ++ "'.")
  | script {o q : Position} {sprite x : Element} {s : Sprite} : MadeAt root o sprite s →
      (q, x) ∈ sprite.places ["scripts", "script"] → x.childrenNamed "block" = [] →
      Announced root (o ++ (q ++ [x.childElements.length])) ("Skipping empty script of sprite '" ++ s.declared ++ "'.")

theorem announced_iff_raised {root : Element} {p : Position} {text : String} :
    Announced root p text ↔ ∃ w, Raised root p w ∧ text = w.message := by
  constructor
  · intro h
    cases h with
    | argument hmade hv ho hn hx htag => exact ⟨_, .note hmade hv ho (.stranger hn hx htag), rfl⟩
    | element hmade hv ho hn hx hne => exact ⟨_, .note hmade hv ho (.skipped hn hx hne), rfl⟩
    | script hmade hx hempty => exact ⟨_, .empty hmade hx hempty, rfl⟩
  · rintro ⟨w, h, rfl⟩
    cases h with
    | note hmade hv ho hw =>
      cases hw with
      | stranger hn hx htag => exact .argument hmade hv ho hn hx htag
      | skipped hn hx hne => exact .element hmade hv ho hn hx hne
    | empty hmade hx hempty => exact .script hmade hx hempty

/-! ## Runs -/

namespace Compiler

/-- A successful lenient call adds the notes of its sprite. -/
theorem makeSprite_enumerates {c : Compiler} (hc : c.strict = false) {e : Element} {s : Sprite}
    (h : (c.makeSprite e).2 = .ok s) : ∃ ws, (c.makeSprite e).1.warnings = c.warnings ++ ws ∧
      Enumerates (SpriteNotes s.name s.declared e) ws := by
  have ha := attempt_makeSprite c e
  rw [h] at ha
  generalize (c.makeSprite e).1 = c' at ha ⊢
  cases ha with
  | made hn hf hb =>
    obtain ⟨hname, hdeclared, -⟩ := buildSprite_ok hb
    rw [hc] at hb ⊢
    refine ⟨_, rfl, ?_⟩
    rw [hname, hdeclared]
    exact buildSprite_enumerates hb

/-- The notes of sprites that come one after the other. -/
def RunNotes (c : Compiler) (xs : List (Position × Element)) (p : Position) (w : Warning) : Prop :=
  ∃ before q e after s r, xs = before ++ (q, e) :: after ∧ ((c.after (before.map Prod.snd)).makeSprite e).2 = .ok s ∧
    SpriteNotes s.name s.declared e r w ∧ p = q ++ r

theorem runNotes_cons {c : Compiler} {q : Position} {e : Element} {xs : List (Position × Element)} {p : Position}
    {w : Warning} {s : Sprite} (h : (c.makeSprite e).2 = .ok s) :
    RunNotes c ((q, e) :: xs) p w ↔
      (∃ r, SpriteNotes s.name s.declared e r w ∧ p = q ++ r) ∨ RunNotes (c.makeSprite e).1 xs p w := by
  constructor
  · rintro ⟨before, q', e', after, t, r, hxs, ht, hr, rfl⟩
    cases before with
    | nil =>
      cases hxs
      rw [show (c.makeSprite e).2 = .ok t from ht] at h
      cases h
      exact .inl ⟨r, hr, rfl⟩
    | cons x before =>
      cases hxs
      exact .inr ⟨before, q', e', after, t, r, rfl, ht, hr, rfl⟩
  · rintro (⟨r, hr, rfl⟩ | ⟨before, q', e', after, t, r, rfl, ht, hr, rfl⟩)
    · exact ⟨[], q, e, xs, s, r, rfl, h, hr, rfl⟩
    · exact ⟨(q, e) :: before, q', e', after, t, r, rfl, ht, hr, rfl⟩

/-- A successful lenient run adds the notes of all its sprites in order. -/
theorem makeSprites_enumerates {depth : Nat} {c : Compiler} (hc : c.strict = false) {xs : List (Position × Element)}
    (ho : InOrder depth xs) (h : (c.makeSprites (xs.map Prod.snd)).2 = .ok ()) :
    ∃ ws, (c.makeSprites (xs.map Prod.snd)).1.warnings = c.warnings ++ ws ∧ Enumerates (RunNotes c xs) ws := by
  induction xs generalizing c with
  | nil =>
    refine ⟨[], (List.append_nil _).symm, Enumerates.nil ?_⟩
    rintro p w ⟨before, q, e, after, s, r, hxs, -⟩
    simp at hxs
  | cons x xs ih =>
    obtain ⟨q, e⟩ := x
    rw [List.map_cons, makeSprites] at h ⊢
    have hc' := (makeSprite_strict c e).trans hc
    rcases hm : c.makeSprite e with ⟨c', err | s⟩ <;> rw [hm] at h hc'
    · cases h
    · have hs : (c.makeSprite e).2 = .ok s := by rw [hm]
      obtain ⟨us, hus, hnotes⟩ := makeSprite_enumerates hc hs
      obtain ⟨vs, hvs, hrest⟩ := ih hc' (ho.sublist (List.sublist_cons_self _ _)) h
      rw [hm] at hus
      refine ⟨us ++ vs, by rw [← List.append_assoc, ← hus]; exact hvs, ?_⟩
      refine ((hnotes.shift q).append hrest ?_).congr fun p w => ?_
      · rintro - w - v ⟨r, -, rfl⟩ ⟨before, q', e', after, t, r', rfl, -, -, rfl⟩
        exact ho.append_before (y := (q', e')) (by simp) r r'
      · rw [runNotes_cons hs, hm]

/-- Calls only add sprites. -/
theorem mem_sprites_after {c : Compiler} {x : String × Sprite} (h : x ∈ c.sprites) (es : List Element) :
    x ∈ (c.after es).sprites := by
  induction es generalizing c with
  | nil => exact h
  | cons e es ih =>
    have ha := attempt_makeSprite c e
    rw [after_cons]
    apply ih
    cases hr : (c.makeSprite e).2 with
    | error err =>
      rw [hr] at ha
      exact ha.of_error.1 ▸ h
    | ok s =>
      rw [hr] at ha
      exact ha.registered.2.2.1.mem_iff.2 (List.mem_cons_of_mem _ h)

/-- Every call of a successful run returns a sprite, which is registered in the end. -/
theorem makeSprites_made {c : Compiler} {before after : List Element} {e : Element}
    (h : (c.makeSprites (before ++ e :: after)).2 = .ok ()) :
    ∃ s, ((c.after before).makeSprite e).2 = .ok s ∧ e.attr? "name" = some s.declared ∧
      (s.name, s) ∈ (c.makeSprites (before ++ e :: after)).1.sprites := by
  have hall : (c.makeSprites (before ++ e :: after)).1 = ((c.after before).makeSprite e).1.after after := by
    rw [makeSprites_eq_after h, after_append, after_cons]
  have hcall : ∃ s, ((c.after before).makeSprite e).2 = .ok s := by
    clear hall
    induction before generalizing c with
    | nil =>
      rw [List.nil_append, makeSprites] at h
      rcases hm : c.makeSprite e with ⟨c', err | s⟩ <;> rw [hm] at h
      · cases h
      · exact ⟨s, congrArg Prod.snd hm⟩
    | cons x before ih =>
      rw [List.cons_append, makeSprites] at h
      rw [after_cons]
      rcases hm : c.makeSprite x with ⟨c', err | s⟩ <;> rw [hm] at h
      · cases h
      · exact ih h
  obtain ⟨s, hs⟩ := hcall
  have ha := attempt_makeSprite (c.after before) e
  rw [hs] at ha
  obtain ⟨hn, -, hperm, -⟩ := ha.registered
  refine ⟨s, hs, hn, ?_⟩
  rw [hall]
  exact mem_sprites_after (hperm.mem_iff.2 List.mem_cons_self) after

/-! ## Unclassified arguments and the log -/

/-- In a successful lenient run the refused warnings are those about the unclassified arguments of the
sprites, up to their order. -/
theorem makeSprites_refused {c : Compiler} (hc : c.strict = false) {es : List Element}
    (h : (c.makeSprites es).2 = .ok ())
    (hrefused : (refused c.warnings).Perm (c.sprites.flatMap fun x => strangerWarnings x.1 x.2.strangers)) :
    (refused (c.makeSprites es).1.warnings).Perm
      ((c.makeSprites es).1.sprites.flatMap fun x => strangerWarnings x.1 x.2.strangers) := by
  induction es generalizing c with
  | nil => exact hrefused
  | cons e es ih =>
    have ha := attempt_makeSprite c e
    have hc' := (makeSprite_strict c e).trans hc
    rw [makeSprites] at h ⊢
    rcases hm : c.makeSprite e with ⟨c', err | s⟩ <;> rw [hm] at h ha hc'
    · cases h
    · obtain ⟨us, hus, hnew⟩ := makeSprite_refused hc (congrArg Prod.snd hm)
      rw [hm] at hus
      refine ih hc' h ?_
      rw [hus, refused_append, hnew]
      -- the new warnings come last, and the new sprite somewhere among the others
      have hlast : (refused c.warnings ++ strangerWarnings s.name s.strangers).Perm
          (((s.name, s) :: c.sprites).flatMap fun x => strangerWarnings x.1 x.2.strangers) :=
        List.perm_append_comm.trans (hrefused.append_left _)
      exact hlast.trans (ha.registered.2.2.1.symm.flatMap_right _)

/-- The records of warnings in a log. -/
def warnRecords (log : List LogRecord) : List LogRecord := log.filter (·.level == .warn)

/-- The warnings of a compiler are those on record. -/
def Logged (c : Compiler) : Prop := warnRecords c.log = c.warnings.map .ofWarning

theorem record_logged {c : Compiler} (h : c.Logged) (declared name : String) (ws : List Warning) :
    (c.record declared name ws).Logged := by
  have hnew : warnRecords (.named declared name :: ws.map .ofWarning) = ws.map .ofWarning := by
    rw [warnRecords, List.filter_cons_of_neg (by simp [LogRecord.named]), List.filter_eq_self]
    intro r hr
    obtain ⟨w, -, rfl⟩ := List.mem_map.1 hr
    rfl
  show warnRecords (c.log ++ _) = (c.warnings ++ ws).map .ofWarning
  rw [warnRecords, List.filter_append, List.map_append]
  exact congrArg₂ _ h hnew

theorem Attempt.logged {c c' : Compiler} {e : Element} {r : Except CompileError Sprite} (ha : Attempt c e c' r)
    (h : c.Logged) : c'.Logged := by
  cases ha with
  | unnamed => exact h
  | exhausted => exact h
  | failed => exact record_logged h _ _ _
  | made => exact record_logged h _ _ _

theorem after_logged {c : Compiler} (h : c.Logged) (es : List Element) : (c.after es).Logged := by
  induction es generalizing c with
  | nil => exact h
  | cons e es ih => exact ih ((attempt_makeSprite c e).logged h)

end Compiler

/-! ## Projects -/

open Compiler

/-- What is noted inside an element that compiling comes to is noted of a script around it. -/
theorem Visited.scriptNotes {root e : Element} {p : Position} {type : String} (h : Visited root p e type) :
    ∀ {owner : String} {q : Position} {w : Warning}, Notes owner e type q w →
      ∃ x ∈ spritePlaces root, x.1 <+: p ∧ ∃ y ∈ x.2.places ["scripts", "script"], ∃ r,
        Notes owner y.2 "" r w ∧ p ++ q = x.1 ++ (y.1 ++ r) := by
  induction h with
  | sprite hs =>
    intro owner q w hw
    -- compiling goes on from a sprite to its scripts only
    have hn := name_of_mem_spritePlaces hs
    rcases hw.name with h | h | h <;> rw [hn] at h <;> exact absurd h (by decide)
  | script hs hx =>
    intro owner q w hw
    exact ⟨_, hs, List.prefix_append _ _, _, hx, q, hw, List.append_assoc _ _ _⟩
  | child _ hx hent ih =>
    intro owner q w hw
    obtain ⟨x, hmem, hpre, y, hy, r, hr, heq⟩ := ih (.inChild hx hent hw)
    exact ⟨x, hmem, hpre.trans (List.prefix_append _ _), y, hy, r, hr, by rw [List.append_assoc]; exact heq⟩

theorem Notes.raised {root sprite : Element} {o : Position} {s : Sprite} (hmade : MadeAt root o sprite s)
    {e : Element} {type : String} {q : Position} {w : Warning} (h : Notes s.name e type q w) :
    ∀ {p : Position}, Visited root p e type → o <+: p → Raised root (p ++ q) w := by
  induction h with
  | here h => intro p hv ho; exact .note hmade hv ho h
  | inChild hx hent _ ih =>
    intro p hv ho
    rw [← List.append_assoc]
    exact ih (.child hv hx hent) (ho.trans (List.prefix_append _ _))

/-- What there is to warn about in a project are the notes of its sprites. -/
theorem runNotes_iff_raised (root : Element) (p : Position) (w : Warning) :
    RunNotes (Compiler.new false) (spritePlaces root) p w ↔ Raised root p w := by
  constructor
  · rintro ⟨before, o, sprite, after, s, r, hsplit, hs, ⟨y, hy, t, ht, rfl⟩, rfl⟩
    have hmem : (o, sprite) ∈ spritePlaces root := by rw [hsplit]; simp
    have hmade : MadeAt root o sprite s := ⟨before, after, hsplit, hs⟩
    rcases ht with ht | ⟨hempty, rfl, rfl⟩
    · rw [← List.append_assoc]
      exact ht.raised hmade (.script hmem hy) (List.prefix_append _ _)
    · exact .empty hmade hy hempty
  · intro h
    cases h with
    | @note o p q sprite e s type w hmade hv ho hw =>
      obtain ⟨x, hmem, hpre, y, hy, r, hr, heq⟩ := hv.scriptNotes (.here hw)
      obtain ⟨before, after, hsplit, hs⟩ := hmade
      -- the sprite that the note stands in is the one that it names
      obtain ⟨depth, horder⟩ := spritePlaces_inOrder root
      obtain rfl : x = (o, sprite) := horder.eq_of_prefix hmem (by rw [hsplit]; simp) hpre ho
      exact ⟨before, o, sprite, after, s, _, hsplit, hs, ⟨y, hy, r, .inl hr, rfl⟩, heq⟩
    | empty hmade hx hempty =>
      obtain ⟨before, after, hsplit, hs⟩ := hmade
      exact ⟨before, _, _, after, _, _, hsplit, hs, ⟨_, hx, _, .inr ⟨hempty, rfl, rfl⟩, rfl⟩, rfl⟩

/-- The warnings of a project that compiles are what there is to warn about, once each and in the order of
the document, with the texts that announce it, and every sprite of the project is made and registered. As many
of them are about arguments of unknown shape as there are unclassified arguments in the sprites, and the
warnings in the log are the same texts in the same order. -/
theorem compileProject_warnings {root : Element} {p : Program} (h : (compileProject false root).result = .ok p) :
    Enumerates (Raised root) p.warnings ∧ Enumerates (Announced root) (p.warnings.map Warning.message) ∧
    (∀ x ∈ spritePlaces root, ∃ s, MadeAt root x.1 x.2 s ∧ x.2.attr? "name" = some s.declared ∧
      (s.name, s) ∈ ((Compiler.new false).makeSprites (spriteElements root)).1.sprites) ∧
    (p.warnings.filter Warning.isUnidentified).length =
      (((Compiler.new false).makeSprites (spriteElements root)).1.sprites.flatMap (·.2.strangers)).length ∧
    ((compileProject false root).log.filter (·.level == .warn)).map LogRecord.text =
      p.warnings.map Warning.message := by
  have hroot : root.name = "project" ∨ root.name = "snapdata" := by
    by_contra hr
    rw [compileProject_notAProject false hr] at h
    cases h
  obtain ⟨hrun, rfl⟩ := compileProject_ok h
  have hplaces := map_spritePlaces hroot
  have hraised : Enumerates (Raised root) ((Compiler.new false).makeSprites (spriteElements root)).1.warnings := by
    obtain ⟨depth, horder⟩ := spritePlaces_inOrder root
    rw [← hplaces] at hrun ⊢
    obtain ⟨ws, hws, hnotes⟩ := makeSprites_enumerates (c := Compiler.new false) rfl horder hrun
    rw [hws]
    exact hnotes.congr (runNotes_iff_raised root)
  refine ⟨hraised, (hraised.map _).congr fun _ _ => announced_iff_raised.symm, fun x hx => ?_, ?_, ?_⟩
  · obtain ⟨before, after, hsplit⟩ := List.append_of_mem hx
    have hes : spriteElements root = before.map Prod.snd ++ x.2 :: after.map Prod.snd := by
      rw [← hplaces, hsplit, List.map_append, List.map_cons]
    rw [hes] at hrun ⊢
    obtain ⟨s, hs, hn, hmem⟩ := makeSprites_made hrun
    exact ⟨s, ⟨before, after, hsplit, hs⟩, hn, hmem⟩
  · have hperm := makeSprites_refused (c := Compiler.new false) rfl hrun .nil
    have hfilter : ∀ ws : List Warning, ws.filter Warning.isUnidentified = refused ws := fun ws =>
      List.filter_congr fun w _ => w.isUnidentified_eq
    rw [hfilter, finish, hperm.length_eq]
    simp [List.length_flatMap, strangerWarnings]
  · have hlogged := after_logged (c := Compiler.new false) rfl (spriteElements root)
    rw [← makeSprites_eq_after hrun] at hlogged
    have hlog : (compileProject false root).log = ((Compiler.new false).makeSprites (spriteElements root)).1.log := by
      rw [compileProject, if_pos hroot]
    rw [hlog, finish]
    show (warnRecords _).map _ = _
    rw [hlogged, List.map_map]
    rfl

/-- Two sprites of one name. The second has a script inside a block and one without blocks. -/
def untidyProject : Element :=
  .mk "project" [] [.element (.mk "stage" [] [.element (.mk "sprites" [] [
    .element (.mk "sprite" [("name", "Cat")] [.element (.mk "scripts" [] [.element (.mk "script" [] [
      .element (.mk "comment" [] []),
      .element (.mk "block" [("s", "bubble")] [.element (.mk "list" [] [.element (.mk "wish" [] [])])])])])]),
    .element (.mk "sprite" [("name", "Cat")] [.element (.mk "scripts" [] [
      .element (.mk "script" [] [.element (.mk "block" [("s", "doIf")] [
        .element (.mk "script" [] [.element (.mk "note" [] [])])])]),
      .element (.mk "script" [] [.element (.mk "comment" [] [])])])])])])]

set_option maxRecDepth 4096 in
theorem compileProject_warnings_untidy :
    ∃ p, (compileProject false untidyProject).result = .ok p ∧
      p.warnings.map Warning.message = ["Skipping <comment> inside a script of sprite 'cat'.",
        "Unidentified argument <wish> in block 'bubble' of sprite 'cat'.",
        "Skipping <note> inside a script of sprite 'cat_'.", "Skipping <comment> inside a script of sprite 'cat_'.",
        "Skipping empty script of sprite 'Cat'."] ∧
      Enumerates (Raised untidyProject) p.warnings ∧
      Enumerates (Announced untidyProject) (p.warnings.map Warning.message) ∧
      (∀ x ∈ spritePlaces untidyProject, ∃ s, MadeAt untidyProject x.1 x.2 s) ∧
      (((Compiler.new false).makeSprites (spriteElements untidyProject)).1.sprites.flatMap (·.2.strangers)).length = 1 ∧
      ((compileProject false untidyProject).log.filter (·.level == .warn)).map LogRecord.text =
        p.warnings.map Warning.message := by
  obtain ⟨p, hp, hwarnings⟩ : ∃ p, (compileProject false untidyProject).result = .ok p ∧
      p.warnings = [.skippedElement "comment" "cat", .unidentifiedArgument "wish" "bubble" "cat",
        .skippedElement "note" "cat_", .skippedElement "comment" "cat_", .emptyScript "Cat"] := ⟨_, rfl, rfl⟩
  obtain ⟨hraised, hannounced, hmade, hcount, hlog⟩ := compileProject_warnings hp
  refine ⟨p, hp, by rw [hwarnings]; decide, hraised, hannounced, fun x hx => ?_, ?_, hlog⟩
  · obtain ⟨s, hs, -⟩ := hmade x hx
    exact ⟨s, hs⟩
  · rw [← hcount, hwarnings]
    decide

end SpriteScribe
