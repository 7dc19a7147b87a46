/-
The registry of sprites that a compiler keeps, over any sequence of calls, whether they succeed or
fail. Sprites stand under their own identifiers in strictly increasing order, every identifier can be
used in program text, declared names lead to sprites declared so, and the scripts of a sprite are its
own. A call that succeeds adds exactly the sprite that it returns, under an identifier that was free.

`Attempt` says once what a call can do; the invariant `WF` is derived from it.
-/
import SpriteScribe.Project.Compile
import SpriteScribe.Proofs.Project.Nesting
import SpriteScribe.Proofs.Sprite.Identifier
import Mathlib.Data.String.Basic

namespace SpriteScribe

open SpriteScribe.Markup

namespace Compiler

/-! ## Inserting in order -/

theorem insertSprite_perm {name : String} {s : Sprite} :
    ∀ {l : List (String × Sprite)}, name ∉ l.map Prod.fst → (insertSprite name s l).Perm ((name, s) :: l)
  | [], _ => .refl _
  | (other, x) :: rest, h => by
    simp only [List.map_cons, List.mem_cons, not_or] at h
    rw [insertSprite]
    split
    · exact .refl _
    · rw [if_neg h.1]
      exact ((insertSprite_perm h.2).cons _).trans (.swap _ _ _)

theorem mem_insertSprite {name : String} {s : Sprite} {l : List (String × Sprite)}
    (h : name ∉ l.map Prod.fst) (x : String × Sprite) :
    x ∈ insertSprite name s l ↔ x = (name, s) ∨ x ∈ l := by
  rw [(insertSprite_perm h).mem_iff, List.mem_cons]

theorem insertSprite_sorted {name : String} {s : Sprite} :
    ∀ {l : List (String × Sprite)}, name ∉ l.map Prod.fst → (l.map Prod.fst).Pairwise (· < ·) →
      ((insertSprite name s l).map Prod.fst).Pairwise (· < ·)
  | [], _, _ => by simp [insertSprite]
  | (other, x) :: rest, h, hs => by
    simp only [List.map_cons, List.mem_cons, not_or] at h
    obtain ⟨hlt, hrest⟩ := List.pairwise_cons.1 hs
    rw [insertSprite]
    split
    · rename_i hno
      refine List.pairwise_cons.2 ⟨fun k hk => ?_, hs⟩
      rcases List.mem_cons.1 hk with rfl | hk
      · exact hno
      · exact lt_trans hno (hlt k hk)
    · rename_i hno
      rw [if_neg h.1]
      refine List.pairwise_cons.2 ⟨fun k hk => ?_, insertSprite_sorted h.2 hrest⟩
      -- `name` is neither below nor equal to the head, so it is above it
      have hgt : other < name := lt_of_le_of_ne (not_lt.1 hno) (Ne.symm h.1)
      rcases List.mem_cons.1 (((insertSprite_perm h.2).map Prod.fst).mem_iff.1 hk) with rfl | hk
      · exact hgt
      · exact hlt k hk

theorem lookup_insertSprite_self {name : String} {s : Sprite} :
    ∀ {l : List (String × Sprite)}, name ∉ l.map Prod.fst → (insertSprite name s l).lookup name = some s
  | [], _ => by simp [insertSprite]
  | (other, x) :: rest, h => by
    simp only [List.map_cons, List.mem_cons, not_or] at h
    rw [insertSprite]
    split
    · simp
    · rw [if_neg h.1, List.lookup_cons, beq_false_of_ne h.1]
      exact lookup_insertSprite_self h.2

/-! ## Calls -/

section Fields

variable (c : Compiler) (declared name : String) (s : Sprite)

@[simp] theorem register_sprites :
    (c.register declared name s).sprites = insertSprite name s c.sprites := rfl

@[simp] theorem register_names : (c.register declared name s).names = (declared, name) :: c.names := rfl

end Fields

theorem isTaken_eq_false {c : Compiler} {name : String} :
    c.isTaken name = false ↔ name ∉ c.sprites.map Prod.fst := by
  simp [isTaken, spriteNames]

/-- Everything that a call can do: it fails before building, fails while building, which leaves only
records behind, or registers a sprite under a free identifier. -/
inductive Attempt (c : Compiler) (e : Element) : Compiler → Except CompileError Sprite → Prop
  | unnamed : e.attr? "name" = none → Attempt c e c (.error (.missingAttribute e.name "name"))
  | exhausted {declared : String} : e.attr? "name" = some declared →
      Identifier.firstFree? c.isTaken (Identifier.ofDeclared declared) = none →
      Attempt c e c (.error (.nameExhausted (Identifier.ofDeclared declared)))
  | failed {declared name : String} {err : CompileError} : e.attr? "name" = some declared →
      Identifier.firstFree? c.isTaken (Identifier.ofDeclared declared) = some name →
      (buildSprite ⟨name, c.strict⟩ declared e).result = .error err →
      Attempt c e (c.record declared name (buildSprite ⟨name, c.strict⟩ declared e).warnings) (.error err)
  | made {declared name : String} {s : Sprite} : e.attr? "name" = some declared →
      Identifier.firstFree? c.isTaken (Identifier.ofDeclared declared) = some name →
      (buildSprite ⟨name, c.strict⟩ declared e).result = .ok s →
      Attempt c e ((c.record declared name (buildSprite ⟨name, c.strict⟩ declared e).warnings).register
        declared name s) (.ok s)

/-- What a call does with the sprite that was built under an identifier. -/
def settle (c : Compiler) (declared name : String) (b : Build Sprite) : Compiler × Except CompileError Sprite :=
  match b.result with
  | .error err => (c.record declared name b.warnings, .error err)
  | .ok s => ((c.record declared name b.warnings).register declared name s, .ok s)

theorem makeSprite_unnamed {c : Compiler} {e : Element} (hn : e.attr? "name" = none) :
    c.makeSprite e = (c, .error (.missingAttribute e.name "name")) := by
  unfold makeSprite; rw [hn]

theorem makeSprite_exhausted {c : Compiler} {e : Element} {declared : String}
    (hn : e.attr? "name" = some declared)
    (hf : Identifier.firstFree? c.isTaken (Identifier.ofDeclared declared) = none) :
    c.makeSprite e = (c, .error (.nameExhausted (Identifier.ofDeclared declared))) := by
  unfold makeSprite; rw [hn]; simp only [hf]

/-- With a free identifier the call builds the sprite. What it then finds under that identifier is
the sprite it built. -/
theorem makeSprite_free {c : Compiler} {e : Element} {declared name : String}
    (hn : e.attr? "name" = some declared)
    (hf : Identifier.firstFree? c.isTaken (Identifier.ofDeclared declared) = some name) :
    c.makeSprite e = c.settle declared name (buildSprite ⟨name, c.strict⟩ declared e) := by
  unfold makeSprite settle
  rw [hn]; simp only [hf]
  cases (buildSprite ⟨name, c.strict⟩ declared e).result with
  | error err => rfl
  | ok s =>
    have hfree := isTaken_eq_false.1 (Identifier.firstFree?_eq_some hf).1
    have hfound : ((c.record declared name (buildSprite ⟨name, c.strict⟩ declared e).warnings).register
        declared name s).sprite? name = some s := lookup_insertSprite_self hfree
    simp only [hfound, Option.getD_some]

theorem attempt_makeSprite (c : Compiler) (e : Element) :
    Attempt c e (c.makeSprite e).1 (c.makeSprite e).2 := by
  cases hn : e.attr? "name" with
  | none => rw [makeSprite_unnamed hn]; exact .unnamed hn
  | some declared =>
    cases hf : Identifier.firstFree? c.isTaken (Identifier.ofDeclared declared) with
    | none => rw [makeSprite_exhausted hn hf]; exact .exhausted hn hf
    | some name =>
      rw [makeSprite_free hn hf, settle]
      cases hb : (buildSprite ⟨name, c.strict⟩ declared e).result with
      | error err => exact .failed hn hf hb
      | ok s => exact .made hn hf hb

/-- The compiler after a sequence of calls, each on an element, whatever their results. -/
def after (c : Compiler) (es : List Element) : Compiler := es.foldl (fun c e => (c.makeSprite e).1) c

theorem after_concat (c : Compiler) (es : List Element) (e : Element) :
    c.after (es ++ [e]) = ((c.after es).makeSprite e).1 := by
  simp [after]

/-- A successful run makes all its calls. -/
theorem makeSprites_eq_after {c : Compiler} {es : List Element} (h : (c.makeSprites es).2 = .ok ()) :
    (c.makeSprites es).1 = c.after es := by
  induction es generalizing c with
  | nil => rfl
  | cons e es ih =>
    rw [makeSprites] at h ⊢
    rcases hm : c.makeSprite e with ⟨c', err | s⟩ <;> rw [hm] at h
    · cases h
    · rw [ih h, after, after, List.foldl_cons, hm]

/-! ## The invariant -/

/-- What holds of the registry at any time. -/
structure WF (c : Compiler) : Prop where
  /-- The identifiers increase, so each stands for one sprite. -/
  sorted : c.spriteNames.Pairwise (· < ·)
  /-- A sprite stands under its own identifier. -/
  named : ∀ k s, (k, s) ∈ c.sprites → s.name = k
  valid : ∀ k ∈ c.spriteNames, Identifier.IsValid k
  /-- A declared name leads to a sprite declared so. -/
  leads : ∀ declared k, c.generatedName? declared = some k → ∃ s, (k, s) ∈ c.sprites ∧ s.declared = declared
  known : ∀ k s, (k, s) ∈ c.sprites → ∃ k', c.generatedName? s.declared = some k'
  /-- Scripts are headers of the sprite, and so on for what is inside them. -/
  scripts : ∀ k s, (k, s) ∈ c.sprites → ∀ script ∈ s.scripts, script.IsOwn ⟨k, c.strict⟩

theorem new_wf (strict : Bool) : (new strict).WF :=
  ⟨by simp [new, spriteNames], by simp [new], by simp [new, spriteNames], by simp [new, generatedName?],
    by simp [new], by simp [new]⟩

theorem record_wf {c : Compiler} (hw : c.WF) (declared name : String) (ws : List Warning) :
    (c.record declared name ws).WF :=
  ⟨hw.sorted, hw.named, hw.valid, hw.leads, hw.known, hw.scripts⟩

theorem generatedName?_register (c : Compiler) (declared name : String) (s : Sprite) (d : String) :
    (c.register declared name s).generatedName? d =
      if d = declared then some name else c.generatedName? d := by
  unfold generatedName?
  rw [register_names, List.lookup_cons]
  split <;> rename_i h
  · rw [if_pos (beq_iff_eq.1 h)]
  · rw [if_neg (by simpa using h)]

/-- Registering a sprite of its own under a free and valid identifier keeps the invariant. -/
theorem register_wf {c : Compiler} (hw : c.WF) {declared name : String} {s : Sprite}
    (hfree : name ∉ c.sprites.map Prod.fst) (hv : Identifier.IsValid name) (hn : s.name = name)
    (hd : s.declared = declared) (hs : ∀ script ∈ s.scripts, script.IsOwn ⟨name, c.strict⟩) :
    (c.register declared name s).WF := by
  have hmem : ∀ k t, (k, t) ∈ (c.register declared name s).sprites ↔ (k = name ∧ t = s) ∨ (k, t) ∈ c.sprites := by
    intro k t; rw [register_sprites, mem_insertSprite hfree, Prod.mk.injEq]
  refine ⟨insertSprite_sorted hfree hw.sorted, ?_, ?_, ?_, ?_, ?_⟩
  · intro k t h
    rcases (hmem k t).1 h with ⟨rfl, rfl⟩ | h
    · exact hn
    · exact hw.named k t h
  · intro k hk
    obtain ⟨⟨k', t⟩, h, rfl⟩ := List.mem_map.1 hk
    rcases (hmem k' t).1 h with ⟨rfl, -⟩ | h
    · exact hv
    · exact hw.valid k' (List.mem_map.2 ⟨_, h, rfl⟩)
  · intro d k h
    rw [generatedName?_register] at h
    split at h
    · rename_i hdd
      cases h
      exact ⟨s, (hmem name s).2 (.inl ⟨rfl, rfl⟩), hd.trans hdd.symm⟩
    · obtain ⟨t, ht, htd⟩ := hw.leads d k h
      exact ⟨t, (hmem k t).2 (.inr ht), htd⟩
  · intro k t h
    rw [generatedName?_register]
    split
    · exact ⟨name, rfl⟩
    · rename_i hne
      rcases (hmem k t).1 h with ⟨-, rfl⟩ | h
      · exact absurd hd hne
      · exact hw.known k t h
  · intro k t h
    rcases (hmem k t).1 h with ⟨rfl, rfl⟩ | h
    · exact hs
    · exact hw.scripts k t h

/-- One call keeps the invariant, whether it succeeds or fails. -/
theorem Attempt.wf {c c' : Compiler} {e : Element} {r : Except CompileError Sprite}
    (h : Attempt c e c' r) (hw : c.WF) : c'.WF := by
  cases h with
  | unnamed => exact hw
  | exhausted => exact hw
  | failed => exact record_wf hw _ _ _
  | made _ hf hb =>
    obtain ⟨hname, hdecl, hscripts⟩ := buildSprite_ok hb
    exact register_wf (record_wf hw _ _ _) (isTaken_eq_false.1 (Identifier.firstFree?_eq_some hf).1)
      (Identifier.isValid_of_firstFree? hf) hname hdecl hscripts

theorem Attempt.strict {c c' : Compiler} {e : Element} {r : Except CompileError Sprite}
    (h : Attempt c e c' r) : c'.strict = c.strict := by
  cases h <;> rfl

/-- Any number of calls keep the invariant. -/
theorem after_wf {c : Compiler} (hw : c.WF) (es : List Element) :
    (c.after es).WF ∧ (c.after es).strict = c.strict := by
  induction es generalizing c with
  | nil => exact ⟨hw, rfl⟩
  | cons e es ih =>
    have ha := attempt_makeSprite c e
    obtain ⟨hw', hs'⟩ := ih (ha.wf hw)
    exact ⟨hw', hs'.trans ha.strict⟩

/-- What a successful call has done. -/
theorem Attempt.registered {c c' : Compiler} {e : Element} {s : Sprite} (h : Attempt c e c' (.ok s)) :
    e.attr? "name" = some s.declared ∧ s.name ∉ c.spriteNames ∧
      c'.sprites.Perm ((s.name, s) :: c.sprites) ∧ c'.sprite? s.name = some s ∧
      c'.generatedName? s.declared = some s.name := by
  cases h with
  | made hn hf hb =>
    obtain ⟨hname, rfl, -⟩ := buildSprite_ok hb
    have hfree := isTaken_eq_false.1 (Identifier.firstFree?_eq_some hf).1
    simp only at hname
    subst hname
    refine ⟨hn, hfree, insertSprite_perm hfree, lookup_insertSprite_self hfree, ?_⟩
    rw [generatedName?_register, if_pos rfl]

/-- After any sequence of calls on a new compiler, of either strictness, the registry is well formed,
and a further call that succeeds adds the sprite it returns, and only that one, under an identifier
that was not in use. -/
theorem registry_after_calls (strict : Bool) (es : List Element) :
    ((new strict).after es).WF ∧ ((new strict).after es).strict = strict ∧
    ∀ e s, (((new strict).after es).makeSprite e).2 = .ok s →
      e.attr? "name" = some s.declared ∧ s.name ∉ ((new strict).after es).spriteNames ∧
      ((new strict).after (es ++ [e])).sprites.Perm ((s.name, s) :: ((new strict).after es).sprites) ∧
      ((new strict).after (es ++ [e])).sprite? s.name = some s ∧
      ((new strict).after (es ++ [e])).generatedName? s.declared = some s.name := by
  obtain ⟨hw, hs⟩ := after_wf (new_wf strict) es
  refine ⟨hw, hs, fun e s h => ?_⟩
  have ha := attempt_makeSprite ((new strict).after es) e
  rw [h] at ha
  rw [after_concat]
  exact ha.registered

/-- A sprite with the declared name `New`, which is reserved in lower case. A block of its script has an argument
of unknown shape and a script inside. -/
def newElement : Element :=
  .mk "sprite" [("name", "New")] [.element (.mk "scripts" [] [.element (.mk "script" []
    [.element (.mk "block" [("s", "receiveGo")] []),
     .element (.mk "block" [("s", "doIf")] [.element (.mk "wish" [] []),
       .element (.mk "script" [] [.element (.mk "block" [("s", "bubble")] [.element (.mk "l" [] [.text "hi"])])])])])])]

/-- The script inside the script of that sprite. -/
def newInnerScript (owner : String) : Script := .mk owner false [.mk "bubble" [.literal "hi"]]

def newScript (owner : String) : Script :=
  .mk owner true [.mk "receiveGo" [], .mk "doIf" [.unclassified "wish", .script (newInnerScript owner)]]

/-- Two sprites declared alike, with a call in between that fails. When compiling is strict, the first call fails
already. -/
theorem registry_after_calls_new :
    (((new false).after [newElement, .mk "sprite" [] []]).makeSprite newElement).2 =
        .ok ⟨"new__", "New", [newScript "new__"]⟩ ∧
      ((new false).after [newElement, .mk "sprite" [] [], newElement]).generatedName? "New" = some "new__" ∧
      ((new false).after [newElement, .mk "sprite" [] [], newElement]).spriteNames = ["new_", "new__"] ∧
      (newScript "new__").IsOwn ⟨"new__", false⟩ ∧ .script (newInnerScript "new__") ∈ (newScript "new__").nested ∧
      .unclassified "wish" ∈ (newScript "new__").nested ∧
      ((new true).after [newElement]).WF ∧ ((new true).after [newElement]).sprites = [] := by
  have h : (((new false).after [newElement, .mk "sprite" [] []]).makeSprite newElement).2 =
      .ok ⟨"new__", "New", [newScript "new__"]⟩ := by rfl
  have hwf := (registry_after_calls false [newElement, .mk "sprite" [] [], newElement]).1
  have hown := hwf.scripts "new__" ⟨"new__", "New", [newScript "new__"]⟩ (.tail _ (.head _)) _ (.head _)
  refine ⟨h, ((registry_after_calls false [newElement, .mk "sprite" [] []]).2.2 _ _ h).2.2.2.2, rfl, hown, ?_, ?_,
    (registry_after_calls true [newElement]).1, rfl⟩
  · exact .tail _ (.head _)
  · exact .head _

end Compiler

/-! ## Projects -/

theorem compileProject_result (strict : Bool) {root : Element} (h : root.name = "project" ∨ root.name = "snapdata") :
    (compileProject strict root).result = ((Compiler.new strict).makeSprites (spriteElements root)).2.map
      fun _ => ((Compiler.new strict).makeSprites (spriteElements root)).1.finish := by
  unfold compileProject; rw [if_pos h]

theorem compileProject_notAProject (strict : Bool) {root : Element}
    (h : ¬ (root.name = "project" ∨ root.name = "snapdata")) :
    (compileProject strict root).result = .error (.notAProject root.name) := by
  unfold compileProject; rw [if_neg h]

/-- A project that compiles is what a successful run over its sprites ends with. -/
theorem compileProject_ok {strict : Bool} {root : Element} {p : Program}
    (h : (compileProject strict root).result = .ok p) :
    ((Compiler.new strict).makeSprites (spriteElements root)).2 = .ok () ∧
      p = ((Compiler.new strict).makeSprites (spriteElements root)).1.finish := by
  by_cases hr : root.name = "project" ∨ root.name = "snapdata"
  · rw [compileProject_result strict hr] at h
    cases hmade : ((Compiler.new strict).makeSprites (spriteElements root)).2 with
    | error err => rw [hmade] at h; cases h
    | ok u => rw [hmade] at h; cases h; exact ⟨rfl, rfl⟩
  · rw [compileProject_notAProject strict hr] at h; cases h

end SpriteScribe
