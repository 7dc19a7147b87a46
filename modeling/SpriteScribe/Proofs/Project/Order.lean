/-
The order of the sprites in a project. Where no two declared names come to the same identifier, every
sprite gets the identifier that its name has by itself, even if that is the one of another sprite with
underscores appended. So what is built from an element does not depend on the other elements: a run
succeeds when each of its sprites can be built alone, and since sprites are kept in the order of their
identifiers, the text of the program does not show in which order they came.
-/
import SpriteScribe.Proofs.Project.Calls

namespace SpriteScribe

open SpriteScribe.Markup

/-! ## A sprite by itself -/

def declaredName (e : Element) : String := (e.attr? "name").getD ""

/-- The identifier that the declared name of an element has where it is not in use. -/
def ownIdentifier (e : Element) : String := Identifier.ofDeclared (declaredName e)

/-- What is built from the element of a sprite under its own identifier. -/
def buildAlone (strict : Bool) (e : Element) : Build Sprite :=
  buildSprite ⟨ownIdentifier e, strict⟩ (declaredName e) e

/-- The entry of that sprite in the registry, if it can be built. -/
def entryAlone? (strict : Bool) (e : Element) : Option (String × Sprite) :=
  match (buildAlone strict e).result with
  | .ok s => some (ownIdentifier e, s)
  | .error _ => none

theorem map_ownIdentifier {es : List Element} (h : ∀ e ∈ es, e.attr? "name" ≠ none) :
    es.map ownIdentifier = (es.filterMap (·.attr? "name")).map Identifier.ofDeclared := by
  induction es with
  | nil => rfl
  | cons e es ih =>
    obtain ⟨declared, hn⟩ := Option.ne_none_iff_exists'.1 (h e List.mem_cons_self)
    have hrest := ih fun f hf => h f (List.mem_cons_of_mem _ hf)
    rw [List.map_cons, hrest, List.filterMap_cons, hn]
    simp [ownIdentifier, declaredName, hn]

theorem Identifier.firstFree?_of_free {taken : String → Bool} {base : String} (h : taken base = false) :
    firstFree? taken base = some base :=
  firstFree?_eq_some_iff.2 ⟨0, Nat.zero_le _, (suffixed_zero base).symm, h, fun _ hm => absurd hm (Nat.not_lt_zero _)⟩

namespace Compiler

/-- Elements each of which will find its own identifier free, in whatever order calls are made on them. -/
structure Clear (c : Compiler) (es : List Element) : Prop where
  named : ∀ e ∈ es, e.attr? "name" ≠ none
  distinct : (es.map ownIdentifier).Nodup
  free : ∀ e ∈ es, ownIdentifier e ∉ c.spriteNames

namespace Clear

variable {c : Compiler} {e : Element} {es : List Element}

/-- The call on the first element builds its sprite alone. -/
theorem makeSprite_eq (h : c.Clear (e :: es)) :
    c.makeSprite e = c.settle (declaredName e) (ownIdentifier e) (buildAlone c.strict e) := by
  have hn : e.attr? "name" = some (declaredName e) := by
    obtain ⟨declared, hn⟩ := Option.ne_none_iff_exists'.1 (h.named e List.mem_cons_self)
    simp [declaredName, hn]
  have hfree : c.isTaken (ownIdentifier e) = false := isTaken_eq_false.2 (h.free e List.mem_cons_self)
  exact makeSprite_free hn (Identifier.firstFree?_of_free hfree)

/-- If it succeeds, it takes that identifier and no other, so the rest still find theirs free. -/
theorem tail (h : c.Clear (e :: es)) {s : Sprite} (hb : (buildAlone c.strict e).result = .ok s) :
    (c.makeSprite e).1.Clear es := by
  obtain ⟨hnew, hdistinct⟩ := List.nodup_cons.1 (List.map_cons ▸ h.distinct)
  have hmade : (c.makeSprite e).2 = .ok s := by rw [h.makeSprite_eq, settle, hb]
  rw [buildAlone] at hb
  obtain ⟨hname, -, -⟩ := buildSprite_ok hb
  simp only at hname
  refine ⟨fun f hf => h.named f (List.mem_cons_of_mem _ hf), hdistinct, fun f hf htaken => ?_⟩
  rcases ((attempt_makeSprite c e).mem_spriteNames _).1 htaken with hold | ⟨t, ht, heq⟩
  · exact h.free f (List.mem_cons_of_mem _ hf) hold
  · rw [hmade] at ht
    cases ht
    exact hnew (List.mem_map.2 ⟨f, hf, heq.symm.trans hname⟩)

/-- A run succeeds when each sprite can be built alone. -/
theorem makeSprites_ok_iff (h : c.Clear es) :
    (c.makeSprites es).2 = .ok () ↔ ∀ e ∈ es, ∃ s, (buildAlone c.strict e).result = .ok s := by
  induction es generalizing c with
  | nil => simp [makeSprites]
  | cons e es ih =>
    have hcall := h.makeSprite_eq
    rw [settle] at hcall
    rw [makeSprites, List.forall_mem_cons]
    cases hb : (buildAlone c.strict e).result with
    | error err =>
      rw [hb] at hcall
      simp [hcall]
    | ok s =>
      have hrest := ih (h.tail hb)
      rw [(attempt_makeSprite c e).strict] at hrest
      rw [hb] at hcall
      rw [hcall] at hrest ⊢
      simpa using hrest

/-- What a successful run leaves: the warnings of all sprites in order, and their entries. -/
theorem makeSprites_eq (h : c.Clear es) (hok : (c.makeSprites es).2 = .ok ()) :
    (c.makeSprites es).1.warnings = c.warnings ++ es.flatMap (fun e => (buildAlone c.strict e).warnings) ∧
      (c.makeSprites es).1.sprites.Perm (es.filterMap (entryAlone? c.strict) ++ c.sprites) := by
  induction es generalizing c with
  | nil => simp [makeSprites]
  | cons e es ih =>
    obtain ⟨s, hb⟩ := h.makeSprites_ok_iff.1 hok e List.mem_cons_self
    have hcall := h.makeSprite_eq
    have hrest := h.tail hb
    rw [settle, hb] at hcall
    rw [makeSprites, hcall] at hok ⊢
    rw [hcall] at hrest
    obtain ⟨hwarnings, hsprites⟩ := ih hrest hok
    have hentry : entryAlone? c.strict e = some (ownIdentifier e, s) := by simp [entryAlone?, hb]
    constructor
    · rw [hwarnings, List.flatMap_cons, ← List.append_assoc]
      rfl
    · -- the new entry is somewhere in the registry, and first in the list of entries
      have hinsert := insertSprite_perm (s := s) (h.free e List.mem_cons_self)
      rw [List.filterMap_cons, hentry]
      exact hsprites.trans ((hinsert.append_left _).trans List.perm_middle)

end Clear

/-- A registry is determined by its entries, whatever the order in which they came. -/
theorem WF.sprites_eq {c d : Compiler} (hc : c.WF) (hd : d.WF) (h : c.sprites.Perm d.sprites) :
    c.sprites = d.sprites := by
  refine h.eq_of_pairwise ?_ (List.pairwise_map.1 hc.sorted) (List.pairwise_map.1 hd.sorted)
  intro x y _ _ hxy hyx
  exact absurd hyx (lt_asymm hxy)

/-- Two successful runs over the same elements in different orders end with the same program text. -/
theorem makeSprites_perm {strict : Bool} {es fs : List Element} (hperm : es.Perm fs)
    (hes : (new strict).Clear es) (hfs : (new strict).Clear fs) (hok : ((new strict).makeSprites es).2 = .ok ())
    (hok' : ((new strict).makeSprites fs).2 = .ok ()) :
    ((new strict).makeSprites es).1.render = ((new strict).makeSprites fs).1.render ∧
      ((new strict).makeSprites es).1.warnings.Perm ((new strict).makeSprites fs).1.warnings := by
  obtain ⟨hwarnings, hsprites⟩ := hes.makeSprites_eq hok
  obtain ⟨hwarnings', hsprites'⟩ := hfs.makeSprites_eq hok'
  constructor
  · have hwf : ∀ {gs}, ((new strict).makeSprites gs).2 = .ok () → ((new strict).makeSprites gs).1.WF := by
      intro gs h
      rw [makeSprites_eq_after h]
      exact (after_wf (new_wf strict) gs).1
    have hentries := hperm.filterMap (entryAlone? strict)
    have hsame := (hwf hok).sprites_eq (hwf hok') (hsprites.trans ((hentries.append_right _).trans hsprites'.symm))
    simp only [render, spriteNames, hsame]
  · rw [hwarnings, hwarnings']
    exact (hperm.flatMap_right _).append_left _

end Compiler

/-! ## Projects -/

/-- The order of the sprites of a project makes no difference to its program, if they all have names and
no two of these come to the same identifier. Either both orders compile or neither does, the text is the
same, and so are the warnings up to their order. -/
theorem compileProject_perm (strict : Bool) {root other : Element}
    (hroot : root.name = "project" ∨ root.name = "snapdata")
    (hother : other.name = "project" ∨ other.name = "snapdata")
    (hperm : (spriteElements root).Perm (spriteElements other))
    (hnamed : ∀ e ∈ spriteElements root, e.attr? "name" ≠ none)
    (hdistinct : (((spriteElements root).filterMap (·.attr? "name")).map Identifier.ofDeclared).Nodup) :
    ((∃ p, (compileProject strict root).result = .ok p) ↔ ∃ q, (compileProject strict other).result = .ok q) ∧
    ∀ p q, (compileProject strict root).result = .ok p → (compileProject strict other).result = .ok q →
      p.text = q.text ∧ p.warnings.Perm q.warnings := by
  have hclear : (Compiler.new strict).Clear (spriteElements root) :=
    ⟨hnamed, by rw [map_ownIdentifier hnamed]; exact hdistinct, by simp [Compiler.new, Compiler.spriteNames]⟩
  have hclear' : (Compiler.new strict).Clear (spriteElements other) := by
    refine ⟨fun e he => hnamed e (hperm.mem_iff.2 he), ?_, by simp [Compiler.new, Compiler.spriteNames]⟩
    exact (hperm.map ownIdentifier).nodup_iff.1 hclear.distinct
  have hok : ∀ {r : Element}, r.name = "project" ∨ r.name = "snapdata" →
      ((∃ p, (compileProject strict r).result = .ok p) ↔
        ((Compiler.new strict).makeSprites (spriteElements r)).2 = .ok ()) := by
    intro r hr
    constructor
    · rintro ⟨p, hp⟩
      exact (compileProject_ok hp).1
    · intro h
      rw [compileProject_result strict hr, h]
      exact ⟨_, rfl⟩
  constructor
  · rw [hok hroot, hok hother, hclear.makeSprites_ok_iff, hclear'.makeSprites_ok_iff]
    constructor
    · intro h e he
      exact h e (hperm.mem_iff.2 he)
    · intro h e he
      exact h e (hperm.mem_iff.1 he)
  · intro p q hp hq
    obtain ⟨hmade, rfl⟩ := compileProject_ok hp
    obtain ⟨hmade', rfl⟩ := compileProject_ok hq
    exact Compiler.makeSprites_perm hperm hclear hclear' hmade hmade'

/-- A project with given sprites. -/
def projectOf (sprites : List Element) : Element :=
  .mk "project" [] [.element (.mk "stage" [] [.element (.mk "sprites" [] (sprites.map .element))])]

/-- Three sprites of which the second and third are named like the first with underscores, two of them
with a script that is passed over. -/
def trailingUnderscores : List Element :=
  [.mk "sprite" [("name", "b")] [.element (.mk "scripts" [] [.element (.mk "script" [] [])])],
   .mk "sprite" [("name", "B_")] [],
   .mk "sprite" [("name", "b__")] [.element (.mk "scripts" [] [.element (.mk "script" [] [])])]]

set_option maxRecDepth 4096 in
theorem compileProject_perm_reversed :
    ∃ p q, (compileProject true (projectOf trailingUnderscores)).result = .ok p ∧
      (compileProject true (projectOf trailingUnderscores.reverse)).result = .ok q ∧ p.text = q.text ∧
      p.warnings = [.emptyScript "b", .emptyScript "b__"] ∧ q.warnings = [.emptyScript "b__", .emptyScript "b"] ∧
      p.warnings.Perm q.warnings := by
  have hperm : (spriteElements (projectOf trailingUnderscores)).Perm
      (spriteElements (projectOf trailingUnderscores.reverse)) := (List.reverse_perm trailingUnderscores).symm
  obtain ⟨hiff, hsame⟩ := compileProject_perm true (.inl rfl) (.inl rfl) hperm (by decide +kernel) (by decide +kernel)
  obtain ⟨text, hp⟩ : ∃ text, (compileProject true (projectOf trailingUnderscores)).result =
      .ok ⟨text, [.emptyScript "b", .emptyScript "b__"]⟩ := ⟨_, rfl⟩
  obtain ⟨q, hq⟩ := hiff.1 ⟨_, hp⟩
  have hreversed : q.warnings = [.emptyScript "b__", .emptyScript "b"] := by
    obtain ⟨-, rfl⟩ := compileProject_ok hq
    rfl
  obtain ⟨htext, hwarnings⟩ := hsame _ _ hp hq
  exact ⟨_, q, hp, hq, htext, rfl, hreversed, hwarnings⟩

end SpriteScribe
