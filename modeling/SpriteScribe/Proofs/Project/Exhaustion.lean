/-
When identifiers run out. The candidates for a declared name are distinct, so that all of them can be in
use only if at least as many sprites are registered, whatever these were called. A project can fail for
want of an identifier only from its sixty-sixth sprite on, and with sprites of one name it does, since
they use up the candidates one after the other.
-/
import Mathlib.Data.List.Perm.Subperm
import SpriteScribe.Proofs.Project.Acceptance

namespace SpriteScribe

open SpriteScribe.Markup Identifier

/-! ## Candidates -/

theorem Identifier.suffixed_injective (base : String) : Function.Injective (suffixed base) := by
  intro m n h
  have hlen := congrArg (fun s : String => s.toList.length) h
  simpa using hlen

theorem Identifier.candidates_nodup (base : String) : (candidates base).Nodup :=
  List.nodup_range.map (suffixed_injective base)

theorem Identifier.mem_candidates {base k : String} : k ∈ candidates base ↔ ∃ n ≤ maxSuffix, k = suffixed base n := by
  simp only [candidates, List.mem_map, List.mem_range, Nat.lt_succ_iff, eq_comm]

/-- Names that all candidates are among are at least as many as these. -/
theorem Identifier.length_of_candidates {base : String} {names : List String}
    (h : ∀ n ≤ maxSuffix, suffixed base n ∈ names) : maxSuffix + 1 ≤ names.length := by
  have hsub : candidates base ⊆ names := by
    intro k hk
    obtain ⟨n, hn, rfl⟩ := mem_candidates.1 hk
    exact h n hn
  have hle := (List.subperm_of_subset (candidates_nodup base) hsub).length_le
  simpa [candidates] using hle

/-! ## Calls -/

/-- Nothing inside a sprite is wrong for want of an identifier. -/
theorem Fault.ne_nameExhausted {strict : Bool} {e : Element} {type : String} {p : Position} {err : CompileError}
    (h : Fault strict e type p err) (base : String) : err ≠ .nameExhausted base := by
  induction h with
  | untyped => nofun
  | stranger => nofun
  | inChild _ _ _ ih => exact ih

theorem buildSprite_ne_nameExhausted (ctx : BuildContext) (declared : String) (e : Element) (base : String) :
    (buildSprite ctx declared e).result ≠ .error (.nameExhausted base) := by
  intro h
  have hreports := buildSprite_reports ctx declared e
  rw [h] at hreports
  obtain ⟨p, ⟨q, x, r, -, hfault, -⟩, -⟩ := hreports
  exact hfault.ne_nameExhausted base rfl

namespace Compiler

/-- A call fails for want of an identifier just if all candidates for its declared name are in use. -/
theorem makeSprite_nameExhausted_iff {c : Compiler} {e : Element} {base : String} :
    (c.makeSprite e).2 = .error (.nameExhausted base) ↔
      ∃ declared, e.attr? "name" = some declared ∧ ofDeclared declared = base ∧
        ∀ n ≤ maxSuffix, suffixed base n ∈ c.spriteNames := by
  have hall : ∀ declared, firstFree? c.isTaken (ofDeclared declared) = none ↔
      ∀ n ≤ maxSuffix, suffixed (ofDeclared declared) n ∈ c.spriteNames := by
    intro declared
    simp [firstFree?_eq_none_iff, isTaken]
  constructor
  · intro h
    have ha := attempt_makeSprite c e
    rw [h] at ha
    generalize (c.makeSprite e).1 = c' at ha
    cases ha with
    | exhausted hn hf => exact ⟨_, hn, rfl, (hall _).1 hf⟩
    | failed _ _ hb => exact absurd hb (buildSprite_ne_nameExhausted _ _ _ base)
  · rintro ⟨declared, hn, rfl, hused⟩
    rw [makeSprite_exhausted hn ((hall declared).2 hused)]

theorem length_of_nameExhausted {c : Compiler} {e : Element} {base : String}
    (h : (c.makeSprite e).2 = .error (.nameExhausted base)) : maxSuffix + 1 ≤ c.sprites.length := by
  obtain ⟨declared, -, -, hused⟩ := makeSprite_nameExhausted_iff.1 h
  simpa [spriteNames] using length_of_candidates hused

/-- A run that ends for want of an identifier has registered enough sprites for all candidates. -/
theorem length_of_makeSprites_nameExhausted {c : Compiler} {es : List Element} {base : String}
    (h : (c.makeSprites es).2 = .error (.nameExhausted base)) : maxSuffix + 1 < c.sprites.length + es.length := by
  induction es generalizing c with
  | nil => cases h
  | cons e es ih =>
    have ha := attempt_makeSprite c e
    rw [makeSprites] at h
    rcases hm : c.makeSprite e with ⟨c', err | s⟩ <;> rw [hm] at h ha
    · cases h
      have hlen := length_of_nameExhausted (congrArg Prod.snd hm)
      rw [List.length_cons]
      omega
    · obtain ⟨-, -, hperm, -⟩ := ha.registered
      have hlen := ih h
      rw [hperm.length_eq, List.length_cons] at hlen
      rw [List.length_cons]
      omega

/-! ## Sprites of one name -/

/-- Whether the identifiers in use are the first candidates of a base, up to a number of them. -/
def HasFirst (c : Compiler) (base : String) (n : Nat) : Prop := ∀ k, k ∈ c.spriteNames ↔ ∃ m < n, k = suffixed base m

theorem HasFirst.suffixed_mem {c : Compiler} {base : String} {n m : Nat} (h : c.HasFirst base n) :
    suffixed base m ∈ c.spriteNames ↔ m < n := by
  rw [h]
  constructor
  · rintro ⟨l, hl, heq⟩
    rwa [suffixed_injective base heq]
  · exact fun hm => ⟨m, hm, rfl⟩

theorem buildSprite_scriptless {ctx : BuildContext} {declared : String} {e : Element}
    (h : e.find "scripts/script" = []) : (buildSprite ctx declared e).result = .ok ⟨ctx.owner, declared, []⟩ := by
  rw [buildSprite, h]
  rfl

/-- A sprite without scripts takes the next candidate of its name. -/
theorem HasFirst.makeSprite {c : Compiler} {declared : String} {n : Nat} (h : c.HasFirst (ofDeclared declared) n)
    (hn : n ≤ maxSuffix) {e : Element} (hname : e.attr? "name" = some declared) (hs : e.find "scripts/script" = []) :
    (c.makeSprite e).2 = .ok ⟨suffixed (ofDeclared declared) n, declared, []⟩ ∧
      (c.makeSprite e).1.HasFirst (ofDeclared declared) (n + 1) := by
  have hfree : firstFree? c.isTaken (ofDeclared declared) = some (suffixed (ofDeclared declared) n) := by
    refine firstFree?_eq_some_iff.2 ⟨n, hn, rfl, ?_, fun m hm => ?_⟩
    · exact isTaken_eq_false.2 fun hmem => (Nat.lt_irrefl n) (h.suffixed_mem.1 hmem)
    · simpa [isTaken] using h.suffixed_mem.2 hm
  have hok : (c.makeSprite e).2 = .ok ⟨suffixed (ofDeclared declared) n, declared, []⟩ := by
    rw [makeSprite_free hname hfree, settle, buildSprite_scriptless hs]
  refine ⟨hok, fun k => ?_⟩
  rw [(attempt_makeSprite c e).mem_spriteNames, h, hok]
  constructor
  · rintro (⟨m, hm, rfl⟩ | ⟨s, hs, rfl⟩)
    · exact ⟨m, by omega, rfl⟩
    · cases hs
      exact ⟨n, by omega, rfl⟩
  · rintro ⟨m, hm, rfl⟩
    rcases Nat.lt_or_eq_of_le (Nat.le_of_lt_succ hm) with hm | rfl
    · exact .inl ⟨m, hm, rfl⟩
    · exact .inr ⟨_, rfl, rfl⟩

/-- Sprites of one name without scripts take its candidates one after the other. -/
theorem HasFirst.results {c : Compiler} {declared : String} {n : Nat} (h : c.HasFirst (ofDeclared declared) n)
    {es : List Element} (hn : n + es.length ≤ maxSuffix + 1)
    (hes : ∀ e ∈ es, e.attr? "name" = some declared ∧ e.find "scripts/script" = []) :
    c.results es = (List.range' n es.length).map (fun k => .ok ⟨suffixed (ofDeclared declared) k, declared, []⟩) ∧
      (c.after es).HasFirst (ofDeclared declared) (n + es.length) := by
  induction es generalizing c n with
  | nil => exact ⟨rfl, h⟩
  | cons e es ih =>
    rw [List.length_cons] at hn ⊢
    obtain ⟨hname, hs⟩ := hes e List.mem_cons_self
    obtain ⟨hok, hnext⟩ := h.makeSprite (by omega) hname hs
    obtain ⟨hres, hlast⟩ := ih hnext (by omega) fun x hx => hes x (List.mem_cons_of_mem _ hx)
    refine ⟨?_, ?_⟩
    · rw [Compiler.results, hok, hres, List.range'_succ, List.map_cons]
    · rw [after_cons, Nat.add_comm es.length, ← Nat.add_assoc]
      exact hlast

/-- Exactly when identifiers run out. The candidate that is taken has the least number of underscores up
to sixty-four that is free, and there is none just if all sixty-five candidates are in use, which is when a
call fails for want of an identifier. So a call does not as long as fewer than sixty-five sprites are
registered, nor does a project of at most sixty-five sprites. Of sprites with one name and without scripts
sixty-five are registered, and a further sprite of that name fails. -/
theorem identifiers_run_out :
    (∀ (taken : String → Bool) (base : String),
      (∀ name, firstFree? taken base = some name ↔ ∃ n ≤ 64, name = suffixed base n ∧
        taken (suffixed base n) = false ∧ ∀ m < n, taken (suffixed base m) = true) ∧
      (firstFree? taken base = none ↔ ∀ n ≤ 64, taken (suffixed base n) = true)) ∧
    (∀ (c : Compiler) (e : Element) (base : String), (c.makeSprite e).2 = .error (.nameExhausted base) ↔
      ∃ declared, e.attr? "name" = some declared ∧ ofDeclared declared = base ∧
        ∀ n ≤ 64, suffixed base n ∈ c.spriteNames) ∧
    (∀ (c : Compiler) (e : Element) (base : String), c.sprites.length < 65 →
      (c.makeSprite e).2 ≠ .error (.nameExhausted base)) ∧
    (∀ (strict : Bool) (root : Element) (base : String), (spriteElements root).length ≤ 65 →
      (compileProject strict root).result ≠ .error (.nameExhausted base)) ∧
    ∀ (strict : Bool) (declared : String) (es : List Element), es.length = 65 →
      (∀ e ∈ es, e.attr? "name" = some declared ∧ e.find "scripts/script" = []) →
      (new strict).results es =
        (List.range 65).map (fun n => .ok ⟨suffixed (ofDeclared declared) n, declared, []⟩) ∧
      (∀ k, k ∈ ((new strict).after es).spriteNames ↔ ∃ n ≤ 64, k = suffixed (ofDeclared declared) n) ∧
      ∀ e : Element, e.attr? "name" = some declared →
        (((new strict).after es).makeSprite e).2 = .error (.nameExhausted (ofDeclared declared)) := by
  refine ⟨fun taken base => ⟨fun name => ?_, firstFree?_eq_none_iff⟩, fun c e base => makeSprite_nameExhausted_iff,
    fun c e base hlen h => ?_, fun strict root base hlen h => ?_, fun strict declared es hlen hes => ?_⟩
  · rw [firstFree?_eq_some_iff]
    constructor
    · rintro ⟨n, hn, rfl, hfree, hless⟩
      exact ⟨n, hn, rfl, hfree, hless⟩
    · rintro ⟨n, hn, rfl, hfree, hless⟩
      exact ⟨n, hn, rfl, hfree, hless⟩
  · have hle := length_of_nameExhausted h
    rw [maxSuffix] at hle
    omega
  · by_cases hroot : root.name = "project" ∨ root.name = "snapdata"
    · rw [compileProject_result strict hroot] at h
      cases hmade : ((new strict).makeSprites (spriteElements root)).2 with
      | ok u => rw [hmade] at h; cases h
      | error err =>
        rw [hmade] at h
        cases h
        have hlt := length_of_makeSprites_nameExhausted hmade
        have hnew : (new strict).sprites.length = 0 := rfl
        rw [hnew, maxSuffix] at hlt
        omega
    · rw [compileProject_notAProject strict hroot] at h
      cases h
  · have hnew : (new strict).HasFirst (ofDeclared declared) 0 := by
      intro k
      simp [new, spriteNames]
    obtain ⟨hres, hlast⟩ := hnew.results (by rw [hlen]; exact Nat.le_refl _) hes
    rw [hlen] at hres hlast
    refine ⟨by rw [hres, List.range_eq_range'], fun k => ?_, fun e hname => ?_⟩
    · rw [hlast]
      simp only [Nat.zero_add, Nat.lt_succ_iff]
    · refine makeSprite_nameExhausted_iff.2 ⟨declared, hname, rfl, fun n hn => ?_⟩
      rw [hlast.suffixed_mem]
      exact Nat.lt_succ_of_le hn

/-- As many sprites of one name as there are candidates for it. -/
def namesakes : List Element := List.replicate 65 (.mk "sprite" [("name", "New")] [])

/-- A project of them. -/
def crowdedProject : Element :=
  .mk "project" [] [.element (.mk "stage" [] [.element (.mk "sprites" [] (namesakes.map .element))])]

theorem identifiers_run_out_namesakes :
    (spriteElements crowdedProject).length = 65 ∧
    (∀ base, (compileProject true crowdedProject).result ≠ .error (.nameExhausted base)) ∧
    (∀ base, ((new true).makeSprite (.mk "sprite" [("name", "New")] [])).2 ≠ .error (.nameExhausted base)) ∧
    suffixed (ofDeclared "New") 64 ∈ ((new true).after namesakes).spriteNames ∧
    (((new true).after namesakes).makeSprite (.mk "sprite" [("name", "New")] [])).2 =
      .error (.nameExhausted (ofDeclared "New")) := by
  have hnamed : ∀ e ∈ namesakes, e.attr? "name" = some "New" ∧ e.find "scripts/script" = [] := by
    intro e he
    rw [List.eq_of_mem_replicate he]
    exact ⟨rfl, rfl⟩
  have hlen : (spriteElements crowdedProject).length = 65 := by rfl
  obtain ⟨-, -, hroom, hproject, hnamesakes⟩ := identifiers_run_out
  obtain ⟨-, hused, hlast⟩ := hnamesakes true "New" namesakes List.length_replicate hnamed
  exact ⟨hlen, fun base => hproject true crowdedProject base hlen.le, fun base => hroom _ _ base (by decide),
    (hused _).2 ⟨64, Nat.le_refl _, rfl⟩, hlast _ rfl⟩

end Compiler

end SpriteScribe
