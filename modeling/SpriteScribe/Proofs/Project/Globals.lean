/-
The globals that program text calls, and the identifiers that shadow them. Lower case keeps a declared
name clear of globals that begin with a capital letter only as long as its first word leaves something:
the words after it are capitalised, so if nothing of it is kept, the identifier begins with a capital
letter. This is the only way to such a global, and a project declares one just if a sprite is named so.
-/
import SpriteScribe.Proofs.Lookup
import SpriteScribe.Proofs.Project.Calls
import SpriteScribe.Proofs.Project.Framing

namespace SpriteScribe

/-! ## No capital letters in lower case -/

namespace Text

theorem isUpper_iff_toNat (c : Char) : c.isUpper = true ↔ 65 ≤ c.toNat ∧ c.toNat ≤ 90 := by
  show decide ('A'.val ≤ c.val ∧ c.val ≤ 'Z'.val) = true ↔ _
  simp [UInt32.le_iff_toNat_le, ← Char.toNat_val]

theorem isUpper_ofNat {n : Nat} (h : 90 < n) : (Char.ofNat n).isUpper = false := by
  rw [Bool.eq_false_iff, Ne, isUpper_iff_toNat]
  by_cases hv : n.isValidChar
  · have hn : (Char.ofNat n).toNat = n := by rw [Char.ofNat, dif_pos hv]; rfl
    omega
  · have hn : (Char.ofNat n).toNat = 0 := by rw [Char.ofNat, dif_neg hv]; rfl
    omega

theorem lowerExpansions_isUpper :
    ∀ x ∈ lowerExpansions, ∀ code ∈ x.2, (Char.ofNat code).isUpper = false := by decide

/-- All runs lead above the capital letters. -/
theorem lowerRuns_above : ∀ r ∈ lowerRuns, 90 < (r.first : Int) + r.shift := by decide +kernel

theorem isUpper_lowerChar {c x : Char} (h : x ∈ lowerChar c) : x.isUpper = false := by
  unfold lowerChar otherCase at h
  split at h
  · rename_i codes hcodes
    obtain ⟨code, hcode, rfl⟩ := List.mem_map.1 h
    exact lowerExpansions_isUpper (c.toNat, codes) (mem_of_lookup hcodes) code hcode
  · split at h
    · rename_i run hrun
      have hcovers := List.find?_some hrun
      have habove := lowerRuns_above run (List.mem_of_find?_eq_some hrun)
      have hfirst : run.first ≤ c.toNat := by
        simp only [CaseRun.covers, Bool.and_eq_true, decide_eq_true_eq] at hcovers
        exact hcovers.1.1
      rw [List.mem_singleton.1 h]
      exact isUpper_ofNat (by omega)
    · -- a character that stays as it is is in no run, and the first run has all capital letters
      rename_i hnone
      rw [List.mem_singleton.1 h, Bool.eq_false_iff, Ne, isUpper_iff_toNat]
      intro hupper
      have hcapital := List.find?_eq_none.1 hnone ⟨0x41, 0x5A, 1, 32⟩ List.mem_cons_self
      simp [CaseRun.covers] at hcapital
      omega

theorem isUpper_lowercaseFrom (before cs : List Char) : ∀ x ∈ lowercaseFrom before cs, x.isUpper = false := by
  induction cs generalizing before with
  | nil => simp [lowercaseFrom]
  | cons c cs ih =>
    intro x hx
    rcases List.mem_append.1 hx with hx | hx
    · split at hx
      · split at hx <;> rw [List.mem_singleton.1 hx] <;> decide
      · exact isUpper_lowerChar hx
    · exact ih _ x hx

theorem mem_of_mem_splitOnP {p : Char → Bool} {cs : List Char} : ∀ w ∈ cs.splitOnP p, ∀ x ∈ w, x ∈ cs := by
  induction cs with
  | nil => simp
  | cons c cs ih =>
    rw [List.splitOnP_cons_eq_if_modifyHead]
    obtain ⟨v, vs, hv⟩ := List.exists_cons_of_ne_nil (List.splitOnP_ne_nil p cs)
    rw [hv] at ih ⊢
    intro w hw x hx
    split at hw
    · rcases List.mem_cons.1 hw with rfl | hw
      · cases hx
      · exact List.mem_cons_of_mem _ (ih w hw x hx)
    · rcases List.mem_cons.1 hw with rfl | hw
      · rcases List.mem_cons.1 hx with rfl | hx
        · exact List.mem_cons_self
        · exact List.mem_cons_of_mem _ (ih v List.mem_cons_self x hx)
      · exact List.mem_cons_of_mem _ (ih w (List.mem_cons_of_mem _ hw) x hx)

/-- No word of a text in lower case has a capital letter. -/
theorem isUpper_words {cs w : List Char} (hw : w ∈ words (lowercase cs)) : ∀ x ∈ w, x.isUpper = false := by
  intro x hx
  exact isUpper_lowercaseFrom [] cs x (mem_of_mem_splitOnP w (List.mem_filter.1 hw).1 x hx)

end Text

/-! ## Identifiers that are globals -/

namespace Identifier

open SpriteScribe.Text

/-- The globals of the runtime that program text calls. -/
def globals : List String := ["Sprite", "Color", "random"]

/-- Nothing of the first word of a declared name is kept, and the words after it spell a name. -/
def Uncovers (declared name : String) : Prop :=
  ∃ first rest, words (lowercase declared.toList) = first :: rest ∧ (∀ c ∈ first, isKept c = false) ∧
    (rest.flatMap capitalize).filter isKept = name.toList

/-- A name that begins with a capital letter is spelled after the first word. -/
theorem letters_eq_iff {declared name : String} {c : Char} {cs : List Char} (hname : name.toList = c :: cs)
    (hc : c.isUpper = true) : letters declared.toList = name.toList ↔ Uncovers declared name := by
  unfold letters
  constructor
  · intro h
    cases hw : words (lowercase declared.toList) with
    | nil => rw [hw, hname] at h; cases h
    | cons first rest =>
      rw [hw, camelCase, List.filter_append] at h
      have hfirst : first.filter isKept = [] := by
        rw [List.eq_nil_iff_forall_not_mem]
        intro x hx
        -- what is kept of the first word comes first, so the capital letter would be in it
        obtain ⟨y, ys, hy⟩ := List.exists_cons_of_ne_nil (List.ne_nil_of_mem hx)
        rw [hy, hname, List.cons_append, List.cons.injEq] at h
        have hmem : y ∈ first := (List.mem_filter.1 (hy ▸ List.mem_cons_self)).1
        have hlower := isUpper_words (hw ▸ List.mem_cons_self) y hmem
        rw [h.1, hc] at hlower
        cases hlower
      rw [hfirst, List.nil_append] at h
      refine ⟨first, rest, hw, fun x hx => ?_, h⟩
      simpa using List.filter_eq_nil_iff.1 hfirst x hx
  · rintro ⟨first, rest, hw, hfirst, hrest⟩
    have hnone : first.filter isKept = [] := List.filter_eq_nil_iff.2 fun x hx => by simp [hfirst x hx]
    rw [hw, camelCase, List.filter_append, hnone, hrest, List.nil_append]

/-- An identifier that begins with a capital letter and does not end with an underscore is what is kept of
the declared name: nothing was put before or after it. -/
theorem ofDeclared_eq_iff {declared name : String} {c : Char} {cs : List Char} (hname : name.toList = c :: cs)
    (hc : c.isUpper = true) (hlast : name.toList.getLast? ≠ some '_') (hres : name ∉ reserved) :
    ofDeclared declared = name ↔ letters declared.toList = name.toList := by
  have hguard : guardDigit (c :: cs) = c :: cs := by
    have hdigit : c.isDigit = false := by
      rw [Bool.eq_false_iff, Ne, Char.isDigit_iff_toNat]
      have := (isUpper_iff_toNat c).1 hc
      intro hd
      have h0 : '0'.toNat = 48 := rfl
      have h9 : '9'.toNat = 57 := rfl
      omega
    exact if_neg (by simp [hdigit])
  unfold ofDeclared
  extract_lets kept spelled
  constructor
  · intro h
    split at h
    · -- a reserved word would have got an underscore
      exact absurd (by rw [← h]; simp) hlast
    · have hspelled : guardDigit (if kept.isEmpty then fallback else kept) = c :: cs := by
        rw [← hname, ← h]
        simp [spelled]
      by_cases hempty : kept.isEmpty = true
      · rw [if_pos hempty] at hspelled
        cases hspelled
        exact absurd hc (by decide)
      · rw [if_neg hempty] at hspelled
        cases hkept : kept with
        | nil => simp [hkept] at hempty
        | cons d ds =>
          rw [hkept, guardDigit] at hspelled
          split at hspelled
          · cases hspelled
            exact absurd hc (by decide)
          · show kept = name.toList
            rw [hkept, hspelled, hname]
  · intro h
    have hne : kept.isEmpty = false := by
      show (letters declared.toList).isEmpty = false
      rw [h, hname]; rfl
    have hspelled : spelled = name := by
      show String.ofList (guardDigit (if kept.isEmpty then fallback else kept)) = name
      rw [hne]
      show String.ofList (guardDigit (letters declared.toList)) = name
      rw [h, hname, hguard, ← hname, String.ofList_toList]
    rw [hspelled, if_neg (by simpa using hres)]

theorem ofDeclared_ne_random (declared : String) : ofDeclared declared ≠ "random" := by
  intro h
  exact (isValid_ofDeclared declared).notReserved (by rw [h]; decide)

theorem ofDeclared_eq_iff_uncovers {declared g : String} (hg : g = "Sprite" ∨ g = "Color") :
    ofDeclared declared = g ↔ Uncovers declared g := by
  rcases hg with rfl | rfl
  · rw [ofDeclared_eq_iff (c := 'S') rfl (by decide) (by decide) (by decide), letters_eq_iff (c := 'S') rfl (by decide)]
  · rw [ofDeclared_eq_iff (c := 'C') rfl (by decide) (by decide) (by decide), letters_eq_iff (c := 'C') rfl (by decide)]

end Identifier

/-! ## Projects -/

open SpriteScribe.Markup SpriteScribe.Text

namespace Compiler

/-- The identifiers in use after calls on a new compiler come from declared names. -/
theorem exists_declared_of_mem {strict : Bool} {es : List Element} {k : String}
    (h : k ∈ ((new strict).after es).spriteNames) :
    ∃ e ∈ es, ∃ declared n, e.attr? "name" = some declared ∧
      k = Identifier.suffixed (Identifier.ofDeclared declared) n := by
  rw [mem_spriteNames_after] at h
  rcases h with h | ⟨s, hs, rfl⟩
  · cases h
  · obtain ⟨i, hi⟩ := List.mem_iff_getElem?.1 hs
    obtain ⟨e, he, ha⟩ := attempt_of_results hi
    obtain ⟨n, hn, -⟩ := ha.fewest
    exact ⟨e, List.mem_of_getElem? he, s.declared, n, ha.registered.1, hn⟩

/-- After a successful call the identifier of the declared name is in use, by the new sprite or by the
one for which it has got underscores. -/
theorem Attempt.ofDeclared_mem {c c' : Compiler} {e : Element} {s : Sprite} (h : Attempt c e c' (.ok s)) :
    Identifier.ofDeclared s.declared ∈ c'.spriteNames := by
  obtain ⟨n, hn, -, hless⟩ := h.fewest
  rw [h.mem_spriteNames]
  cases n with
  | zero => exact .inr ⟨s, rfl, by rw [hn, Identifier.suffixed_zero]⟩
  | succ n =>
    have hbase := hless 0 (Nat.succ_pos n)
    rw [Identifier.suffixed_zero] at hbase
    exact .inl hbase

theorem ofDeclared_mem_makeSprites {c : Compiler} {es : List Element} (h : (c.makeSprites es).2 = .ok ())
    {e : Element} (he : e ∈ es) {declared : String} (hn : e.attr? "name" = some declared) :
    Identifier.ofDeclared declared ∈ (c.makeSprites es).1.spriteNames := by
  induction es generalizing c with
  | nil => cases he
  | cons f es ih =>
    have ha := attempt_makeSprite c f
    rw [makeSprites] at h ⊢
    rcases hm : c.makeSprite f with ⟨c', err | s⟩ <;> rw [hm] at h ha
    · cases h
    · rcases List.mem_cons.1 he with rfl | he
      · have hdeclared := ha.registered.1
        rw [hn, Option.some.injEq] at hdeclared
        show _ ∈ (c'.makeSprites es).1.spriteNames
        rw [makeSprites_eq_after h, mem_spriteNames_after, hdeclared]
        exact .inl ha.ofDeclared_mem
      · exact ih h he

end Compiler

/-- Which declared names shadow a global, and which projects do. An identifier is a global just if the
first word of the declared name leaves nothing and the words after it spell `Sprite` or `Color`. A project
declares one of these just if a sprite has such a name, and it never declares `random`. -/
theorem globals_shadowed_iff (strict : Bool) (root : Element) :
    (∀ declared, Identifier.ofDeclared declared ∈ Identifier.globals ↔
      Identifier.Uncovers declared "Sprite" ∨ Identifier.Uncovers declared "Color") ∧
    ∀ p, (compileProject strict root).result = .ok p →
      ∃ names, names = ((Compiler.new strict).makeSprites (spriteElements root)).1.spriteNames ∧
        (names ≠ [] → (lines p.text).head? = some ("var " ++ ", ".intercalate names ++ ";")) ∧ "random" ∉ names ∧
        ∀ g, g = "Sprite" ∨ g = "Color" → (g ∈ names ↔
          ∃ e ∈ spriteElements root, ∃ declared, e.attr? "name" = some declared ∧ Identifier.Uncovers declared g) := by
  constructor
  · intro declared
    have hrandom := Identifier.ofDeclared_ne_random declared
    simp [Identifier.globals, hrandom, Identifier.ofDeclared_eq_iff_uncovers]
  · intro p hp
    obtain ⟨hmade, rfl⟩ := compileProject_ok hp
    have hafter := Compiler.makeSprites_eq_after hmade
    have hw := (Compiler.after_wf (Compiler.new_wf strict) (spriteElements root)).1
    rw [← hafter] at hw
    refine ⟨_, rfl, fun hne => ?_, fun hrandom => ?_, fun g hg => ⟨fun hmem => ?_, ?_⟩⟩
    · have hsprites : ((Compiler.new strict).makeSprites (spriteElements root)).1.sprites ≠ [] := by
        intro hnil
        exact hne (by rw [Compiler.spriteNames, hnil]; rfl)
      obtain ⟨rest, hlines, -⟩ := Compiler.lines_render hw hsprites
      show (lines (Compiler.render _)).head? = _
      rw [hlines, List.head?_cons]
    · exact (hw.valid _ hrandom).notReserved (by decide)
    · rw [hafter] at hmem
      obtain ⟨e, he, declared, n, hn, hsuffix⟩ := Compiler.exists_declared_of_mem hmem
      refine ⟨e, he, declared, hn, (Identifier.ofDeclared_eq_iff_uncovers hg).1 ?_⟩
      cases n with
      | zero => rw [hsuffix, Identifier.suffixed_zero]
      | succ n =>
        -- no global ends with an underscore
        have hlast : g.toList.getLast? = some '_' := by
          rw [hsuffix, Identifier.toList_suffixed, List.replicate_succ', ← List.append_assoc, List.getLast?_concat]
        rcases hg with rfl | rfl <;> exact absurd hlast (by decide)
    · rintro ⟨e, he, declared, hn, huncovers⟩
      rw [← (Identifier.ofDeclared_eq_iff_uncovers hg).2 huncovers]
      exact Compiler.ofDeclared_mem_makeSprites hmade he hn

/-- A sprite whose name begins with a word that is not kept. -/
def exclaimedProject : Element :=
  .mk "project" [] [.element (.mk "stage" [] [.element (.mk "sprites" [] [
    .element (.mk "sprite" [("name", "! sprite")] []), .element (.mk "sprite" [("name", "Sprite")] [])])])]

set_option maxRecDepth 4096 in
theorem Identifier.uncovers_exclaimed : Uncovers "! sprite" "Sprite" := by
  have hdropped : isKept '!' = false := by rfl
  exact ⟨['!'], ["sprite".toList], by decide +kernel, by simpa using hdropped, by decide +kernel⟩

set_option maxRecDepth 4096 in
theorem globals_shadowed_iff_exclaimed :
    ∃ p, (compileProject true exclaimedProject).result = .ok p ∧ Identifier.Uncovers "! sprite" "Sprite" ∧
      (lines p.text).head? = some "var Sprite, sprite;" ∧
      "Sprite" ∈ ((Compiler.new true).makeSprites (spriteElements exclaimedProject)).1.spriteNames := by
  have hp : (compileProject true exclaimedProject).result = .ok
      ⟨"var Sprite, sprite;\n\nSprite = new Sprite();\n\n\n\nsprite = new Sprite();\n\n", []⟩ := by rfl
  obtain ⟨names, rfl, hline, -, hmem⟩ := (globals_shadowed_iff true exclaimedProject).2 _ hp
  have hshadowed := (hmem "Sprite" (.inl rfl)).2
    ⟨_, List.mem_cons_self, "! sprite", rfl, Identifier.uncovers_exclaimed⟩
  exact ⟨_, hp, Identifier.uncovers_exclaimed, hline (List.ne_nil_of_mem hshadowed), hshadowed⟩

/-- Lower case alone does not keep a sprite from shadowing a global. -/
theorem ofDeclared_exclaimed :
    Identifier.ofDeclared "! sprite" = "Sprite" ∧
      ¬ ∀ declared, Identifier.ofDeclared declared ∉ Identifier.globals := by
  have h : Identifier.ofDeclared "! sprite" = "Sprite" :=
    (Identifier.ofDeclared_eq_iff_uncovers (.inl rfl)).2 Identifier.uncovers_exclaimed
  exact ⟨h, fun hnone => hnone "! sprite" (by rw [h]; decide)⟩

end SpriteScribe
