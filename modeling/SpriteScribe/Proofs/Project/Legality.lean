/-
Numbers in the identifiers of sprites. Program text accepts a number in a name only if it is a decimal digit and
does not come first. Identifiers keep all numbers of a declared name, of every script and of every kind, and an
underscore is set before a leading digit only if it is one of `0` to `9`. So an identifier is legal just if the
declared name has none but decimal digits and does not begin, as far as it is kept, with a digit of another
script, and the declaration of a project is legal just if this is so for the names of all its sprites.
-/
import SpriteScribe.Proofs.Project.Globals
import SpriteScribe.Proofs.Text.Number

namespace SpriteScribe

namespace Identifier

open SpriteScribe.Text

theorem isKept_of_isAlphanumeric {c : Char} (h : isAlphanumeric c = true) : isKept c = true :=
  (isKept_iff c).2 (.inl h)

theorem isKept_of_isBlank {c : Char} (h : isBlank c = true) : isKept c = false := by
  rw [Bool.eq_false_iff, Ne, isKept_iff]
  rintro (halpha | rfl | rfl)
  · rw [isAlphanumeric_of_isBlank h] at halpha
    cases halpha
  · exact absurd h (by decide)
  · exact absurd h (by decide)

/-! ## Texts in another spelling -/

/-- A text and another one that is made from it character by character: each stays, or is a blank that is left
out, or changes its case. -/
inductive Respells : List Char → List Char → Prop
  | nil : Respells [] []
  | same {c : Char} {cs ds : List Char} (rest : Respells cs ds) : Respells (c :: cs) (c :: ds)
  | blank {c : Char} {cs ds : List Char} (hc : isBlank c = true) (rest : Respells cs ds) : Respells (c :: cs) ds
  | recased {c : Char} {piece cs ds : List Char} (hc : isCased c = true) (hcased : ∃ x ∈ piece, isCased x = true)
      (hnumber : ∀ x ∈ piece, isNumber x = false) (rest : Respells cs ds) : Respells (c :: cs) (piece ++ ds)

theorem ne_of_isNumber {n c : Char} (hn : isNumber n = true) (hc : isNumber c = false) : n ≠ c := by
  rintro rfl
  rw [hn] at hc
  cases hc

/-- Numbers are neither lost nor gained. -/
theorem Respells.mem_iff {cs ds : List Char} (h : Respells cs ds) {n : Char} (hn : isNumber n = true) :
    n ∈ ds ↔ n ∈ cs := by
  induction h with
  | nil => rfl
  | same rest ih => rw [List.mem_cons, List.mem_cons, ih]
  | blank hc rest ih => rw [List.mem_cons, ih, or_iff_right (ne_of_isNumber hn (isNumber_of_isBlank hc))]
  | recased hc hcased hnumber rest ih =>
    have hpiece : n ∉ _ := fun hmem => ne_of_isNumber hn (hnumber n hmem) rfl
    rw [List.mem_append, List.mem_cons, ih, or_iff_right hpiece,
      or_iff_right (ne_of_isNumber hn (isNumber_of_isCased hc))]

/-- A number is the first character that is kept in both or in none. -/
theorem Respells.find?_iff {cs ds : List Char} (h : Respells cs ds) {n : Char} (hn : isNumber n = true) :
    ds.find? isKept = some n ↔ cs.find? isKept = some n := by
  induction h with
  | nil => rfl
  | same rest ih =>
    rename_i c _ _
    cases hk : isKept c with
    | true => rw [List.find?_cons_of_pos hk, List.find?_cons_of_pos hk]
    | false => rw [List.find?_cons_of_neg (by simp [hk]), List.find?_cons_of_neg (by simp [hk]), ih]
  | blank hc rest ih => rw [List.find?_cons_of_neg (by simp [isKept_of_isBlank hc]), ih]
  | recased hc hcased hnumber rest ih =>
    -- the first character that is kept is a letter on both sides
    rename_i c piece _ _
    obtain ⟨x, hx, hxcased⟩ := hcased
    have hxkept := isKept_of_isAlphanumeric (isAlphanumeric_of_isCased hxcased)
    obtain ⟨y, hy⟩ := Option.isSome_iff_exists.1 (List.find?_isSome.2 ⟨x, hx, hxkept⟩)
    have hyn := ne_of_isNumber hn (hnumber y (List.mem_of_find?_eq_some hy))
    have hcn := ne_of_isNumber hn (isNumber_of_isCased hc)
    rw [List.find?_append, hy, Option.some_or,
      List.find?_cons_of_pos (isKept_of_isAlphanumeric (isAlphanumeric_of_isCased hc)), Option.some.injEq,
      Option.some.injEq]
    exact iff_of_false hyn.symm hcn.symm

theorem Respells.otherCase {runs : List CaseRun} {expansions : List (Nat × List Nat)}
    (htable : IsCaseTable runs expansions) {cs ds : List Char} (h : Respells cs ds) (c : Char) :
    Respells (c :: cs) (otherCase runs expansions c ++ ds) := by
  rcases htable.otherCase c with hsame | ⟨hc, hcased, hnumber⟩
  · rw [hsame]; exact .same h
  · exact .recased hc hcased hnumber h

theorem respells_lowercaseFrom (before cs : List Char) : Respells cs (lowercaseFrom before cs) := by
  induction cs generalizing before with
  | nil => exact .nil
  | cons c cs ih =>
    rw [lowercaseFrom]
    split
    · rename_i hsigma
      subst hsigma
      have hpiece : ∀ final : Bool, isCased (if final then 'ς' else 'σ') = true := by decide +kernel
      refine .recased (by decide +kernel) ⟨_, List.mem_cons_self, hpiece _⟩ (fun x hx => ?_) (ih _)
      rw [List.mem_singleton.1 hx]
      exact isNumber_of_isCased (hpiece _)
    · exact (ih _).otherCase isCaseTable_lower c

theorem flatMap_capitalize_filter (ws : List (List Char)) :
    (ws.filter (· ≠ [])).flatMap capitalize = ws.flatMap capitalize := by
  induction ws with
  | nil => rfl
  | cons w ws ih =>
    cases w with
    | nil => exact ih
    | cons c cs => rw [List.filter_cons_of_pos (by simp), List.flatMap_cons, List.flatMap_cons, ih]

/-- The words of a text run together. What becomes of the first of them depends on what stands before the text:
a word that goes on with it, a blank after a word, or no word at all. -/
theorem respells_splitOnP (cs : List Char) : ∀ w ws, cs.splitOnP isBlank = w :: ws →
    Respells cs (w ++ ws.flatMap capitalize) ∧ Respells cs ((w :: ws).flatMap capitalize) ∧
      Respells cs (camelCase ((w :: ws).filter (· ≠ []))) := by
  induction cs with
  | nil =>
    rintro w ws h
    cases h
    exact ⟨.nil, .nil, .nil⟩
  | cons c cs ih =>
    rintro w ws h
    obtain ⟨v, vs, hv⟩ := List.exists_cons_of_ne_nil (List.splitOnP_ne_nil isBlank cs)
    obtain ⟨hinside, hlater, hfirst⟩ := ih v vs hv
    rw [List.splitOnP_cons_eq_if_modifyHead, hv] at h
    split at h
    · rename_i hblank
      cases h
      exact ⟨.blank hblank hlater, .blank hblank hlater, .blank hblank hfirst⟩
    · cases h
      refine ⟨.same hinside, ?_, ?_⟩
      · rw [List.flatMap_cons, capitalize, List.append_assoc]
        exact hinside.otherCase isCaseTable_upper c
      · rw [List.filter_cons_of_pos (by simp), camelCase, flatMap_capitalize_filter]
        exact .same hinside

theorem respells_camelCase (cs : List Char) : Respells cs (camelCase (words cs)) := by
  obtain ⟨w, ws, hw⟩ := List.exists_cons_of_ne_nil (List.splitOnP_ne_nil isBlank cs)
  rw [words, hw]
  exact (respells_splitOnP cs w ws hw).2.2

/-! ## Numbers in identifiers -/

theorem mem_letters_iff (declared : List Char) {n : Char} (hn : isOtherNumber n = true) :
    n ∈ letters declared ↔ n ∈ declared := by
  have hnumber := isNumber_of_isOtherNumber hn
  have hkept := isKept_of_isAlphanumeric (isAlphanumeric_of_isOtherNumber hn)
  rw [letters, List.mem_filter, and_iff_left hkept, (respells_camelCase _).mem_iff hnumber, lowercase,
    (respells_lowercaseFrom [] declared).mem_iff hnumber]

theorem head?_letters_iff (declared : List Char) {n : Char} (hn : isNumber n = true) :
    (letters declared).head? = some n ↔ declared.find? isKept = some n := by
  rw [letters, List.head?_filter, (respells_camelCase _).find?_iff hn, lowercase,
    (respells_lowercaseFrom [] declared).find?_iff hn]

theorem fallback_numbers : ∀ c ∈ '_' :: fallback, isNumber c = false := by
  have h : ('_' :: fallback).all (!isNumber ·) = true := by decide +kernel
  simpa using List.all_eq_true.1 h

theorem toList_ofDeclared (declared : String) : ∃ k, (ofDeclared declared).toList =
    guardDigit (if (letters declared.toList).isEmpty then fallback else letters declared.toList) ++
      List.replicate k '_' := by
  unfold ofDeclared
  extract_lets kept name
  split
  · exact ⟨1, by simp [name, kept]⟩
  · exact ⟨0, by simp [name, kept]⟩

theorem mem_guardDigit_iff {name : List Char} {n : Char} (hn : n ≠ '_') : n ∈ guardDigit name ↔ n ∈ name := by
  cases name with
  | nil => rfl
  | cons c cs =>
    rw [guardDigit]
    split
    · rw [List.mem_cons, or_iff_right hn]
    · rfl

theorem head?_guardDigit_append (c : Char) (cs ds : List Char) :
    (guardDigit (c :: cs) ++ ds).head? = some (if c.isDigit then '_' else c) := by
  rw [guardDigit]
  split <;> rfl

/-- Identifiers have the same numbers that are no decimal digits as the declared names. -/
theorem mem_ofDeclared_iff {declared : String} {n : Char} (hn : isOtherNumber n = true) :
    n ∈ (ofDeclared declared).toList ↔ n ∈ declared.toList := by
  have hnot : ∀ c ∈ '_' :: fallback, n ≠ c := fun c hc =>
    ne_of_isNumber (isNumber_of_isOtherNumber hn) (fallback_numbers c hc)
  have hunderscore := hnot '_' List.mem_cons_self
  obtain ⟨k, hk⟩ := toList_ofDeclared declared
  have hsuffix : n ∉ List.replicate k '_' := fun hmem => hunderscore (List.eq_of_mem_replicate hmem)
  rw [hk, List.mem_append, or_iff_left hsuffix, mem_guardDigit_iff hunderscore, ← mem_letters_iff declared.toList hn]
  split
  · rename_i hempty
    rw [List.isEmpty_iff.1 hempty]
    exact iff_of_false (fun hmem => hnot n (List.mem_cons_of_mem _ hmem) rfl) List.not_mem_nil
  · rfl

/-- An identifier begins with a number just if the declared name does, as far as it is kept, and the number is
not one of `0` to `9`. -/
theorem head?_ofDeclared_iff {declared : String} {n : Char} (hn : isNumber n = true) :
    (ofDeclared declared).toList.head? = some n ↔ declared.toList.find? isKept = some n ∧ n.isDigit = false := by
  have hnot : ∀ c ∈ '_' :: fallback, n ≠ c := fun c hc => ne_of_isNumber hn (fallback_numbers c hc)
  obtain ⟨k, hk⟩ := toList_ofDeclared declared
  rw [hk, ← head?_letters_iff declared.toList hn]
  cases hkept : letters declared.toList with
  | nil =>
    have hs : 's' ≠ n := (hnot 's' (by decide)).symm
    exact iff_of_false (fun h => hs (Option.some.inj h)) (fun h => nomatch h.1)
  | cons c cs =>
    rw [if_neg (by simp), head?_guardDigit_append, List.head?_cons, Option.some.injEq, Option.some.injEq]
    split
    · rename_i hdigit
      refine iff_of_false (hnot '_' List.mem_cons_self).symm ?_
      rintro ⟨rfl, hfalse⟩
      rw [hdigit] at hfalse
      cases hfalse
    · rename_i hdigit
      constructor
      · rintro rfl; exact ⟨rfl, by simpa using hdigit⟩
      · exact And.left

/-! ## Legal names -/

/-- A name with no number that program text refuses: there are none but decimal digits, and it does not begin
with one. -/
structure IsLegal (name : String) : Prop where
  start : ∀ c, name.toList.head? = some c → isNumber c = false
  others : ∀ c ∈ name.toList, isOtherNumber c = false

/-- A declared name with no number that is refused in the identifier: there are none but decimal digits, and if
what is kept of it begins with one, it is one of `0` to `9`. -/
structure IsPlain (declared : String) : Prop where
  start : ∀ c, declared.toList.find? isKept = some c → isNumber c = true → c.isDigit = true
  others : ∀ c ∈ declared.toList, isOtherNumber c = false

theorem isLegal_ofDeclared_iff (declared : String) : IsLegal (ofDeclared declared) ↔ IsPlain declared := by
  constructor
  · rintro ⟨hstart, hothers⟩
    refine ⟨fun c hc hn => ?_, fun c hc => ?_⟩
    · by_contra hdigit
      have hfalse := hstart c ((head?_ofDeclared_iff hn).2 ⟨hc, by simpa using hdigit⟩)
      rw [hn] at hfalse
      cases hfalse
    · by_contra hother
      have hn : isOtherNumber c = true := by simpa using hother
      exact hother (hothers c ((mem_ofDeclared_iff hn).2 hc))
  · rintro ⟨hstart, hothers⟩
    refine ⟨fun c hc => ?_, fun c hc => ?_⟩
    · by_contra hnumber
      have hn : isNumber c = true := by simpa using hnumber
      obtain ⟨hfound, hdigit⟩ := (head?_ofDeclared_iff hn).1 hc
      rw [hstart c hfound hn] at hdigit
      cases hdigit
    · by_contra hother
      have hn : isOtherNumber c = true := by simpa using hother
      exact hother (hothers c ((mem_ofDeclared_iff hn).1 hc))

/-- Underscores after a name make no difference. -/
theorem isLegal_suffixed_iff {base : String} (hne : base.toList ≠ []) (k : Nat) :
    IsLegal (suffixed base k) ↔ IsLegal base := by
  have hhead : (suffixed base k).toList.head? = base.toList.head? := by
    rw [toList_suffixed, List.head?_append_of_ne_nil _ hne]
  have hunderscore : isOtherNumber '_' = false := by decide +kernel
  constructor
  · rintro ⟨hstart, hothers⟩
    refine ⟨fun c hc => hstart c (by rw [hhead, hc]), fun c hc => hothers c ?_⟩
    rw [toList_suffixed]
    exact List.mem_append_left _ hc
  · rintro ⟨hstart, hothers⟩
    refine ⟨fun c hc => hstart c (by rw [← hhead, hc]), fun c hc => ?_⟩
    rw [toList_suffixed] at hc
    rcases List.mem_append.1 hc with hc | hc
    · exact hothers c hc
    · rw [List.eq_of_mem_replicate hc, hunderscore]

end Identifier

/-! ## Projects -/

open SpriteScribe.Markup SpriteScribe.Text

/-- The identifiers of a project and the declared names of its sprites. -/
theorem Compiler.isLegal_spriteNames_iff {strict : Bool} {es : List Element}
    (h : ((new strict).makeSprites es).2 = .ok ()) :
    (∀ name ∈ ((new strict).makeSprites es).1.spriteNames, Identifier.IsLegal name) ↔
      ∀ e ∈ es, ∀ declared, e.attr? "name" = some declared → Identifier.IsPlain declared := by
  constructor
  · intro hlegal e he declared hn
    exact (Identifier.isLegal_ofDeclared_iff declared).1 (hlegal _ (ofDeclared_mem_makeSprites h he hn))
  · intro hplain name hname
    rw [makeSprites_eq_after h] at hname
    obtain ⟨e, he, declared, k, hn, rfl⟩ := exists_declared_of_mem hname
    rw [Identifier.isLegal_suffixed_iff (Identifier.isValid_ofDeclared declared).nonempty]
    exact (Identifier.isLegal_ofDeclared_iff declared).2 (hplain e he declared hn)

/-- The first line of a project with sprites declares their identifiers. -/
theorem compileProject_head? {strict : Bool} {root : Element} {p : Program}
    (h : (compileProject strict root).result = .ok p)
    (hne : ((Compiler.new strict).makeSprites (spriteElements root)).1.spriteNames ≠ []) :
    (lines p.text).head? = some ("var " ++
      ", ".intercalate ((Compiler.new strict).makeSprites (spriteElements root)).1.spriteNames ++ ";") := by
  obtain ⟨hmade, rfl⟩ := compileProject_ok h
  have hw := (Compiler.after_wf (Compiler.new_wf strict) (spriteElements root)).1
  rw [← Compiler.makeSprites_eq_after hmade] at hw
  have hsprites : ((Compiler.new strict).makeSprites (spriteElements root)).1.sprites ≠ [] := by
    intro hnil
    exact hne (by rw [Compiler.spriteNames, hnil]; rfl)
  obtain ⟨rest, hlines, -⟩ := Compiler.lines_render hw hsprites
  show (lines (Compiler.render _)).head? = _
  rw [hlines, List.head?_cons]

/-- Which declared names have identifiers with numbers that program text refuses, and which projects declare
such identifiers. An identifier is legal just if the declared name has no number but decimal digits and does not
begin, as far as it is kept, with one that is not one of `0` to `9`. The names in the declaration of a project
are all legal just if the names of all its sprites are so. -/
theorem identifiers_legal_iff (strict : Bool) (root : Element) :
    (∀ declared, Identifier.IsLegal (Identifier.ofDeclared declared) ↔ Identifier.IsPlain declared) ∧
    ∀ p, (compileProject strict root).result = .ok p →
      ∃ names, names = ((Compiler.new strict).makeSprites (spriteElements root)).1.spriteNames ∧
        (names ≠ [] → (lines p.text).head? = some ("var " ++ ", ".intercalate names ++ ";")) ∧
        ((∀ name ∈ names, Identifier.IsLegal name) ↔
          ∀ e ∈ spriteElements root, ∀ declared, e.attr? "name" = some declared → Identifier.IsPlain declared) := by
  refine ⟨Identifier.isLegal_ofDeclared_iff, fun p hp => ⟨_, rfl, compileProject_head? hp, ?_⟩⟩
  exact Compiler.isLegal_spriteNames_iff (compileProject_ok hp).1

/-- Sprites whose names begin with a digit, the second one in Arabic script. -/
def countedProject : Element :=
  .mk "project" [] [.element (.mk "stage" [] [.element (.mk "sprites" [] [
    .element (.mk "sprite" [("name", "2 cats")] []), .element (.mk "sprite" [("name", "٣ cats")] [])])])]

theorem Identifier.not_isPlain_arabic : ¬ IsPlain "٣ cats" := by
  rintro ⟨hstart, -⟩
  exact absurd (hstart '٣' (by decide +kernel) (by decide +kernel)) (by decide)

set_option maxRecDepth 4096 in
theorem identifiers_legal_iff_counted :
    ∃ p, (compileProject true countedProject).result = .ok p ∧
      (lines p.text).head? = some "var _2Cats, ٣Cats;" ∧
      ¬ ∀ name ∈ ((Compiler.new true).makeSprites (spriteElements countedProject)).1.spriteNames,
        Identifier.IsLegal name := by
  have hp : (compileProject true countedProject).result = .ok
      ⟨"var _2Cats, ٣Cats;\n\n_2Cats = new Sprite();\n\n\n\n٣Cats = new Sprite();\n\n", []⟩ := by rfl
  obtain ⟨names, rfl, hline, hlegal⟩ := (identifiers_legal_iff true countedProject).2 _ hp
  refine ⟨_, hp, hline (by decide +kernel), fun hall => ?_⟩
  exact Identifier.not_isPlain_arabic (hlegal.1 hall _ (List.mem_cons_of_mem _ List.mem_cons_self) "٣ cats" rfl)

/-- Keeping letters and numbers does not make a name legal, and neither does the underscore before a digit. -/
theorem ofDeclared_superscript :
    Identifier.ofDeclared "x²" = "x²" ∧ ¬ Identifier.IsLegal "x²" ∧
    Identifier.ofDeclared "٣ cats" = "٣Cats" ∧ ¬ Identifier.IsLegal "٣Cats" ∧
    ¬ ∀ declared, Identifier.IsLegal (Identifier.ofDeclared declared) := by
  have hsquare : Identifier.ofDeclared "x²" = "x²" := by decide +kernel
  have hthree : Identifier.ofDeclared "٣ cats" = "٣Cats" := by decide +kernel
  have hillegal : ¬ Identifier.IsLegal "x²" := by
    rintro ⟨-, hothers⟩
    exact absurd (hothers '²' (by decide)) (by decide +kernel)
  refine ⟨hsquare, hillegal, hthree, ?_, fun hall => hillegal (hsquare ▸ hall "x²")⟩
  rintro ⟨hstart, -⟩
  exact absurd (hstart '٣' (by decide)) (by decide +kernel)

end SpriteScribe
