/-
Lower case of a text and its words. A text in lower case stays as it is when it is lowered again: no run of the
table of cases leads into itself or into another one, and so no character comes out that would change once more.
Whether a sigma ends a word is decided within the word, since blanks have no case and are not passed over. So the
words of a text can be lowered one by one, and the blanks between them make no difference.
-/
import SpriteScribe.Proofs.Text.Number
import SpriteScribe.Proofs.Text.Words

namespace SpriteScribe.Text

/-! ## Single characters -/

/-- A character that is its own lower case. -/
def IsLower (c : Char) : Prop := lowerChar c = [c]

/-- What the lower case of a character can be. -/
theorem lowerChar_cases (c : Char) :
    IsLower c ∨ (∃ x ∈ lowerExpansions, lowerChar c = x.2.map Char.ofNat) ∨
      ∃ r ∈ lowerRuns, r.covers c.toNat = true ∧ lowerChar c = [Char.ofNat (c.toNat + r.shift).toNat] := by
  unfold IsLower lowerChar otherCase
  split
  · rename_i codes hcodes
    exact .inr (.inl ⟨_, mem_of_lookup hcodes, rfl⟩)
  · split
    · rename_i r hr
      exact .inr (.inr ⟨r, List.mem_of_find?_eq_some hr, by simpa using List.find?_some hr, rfl⟩)
    · exact .inl rfl

/-- The code points that have another lower case, stretch by stretch. -/
def changingCodes : List (List Nat) := lowerExpansions.map Prod.fst :: lowerRuns.map CaseRun.codes

/-- The code points that runs lead to, and zero, which stands for numbers that are no code points. -/
def landingCodes : List (List Nat) := [0] :: lowerRuns.map fun r => r.codesAt r.shift

theorem changingCodes_apart_landingCodes : bitSets changingCodes &&& bitSets landingCodes = 0 := by decide +kernel

theorem isLower_of_not_changing {c : Char} (h : ∀ ns ∈ changingCodes, c.toNat ∉ ns) : IsLower c := by
  unfold IsLower lowerChar otherCase
  have hlookup : lowerExpansions.lookup c.toNat = none := by
    rw [List.lookup_eq_none_iff]
    intro x hx
    have hkeys := h _ List.mem_cons_self
    simpa using fun heq : c.toNat = x.1 => hkeys (heq ▸ List.mem_map_of_mem hx)
  have hfind : lowerRuns.find? (·.covers c.toNat) = none := by
    rw [List.find?_eq_none]
    intro r hr hcovers
    exact h r.codes (List.mem_cons_of_mem _ (List.mem_map_of_mem hr)) (CaseRun.mem_codes hcovers)
  rw [hlookup, hfind]

/-- Where a run leads to there is nothing more to change. -/
theorem isLower_of_run {r : CaseRun} {n : Nat} (hr : r ∈ lowerRuns) (hn : r.covers n = true) :
    IsLower (Char.ofNat (n + r.shift).toNat) := by
  obtain ⟨ms, hms, hlands⟩ : ∃ ms ∈ landingCodes, (Char.ofNat (n + r.shift).toNat).toNat ∈ ms := by
    rcases toNat_ofNat_cases (n + r.shift).toNat with hcode | hcode
    · rw [hcode]
      exact ⟨_, List.mem_cons_of_mem _ (List.mem_map_of_mem hr), List.mem_map_of_mem (CaseRun.mem_codes hn)⟩
    · rw [hcode]
      exact ⟨[0], List.mem_cons_self, List.mem_cons_self⟩
  apply isLower_of_not_changing
  intro ns hns hmem
  have hchanging := (testBit_bitSets changingCodes _).2 ⟨ns, hns, hmem⟩
  have hlanding := (testBit_bitSets landingCodes _).2 ⟨ms, hms, hlands⟩
  rw [testBit_eq_false_of_and changingCodes_apart_landingCodes hchanging] at hlanding
  cases hlanding

/-- What a listed expansion has: characters in lower case, at least one, and no blank. -/
theorem lowerExpansions_rows : ∀ row ∈ lowerExpansions, row.2 ≠ [] ∧ ∀ code ∈ row.2,
    lowerChar (Char.ofNat code) = [Char.ofNat code] ∧ isBlank (Char.ofNat code) = false := by
  decide +kernel

/-- Lower case has nothing that would change once more. -/
theorem isLower_of_mem_lowerChar {c x : Char} (h : x ∈ lowerChar c) : IsLower x := by
  rcases lowerChar_cases c with hlower | ⟨row, hrow, heq⟩ | ⟨r, hr, hcovers, heq⟩
  · rw [hlower] at h
    rw [List.mem_singleton.1 h]
    exact hlower
  · rw [heq] at h
    obtain ⟨code, hcode, rfl⟩ := List.mem_map.1 h
    exact ((lowerExpansions_rows row hrow).2 code hcode).1
  · rw [heq] at h
    rw [List.mem_singleton.1 h]
    exact isLower_of_run hr hcovers

theorem not_isLower_sigma : ¬ IsLower 'Σ' := by
  unfold IsLower
  decide +kernel

/-! ## Blanks -/

theorem blankRanges_apart : apart blankRanges casedRanges = true ∧ apart blankRanges caseIgnorableRanges = true := by
  decide +kernel

theorem isCased_of_isBlank {c : Char} (h : isBlank c = true) : isCased c = false :=
  inRanges_eq_false_of_apart blankRanges_apart.1 h

theorem isCaseIgnorable_of_isBlank {c : Char} (h : isBlank c = true) : isCaseIgnorable c = false :=
  inRanges_eq_false_of_apart blankRanges_apart.2 h

theorem isBlank_of_isCased {c : Char} (h : isCased c = true) : isBlank c = false := by
  cases hb : isBlank c with
  | false => rfl
  | true =>
    rw [isCased_of_isBlank hb] at h
    cases h

theorem lowerChar_blank {c : Char} (h : isBlank c = true) : lowerChar c = [c] := by
  rcases isCaseTable_lower.otherCase c with hsame | ⟨hcased, -⟩
  · exact hsame
  · rw [isCased_of_isBlank h] at hcased
    cases hcased

theorem lowerChar_unbroken {c : Char} (h : isBlank c = false) : IsUnbroken (lowerChar c) := by
  intro x hx
  rcases lowerChar_cases c with hlower | ⟨row, hrow, heq⟩ | ⟨r, hr, hcovers, heq⟩
  · rw [hlower] at hx
    rw [List.mem_singleton.1 hx, h]
  · rw [heq] at hx
    obtain ⟨code, hcode, rfl⟩ := List.mem_map.1 hx
    exact ((lowerExpansions_rows row hrow).2 code hcode).2
  · have hcased := (isCaseTable_lower.runs r hr).2
    rw [heq] at hx
    rw [List.mem_singleton.1 hx]
    exact isBlank_of_isCased (CaseRun.isCased_of_covers hcased hcovers)

theorem lowerChar_ne_nil (c : Char) : lowerChar c ≠ [] := by
  rcases lowerChar_cases c with hlower | ⟨row, hrow, heq⟩ | ⟨r, hr, hcovers, heq⟩
  · rw [hlower]; simp
  · rw [heq]
    simpa using (lowerExpansions_rows row hrow).1
  · rw [heq]; simp

/-! ## One character of a text -/

/-- The lower case of a character with what stands before and after it. -/
def lowerAt (before : List Char) (c : Char) (after : List Char) : List Char :=
  if c = 'Σ' then [if endsWord before after then 'ς' else 'σ'] else lowerChar c

theorem lowercaseFrom_cons (before : List Char) (c : Char) (cs : List Char) :
    lowercaseFrom before (c :: cs) = lowerAt before c cs ++ lowercaseFrom (c :: before) cs := rfl

/-- Both forms of the small sigma are letters in lower case. -/
theorem sigma_forms (final : Bool) :
    IsLower (if final then 'ς' else 'σ') ∧ isBlank (if final then 'ς' else 'σ') = false := by
  unfold IsLower
  cases final <;> decide +kernel

theorem isLower_of_mem_lowerAt {before after : List Char} {c x : Char} (h : x ∈ lowerAt before c after) :
    IsLower x := by
  unfold lowerAt at h
  split at h
  · rw [List.mem_singleton.1 h]
    exact (sigma_forms _).1
  · exact isLower_of_mem_lowerChar h

theorem lowerAt_unbroken {c : Char} (h : isBlank c = false) (before after : List Char) :
    IsUnbroken (lowerAt before c after) := by
  unfold lowerAt
  split
  · intro x hx
    rw [List.mem_singleton.1 hx]
    exact (sigma_forms _).2
  · exact lowerChar_unbroken h

theorem lowerAt_ne_nil (before : List Char) (c : Char) (after : List Char) : lowerAt before c after ≠ [] := by
  unfold lowerAt
  split
  · simp
  · exact lowerChar_ne_nil c

theorem lowerAt_of_isLower {c : Char} (h : IsLower c) (before after : List Char) : lowerAt before c after = [c] := by
  have hsigma : c ≠ 'Σ' := by
    rintro rfl
    exact not_isLower_sigma h
  unfold lowerAt
  rw [if_neg hsigma, h]

/-- A blank ends the search for a cased character. -/
theorem meetsCased_append (cs : List Char) {rest : List Char} (h : IsDetached rest) :
    meetsCased (cs ++ rest) = meetsCased cs := by
  induction cs with
  | nil =>
    cases rest with
    | nil => rfl
    | cons b rest =>
      have hb : isBlank b = true := h b rfl
      simp [meetsCased, isCaseIgnorable_of_isBlank hb, isCased_of_isBlank hb]
  | cons c cs ih =>
    unfold meetsCased at ih ⊢
    by_cases hc : isCaseIgnorable c = true
    · simpa [List.dropWhile_cons, hc] using ih
    · simp [hc]

/-! ## Texts in lower case -/

theorem isLower_lowercaseFrom (before cs : List Char) : ∀ x ∈ lowercaseFrom before cs, IsLower x := by
  induction cs generalizing before with
  | nil => simp [lowercaseFrom]
  | cons c cs ih =>
    intro x hx
    rw [lowercaseFrom_cons] at hx
    rcases List.mem_append.1 hx with hx | hx
    · exact isLower_of_mem_lowerAt hx
    · exact ih _ x hx

theorem lowercaseFrom_of_isLower {cs : List Char} (h : ∀ c ∈ cs, IsLower c) (before : List Char) :
    lowercaseFrom before cs = cs := by
  induction cs generalizing before with
  | nil => rfl
  | cons c cs ih =>
    rw [lowercaseFrom_cons, lowerAt_of_isLower (h c List.mem_cons_self),
      ih (fun x hx => h x (List.mem_cons_of_mem _ hx)), List.singleton_append]

theorem lowercaseFrom_unbroken {cs : List Char} (h : IsUnbroken cs) (before : List Char) :
    IsUnbroken (lowercaseFrom before cs) := by
  induction cs generalizing before with
  | nil => simp [lowercaseFrom, IsUnbroken]
  | cons c cs ih =>
    intro x hx
    rw [lowercaseFrom_cons] at hx
    rcases List.mem_append.1 hx with hx | hx
    · exact lowerAt_unbroken (h c List.mem_cons_self) _ _ x hx
    · exact ih (fun y hy => h y (List.mem_cons_of_mem _ hy)) _ x hx

/-- What is before a blank makes no difference to what comes after it. -/
theorem lowercaseFrom_older (before cs : List Char) {older : List Char} (h : IsDetached older) :
    lowercaseFrom (before ++ older) cs = lowercaseFrom before cs := by
  induction cs generalizing before with
  | nil => rfl
  | cons c cs ih =>
    have hat : lowerAt (before ++ older) c cs = lowerAt before c cs := by
      unfold lowerAt endsWord
      rw [meetsCased_append before h]
    rw [lowercaseFrom_cons, lowercaseFrom_cons, hat, ← ih (c :: before)]
    rfl

theorem lowercaseFrom_blank {b : Char} (hb : isBlank b = true) (before cs : List Char) :
    lowercaseFrom before (b :: cs) = b :: lowercase cs := by
  rw [lowercaseFrom_cons, lowerAt_of_isLower (lowerChar_blank hb), List.singleton_append]
  exact congrArg (b :: ·) (lowercaseFrom_older [] cs (isDetached_cons hb before))

/-- A word is lowered for itself, and so is what comes after it. -/
theorem lowercaseFrom_append (before cs : List Char) {rest : List Char} (h : IsDetached rest) :
    lowercaseFrom before (cs ++ rest) = lowercaseFrom before cs ++ lowercase rest := by
  induction cs generalizing before with
  | nil =>
    cases rest with
    | nil => rfl
    | cons b rest =>
      have hb : isBlank b = true := h b rfl
      rw [List.nil_append, lowercaseFrom_blank hb]
      exact (lowercaseFrom_blank hb [] rest).symm
  | cons c cs ih =>
    have hat : lowerAt before c (cs ++ rest) = lowerAt before c cs := by
      unfold lowerAt endsWord
      rw [meetsCased_append cs h]
    rw [List.cons_append, lowercaseFrom_cons, lowercaseFrom_cons, hat, ih, List.append_assoc]

/-! ## Words in lower case -/

theorem lowercase_gap {gap : List Char} (h : IsGap gap) (cs : List Char) :
    lowercase (gap ++ cs) = gap ++ lowercase cs := by
  induction gap with
  | nil => rfl
  | cons b gap ih =>
    have hrest : IsGap gap := fun c hc => h c (List.mem_cons_of_mem _ hc)
    rw [List.cons_append, lowercase, lowercaseFrom_blank (h b List.mem_cons_self), ih hrest]
    rfl

theorem IsDetached.lowercase {cs : List Char} (h : IsDetached cs) : IsDetached (lowercase cs) := by
  cases cs with
  | nil => exact h
  | cons b cs =>
    rw [Text.lowercase, lowercaseFrom_blank (h b rfl)]
    exact isDetached_cons (h b rfl) _

/-- The blanks stay where they are, and the words between them are lowered. -/
theorem Spaced.lowercase {ws : List (List Char)} {cs : List Char} (h : Spaced ws cs) :
    Spaced (ws.map lowercase) (lowercase cs) := by
  induction h with
  | gap hgap =>
    have hsame := lowercase_gap hgap []
    rw [List.append_nil] at hsame
    rw [hsame]
    exact .gap (by simpa [Text.lowercase, lowercaseFrom] using hgap)
  | @word gap w rest ws hgap hne hw hrest hspaced ih =>
    have hlowered : Text.lowercase w ≠ [] := by
      obtain ⟨c, cs, rfl⟩ := List.exists_cons_of_ne_nil hne
      rw [Text.lowercase, lowercaseFrom_cons]
      exact List.append_ne_nil_of_left_ne_nil (lowerAt_ne_nil _ _ _) _
    have htext : Text.lowercase (gap ++ (w ++ rest)) = gap ++ (Text.lowercase w ++ Text.lowercase rest) := by
      rw [lowercase_gap hgap, Text.lowercase, lowercaseFrom_append [] w hrest]
      rfl
    rw [htext]
    exact .word hgap hlowered (lowercaseFrom_unbroken hw []) hrest.lowercase ih

theorem words_lowercase (cs : List Char) : words (lowercase cs) = (words cs).map lowercase :=
  (spaced_iff.2 rfl).lowercase.words_eq

/-- A word that is in lower case stays as it is. -/
theorem lowercase_of_mem_words {cs w : List Char} (h : w ∈ words (lowercase cs)) : lowercase w = w := by
  have hmem := (Spaced.forall_mem (spaced_iff.2 rfl) w h).2.2
  exact lowercaseFrom_of_isLower (fun c hc => isLower_lowercaseFrom [] cs c (hmem c hc)) []

end SpriteScribe.Text
