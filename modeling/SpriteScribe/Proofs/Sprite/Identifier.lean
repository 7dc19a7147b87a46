/-
Identifiers of sprites. Whatever a sprite is called in its project, the identifier made from that
name is one that program text can use: it is not empty, has only letters, numbers, `_` and `$`,
does not begin with a digit and is not reserved. Underscores that tell it from others keep it so,
because no reserved word ends with one.
-/
import SpriteScribe.Sprite.Identifier

namespace SpriteScribe.Identifier

open SpriteScribe.Text

/-- The spelling of a name that program text can use. -/
structure IsSpelled (cs : List Char) : Prop where
  nonempty : cs ≠ []
  kept : ∀ c ∈ cs, isAlphanumeric c = true ∨ c = '_' ∨ c = '$'
  noDigit : ∀ c, cs.head? = some c → c.isDigit = false

/-- A name that program text can use for a sprite. -/
structure IsValid (name : String) : Prop extends IsSpelled name.toList where
  notReserved : name ∉ reserved

theorem isKept_iff (c : Char) : isKept c = true ↔ isAlphanumeric c = true ∨ c = '_' ∨ c = '$' := by
  simp [isKept, or_assoc]

/-! ## The identifier of a declared name -/

theorem isSpelled_guardDigit {cs : List Char} (hne : cs ≠ []) (hk : ∀ c ∈ cs, isKept c = true) :
    IsSpelled (guardDigit cs) := by
  have hk' : ∀ c ∈ cs, isAlphanumeric c = true ∨ c = '_' ∨ c = '$' :=
    fun c hc => (isKept_iff c).1 (hk c hc)
  cases cs with
  | nil => exact absurd rfl hne
  | cons c cs =>
    by_cases hd : c.isDigit = true
    · have he : guardDigit (c :: cs) = '_' :: c :: cs := if_pos hd
      rw [he]
      refine ⟨List.cons_ne_nil _ _, fun x hx => ?_, fun x hx => ?_⟩
      · rcases List.mem_cons.1 hx with rfl | hx
        · exact .inr (.inl rfl)
        · exact hk' x hx
      · cases hx; decide
    · have he : guardDigit (c :: cs) = c :: cs := if_neg hd
      rw [he]
      refine ⟨List.cons_ne_nil _ _, hk', fun x hx => ?_⟩
      cases hx; simpa using hd

theorem fallback_kept : ∀ c ∈ fallback, isKept c = true := by
  have h : fallback.all isKept = true := by rfl
  exact List.all_eq_true.1 h

theorem letters_kept (declared : List Char) : ∀ c ∈ letters declared, isKept c = true :=
  fun _ hc => (List.mem_filter.1 hc).2

/-! ## Underscores -/

theorem reserved_getLast? : ∀ w ∈ reserved, w.toList.getLast? ≠ some '_' := by decide

@[simp] theorem toList_suffixed (base : String) (n : Nat) :
    (suffixed base n).toList = base.toList ++ List.replicate n '_' := by
  simp [suffixed]

@[simp] theorem suffixed_zero (base : String) : suffixed base 0 = base := by
  apply String.toList_injective; simp

theorem suffixed_succ_not_reserved (base : String) (n : Nat) : suffixed base (n + 1) ∉ reserved := by
  intro h
  apply reserved_getLast? _ h
  rw [toList_suffixed, List.replicate_succ', ← List.append_assoc, List.getLast?_concat]

theorem isSpelled_suffixed {base : String} (h : IsSpelled base.toList) (n : Nat) :
    IsSpelled (suffixed base n).toList := by
  rw [toList_suffixed]
  refine ⟨by simp [h.nonempty], fun c hc => ?_, fun c hc => h.noDigit c ?_⟩
  · rcases List.mem_append.1 hc with hc | hc
    · exact h.kept c hc
    · exact .inr (.inl (List.eq_of_mem_replicate hc))
  · obtain ⟨x, xs, hx⟩ := List.exists_cons_of_ne_nil h.nonempty
    rw [hx] at hc ⊢; exact hc

/-- Underscores keep a name valid. -/
theorem isValid_suffixed {base : String} (h : IsValid base) (n : Nat) : IsValid (suffixed base n) := by
  refine ⟨isSpelled_suffixed h.toIsSpelled n, ?_⟩
  cases n with
  | zero => rw [suffixed_zero]; exact h.notReserved
  | succ n => exact suffixed_succ_not_reserved base n

/-- Every declared name has a valid identifier. -/
theorem isValid_ofDeclared (declared : String) : IsValid (ofDeclared declared) := by
  unfold ofDeclared
  extract_lets kept name
  have hs : IsSpelled name.toList := by
    rw [String.toList_ofList]
    apply isSpelled_guardDigit
    · split
      · decide
      · rename_i h; simpa using h
    · split
      · exact fallback_kept
      · exact letters_kept _
  split
  · rw [show name.push '_' = suffixed name 1 from String.toList_injective (by simp)]
    exact ⟨isSpelled_suffixed hs 1, suffixed_succ_not_reserved name 0⟩
  · rename_i h
    exact ⟨hs, by simpa using h⟩

/-! ## The first free candidate -/

theorem suffixed_push (base : String) (n : Nat) : (suffixed base n).push '_' = suffixed base (n + 1) := by
  apply String.toList_injective
  rw [String.toList_push, toList_suffixed, toList_suffixed, List.replicate_succ', List.append_assoc]

/-- The names to try for a sprite, in order. -/
def candidates (base : String) : List String := (List.range (maxSuffix + 1)).map (suffixed base)

/-- Trying names one after the other is a search through numbers of underscores. -/
theorem tryNames_eq_find? (taken : String → Bool) (base : String) (tries start : Nat) :
    tryNames taken (suffixed base start) tries =
      ((List.range' start tries).map (suffixed base)).find? (!taken ·) := by
  induction tries generalizing start with
  | zero => rfl
  | succ tries ih =>
    rw [tryNames, List.range'_succ, List.map_cons, List.find?_cons, suffixed_push, ih]
    cases taken (suffixed base start) <;> rfl

theorem firstFree?_eq_find? (taken : String → Bool) (base : String) :
    firstFree? taken base = (candidates base).find? (!taken ·) := by
  have hfind := tryNames_eq_find? taken base (maxSuffix + 1) 0
  rw [suffixed_zero, ← List.range_eq_range'] at hfind
  exact hfind

/-- The free candidate that is found is the one with the fewest underscores. -/
theorem firstFree?_eq_some_iff {taken : String → Bool} {base name : String} :
    firstFree? taken base = some name ↔
      ∃ n ≤ maxSuffix, name = suffixed base n ∧ taken name = false ∧ ∀ m < n, taken (suffixed base m) = true := by
  rw [firstFree?_eq_find?, candidates, List.find?_map, Option.map_eq_some_iff]
  constructor
  · rintro ⟨n, hn, rfl⟩
    obtain ⟨hfree, hle, hless⟩ := List.find?_range_eq_some.1 hn
    refine ⟨n, Nat.le_of_lt_succ (List.mem_range.1 hle), rfl, by simpa using hfree, ?_⟩
    intro m hm
    simpa using hless m hm
  · rintro ⟨n, hle, rfl, hfree, hless⟩
    refine ⟨n, List.find?_range_eq_some.2 ⟨by simpa using hfree, List.mem_range.2 (Nat.lt_succ_of_le hle), ?_⟩, rfl⟩
    intro m hm
    simpa using hless m hm

theorem firstFree?_eq_some {taken : String → Bool} {base name : String}
    (h : firstFree? taken base = some name) :
    taken name = false ∧ ∃ n ≤ maxSuffix, name = suffixed base n := by
  obtain ⟨n, hn, hname, hfree, -⟩ := firstFree?_eq_some_iff.1 h
  exact ⟨hfree, n, hn, hname⟩

/-- There is no free candidate just if every number of underscores up to the last is taken. -/
theorem firstFree?_eq_none_iff {taken : String → Bool} {base : String} :
    firstFree? taken base = none ↔ ∀ n ≤ maxSuffix, taken (suffixed base n) = true := by
  rw [firstFree?_eq_find?, candidates, List.find?_map, Option.map_eq_none_iff, List.find?_range_eq_none]
  constructor
  · intro h n hn
    simpa using h n (Nat.lt_succ_of_le hn)
  · intro h n hn
    simpa using h n (Nat.le_of_lt_succ hn)

theorem suffixed_suffixed (base : String) (m n : Nat) : suffixed (suffixed base m) n = suffixed base (m + n) := by
  apply String.toList_injective
  rw [toList_suffixed, toList_suffixed, toList_suffixed, List.append_assoc, List.replicate_append_replicate]

/-- The identifier that is given to a sprite is valid, with or without underscores. -/
theorem isValid_of_firstFree? {taken : String → Bool} {declared name : String}
    (h : firstFree? taken (ofDeclared declared) = some name) : IsValid name := by
  obtain ⟨-, n, -, rfl⟩ := firstFree?_eq_some h
  exact isValid_suffixed (isValid_ofDeclared declared) n

end SpriteScribe.Identifier
