/-
What numbers are read as. A number is read digit by digit into a machine word, and the reading stops as soon as
the word is too small. It finds exactly the number that the digits denote if a word can hold that number, because
on the way to it no number is greater.
-/
import SpriteScribe.Text.Decimal
import Mathlib.Algebra.Group.Nat.Defs

namespace SpriteScribe.Text

/-! ## Arithmetic of words -/

theorem checkedMul_eq_some_iff {a b c : UInt64} : checkedMul a b = some c ↔ c.toNat = a.toNat * b.toNat := by
  have hc := c.toNat_lt
  unfold checkedMul BitVec.umulOverflow
  simp only [UInt64.toNat_toBitVec, decide_eq_true_eq]
  split
  · rename_i hover
    constructor
    · nofun
    · intro h; omega
  · rename_i hfits
    rw [Option.some.injEq, ← UInt64.toNat_inj, UInt64.toNat_mul, Nat.mod_eq_of_lt (by omega), eq_comm]

theorem checkedAdd_eq_some_iff {a b c : UInt64} : checkedAdd a b = some c ↔ c.toNat = a.toNat + b.toNat := by
  have hc := c.toNat_lt
  unfold checkedAdd BitVec.uaddOverflow
  simp only [UInt64.toNat_toBitVec, decide_eq_true_eq]
  split
  · rename_i hover
    constructor
    · nofun
    · intro h; omega
  · rename_i hfits
    rw [Option.some.injEq, ← UInt64.toNat_inj, UInt64.toNat_add, Nat.mod_eq_of_lt (by omega), eq_comm]

theorem digitValue?_eq_some_iff {c : Char} {d : UInt64} :
    digitValue? c = some d ↔ c.isDigit = true ∧ d.toNat = c.toNat - '0'.toNat := by
  unfold digitValue?
  split
  · rename_i hc
    have hle : '0'.val ≤ c.val := (Char.isDigit_iff_toNat.1 hc).1
    have hval : (c.val - '0'.val).toUInt64.toNat = c.toNat - '0'.toNat := by
      rw [UInt32.toNat_toUInt64, UInt32.toNat_sub_of_le _ _ hle]
      rfl
    rw [Option.some.injEq, ← UInt64.toNat_inj, hval, eq_comm]
    exact ⟨fun h => ⟨hc, h⟩, And.right⟩
  · rename_i hc
    exact ⟨nofun, fun h => absurd h.1 hc⟩

/-! ## Reading -/

/-- One more digit: ten times the number and the digit, if a word can hold it. -/
theorem pushDigit_eq_some_iff {n m : UInt64} {c : Char} :
    pushDigit n c = some m ↔ c.isDigit = true ∧ m.toNat = 10 * n.toNat + (c.toNat - '0'.toNat) := by
  have hm := m.toNat_lt
  simp only [pushDigit, Option.bind_eq_bind, Option.bind_eq_some_iff, checkedMul_eq_some_iff, digitValue?_eq_some_iff,
    checkedAdd_eq_some_iff]
  constructor
  · rintro ⟨tens, htens, d, ⟨hc, hd⟩, hsum⟩
    refine ⟨hc, ?_⟩
    rw [hsum, htens, hd, Nat.mul_comm]
    rfl
  · rintro ⟨hc, hsum⟩
    have htens : (UInt64.ofNat (10 * n.toNat)).toNat = 10 * n.toNat :=
      UInt64.toNat_ofNat_of_lt' (show _ < 2 ^ 64 by omega)
    have hdigit : (UInt64.ofNat (c.toNat - '0'.toNat)).toNat = c.toNat - '0'.toNat :=
      UInt64.toNat_ofNat_of_lt' (show _ < 2 ^ 64 by omega)
    exact ⟨_, htens.trans (Nat.mul_comm _ _), _, ⟨hc, hdigit⟩, by rw [hsum, htens, hdigit]⟩

theorem le_ofDigitChars (ds : List Char) (n : Nat) : n ≤ Nat.ofDigitChars 10 ds n := by
  rw [Nat.ofDigitChars_eq_ofDigitChars_zero]
  have hpos : 0 < 10 ^ ds.length := Nat.pow_pos (by decide)
  exact Nat.le_trans (Nat.le_mul_of_pos_left n hpos) (Nat.le_add_right _ _)

/-- Digits are read on from a number. The word is large enough for every number on the way if it is for the
last one, since these do not decrease. -/
theorem foldlM_pushDigit_eq_some_iff {ds : List Char} {n m : UInt64} :
    ds.foldlM pushDigit n = some m ↔ (∀ c ∈ ds, c.isDigit = true) ∧ m.toNat = Nat.ofDigitChars 10 ds n.toNat := by
  induction ds generalizing n with
  | nil =>
    rw [List.foldlM_nil, Option.pure_def, Option.some.injEq, ← UInt64.toNat_inj, eq_comm]
    exact ⟨fun h => ⟨nofun, h⟩, And.right⟩
  | cons c ds ih =>
    rw [List.foldlM_cons, Option.bind_eq_bind, Option.bind_eq_some_iff, List.forall_mem_cons, Nat.ofDigitChars_cons]
    simp only [pushDigit_eq_some_iff, ih]
    constructor
    · rintro ⟨k, ⟨hc, hk⟩, hds, hm⟩
      exact ⟨⟨hc, hds⟩, by rw [hm, hk]⟩
    · rintro ⟨⟨hc, hds⟩, hm⟩
      have hle := le_ofDigitChars ds (10 * n.toNat + (c.toNat - '0'.toNat))
      have hlt := m.toNat_lt
      have hk : (UInt64.ofNat (10 * n.toNat + (c.toNat - '0'.toNat))).toNat =
          10 * n.toNat + (c.toNat - '0'.toNat) := UInt64.toNat_ofNat_of_lt' (show _ < 2 ^ 64 by omega)
      exact ⟨_, ⟨hc, hk⟩, hds, by rw [hm, hk]⟩

theorem readWord?_eq_some_iff {ds : List Char} {m : UInt64} :
    readWord? ds = some m ↔ (∀ c ∈ ds, c.isDigit = true) ∧ m.toNat = Nat.ofDigitChars 10 ds 0 :=
  foldlM_pushDigit_eq_some_iff

end SpriteScribe.Text
