/-
The bar of a progress line. Its filled cells are the share of the steps done, rounded to the nearest number of
cells, where a half is rounded up. Half of an odd total is itself cut down when the count is computed, and no
count is different for that.
-/
import SpriteScribe.Command.Progress
import Mathlib.Algebra.Order.Round
import Mathlib.Data.Rat.Floor
import Mathlib.Tactic.Linarith

namespace SpriteScribe.Command

/-! ## Rounding -/

/-- The integer nearest to a number: every other one is farther away, or as far and less. -/
def IsNearest (x : ℚ) (n : ℤ) : Prop :=
  ∀ m : ℤ, m ≠ n → |x - n| < |x - m| ∨ |x - n| = |x - m| ∧ m < n

theorem isNearest_round (x : ℚ) : IsNearest x (round x) := by
  intro m hne
  rcases (round_le x m).lt_or_eq with hlt | heq
  · exact .inl hlt
  · refine .inr ⟨heq, ?_⟩
    by_contra hle
    -- an integer above the rounded one is more than a half away
    have hnext : ((round x + 1 : ℤ) : ℚ) ≤ m := Int.cast_le.2 (by omega)
    rw [Int.cast_add, Int.cast_one] at hnext
    have hnear := abs_sub_round x
    have hbelow := sub_half_lt_round x
    have hfar : (m : ℚ) - x ≤ |x - m| := by
      rw [abs_sub_comm]
      exact le_abs_self _
    linarith

/-- Adding half of the divisor before dividing rounds the quotient. -/
theorem round_natCast_div (a : ℕ) {b : ℕ} (hb : 0 < b) : round ((a : ℚ) / b) = ((a + b / 2) / b : ℕ) := by
  have hlow : (a + b / 2) / b * b ≤ a + b / 2 := Nat.div_mul_le_self _ _
  have hhigh : a + b / 2 < ((a + b / 2) / b + 1) * b := by
    rw [Nat.mul_comm]
    exact Nat.lt_mul_div_succ _ hb
  generalize (a + b / 2) / b = n at hlow hhigh
  rw [Nat.add_mul] at hhigh
  -- twice the half of an odd number is one less than the number, which a strict bound between integers absorbs
  have hlow' : (2 * (n * b) : ℚ) ≤ 2 * a + b := by exact_mod_cast (by omega : 2 * (n * b) ≤ 2 * a + b)
  have hhigh' : (2 * a : ℚ) < 2 * (n * b) + b := by exact_mod_cast (by omega : 2 * a < 2 * (n * b) + b)
  have hpos : (0 : ℚ) < b := Nat.cast_pos.2 hb
  rw [round_eq_iff, Int.cast_natCast]
  constructor
  · rw [le_div_iff₀ hpos]
    linarith
  · rw [div_lt_iff₀ hpos]
    linarith

/-! ## Counting cells -/

/-- The cells of a bar that are to be filled. -/
def share (step total width : ℕ) : ℕ := (step * width + total / 2) / total

theorem share_mono {step later : ℕ} (h : step ≤ later) (total width : ℕ) :
    share step total width ≤ share later total width :=
  Nat.div_le_div_right (Nat.add_le_add_right (Nat.mul_le_mul_right width h) _)

theorem share_total {total : ℕ} (h : 1 ≤ total) (width : ℕ) : share total total width = width := by
  have hhalf : total / 2 / total = 0 := Nat.div_eq_of_lt (by omega)
  rw [share, Nat.mul_add_div h, hhalf, Nat.add_zero]

theorem share_le {step total : ℕ} (htotal : 1 ≤ total) (hle : step ≤ total) (width : ℕ) :
    share step total width ≤ width :=
  calc share step total width
    _ ≤ share total total width := share_mono hle total width
    _ = width := share_total htotal width

theorem isNearest_share (step width : ℕ) {total : ℕ} (h : 1 ≤ total) :
    IsNearest (step * width / total) (share step total width) := by
  have hround := round_natCast_div (step * width) h
  rw [Nat.cast_mul] at hround
  rw [share, ← hround]
  exact isNearest_round _

theorem toNat_half {w : ℕ} (t : BitVec w) : (t / 2).toNat = t.toNat / 2 := by
  have ht := t.isLt
  rw [BitVec.toNat_udiv, BitVec.ofNat_eq_ofNat, BitVec.toNat_ofNat]
  match w with
  -- a word of one bit at most cannot hold the divisor, but then both quotients are zero
  | 0 =>
    rw [Nat.pow_zero, Nat.mod_one, Nat.div_zero]
    omega
  | 1 =>
    rw [Nat.pow_one, Nat.mod_self, Nat.div_zero]
    omega
  | w + 2 =>
    have htwo : 2 < 2 ^ (w + 2) := by
      have hpos : 0 < 2 ^ w := Nat.two_pow_pos w
      rw [Nat.pow_add]
      omega
    rw [Nat.mod_eq_of_lt htwo]

/-- Words that can hold the number to divide count the same cells, and nothing overflows on the way. -/
theorem share_words {w : ℕ} (s t n : BitVec w) (h : s.toNat * n.toNat + t.toNat / 2 < 2 ^ w) :
    s.umulOverflow n = false ∧ (s * n).uaddOverflow (t / 2) = false ∧
      ((s * n + t / 2) / t).toNat = share s.toNat t.toNat n.toNat := by
  have hmul : (s * n).toNat = s.toNat * n.toNat := BitVec.toNat_mul_of_lt (by omega)
  have hsum : (s * n + t / 2).toNat = s.toNat * n.toNat + t.toNat / 2 := by
    rw [BitVec.toNat_add_of_lt (by rw [hmul, toNat_half]; exact h), hmul, toNat_half]
  refine ⟨?_, ?_, ?_⟩
  · rw [BitVec.umulOverflow, decide_eq_false_iff_not]
    omega
  · rw [BitVec.uaddOverflow, decide_eq_false_iff_not, hmul, toNat_half]
    omega
  · rw [BitVec.toNat_udiv, hsum]
    rfl

/-! ## The bar -/

/-- Going through the cells in order, the first ones are filled and the rest is not. -/
theorem map_range_lt {α : Type} (x y : α) {filled width : ℕ} (h : filled ≤ width) :
    (List.range width).map (fun i => if i < filled then x else y) =
      List.replicate filled x ++ List.replicate (width - filled) y := by
  obtain ⟨rest, rfl⟩ := Nat.exists_eq_add_of_le h
  have hfilled : (List.range filled).map (fun i => if i < filled then x else y) = List.replicate filled x := by
    rw [List.map_congr_left fun i hi => if_pos (List.mem_range.1 hi), List.map_const', List.length_range]
  have hrest : (List.range rest).map (fun i => if filled + i < filled then x else y) = List.replicate rest y := by
    rw [List.map_congr_left fun i _ => if_neg (Nat.not_lt.2 (Nat.le_add_right filled i)), List.map_const',
      List.length_range]
  rw [List.range_add, List.map_append, List.map_map, Nat.add_sub_cancel_left, hfilled]
  exact congrArg _ hrest

theorem progressBar_eq {step total width : ℕ} (htotal : 1 ≤ total) (hwidth : 1 ≤ width) (hle : step ≤ total) :
    progressBar step total width = String.ofList ('[' :: (List.replicate (share step total width) '=' ++
      List.replicate (width - share step total width) '-' ++ [']'])) := by
  unfold progressBar
  simp only [Nat.max_eq_left hwidth]
  rw [← share, map_range_lt '=' '-' (share_le htotal hle width), List.cons_append]

/-- How many cells of a bar are filled. -/
def filledCells (step total width : ℕ) : ℕ := (progressBar step total width).toList.count '='

theorem filledCells_eq_share {step total width : ℕ} (htotal : 1 ≤ total) (hwidth : 1 ≤ width) (hle : step ≤ total) :
    filledCells step total width = share step total width := by
  rw [filledCells, progressBar_eq htotal hwidth hle, String.toList_ofList]
  simp [List.count_replicate]

/-- A bar shows how much is done. It has as many cells as it is wide, between brackets, and those that are filled
come first. How many these are is the part of the width that belongs to the steps done, rounded to the nearest
integer and up if it is a half. It is at most the width, it does not decrease from one step to a later one, and
at the last step it is the width. Words of any size count the same, and nothing overflows, if they can hold the
number that is divided. -/
theorem progressBar_proportional (step total width : ℕ) (htotal : 1 ≤ total) (hwidth : 1 ≤ width)
    (hle : step ≤ total) :
    progressBar step total width = String.ofList ('[' :: (List.replicate (filledCells step total width) '=' ++
      List.replicate (width - filledCells step total width) '-' ++ [']'])) ∧
    IsNearest (step * width / total) (filledCells step total width) ∧
    filledCells step total width ≤ width ∧
    (∀ later, step ≤ later → later ≤ total → filledCells step total width ≤ filledCells later total width) ∧
    (step = total → filledCells step total width = width) ∧
    ∀ (w : ℕ) (s t n : BitVec w), s.toNat = step → t.toNat = total → n.toNat = width →
      step * width + total / 2 < 2 ^ w →
      s.umulOverflow n = false ∧ (s * n).uaddOverflow (t / 2) = false ∧
        ((s * n + t / 2) / t).toNat = filledCells step total width := by
  rw [filledCells_eq_share htotal hwidth hle]
  refine ⟨progressBar_eq htotal hwidth hle, isNearest_share step width htotal, share_le htotal hle width, ?_, ?_, ?_⟩
  · intro later hlater hlast
    rw [filledCells_eq_share htotal hwidth hlast]
    exact share_mono hlater total width
  · rintro rfl
    exact share_total htotal width
  · rintro w s t n rfl rfl rfl hfits
    exact share_words s t n hfits

/-- One step of four is three and a half cells of fourteen. -/
theorem progressBar_proportional_half :
    progressBar 1 4 14 = "[====----------]" ∧ IsNearest (7 / 2) 4 ∧
    filledCells 1 4 14 ≤ filledCells 2 4 14 ∧ filledCells 4 4 14 = 14 ∧
    ((1#8 * 14#8 + 4#8 / 2) / 4#8).toNat = 4 := by
  have hcells : filledCells 1 4 14 = 4 := by decide +kernel
  obtain ⟨hbar, hnearest, -, hlater, -, hwords⟩ :=
    progressBar_proportional 1 4 14 (by decide) (by decide) (by decide)
  obtain ⟨-, -, -, -, hlast, -⟩ := progressBar_proportional 4 4 14 (by decide) (by decide) (by decide)
  obtain ⟨-, -, hcount⟩ := hwords 8 1 4 14 rfl rfl rfl (by decide)
  rw [hcells] at hbar hnearest hcount
  refine ⟨hbar.trans (by decide), ?_, hlater 2 (by decide) (by decide), hlast rfl, hcount⟩
  norm_num at hnearest
  exact hnearest

end SpriteScribe.Command
