/-
Numbers of all scripts, and what changing the case of a text does to them. A character that has another case
is a cased one, and so is one of the characters it becomes; the tables of cases are checked for this. Cased
characters are letters for an identifier and are never numbers, so a number neither changes with its case nor
comes from a character that does.
-/
import SpriteScribe.Proofs.Lookup
import SpriteScribe.Text.Alphanumeric
import SpriteScribe.Text.DecimalDigit
import SpriteScribe.Text.Lowercase
import SpriteScribe.Text.Words

namespace SpriteScribe.Text

/-! ## Sets of numbers -/

/-- A list of numbers as the bits of one number. -/
def bitSet : List Nat → Nat
  | [] => 0
  | n :: ns => 1 <<< n ||| bitSet ns

/-- Several lists as the bits of one number. -/
def bitSets : List (List Nat) → Nat
  | [] => 0
  | ns :: rest => bitSet ns ||| bitSets rest

/-- Ranges of numbers as the bits of one number. -/
def rangeBits : List (Nat × Nat) → Nat
  | [] => 0
  | r :: ranges => (1 <<< (r.2 + 1 - r.1) - 1) <<< r.1 ||| rangeBits ranges

theorem testBit_bitSet (ns : List Nat) (n : Nat) : (bitSet ns).testBit n = true ↔ n ∈ ns := by
  induction ns with
  | nil => simp [bitSet]
  | cons m ns ih =>
    rw [bitSet, Nat.testBit_or, Bool.or_eq_true, ih, Nat.one_shiftLeft, Nat.testBit_two_pow, decide_eq_true_eq,
      List.mem_cons, eq_comm]

theorem testBit_bitSets (lists : List (List Nat)) (n : Nat) :
    (bitSets lists).testBit n = true ↔ ∃ ns ∈ lists, n ∈ ns := by
  induction lists with
  | nil => simp [bitSets]
  | cons ns lists ih =>
    rw [bitSets, Nat.testBit_or, Bool.or_eq_true, ih, testBit_bitSet]
    simp

theorem testBit_rangeBits (ranges : List (Nat × Nat)) (n : Nat) :
    (rangeBits ranges).testBit n = true ↔ ∃ r ∈ ranges, r.1 ≤ n ∧ n ≤ r.2 := by
  induction ranges with
  | nil => simp [rangeBits]
  | cons r ranges ih =>
    have hr : ((1 <<< (r.2 + 1 - r.1) - 1) <<< r.1).testBit n = true ↔ r.1 ≤ n ∧ n ≤ r.2 := by
      rw [Nat.testBit_shiftLeft, Nat.one_shiftLeft, Nat.testBit_two_pow_sub_one, Bool.and_eq_true,
        decide_eq_true_eq, decide_eq_true_eq]
      omega
    rw [rangeBits, Nat.testBit_or, Bool.or_eq_true, ih, hr]
    simp

theorem testBit_eq_false_of_and {a b n : Nat} (h : a &&& b = 0) (ha : a.testBit n = true) : b.testBit n = false := by
  have hbit := Nat.testBit_and a b n
  rw [h, ha, Nat.zero_testBit, Bool.true_and] at hbit
  exact hbit.symm

theorem testBit_of_or {a b n : Nat} (h : a ||| b = b) (ha : a.testBit n = true) : b.testBit n = true := by
  rw [← h, Nat.testBit_or, ha, Bool.true_or]

/-! ## Tables of ranges -/

theorem inRanges_iff {ranges : List (Nat × Nat)} {c : Char} :
    inRanges ranges c = true ↔ ∃ r ∈ ranges, r.1 ≤ c.toNat ∧ c.toNat ≤ r.2 := by
  simp [inRanges]

/-- Whether one of the ranges has all code points from the first to the last. -/
def spans (ranges : List (Nat × Nat)) (first last : Nat) : Bool :=
  ranges.any fun r => r.1.ble first && last.ble r.2

theorem inRanges_of_spans {ranges : List (Nat × Nat)} {first last : Nat} {c : Char}
    (h : spans ranges first last = true) (hfirst : first ≤ c.toNat) (hlast : c.toNat ≤ last) :
    inRanges ranges c = true := by
  obtain ⟨r, hr, hspans⟩ := List.any_eq_true.1 h
  simp only [Bool.and_eq_true, Nat.ble_eq] at hspans
  exact inRanges_iff.2 ⟨r, hr, by omega, by omega⟩

theorem inRanges_iff_testBit {ranges : List (Nat × Nat)} {c : Char} :
    inRanges ranges c = true ↔ (rangeBits ranges).testBit c.toNat = true :=
  inRanges_iff.trans (testBit_rangeBits ranges c.toNat).symm

theorem inRanges_eq_false_of_and {bits : Nat} {ranges : List (Nat × Nat)} {c : Char}
    (h : bits &&& rangeBits ranges = 0) (hc : bits.testBit c.toNat = true) : inRanges ranges c = false := by
  rw [Bool.eq_false_iff, Ne, inRanges_iff_testBit, testBit_eq_false_of_and h hc]
  exact Bool.false_ne_true

theorem spans_of_testBit {ranges : List (Nat × Nat)} {n : Nat} (h : (rangeBits ranges).testBit n = true) :
    spans ranges n n = true := by
  obtain ⟨r, hr, hfirst, hlast⟩ := (testBit_rangeBits ranges n).1 h
  exact List.any_eq_true.2 ⟨r, hr, by simp [hfirst, hlast]⟩

/-- Whether every range of a table lies in one of another table. One walk along the second table is enough for
tables in ascending order. -/
def within : List (Nat × Nat) → List (Nat × Nat) → Bool
  | inner, [] => inner.isEmpty
  | inner, r :: outer => within (inner.dropWhile fun x => r.1.ble x.1 && x.2.ble r.2) outer

theorem inRanges_of_within {inner outer : List (Nat × Nat)} {c : Char} (h : within inner outer = true)
    (hc : inRanges inner c = true) : inRanges outer c = true := by
  induction outer generalizing inner with
  | nil =>
    rw [List.isEmpty_iff.1 h] at hc
    cases hc
  | cons r outer ih =>
    obtain ⟨x, hx, hrange⟩ := inRanges_iff.1 hc
    rw [← inner.takeWhile_append_dropWhile (p := fun x => r.1.ble x.1 && x.2.ble r.2), List.mem_append] at hx
    rcases hx with hx | hx
    · have hr := List.all_eq_true.1 (List.all_takeWhile ..) x hx
      simp only [Bool.and_eq_true, Nat.ble_eq] at hr
      exact inRanges_iff.2 ⟨r, List.mem_cons_self, by omega, by omega⟩
    · obtain ⟨y, hy, hrange'⟩ := inRanges_iff.1 (ih h (inRanges_iff.2 ⟨x, hx, hrange⟩))
      exact inRanges_iff.2 ⟨y, List.mem_cons_of_mem _ hy, hrange'⟩

/-- Whether no range of a table overlaps one of another table. -/
def apart (xs ys : List (Nat × Nat)) : Bool := xs.all fun x => ys.all fun y => x.2.blt y.1 || y.2.blt x.1

theorem inRanges_eq_false_of_apart {xs ys : List (Nat × Nat)} {c : Char} (h : apart xs ys = true)
    (hc : inRanges xs c = true) : inRanges ys c = false := by
  obtain ⟨x, hx, hrange⟩ := inRanges_iff.1 hc
  rw [Bool.eq_false_iff, Ne, inRanges_iff]
  rintro ⟨y, hy, hrange'⟩
  have happart := List.all_eq_true.1 (List.all_eq_true.1 h x hx) y hy
  simp only [Bool.or_eq_true, Nat.blt_eq] at happart
  omega

/-! ## Numbers -/

/-- The code points of general category `No`. -/
def otherNumberRanges : List (Nat × Nat) :=
  [(0xB2, 0xB3), (0xB9, 0xB9), (0xBC, 0xBE), (0x9F4, 0x9F9), (0xB72, 0xB77), (0xBF0, 0xBF2),
   (0xC78, 0xC7E), (0xD58, 0xD5E), (0xD70, 0xD78), (0xF2A, 0xF33), (0x1369, 0x137C), (0x17F0, 0x17F9),
   (0x19DA, 0x19DA), (0x2070, 0x2070), (0x2074, 0x2079), (0x2080, 0x2089), (0x2150, 0x215F),
   (0x2189, 0x2189), (0x2460, 0x249B), (0x24EA, 0x24FF), (0x2776, 0x2793), (0x2CFD, 0x2CFD),
   (0x3192, 0x3195), (0x3220, 0x3229), (0x3248, 0x324F), (0x3251, 0x325F), (0x3280, 0x3289),
   (0x32B1, 0x32BF), (0xA830, 0xA835), (0x10107, 0x10133), (0x10175, 0x10178), (0x1018A, 0x1018B),
   (0x102E1, 0x102FB), (0x10320, 0x10323), (0x10858, 0x1085F), (0x10879, 0x1087F), (0x108A7, 0x108AF),
   (0x108FB, 0x108FF), (0x10916, 0x1091B), (0x109BC, 0x109BD), (0x109C0, 0x109CF), (0x109D2, 0x109FF),
   (0x10A40, 0x10A48), (0x10A7D, 0x10A7E), (0x10A9D, 0x10A9F), (0x10AEB, 0x10AEF), (0x10B58, 0x10B5F),
   (0x10B78, 0x10B7F), (0x10BA9, 0x10BAF), (0x10CFA, 0x10CFF), (0x10E60, 0x10E7E), (0x10F1D, 0x10F26),
   (0x10F51, 0x10F54), (0x10FC5, 0x10FCB), (0x11052, 0x11065), (0x111E1, 0x111F4), (0x1173A, 0x1173B),
   (0x118EA, 0x118F2), (0x11C5A, 0x11C6C), (0x11FC0, 0x11FD4), (0x16B5B, 0x16B61), (0x16E80, 0x16E96),
   (0x1D2C0, 0x1D2D3), (0x1D2E0, 0x1D2F3), (0x1D360, 0x1D378), (0x1E8C7, 0x1E8CF), (0x1EC71, 0x1ECAB),
   (0x1ECAD, 0x1ECAF), (0x1ECB1, 0x1ECB4), (0x1ED01, 0x1ED2D), (0x1ED2F, 0x1ED3D), (0x1F100, 0x1F10C)]

/-- A number that is no decimal digit: a superscript, a fraction, a circled number and the like. -/
def isOtherNumber (c : Char) : Bool := inRanges otherNumberRanges c

/-- The code points of the general categories `Nd` and `No`. The range between the two tables is the one that
version 17 of the standard has added to the decimal digits. -/
def numberRanges : List (Nat × Nat) := decimalDigitRanges ++ (0x11DE0, 0x11DE9) :: otherNumberRanges

/-- A decimal digit or another number, of any script. -/
def isNumber (c : Char) : Bool := inRanges numberRanges c

theorem isNumber_of_isOtherNumber {c : Char} (h : isOtherNumber c = true) : isNumber c = true := by
  obtain ⟨r, hr, hrange⟩ := inRanges_iff.1 h
  exact inRanges_iff.2 ⟨r, List.mem_append_right _ (List.mem_cons_of_mem _ hr), hrange⟩

/-- How the tables of blanks, of numbers and of cased characters lie in each other and in that of the characters
of identifiers. The tables of cased characters and of numbers are both long, and as bits they are compared at once. -/
theorem ranges_related :
    (within otherNumberRanges alphanumericRanges = true ∧ within casedRanges alphanumericRanges = true) ∧
      (apart blankRanges numberRanges = true ∧ apart blankRanges alphanumericRanges = true) ∧
      rangeBits casedRanges &&& rangeBits numberRanges = 0 := by
  decide +kernel

theorem isAlphanumeric_of_isOtherNumber {c : Char} (h : isOtherNumber c = true) : isAlphanumeric c = true :=
  inRanges_of_within ranges_related.1.1 h

theorem isNumber_of_isBlank {c : Char} (h : isBlank c = true) : isNumber c = false :=
  inRanges_eq_false_of_apart ranges_related.2.1.1 h

theorem isAlphanumeric_of_isBlank {c : Char} (h : isBlank c = true) : isAlphanumeric c = false :=
  inRanges_eq_false_of_apart ranges_related.2.1.2 h

/-! ## Cased characters -/

theorem isAlphanumeric_of_isCased {c : Char} (h : isCased c = true) : isAlphanumeric c = true :=
  inRanges_of_within ranges_related.1.2 h

theorem isNumber_of_isCased {c : Char} (h : isCased c = true) : isNumber c = false :=
  inRanges_eq_false_of_and ranges_related.2.2 (inRanges_iff_testBit.1 h)

theorem toNat_ofNat_cases (n : Nat) : (Char.ofNat n).toNat = n ∨ (Char.ofNat n).toNat = 0 := by
  by_cases hv : n.isValidChar
  · left; rw [Char.ofNat, dif_pos hv]; rfl
  · right; rw [Char.ofNat, dif_neg hv]; rfl

theorem casedRanges_valid : ∀ r ∈ casedRanges, r.2 < 0xD800 ∨ 0xDFFF < r.1 ∧ r.2 < 0x110000 := by decide +kernel

theorem isCased_ofNat {first last n : Nat} (h : spans casedRanges first last = true) (hfirst : first ≤ n)
    (hlast : n ≤ last) : isCased (Char.ofNat n) = true := by
  have hn : (Char.ofNat n).toNat = n := by
    obtain ⟨r, hr, hspans⟩ := List.any_eq_true.1 h
    have hvalid := casedRanges_valid r hr
    simp only [Bool.and_eq_true, Nat.ble_eq] at hspans
    have hv : n.isValidChar := by unfold Nat.isValidChar; omega
    rw [Char.ofNat, dif_pos hv]; rfl
  exact inRanges_of_spans h (by omega) (by omega)

/-! ## Runs and expansions -/

/-- The code points of a run. -/
def CaseRun.codes (r : CaseRun) : List Nat := (List.range ((r.last - r.first) / r.step + 1)).map (r.first + r.step * ·)

theorem CaseRun.mem_codes {r : CaseRun} {n : Nat} (h : r.covers n = true) : n ∈ r.codes := by
  simp only [covers, Bool.and_eq_true, decide_eq_true_eq, beq_iff_eq] at h
  obtain ⟨⟨hfirst, hlast⟩, hstep⟩ := h
  refine List.mem_map.2 ⟨(n - r.first) / r.step, List.mem_range.2 ?_, ?_⟩
  · exact Nat.lt_succ_of_le (Nat.div_le_div_right (Nat.sub_le_sub_right hlast _))
  · rw [Nat.mul_div_cancel' (Nat.dvd_of_mod_eq_zero hstep)]
    omega

/-- The numbers at some distance from a run. -/
def CaseRun.codesAt (r : CaseRun) (shift : Int) : List Nat := r.codes.map fun n : Nat => (n + shift).toNat

/-- Whether all code points of a run are cased ones at some distance from it. They are looked up one by one only
if no range has all of them, and what lies between. -/
def CaseRun.isCasedAt (r : CaseRun) (shift : Int) : Bool :=
  spans casedRanges (r.first + shift).toNat (r.last + shift).toNat ||
    r.codes.all fun n => spans casedRanges (n + shift).toNat (n + shift).toNat

theorem CaseRun.isCased_of_covers {r : CaseRun} {shift : Int} {n : Nat} (h : r.isCasedAt shift = true)
    (hn : r.covers n = true) : isCased (Char.ofNat (n + shift).toNat) = true := by
  rcases Bool.or_eq_true_iff.1 h with h | h
  · simp only [covers, Bool.and_eq_true, decide_eq_true_eq] at hn
    exact isCased_ofNat h (by omega) (by omega)
  · exact isCased_ofNat (List.all_eq_true.1 h n (mem_codes hn)) (Nat.le_refl _) (Nat.le_refl _)

/-- Tables of a case map that deal with cased characters: with these it begins, and it leads to one of them and
not to a number. -/
structure IsCaseTable (runs : List CaseRun) (expansions : List (Nat × List Nat)) : Prop where
  runs : ∀ r ∈ runs, r.isCasedAt 0 = true ∧ r.isCasedAt r.shift = true
  keys : ∀ x ∈ expansions, isCased (Char.ofNat x.1) = true
  cased : ∀ x ∈ expansions, ∃ code ∈ x.2, isCased (Char.ofNat code) = true
  noNumber : ∀ x ∈ expansions, ∀ code ∈ x.2, isNumber (Char.ofNat code) = false

theorem CaseRun.isCasedAt_of_bits {runs : List CaseRun} {shift : CaseRun → Int}
    (h : bitSets (runs.map fun r => r.codesAt (shift r)) ||| rangeBits casedRanges = rangeBits casedRanges)
    {r : CaseRun} (hr : r ∈ runs) : r.isCasedAt (shift r) = true := by
  refine Bool.or_eq_true_iff.2 (.inr (List.all_eq_true.2 fun n hn => spans_of_testBit (testBit_of_or h ?_)))
  exact (testBit_bitSets _ _).2 ⟨_, List.mem_map_of_mem hr, List.mem_map_of_mem hn⟩

/-- The tables are checked as sets of bits. Zero stands for numbers that are no code points. -/
theorem isCaseTable_of_bits {runs : List CaseRun} {expansions : List (Nat × List Nat)}
    (hfrom : bitSets (runs.map fun r => r.codesAt 0) ||| rangeBits casedRanges = rangeBits casedRanges)
    (hto : bitSets (runs.map fun r => r.codesAt r.shift) ||| rangeBits casedRanges = rangeBits casedRanges)
    (hkeys : bitSet (expansions.map Prod.fst) ||| rangeBits casedRanges = rangeBits casedRanges)
    (hcased : ∀ x ∈ expansions, ∃ code ∈ x.2, isCased (Char.ofNat code) = true)
    (hnumbers : bitSets ([0] :: expansions.map Prod.snd) &&& rangeBits numberRanges = 0) :
    IsCaseTable runs expansions where
  runs r hr := ⟨CaseRun.isCasedAt_of_bits hfrom hr, CaseRun.isCasedAt_of_bits hto hr⟩
  keys x hx := by
    have hbit := testBit_of_or hkeys ((testBit_bitSet _ _).2 (List.mem_map_of_mem hx))
    exact isCased_ofNat (spans_of_testBit hbit) (Nat.le_refl _) (Nat.le_refl _)
  cased := hcased
  noNumber x hx code hcode := by
    obtain ⟨ns, hns, hmem⟩ : ∃ ns ∈ [0] :: expansions.map Prod.snd, (Char.ofNat code).toNat ∈ ns := by
      rcases toNat_ofNat_cases code with heq | heq
      · rw [heq]
        exact ⟨x.2, List.mem_cons_of_mem _ (List.mem_map_of_mem hx), hcode⟩
      · rw [heq]
        exact ⟨[0], List.mem_cons_self, List.mem_cons_self⟩
    exact inRanges_eq_false_of_and hnumbers ((testBit_bitSets _ _).2 ⟨ns, hns, hmem⟩)

theorem isCaseTable_lower : IsCaseTable lowerRuns lowerExpansions := by
  apply isCaseTable_of_bits <;> decide +kernel

theorem isCaseTable_upper : IsCaseTable upperRuns upperExpansions := by
  apply isCaseTable_of_bits <;> decide +kernel

/-- The other case of a character is the character itself, or the character is cased, and then so is one of
those that it becomes, and none of them is a number. -/
theorem IsCaseTable.otherCase {runs : List CaseRun} {expansions : List (Nat × List Nat)}
    (h : IsCaseTable runs expansions) (c : Char) :
    Text.otherCase runs expansions c = [c] ∨
      isCased c = true ∧ (∃ x ∈ Text.otherCase runs expansions c, isCased x = true) ∧
        ∀ x ∈ Text.otherCase runs expansions c, isNumber x = false := by
  unfold Text.otherCase
  split
  · rename_i codes hcodes
    have hrow := mem_of_lookup hcodes
    have hkey := h.keys _ hrow
    obtain ⟨code, hcode, hcased⟩ := h.cased _ hrow
    rw [Char.ofNat_toNat] at hkey
    refine .inr ⟨hkey, ⟨_, List.mem_map_of_mem hcode, hcased⟩, fun x hx => ?_⟩
    obtain ⟨code, hcode, rfl⟩ := List.mem_map.1 hx
    exact h.noNumber _ hrow code hcode
  · split
    · rename_i run hrun
      have hcovers := List.find?_some hrun
      obtain ⟨hfrom, hto⟩ := h.runs run (List.mem_of_find?_eq_some hrun)
      have hcased := CaseRun.isCased_of_covers hfrom hcovers
      have himage := CaseRun.isCased_of_covers hto hcovers
      rw [Int.add_zero, Int.toNat_natCast, Char.ofNat_toNat] at hcased
      refine .inr ⟨hcased, ⟨_, List.mem_cons_self, himage⟩, fun x hx => ?_⟩
      rw [List.mem_singleton.1 hx]
      exact isNumber_of_isCased himage
    · exact .inl rfl

end SpriteScribe.Text
