/-
What filling a template means. A placeholder stands at a position of a text if the text goes on from there
with `$`, letters and digits, both taken as far as they go (`Hole.StandsAt`). Reading a template finds one
placeholder for each such position, in order, and cuts the template into them and the gaps between them
(`Cut`). A filled template is the same gaps with each placeholder replaced, so that nothing that is filled
in is looked at again.
-/
import SpriteScribe.Proofs.Block.Precedence
import SpriteScribe.Proofs.Text.Decimal

namespace SpriteScribe

open SpriteScribe.Text

/-! ## Placeholders in a text -/

/-- Some characters of a class before the rest of a text, as many as there are. -/
structure IsRun (p : Char → Bool) (run rest : List Char) : Prop where
  all : ∀ c ∈ run, p c = true
  ends : ∀ c, rest.head? = some c → p c = false

theorem isRun_takeWhile (p : Char → Bool) (cs : List Char) : IsRun p (cs.takeWhile p) (cs.dropWhile p) := by
  refine ⟨List.all_eq_true.1 List.all_takeWhile, fun c hc => ?_⟩
  have hhead := List.head?_dropWhile_not p cs
  rw [hc] at hhead
  simpa using hhead

theorem IsRun.takeWhile_eq {p : Char → Bool} {run rest : List Char} (h : IsRun p run rest) :
    (run ++ rest).takeWhile p = run := by
  rw [List.takeWhile_append_of_pos h.all]
  cases rest with
  | nil => simp
  | cons c rest => simp [h.ends c rfl]

theorem IsRun.dropWhile_eq {p : Char → Bool} {run rest : List Char} (h : IsRun p run rest) :
    (run ++ rest).dropWhile p = rest := by
  rw [List.dropWhile_append_of_pos h.all]
  cases rest with
  | nil => rfl
  | cons c rest => simp [h.ends c rfl]

namespace Hole

/-- A text begins with a placeholder: all letters that come after the `$`, then all digits that come after
these, of which there are some. -/
def Leads (h : Hole) (cs : List Char) : Prop :=
  ∃ after, cs = h.source ++ after ∧ IsRun Char.isAlpha h.flags (h.digits ++ after) ∧
    IsRun isDecimalDigit h.digits after ∧ h.digits ≠ []

/-- A placeholder stands at a position of a text. -/
def StandsAt (h : Hole) (cs : List Char) (i : Nat) : Prop := h.Leads (cs.drop i)

theorem at?_eq_some_iff {cs : List Char} {h : Hole} : at? cs = some h ↔ h.Leads cs := by
  constructor
  · intro hat
    unfold at? at hat
    split at hat
    · rename_i cs
      extract_lets flags digits at hat
      split at hat
      · cases hat
      · rename_i hne
        cases hat
        have hletters := isRun_takeWhile Char.isAlpha cs
        have hdigits := isRun_takeWhile isDecimalDigit (cs.dropWhile Char.isAlpha)
        refine ⟨(cs.dropWhile Char.isAlpha).dropWhile isDecimalDigit, ?_, ?_, hdigits, by simpa using hne⟩
        · simp [source, flags, digits]
        · simpa [flags, digits] using hletters
    · cases hat
  · rintro ⟨after, rfl, hletters, hdigits, hne⟩
    have hsource : h.source ++ after = '$' :: (h.flags ++ (h.digits ++ after)) := by simp [source]
    rw [hsource, at?]
    simp only [hletters.takeWhile_eq, hletters.dropWhile_eq, hdigits.takeWhile_eq]
    rw [if_neg (by simpa using hne)]

theorem Leads.unique {cs : List Char} {h h' : Hole} (hl : h.Leads cs) (hl' : h'.Leads cs) : h = h' :=
  Option.some.inj ((at?_eq_some_iff.2 hl).symm.trans (at?_eq_some_iff.2 hl'))

theorem not_leads_nil (h : Hole) : ¬ h.Leads [] := by
  rintro ⟨after, heq, -⟩
  simp [source] at heq

theorem Leads.head? {cs : List Char} {h : Hole} (hl : h.Leads cs) : cs.head? = some '$' := by
  obtain ⟨after, rfl, -⟩ := hl
  rfl

/-- No letter is a digit, of any script. -/
theorem isDecimalDigit_of_isAlpha {c : Char} (h : c.isAlpha = true) : isDecimalDigit c = false := by
  have hrange : 58 ≤ c.toNat ∧ c.toNat < 128 := by
    have hletter : (decide ('A'.val ≤ c.val ∧ c.val ≤ 'Z'.val) ||
        decide ('a'.val ≤ c.val) && decide (c.val ≤ 'z'.val)) = true := h
    simp only [Bool.or_eq_true, Bool.and_eq_true, decide_eq_true_eq, UInt32.le_iff_toNat_le] at hletter
    have hval : c.toNat = c.val.toNat := rfl
    have hA : 'A'.val.toNat = 65 := rfl
    have hZ : 'Z'.val.toNat = 90 := rfl
    have ha : 'a'.val.toNat = 97 := rfl
    have hz : 'z'.val.toNat = 122 := rfl
    omega
  have hall : ∀ n < 128, 58 ≤ n → decimalDigitRanges.any (fun r => r.1 ≤ n && n ≤ r.2) = false := by decide
  exact hall c.toNat hrange.2 hrange.1

/-- A text begins with a placeholder just if there is a `$`, then letters, then a digit. -/
theorem exists_leads_iff (cs : List Char) : (∃ h : Hole, h.Leads cs) ↔
    ∃ letters digit rest, cs = '$' :: (letters ++ digit :: rest) ∧ (∀ c ∈ letters, c.isAlpha = true) ∧
      isDecimalDigit digit = true := by
  constructor
  · rintro ⟨h, after, rfl, hletters, hdigits, hne⟩
    obtain ⟨d, ds, hd⟩ := List.exists_cons_of_ne_nil hne
    refine ⟨h.flags, d, ds ++ after, by simp [source, hd], hletters.all, ?_⟩
    exact hdigits.all d (by rw [hd]; exact List.mem_cons_self)
  · rintro ⟨letters, digit, rest, rfl, hletters, hdigit⟩
    have hrun := isRun_takeWhile isDecimalDigit (digit :: rest)
    refine ⟨⟨letters, (digit :: rest).takeWhile isDecimalDigit⟩, (digit :: rest).dropWhile isDecimalDigit, ?_, ?_,
      hrun, ?_⟩
    · simp [source]
    · -- the letters go no further, since what follows them is a digit
      refine ⟨hletters, fun c hc => ?_⟩
      rw [List.takeWhile_append_dropWhile, List.head?_cons, Option.some.injEq] at hc
      subst hc
      by_contra halpha
      rw [isDecimalDigit_of_isAlpha (by simpa using halpha)] at hdigit
      cases hdigit
    · simp [hdigit]

theorem standsAt_append (h : Hole) (cs ds : List Char) (i : Nat) :
    h.StandsAt (cs ++ ds) (cs.length + i) ↔ h.StandsAt ds i := by
  rw [StandsAt, StandsAt, List.drop_length_add_append]

/-- Behind the `$` of a placeholder no other one begins before its end. -/
theorem Leads.not_inside {h h' : Hole} {after : List Char} (hl : h.Leads (h.source ++ after)) {i : Nat} (hi : 0 < i)
    (hlt : i < h.source.length) : ¬ h'.StandsAt (h.source ++ after) i := by
  intro hl'
  obtain ⟨rest, heq, hletters, hdigits, -⟩ := hl
  obtain rfl := List.append_cancel_left heq
  obtain ⟨i, rfl⟩ : ∃ j, i = j + 1 := ⟨i - 1, by omega⟩
  have hdollar : ('$' : Char) ∈ h.flags ++ h.digits := by
    have hhead := hl'.head?
    rw [List.head?_drop, source, List.cons_append, List.cons_append, List.getElem?_cons_succ,
      List.getElem?_append_left (by simpa [source] using hlt)] at hhead
    exact List.mem_of_getElem? hhead
  rcases List.mem_append.1 hdollar with hmem | hmem
  · exact absurd (hletters.all _ hmem) (by decide)
  · exact absurd (hdigits.all _ hmem) (by decide)

/-! ## What a placeholder asks for -/

theorem index_of_lt {h : Hole} (hd : ∀ c ∈ h.digits, c.isDigit = true)
    (hlt : Nat.ofDigitChars 10 h.digits 0 < 2 ^ 64) : h.index = Nat.ofDigitChars 10 h.digits 0 := by
  have hword : (UInt64.ofNat (Nat.ofDigitChars 10 h.digits 0)).toNat = Nat.ofDigitChars 10 h.digits 0 :=
    UInt64.toNat_ofNat_of_lt' hlt
  rw [index, readWord?_eq_some_iff.2 ⟨hd, hword⟩, Option.map_some, Option.getD_some, hword]

theorem index_eq_zero {h : Hole}
    (hno : ¬ ((∀ c ∈ h.digits, c.isDigit = true) ∧ Nat.ofDigitChars 10 h.digits 0 < 2 ^ 64)) : h.index = 0 := by
  have hnone : readWord? h.digits = none := by
    rw [Option.eq_none_iff_forall_ne_some]
    intro m hm
    obtain ⟨hd, hval⟩ := readWord?_eq_some_iff.1 hm
    exact hno ⟨hd, hval ▸ m.toNat_lt⟩
  rw [index, hnone, Option.map_none, Option.getD_none]

/-- The letters of a placeholder choose how the argument is written, and the digits which one it is. The first
argument is number one, so a number that cannot be read is that of no argument. -/
structure Asks (h : Hole) (p : Placeholder) : Prop where
  block : p.block = true ↔ 'b' ∈ h.flags
  string : p.string = true ↔ 's' ∈ h.flags
  parens : p.parens = true ↔ 'p' ∈ h.flags
  index : (∀ c ∈ h.digits, c.isDigit = true) → Nat.ofDigitChars 10 h.digits 0 < 2 ^ 64 →
    p.index = Nat.ofDigitChars 10 h.digits 0
  noIndex : ¬ ((∀ c ∈ h.digits, c.isDigit = true) ∧ Nat.ofDigitChars 10 h.digits 0 < 2 ^ 64) → p.index = 0

theorem asks_placeholder (h : Hole) : h.Asks h.placeholder where
  block := List.contains_iff_mem
  string := List.contains_iff_mem
  parens := List.contains_iff_mem
  index := index_of_lt
  noIndex := index_eq_zero

end Hole

/-! ## Reading a template -/

namespace Piece

theorem scan_eq_drop (n : Nat) (cs : List Char) : scan n cs = scan 0 (cs.drop n) := by
  induction cs generalizing n with
  | nil => simp [scan]
  | cons c cs ih =>
    cases n with
    | zero => rfl
    | succ n => rw [scan, ih, List.drop_succ_cons]

theorem scan_hole {h : Hole} {after : List Char} (hl : h.Leads (h.source ++ after)) :
    scan 0 (h.source ++ after) = .hole h :: scan 0 after := by
  have hat := Hole.at?_eq_some_iff.2 hl
  rw [Hole.source, List.cons_append, List.cons_append] at hat ⊢
  rw [scan]
  simp only [hat]
  rw [scan_eq_drop, Hole.source, List.cons_append, List.length_cons, Nat.add_sub_cancel, List.drop_left]

theorem scan_plain {c : Char} {cs : List Char} (hl : ∀ h : Hole, ¬ h.Leads (c :: cs)) :
    scan 0 (c :: cs) = .plain c :: scan 0 cs := by
  have hat : Hole.at? (c :: cs) = none := by
    cases hat : Hole.at? (c :: cs) with
    | none => rfl
    | some h => exact absurd (Hole.at?_eq_some_iff.1 hat) (hl h)
  rw [scan]
  simp only [hat]

end Piece

/-- Induction over a text as it is read: placeholder by placeholder, and where none stands character by
character. -/
theorem template_induction {P : List Char → Prop} (nil : P [])
    (hole : ∀ (h : Hole) (after : List Char), h.Leads (h.source ++ after) → P after → P (h.source ++ after))
    (plain : ∀ c cs, (∀ h : Hole, ¬ h.Leads (c :: cs)) → P cs → P (c :: cs)) (cs : List Char) : P cs := by
  induction hn : cs.length using Nat.strong_induction_on generalizing cs with
  | _ n ih =>
    subst hn
    by_cases hl : ∃ h : Hole, h.Leads cs
    · obtain ⟨h, after, rfl, hruns⟩ := hl
      refine hole h after ⟨after, rfl, hruns⟩ (ih _ ?_ after rfl)
      simp only [Hole.source, List.length_append, List.length_cons]
      omega
    · cases cs with
      | nil => exact nil
      | cons c cs =>
        refine plain c cs (fun h hh => hl ⟨h, hh⟩) (ih _ ?_ cs rfl)
        simp

/-! ## Placeholders and gaps -/

/-- A text cut at placeholders: each of them with the gap before it, and the gap after the last. -/
structure Cut where
  marked : List (List Char × Hole)
  last : List Char

namespace Cut

/-- The text with something in place of each placeholder. -/
def weave (x : Cut) (f : Hole → List Char) : List Char := (x.marked.flatMap fun m => m.1 ++ f m.2) ++ x.last

/-- The placeholders of a text cut at them, with their positions when the text begins at one. -/
def placesFrom : Nat → List (List Char × Hole) → List (Nat × Hole)
  | _, [] => []
  | n, (gap, h) :: rest => (n + gap.length, h) :: placesFrom (n + gap.length + h.source.length) rest

/-- The placeholders, with their positions in the text. -/
def places (x : Cut) : List (Nat × Hole) := placesFrom 0 x.marked

/-- One more character in the first gap. -/
def prepend (c : Char) : Cut → Cut
  | ⟨[], last⟩ => ⟨[], c :: last⟩
  | ⟨(gap, h) :: rest, last⟩ => ⟨(c :: gap, h) :: rest, last⟩

/-- The pieces of a text, with the characters between placeholders taken together. -/
def ofPieces : List Piece → Cut
  | [] => ⟨[], []⟩
  | .plain c :: ps => (ofPieces ps).prepend c
  | .hole h :: ps => ⟨([], h) :: (ofPieces ps).marked, (ofPieces ps).last⟩

theorem weave_prepend (c : Char) (x : Cut) (f : Hole → List Char) : (x.prepend c).weave f = c :: x.weave f := by
  obtain ⟨- | ⟨⟨gap, h⟩, rest⟩, last⟩ := x <;> simp [prepend, weave]

theorem holes_prepend (c : Char) (x : Cut) : (x.prepend c).marked.map Prod.snd = x.marked.map Prod.snd := by
  obtain ⟨- | ⟨⟨gap, h⟩, rest⟩, last⟩ := x <;> rfl

theorem placesFrom_prepend (n : Nat) (c : Char) (x : Cut) :
    placesFrom n (x.prepend c).marked = placesFrom (n + 1) x.marked := by
  obtain ⟨- | ⟨⟨gap, h⟩, rest⟩, last⟩ := x
  · rfl
  · rw [prepend, placesFrom, placesFrom, List.length_cons, Nat.add_comm gap.length, ← Nat.add_assoc]

theorem weave_ofPieces (ps : List Piece) (f : Hole → List Char) :
    (ofPieces ps).weave f = ps.flatMap fun | .plain c => [c] | .hole h => f h := by
  induction ps with
  | nil => rfl
  | cons p ps ih =>
    cases p with
    | plain c => rw [ofPieces, weave_prepend, ih]; rfl
    | hole h =>
      rw [List.flatMap_cons, ← ih]
      simp [ofPieces, weave]

theorem holes_ofPieces (ps : List Piece) : (ofPieces ps).marked.map Prod.snd = ps.filterMap Piece.hole? := by
  induction ps with
  | nil => rfl
  | cons p ps ih =>
    cases p with
    | plain c => rw [ofPieces, holes_prepend, ih]; rfl
    | hole h => rw [ofPieces, List.map_cons, ih]; rfl

/-- The text that was read is the gaps with the placeholders as they are written. -/
theorem weave_source (cs : List Char) : (ofPieces (Piece.scan 0 cs)).weave Hole.source = cs := by
  rw [weave_ofPieces]
  induction cs using template_induction with
  | nil => rfl
  | hole h after hl ih => rw [Piece.scan_hole hl, List.flatMap_cons, ih]
  | plain c cs hl ih => rw [Piece.scan_plain hl, List.flatMap_cons, ih]; rfl

/-- Reading finds exactly the placeholders that stand somewhere. -/
theorem mem_placesFrom_scan {cs : List Char} {n i : Nat} {h : Hole} :
    (i, h) ∈ placesFrom n (ofPieces (Piece.scan 0 cs)).marked ↔ n ≤ i ∧ h.StandsAt cs (i - n) := by
  induction cs using template_induction generalizing n with
  | nil =>
    simp only [Hole.StandsAt, List.drop_nil]
    exact ⟨nofun, fun hh => absurd hh.2 h.not_leads_nil⟩
  | plain c cs hl ih =>
    rw [Piece.scan_plain hl, ofPieces, placesFrom_prepend, ih]
    rcases Nat.lt_trichotomy i n with hlt | rfl | hlt
    · constructor <;> intro hh <;> omega
    · constructor
      · intro hh; omega
      · rintro ⟨-, hh⟩
        rw [Hole.StandsAt, Nat.sub_self, List.drop_zero] at hh
        exact absurd hh (hl h)
    · have hdrop : (c :: cs).drop (i - n) = cs.drop (i - (n + 1)) := by
        rw [show i - n = i - (n + 1) + 1 by omega, List.drop_succ_cons]
      rw [Hole.StandsAt, Hole.StandsAt, hdrop]
      exact and_congr_left fun _ => by omega
  | hole g after hl ih =>
    rw [Piece.scan_hole hl, ofPieces, placesFrom, List.mem_cons, ih, Prod.mk.injEq, List.length_nil, Nat.add_zero]
    have hpos : 0 < g.source.length := by simp [Hole.source]
    constructor
    · rintro (⟨rfl, rfl⟩ | ⟨hle, hh⟩)
      · refine ⟨Nat.le_refl _, ?_⟩
        rw [Hole.StandsAt, Nat.sub_self, List.drop_zero]
        exact hl
      · refine ⟨by omega, ?_⟩
        rwa [show i - n = g.source.length + (i - (n + g.source.length)) by omega, Hole.standsAt_append]
    · rintro ⟨hle, hh⟩
      rcases Nat.lt_or_ge i (n + g.source.length) with hlt | hge
      · rcases Nat.eq_or_lt_of_le hle with rfl | hlt'
        · rw [Hole.StandsAt, Nat.sub_self, List.drop_zero] at hh
          exact .inl ⟨rfl, hh.unique hl⟩
        · exact absurd hh (hl.not_inside (by omega) (by omega))
      · refine .inr ⟨hge, ?_⟩
        rwa [show i - n = g.source.length + (i - (n + g.source.length)) by omega, Hole.standsAt_append] at hh

theorem holes_placesFrom (n : Nat) (marked : List (List Char × Hole)) :
    (placesFrom n marked).map Prod.snd = marked.map Prod.snd := by
  induction marked generalizing n with
  | nil => rfl
  | cons m rest ih => rw [placesFrom, List.map_cons, List.map_cons, ih]

theorem placesFrom_sorted (n : Nat) (marked : List (List Char × Hole)) :
    (∀ x ∈ placesFrom n marked, n ≤ x.1) ∧ (placesFrom n marked).Pairwise (·.1 < ·.1) := by
  induction marked generalizing n with
  | nil => exact ⟨nofun, .nil⟩
  | cons m rest ih =>
    obtain ⟨gap, h⟩ := m
    have hpos : 0 < h.source.length := by simp [Hole.source]
    obtain ⟨hle, hsorted⟩ := ih (n + gap.length + h.source.length)
    refine ⟨fun x hx => ?_, List.pairwise_cons.2 ⟨fun x hx => ?_, hsorted⟩⟩
    · rcases List.mem_cons.1 hx with rfl | hx
      · exact Nat.le_add_right _ _
      · have := hle x hx; omega
    · have := hle x hx
      simp only
      omega

end Cut

/-- What placeholders and filling mean. A template can be cut into placeholders and gaps, which put
together again are the template. The placeholders are those that stand somewhere in it, in order, each with
its own position, and one stands wherever a `$` is followed by letters and then by a digit. What is found of
each is what its letters and its digits ask for; digits of other scripts, and numbers that a word cannot hold,
ask for no argument. With any arguments the filled template is the same gaps, and in place of each placeholder
the text that it asks for. -/
theorem substitute_eq_weave (template : String) :
    ∃ x : Cut, x.weave Hole.source = template.toList ∧
      (∀ i h, (i, h) ∈ x.places ↔ h.StandsAt template.toList i) ∧
      (x.places.map Prod.fst).Pairwise (· < ·) ∧
      (∀ i, (∃ h : Hole, h.StandsAt template.toList i) ↔ ∃ letters digit rest,
        template.toList.drop i = '$' :: (letters ++ digit :: rest) ∧ (∀ c ∈ letters, c.isAlpha = true) ∧
          isDecimalDigit digit = true) ∧
      placeholders template = x.places.map (fun place => place.2.placeholder) ∧
      (∀ i h, (i, h) ∈ x.places → h.Asks h.placeholder) ∧
      ∀ args : List Arg, (substitute template args).toList =
        x.weave fun h => (h.placeholder.resolve (operands args)).toList := by
  refine ⟨Cut.ofPieces (Piece.ofTemplate template), Cut.weave_source _, fun i h => ?_, ?_,
    fun i => Hole.exists_leads_iff _, ?_, fun _ h _ => h.asks_placeholder, fun args => ?_⟩
  · rw [Cut.places, Piece.ofTemplate, Cut.mem_placesFrom_scan, Nat.sub_zero]
    exact ⟨And.right, fun hh => ⟨Nat.zero_le _, hh⟩⟩
  · exact List.pairwise_map.2 (Cut.placesFrom_sorted 0 _).2
  · rw [placeholders, ← Cut.holes_ofPieces, ← Cut.holes_placesFrom 0, List.map_map]
    rfl
  · rw [substitute, toList_fill, Cut.weave_ofPieces]
    congr 1
    funext p
    cases p <;> simp [Piece.fill]

/-- A `$` that no digit follows is text, also right before a placeholder, and so are letters behind one. -/
def crowdedTemplate : String := "$$1 $a$sb2 $p $12x3"

theorem substitute_eq_weave_crowded :
    ∃ x : Cut, x.weave Hole.source = crowdedTemplate.toList ∧
      (1, ⟨[], ['1']⟩) ∈ x.places ∧ (∀ h, (0, h) ∉ x.places) ∧ (6, ⟨['s', 'b'], ['2']⟩) ∈ x.places ∧
      x.places.map (fun place => place.2.placeholder) =
        [⟨1, false, false, false⟩, ⟨2, true, true, false⟩, ⟨12, false, false, false⟩] ∧
      (∀ i h, (i, h) ∈ x.places → h.Asks h.placeholder) ∧
      substitute crowdedTemplate [.literal "$2", .literal "b"] = "$$2 $a\"b\" $p undefinedx3" := by
  obtain ⟨x, hsource, hplaces, -, -, hfound, hasks, -⟩ := substitute_eq_weave crowdedTemplate
  have hno : Hole.at? (crowdedTemplate.toList.drop 0) = none := by decide +kernel
  refine ⟨x, hsource, ?_, fun h hmem => ?_, ?_, hfound.symm.trans (by decide +kernel), hasks, by decide +kernel⟩
  · exact (hplaces _ _).2 (Hole.at?_eq_some_iff.1 (by decide +kernel))
  · cases hno.symm.trans (Hole.at?_eq_some_iff.2 ((hplaces _ _).1 hmem))
  · exact (hplaces _ _).2 (Hole.at?_eq_some_iff.1 (by decide +kernel))

end SpriteScribe
