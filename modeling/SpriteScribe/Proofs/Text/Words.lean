/-
Blanks in a text. The words of a text are what stands between its blanks, whatever blanks these are and however
many (`Spaced`). A trimmed text is what is left between the blanks around it (`IsTrimmed`), and there is only one
way to take these off.
-/
import SpriteScribe.Text.Words

namespace SpriteScribe.Text

/-- Nothing but blanks. -/
def IsGap (cs : List Char) : Prop := ∀ c ∈ cs, isBlank c = true

/-- No blanks. -/
def IsUnbroken (cs : List Char) : Prop := ∀ c ∈ cs, isBlank c = false

/-- A text that no word runs on into: what it begins with, if anything, is a blank. -/
def IsDetached (cs : List Char) : Prop := ∀ c, cs.head? = some c → isBlank c = true

theorem isGap_nil : IsGap [] := nofun

theorem IsGap.cons {b : Char} {gap : List Char} (hb : isBlank b = true) (hgap : IsGap gap) : IsGap (b :: gap) := by
  intro c hc
  rcases List.mem_cons.1 hc with rfl | hc
  · exact hb
  · exact hgap c hc

theorem IsUnbroken.cons {c : Char} {cs : List Char} (hc : isBlank c = false) (hcs : IsUnbroken cs) :
    IsUnbroken (c :: cs) := by
  intro x hx
  rcases List.mem_cons.1 hx with rfl | hx
  · exact hc
  · exact hcs x hx

theorem isDetached_nil : IsDetached [] := nofun

theorem isDetached_cons {b : Char} (hb : isBlank b = true) (cs : List Char) : IsDetached (b :: cs) := by
  intro c hc
  cases hc
  exact hb

theorem IsGap.detached {gap : List Char} (h : IsGap gap) : IsDetached gap := by
  cases gap with
  | nil => exact isDetached_nil
  | cons b gap => exact isDetached_cons (h b List.mem_cons_self) gap

/-! ## Words -/

/-- Words and a text that has them, in this order and with blanks around them. -/
inductive Spaced : List (List Char) → List Char → Prop
  | gap {gap : List Char} (hgap : IsGap gap) : Spaced [] gap
  | word {gap w rest : List Char} {ws : List (List Char)} (hgap : IsGap gap) (hne : w ≠ []) (hw : IsUnbroken w)
      (hrest : IsDetached rest) (hspaced : Spaced ws rest) : Spaced (w :: ws) (gap ++ (w ++ rest))

theorem Spaced.cons_blank {ws : List (List Char)} {cs : List Char} {b : Char} (hb : isBlank b = true)
    (h : Spaced ws cs) : Spaced ws (b :: cs) := by
  cases h with
  | gap hgap => exact .gap (hgap.cons hb)
  | word hgap hne hw hrest hspaced => exact .word (hgap.cons hb) hne hw hrest hspaced

/-- Every text has words. -/
theorem exists_spaced (cs : List Char) : ∃ ws, Spaced ws cs := by
  induction cs with
  | nil => exact ⟨[], .gap isGap_nil⟩
  | cons c cs ih =>
    obtain ⟨ws, h⟩ := ih
    by_cases hc : isBlank c = true
    · exact ⟨ws, h.cons_blank hc⟩
    · have hletter : isBlank c = false := by simpa using hc
      have hsingle : IsUnbroken [c] := IsUnbroken.cons hletter nofun
      -- the character is a word of its own, unless the next word begins right after it
      cases h with
      | gap hgap => exact ⟨_, .word isGap_nil (by simp) hsingle hgap.detached (.gap hgap)⟩
      | @word gap w rest ws hgap hne hw hrest hspaced =>
        cases gap with
        | nil => exact ⟨_, .word isGap_nil (by simp) (hw.cons hletter) hrest hspaced⟩
        | cons b gap =>
          have hdetached := isDetached_cons (hgap b List.mem_cons_self) (gap ++ (w ++ rest))
          exact ⟨_, .word isGap_nil (by simp) hsingle hdetached (.word hgap hne hw hrest hspaced)⟩

theorem words_append_blank {b : Char} (hb : isBlank b = true) (x y : List Char) :
    words (x ++ b :: y) = words x ++ words y := by
  unfold words
  rw [List.splitOnP_append_cons x y hb, List.filter_append]

theorem words_gap {gap : List Char} (h : IsGap gap) (cs : List Char) : words (gap ++ cs) = words cs := by
  induction gap with
  | nil => rfl
  | cons b gap ih =>
    have hrest : IsGap gap := fun c hc => h c (List.mem_cons_of_mem _ hc)
    rw [List.cons_append, ← ih hrest]
    exact words_append_blank (h b List.mem_cons_self) [] _

theorem words_unbroken {w : List Char} (hne : w ≠ []) (hw : IsUnbroken w) : words w = [w] := by
  unfold words
  rw [List.splitOnP_eq_singleton hw, List.filter_cons_of_pos (by simpa using hne), List.filter_nil]

theorem Spaced.words_eq {ws : List (List Char)} {cs : List Char} (h : Spaced ws cs) : words cs = ws := by
  induction h with
  | gap hgap =>
    have h := words_gap hgap []
    rw [List.append_nil] at h
    exact h
  | @word gap w rest ws hgap hne hw hrest hspaced ih =>
    rw [words_gap hgap]
    cases rest with
    | nil => rw [List.append_nil, words_unbroken hne hw, ← ih]; rfl
    | cons b rest =>
      have hb : isBlank b = true := hrest b rfl
      rw [words_append_blank hb, words_unbroken hne hw, ← ih]
      exact congrArg (w :: ·) (words_append_blank hb [] rest).symm

theorem spaced_iff {ws : List (List Char)} {cs : List Char} : Spaced ws cs ↔ ws = words cs := by
  constructor
  · intro h
    exact h.words_eq.symm
  · rintro rfl
    obtain ⟨ws, h⟩ := exists_spaced cs
    rw [h.words_eq]
    exact h

theorem Spaced.forall_mem {ws : List (List Char)} {cs : List Char} (h : Spaced ws cs) :
    ∀ w ∈ ws, w ≠ [] ∧ IsUnbroken w ∧ ∀ c ∈ w, c ∈ cs := by
  induction h with
  | gap hgap => simp
  | word hgap hne hw hrest hspaced ih =>
    intro v hv
    rcases List.mem_cons.1 hv with rfl | hv
    · exact ⟨hne, hw, fun c hc => by simp [hc]⟩
    · obtain ⟨hvne, hunbroken, hmem⟩ := ih v hv
      exact ⟨hvne, hunbroken, fun c hc => by simp [hmem c hc]⟩

/-- Words with one space between them. -/
theorem spaced_intercalate {ws : List (List Char)} (h : ∀ w ∈ ws, w ≠ [] ∧ IsUnbroken w) :
    Spaced ws ([' '].intercalate ws) := by
  induction ws with
  | nil => exact .gap isGap_nil
  | cons w ws ih =>
    obtain ⟨hne, hw⟩ := h w List.mem_cons_self
    have hspaced := ih fun v hv => h v (List.mem_cons_of_mem _ hv)
    cases ws with
    | nil => simpa using Spaced.word isGap_nil hne hw isDetached_nil (.gap isGap_nil)
    | cons v vs =>
      have hspace : isBlank ' ' = true := by decide
      have hword := Spaced.word isGap_nil hne hw (isDetached_cons hspace _) (hspaced.cons_blank hspace)
      rw [List.intercalate_cons_cons]
      simpa using hword

/-! ## Trimmed texts -/

/-- A text that neither begins nor ends with a blank. -/
structure IsTrimmed (cs : List Char) : Prop where
  first : ∀ c, cs.head? = some c → isBlank c = false
  last : ∀ c, cs.getLast? = some c → isBlank c = false

/-- A text and what it has between the blanks around it. -/
def Surrounds (outer inner : List Char) : Prop :=
  ∃ before after, IsGap before ∧ IsGap after ∧ outer = before ++ (inner ++ after)

theorem dropWhile_gap {gap : List Char} (h : IsGap gap) (cs : List Char) :
    (gap ++ cs).dropWhile isBlank = cs.dropWhile isBlank :=
  List.dropWhile_append_of_pos h

theorem dropWhile_first {cs : List Char} (h : ∀ c, cs.head? = some c → isBlank c = false) :
    cs.dropWhile isBlank = cs := by
  cases cs with
  | nil => rfl
  | cons c cs => rw [List.dropWhile_cons_of_neg (by simp [h c rfl])]

theorem not_isBlank_of_dropWhile {cs : List Char} {c : Char} (h : (cs.dropWhile isBlank).head? = some c) :
    isBlank c = false := by
  have hnot := List.head?_dropWhile_not isBlank cs
  rw [h] at hnot
  exact hnot

theorem isGap_takeWhile (cs : List Char) : IsGap (cs.takeWhile isBlank) :=
  List.all_eq_true.1 List.all_takeWhile

theorem IsGap.reverse {gap : List Char} (h : IsGap gap) : IsGap gap.reverse := by
  intro c hc
  exact h c (List.mem_reverse.1 hc)

theorem surrounds_trim (cs : List Char) : Surrounds cs (trim cs) := by
  have hafter := (isGap_takeWhile (cs.dropWhile isBlank).reverse).reverse
  refine ⟨_, _, isGap_takeWhile cs, hafter, ?_⟩
  unfold trim
  rw [← List.reverse_append, List.takeWhile_append_dropWhile, List.reverse_reverse, List.takeWhile_append_dropWhile]

theorem isTrimmed_trim (cs : List Char) : IsTrimmed (trim cs) := by
  constructor
  · intro c hc
    -- the first character is still there when the blanks behind the last one are gone
    have hprefix : trim cs <+: cs.dropWhile isBlank := by
      unfold trim
      rw [← List.reverse_suffix, List.reverse_reverse]
      exact List.dropWhile_suffix _
    obtain ⟨after, hafter⟩ := hprefix
    have hfirst : (cs.dropWhile isBlank).head? = some c := by
      rw [← hafter, List.head?_append, hc]
      rfl
    exact not_isBlank_of_dropWhile hfirst
  · intro c hc
    unfold trim at hc
    rw [List.getLast?_reverse] at hc
    exact not_isBlank_of_dropWhile hc

/-- There is one way to take the blanks off. -/
theorem trim_eq_iff {cs ds : List Char} : trim cs = ds ↔ IsTrimmed ds ∧ Surrounds cs ds := by
  constructor
  · rintro rfl
    exact ⟨isTrimmed_trim cs, surrounds_trim cs⟩
  · rintro ⟨htrimmed, before, after, hbefore, hafter, rfl⟩
    unfold trim
    rw [dropWhile_gap hbefore]
    cases ds with
    | nil =>
      have hnone := dropWhile_gap hafter []
      rw [List.append_nil] at hnone
      rw [List.nil_append, hnone]
      rfl
    | cons d ds =>
      have hfirst : ∀ c, (d :: ds ++ after).head? = some c → isBlank c = false := htrimmed.first
      have hlast : ∀ c, (d :: ds).reverse.head? = some c → isBlank c = false := by
        rw [List.head?_reverse]
        exact htrimmed.last
      rw [dropWhile_first hfirst, List.reverse_append, dropWhile_gap hafter.reverse, dropWhile_first hlast,
        List.reverse_reverse]

end SpriteScribe.Text
