/-
Lines of a text. A text put together with line ends has the lines of its parts, and of those only
the outer ones count for how a program is divided: lines that are neither empty nor indented. Outer
lines add up, empty lines between parts do not show, and an indented text has none.
-/
import SpriteScribe.Block.Render

namespace SpriteScribe.Text

/-! ## Lines of a text put together -/

theorem intercalate_append (sep : String) {xs ys : List String} (hx : xs ≠ []) (hy : ys ≠ []) :
    sep.intercalate (xs ++ ys) = sep.intercalate xs ++ sep ++ sep.intercalate ys := by
  obtain ⟨y, ys, rfl⟩ := List.exists_cons_of_ne_nil hy
  induction xs with
  | nil => exact absurd rfl hx
  | cons x xs ih =>
    cases xs with
    | nil => rw [List.singleton_append, String.intercalate_cons_cons, String.intercalate_singleton]
    | cons x' xs =>
      rw [List.cons_append, List.cons_append, String.intercalate_cons_cons, ← List.cons_append,
        ih (List.cons_ne_nil _ _), String.intercalate_cons_cons]
      simp only [String.append_assoc]

theorem newline_toList : "\n".toList = ['\n'] := rfl

theorem lines_append (a b : String) : lines (a ++ "\n" ++ b) = lines a ++ lines b := by
  unfold lines
  rw [String.toList_append, String.toList_append, newline_toList, List.append_assoc, List.singleton_append,
    List.splitOn_append_cons_self, List.map_append]

/-- An empty line between two texts. -/
theorem lines_append_blank (a b : String) : lines (a ++ "\n\n" ++ b) = lines a ++ "" :: lines b := by
  have h : a ++ "\n\n" ++ b = a ++ "\n" ++ ("" ++ "\n" ++ b) := by
    apply String.toList_injective; simp
  rw [h, lines_append, lines_append]
  rfl

theorem lines_of_not_mem {s : String} (h : '\n' ∉ s.toList) : lines s = [s] := by
  unfold lines
  rw [List.splitOn_eq_singleton h, List.map_singleton, String.ofList_toList]

/-- Texts without line ends that are joined by them are the lines of the whole. -/
theorem lines_intercalate {xs : List String} (hne : xs ≠ []) (h : ∀ x ∈ xs, '\n' ∉ x.toList) :
    lines ("\n".intercalate xs) = xs := by
  have hparts : ∀ cs ∈ xs.map String.toList, '\n' ∉ cs := by
    intro cs hcs
    obtain ⟨x, hx, rfl⟩ := List.mem_map.1 hcs
    exact h x hx
  unfold lines
  rw [String.toList_intercalate, newline_toList, List.splitOn_intercalate '\n' hparts (by simpa using hne),
    List.map_map]
  simp [Function.comp_def]

theorem not_mem_of_mem_splitOn (sep : Char) (cs : List Char) : ∀ x ∈ cs.splitOn sep, sep ∉ x := by
  induction cs with
  | nil => simp
  | cons c cs ih =>
    rw [List.splitOn_cons_eq_if_modifyHead]
    split
    · intro x hx
      rcases List.mem_cons.1 hx with rfl | hx
      · exact List.not_mem_nil
      · exact ih x hx
    · rename_i hc
      obtain ⟨y, ys, hy⟩ := List.exists_cons_of_ne_nil (List.splitOn_ne_nil sep cs)
      rw [hy] at ih ⊢
      intro x hx
      rcases List.mem_cons.1 hx with rfl | hx
      · rw [List.mem_cons, not_or]
        exact ⟨fun h => hc (by simp [h]), ih y List.mem_cons_self⟩
      · exact ih x (List.mem_cons_of_mem _ hx)

/-- There is one part more than there are separators. -/
theorem length_splitOn (sep : Char) (cs : List Char) : (cs.splitOn sep).length = cs.count sep + 1 := by
  induction cs with
  | nil => rfl
  | cons c cs ih =>
    rw [List.splitOn_cons_eq_if_modifyHead, List.count_cons]
    split
    · rw [List.length_cons, ih]
    · rw [List.length_modifyHead, ih, Nat.add_zero]

/-- No line holds a line end. -/
theorem not_mem_of_mem_lines {s l : String} (h : l ∈ lines s) : '\n' ∉ l.toList := by
  obtain ⟨x, hx, rfl⟩ := List.mem_map.1 h
  rw [String.toList_ofList]
  exact not_mem_of_mem_splitOn '\n' _ x hx

/-- Indented lines: a tab, and then a line of one of the texts. -/
theorem exists_of_mem_indent {texts : List String} {l : String} (h : l ∈ texts.flatMap indent) :
    ∃ s ∈ texts, ∃ x ∈ lines s, l.toList = '\t' :: x.toList := by
  obtain ⟨s, hs, hl⟩ := List.mem_flatMap.1 h
  obtain ⟨x, hx, rfl⟩ := List.mem_map.1 hl
  exact ⟨s, hs, x, hx, by rw [String.toList_append]; rfl⟩

theorem head?_of_mem_indent {texts : List String} {l : String} (h : l ∈ texts.flatMap indent) :
    l.toList.head? = some '\t' := by
  obtain ⟨s, -, x, -, hl⟩ := exists_of_mem_indent h
  rw [hl, List.head?_cons]

theorem not_mem_of_mem_indent {texts : List String} {l : String} (h : l ∈ texts.flatMap indent) :
    '\n' ∉ l.toList := by
  obtain ⟨s, -, x, hx, hl⟩ := exists_of_mem_indent h
  rw [hl, List.mem_cons, not_or]
  exact ⟨by decide, not_mem_of_mem_lines hx⟩

/-! ## Outer lines -/

/-- Whether a line is neither empty nor indented. -/
def isOuter (l : String) : Bool := !l.toList.isEmpty && l.toList.head? != some '\t'

/-- The outer lines of a text. -/
def outerLines (s : String) : List String := (lines s).filter isOuter

theorem outerLines_append (a b : String) : outerLines (a ++ "\n" ++ b) = outerLines a ++ outerLines b := by
  unfold outerLines; rw [lines_append, List.filter_append]

@[simp] theorem outerLines_empty : outerLines "" = [] := rfl

theorem outerLines_of_isOuter {s : String} (h : '\n' ∉ s.toList) (ho : isOuter s = true) : outerLines s = [s] := by
  unfold outerLines
  rw [lines_of_not_mem h, List.filter_cons_of_pos ho]; rfl

/-- An empty line between two texts does not show. -/
theorem outerLines_append_blank (a b : String) : outerLines (a ++ "\n\n" ++ b) = outerLines a ++ outerLines b := by
  unfold outerLines
  rw [lines_append_blank, List.filter_append, List.filter_cons_of_neg (by decide)]

theorem outerLines_intercalate_blank :
    ∀ xs : List String, outerLines ("\n\n".intercalate xs) = xs.flatMap outerLines
  | [] => rfl
  | [x] => by simp
  | x :: y :: xs => by
    rw [String.intercalate_cons_cons, outerLines_append_blank, outerLines_intercalate_blank (y :: xs)]; rfl

/-- Indented texts have no outer lines, whatever they were before. -/
theorem filter_isOuter_indent (texts : List String) : (texts.flatMap indent).filter isOuter = [] := by
  rw [List.filter_eq_nil_iff]
  intro l hl
  simp [isOuter, head?_of_mem_indent hl]

end SpriteScribe.Text
