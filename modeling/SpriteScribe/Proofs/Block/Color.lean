/-
Colours as they are read and written. A colour that was read is in a normal form: its components are the parts
between the commas, without the blanks around them. It is written with a comma and a space between the components,
and what stands between the parentheses there is read as the same colour again.
-/
import Mathlib.Data.List.Forall2
import SpriteScribe.Proofs.Text.Lines
import SpriteScribe.Proofs.Text.Words

namespace SpriteScribe

open SpriteScribe.Text

namespace Color

/-- A colour that can be told from its text: there is a component, and none of them has a comma or blanks at its
ends. -/
structure IsNormal (c : Color) : Prop where
  nonempty : c.components ≠ []
  noComma : ∀ x ∈ c.components, ',' ∉ x.toList
  trimmed : ∀ x ∈ c.components, IsTrimmed x.toList

/-! ## Reading -/

theorem components_parse (raw : String) :
    (parse raw).components.map String.toList = (raw.toList.splitOn ',').map trim := by
  simp [parse, Function.comp_def]

/-- Each component is the part of the text between two commas, without the blanks around it. -/
theorem surrounds_components (raw : String) :
    List.Forall₂ Surrounds (raw.toList.splitOn ',') ((parse raw).components.map String.toList) := by
  rw [components_parse, List.forall₂_map_right_iff, List.forall₂_same]
  intro part _
  exact surrounds_trim part

theorem exists_part_of_mem {raw x : String} (h : x ∈ (parse raw).components) :
    ∃ part ∈ raw.toList.splitOn ',', x.toList = trim part := by
  have hmem := List.mem_map_of_mem (f := String.toList) h
  rw [components_parse] at hmem
  obtain ⟨part, hpart, htrim⟩ := List.mem_map.1 hmem
  exact ⟨part, hpart, htrim.symm⟩

theorem isNormal_parse (raw : String) : (parse raw).IsNormal where
  nonempty := by
    intro hnil
    have hlength := congrArg List.length (components_parse raw)
    rw [hnil, List.length_map, List.length_map, length_splitOn] at hlength
    simp at hlength
  noComma x hx hcomma := by
    obtain ⟨part, hpart, htrim⟩ := exists_part_of_mem hx
    obtain ⟨before, after, -, -, hsurrounds⟩ := surrounds_trim part
    rw [htrim] at hcomma
    apply not_mem_of_mem_splitOn ',' _ part hpart
    rw [hsurrounds]
    simp [hcomma]
  trimmed x hx := by
    obtain ⟨part, -, htrim⟩ := exists_part_of_mem hx
    rw [htrim]
    exact isTrimmed_trim part

/-! ## Writing -/

/-- Parts that are joined by a comma and a space are joined by a comma, with a space before each later one. -/
theorem intercalate_comma_space (part : List Char) (parts : List (List Char)) :
    [',', ' '].intercalate (part :: parts) = [','].intercalate (part :: parts.map (' ' :: ·)) := by
  induction parts generalizing part with
  | nil => rfl
  | cons next parts ih =>
    rw [List.intercalate_cons_cons, ih next, List.map_cons, List.intercalate_cons_cons]
    cases parts with
    | nil => simp
    | cons _ _ => simp [List.intercalate_cons_cons]

theorem trim_space {cs : List Char} (h : IsTrimmed cs) : trim (' ' :: cs) = cs := by
  have hspace : IsGap [' '] := by simp [IsGap]; decide
  exact trim_eq_iff.2 ⟨h, [' '], [], hspace, by simp [IsGap], by simp⟩

theorem trim_trimmed {cs : List Char} (h : IsTrimmed cs) : trim cs = cs :=
  trim_eq_iff.2 ⟨h, [], [], by simp [IsGap], by simp [IsGap], by simp⟩

/-- What is written for the components of a normal colour is read as this colour. -/
theorem parse_commaSeparated {c : Color} (h : c.IsNormal) : parse (commaSeparated c.components) = c := by
  obtain ⟨components⟩ := c
  obtain ⟨hne, hcomma, htrimmed⟩ := h
  obtain ⟨x, xs, rfl⟩ := List.exists_cons_of_ne_nil hne
  have htext : (commaSeparated (x :: xs)).toList =
      [','].intercalate (x.toList :: (xs.map String.toList).map (' ' :: ·)) := by
    rw [← intercalate_comma_space, ← List.map_cons]
    exact String.toList_intercalate
  have hparts : ∀ part ∈ x.toList :: (xs.map String.toList).map (' ' :: ·), ',' ∉ part := by
    intro part hpart
    rcases List.mem_cons.1 hpart with rfl | hpart
    · exact hcomma x List.mem_cons_self
    · rw [List.map_map] at hpart
      obtain ⟨y, hy, rfl⟩ := List.mem_map.1 hpart
      simpa using hcomma y (List.mem_cons_of_mem _ hy)
  have hlater : xs.map (fun y => String.ofList (trim (' ' :: y.toList))) = xs := by
    conv => rhs; rw [← List.map_id' xs]
    apply List.map_congr_left
    intro y hy
    rw [trim_space (htrimmed y (List.mem_cons_of_mem _ hy)), String.ofList_toList]
  unfold parse
  rw [htext, List.splitOn_intercalate ',' hparts (List.cons_ne_nil _ _), List.map_cons,
    trim_trimmed (htrimmed x List.mem_cons_self), String.ofList_toList, List.map_map, List.map_map]
  exact congrArg (fun ys => Color.mk (x :: ys)) hlater

theorem render_eq_iff (c : Color) (text : String) :
    c.render = "new Color(" ++ text ++ ")" ↔ text = commaSeparated c.components := by
  unfold render
  constructor
  · intro h
    have hlist := congrArg String.toList h
    simp only [String.toList_append, List.append_cancel_right_eq, List.append_cancel_left_eq] at hlist
    exact (String.toList_injective hlist).symm
  · rintro rfl
    rfl

/-- Reading a colour leaves a normal form, which writing keeps. There is one component more than there are commas.
Each is what stands between two commas without the blanks around it, so that it has no comma and neither begins
nor ends with a blank. What is written between the parentheses is read as the same colour. -/
theorem parse_normal_form (raw : String) :
    (parse raw).components.length = raw.toList.count ',' + 1 ∧
    List.Forall₂ Surrounds (raw.toList.splitOn ',') ((parse raw).components.map String.toList) ∧
    (∀ x ∈ (parse raw).components, ',' ∉ x.toList ∧ IsTrimmed x.toList) ∧
    ∃ inner, (∀ text, (parse raw).render = "new Color(" ++ text ++ ")" ↔ text = inner) ∧ parse inner = parse raw := by
  have hnormal := isNormal_parse raw
  have hparts := surrounds_components raw
  refine ⟨?_, hparts, fun x hx => ⟨hnormal.noComma x hx, hnormal.trimmed x hx⟩, _, render_eq_iff _,
    parse_commaSeparated hnormal⟩
  rw [← length_splitOn, hparts.length_eq, List.length_map]

/-- A colour with an empty component and with parentheses, and with blanks of several kinds. -/
def raggedColor : String := " 255,\u3000\t12(,), ,x y"

theorem parse_normal_form_ragged :
    "12(" ∈ (parse raggedColor).components ∧ ',' ∉ "12(".toList ∧ IsTrimmed "12(".toList ∧
    (parse raggedColor).render = "new Color(" ++ "255, 12(, ), , x y" ++ ")" ∧
    parse "255, 12(, ), , x y" = parse raggedColor := by
  have hmem : "12(" ∈ (parse raggedColor).components := by decide +kernel
  have hrender : (parse raggedColor).render = "new Color(" ++ "255, 12(, ), , x y" ++ ")" := by decide +kernel
  obtain ⟨-, -, hcomponents, inner, hinner, hparse⟩ := parse_normal_form raggedColor
  obtain ⟨hcomma, htrimmed⟩ := hcomponents _ hmem
  rw [← (hinner _).1 hrender] at hparse
  exact ⟨hmem, hcomma, htrimmed, hrender, hparse⟩

end Color

end SpriteScribe
