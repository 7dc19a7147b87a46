/-
Lookups in tables, which are lists of keys with their values. A lookup gives the value of the first row with
the key, so what it finds is a row, and rows that are left out do not show under the keys that stay.
-/

namespace SpriteScribe

theorem mem_of_lookup {α β : Type} [BEq α] [LawfulBEq α] {key : α} {value : β} {rows : List (α × β)}
    (h : rows.lookup key = some value) : (key, value) ∈ rows := by
  obtain ⟨before, after, hrows, -⟩ := List.lookup_eq_some_iff.1 h
  rw [hrows]
  simp

theorem lookup_filter_key {α β : Type} [BEq α] [LawfulBEq α] {p : α → Bool} {key : α} (hkey : p key = true)
    (rows : List (α × β)) : (rows.filter fun row => p row.1).lookup key = rows.lookup key := by
  induction rows with
  | nil => rfl
  | cons row rows ih =>
    obtain ⟨k, value⟩ := row
    by_cases hk : key = k
    · subst hk
      simp [hkey]
    · have hne : (key == k) = false := by simpa using hk
      by_cases hp : p k = true <;> simp [hp, List.lookup_cons, hne, ih]

end SpriteScribe
