/-
Which argument a number in a template names, however many zeros it begins with and however large it is. A
number never stands for another one: it names the argument it denotes, or none.
-/
import SpriteScribe.Proofs.Block.Boundaries
import SpriteScribe.Proofs.Block.Substitution

namespace SpriteScribe

open SpriteScribe.Text

/-! ## The number in a placeholder -/

namespace Hole

theorem isDecimalDigit_of_isDigit {c : Char} (h : c.isDigit = true) : isDecimalDigit c = true := by
  obtain ⟨hlo, hhi⟩ := Char.isDigit_iff_toNat.1 h
  have hrange : (decide (0x30 ≤ c.toNat) && decide (c.toNat ≤ 0x39)) = true := by simp; exact ⟨hlo, hhi⟩
  exact List.any_eq_true.2 ⟨(0x30, 0x39), List.mem_cons_self, hrange⟩

/-- A `$` and digits are a placeholder without letters. -/
theorem leads_digits {run : List Char} (hne : run ≠ []) (hd : ∀ c ∈ run, isDecimalDigit c = true) :
    (Hole.mk [] run).Leads ((Hole.mk [] run).source ++ []) := by
  refine ⟨[], rfl, ⟨nofun, fun c hc => ?_⟩, ⟨hd, nofun⟩, hne⟩
  rw [List.append_nil] at hc
  have hdigit := hd c (List.mem_of_mem_head? hc)
  by_contra halpha
  rw [isDecimalDigit_of_isAlpha (by simpa using halpha)] at hdigit
  cases hdigit

end Hole

theorem substitute_digits {run : List Char} (hne : run ≠ []) (hd : ∀ c ∈ run, isDecimalDigit c = true)
    (args : List Arg) :
    substitute (String.ofList ('$' :: run)) args = (Hole.mk [] run).placeholder.resolve (operands args) := by
  have hsource : (String.ofList ('$' :: run)).toList = (Hole.mk [] run).source ++ [] := by simp [Hole.source]
  rw [substitute, fill, Piece.ofTemplate, hsource, Piece.scan_hole (Hole.leads_digits hne hd)]
  simp [Piece.scan, Piece.fill]

theorem Placeholder.resolve_eq_undefined {p : Placeholder} {args : List Arg}
    (h : p.index = 0 ∨ args.length < p.index) : p.resolve (operands args) = "undefined" := by
  cases hp : p.index with
  | zero =>
    unfold Placeholder.resolve
    rw [hp]
    rfl
  | succ i =>
    have hlen : args.length ≤ i := by omega
    rw [Placeholder.resolve_operands hp, List.getElem?_eq_none hlen]
    rfl

/-- What a `$` followed by digits is replaced by. If these are the usual ones, as many as there may be, it is the
argument whose number they denote, written as an expression, and `undefined` if there is no such argument, for
every list of arguments that a word can count. With a digit of another script among them it is `undefined`. -/
theorem substitute_number (run : List Char) (hne : run ≠ []) :
    ((∀ c ∈ run, c.isDigit = true) → ∀ args : List Arg, args.length < 2 ^ 64 →
      substitute (String.ofList ('$' :: run)) args =
        if h : 1 ≤ Nat.ofDigitChars 10 run 0 ∧ Nat.ofDigitChars 10 run 0 ≤ args.length then
          args[Nat.ofDigitChars 10 run 0 - 1].render .expression
        else "undefined") ∧
    ((∀ c ∈ run, isDecimalDigit c = true) → (∃ c ∈ run, c.isDigit = false) → ∀ args : List Arg,
      substitute (String.ofList ('$' :: run)) args = "undefined") := by
  constructor
  · intro hd args hargs
    rw [substitute_digits hne fun c hc => Hole.isDecimalDigit_of_isDigit (hd c hc)]
    split
    · rename_i hn
      have hindex : (Hole.mk [] run).placeholder.index = Nat.ofDigitChars 10 run 0 - 1 + 1 := by
        rw [Nat.sub_add_cancel hn.1]
        exact Hole.index_of_lt hd (Nat.lt_of_le_of_lt hn.2 hargs)
      rw [Placeholder.resolve_operands hindex, List.getElem?_eq_getElem (by omega)]
      rfl
    · rename_i hn
      -- a number that exceeds the arguments may or may not be one that a word can hold
      apply Placeholder.resolve_eq_undefined
      by_cases hlt : Nat.ofDigitChars 10 run 0 < 2 ^ 64
      · have hindex : (Hole.mk [] run).placeholder.index = Nat.ofDigitChars 10 run 0 := Hole.index_of_lt hd hlt
        omega
      · exact .inl (Hole.index_eq_zero fun hread => hlt hread.2)
  · rintro hd ⟨c, hc, hforeign⟩ args
    rw [substitute_digits hne hd]
    refine Placeholder.resolve_eq_undefined (.inl (Hole.index_eq_zero ?_))
    rintro ⟨hall, -⟩
    rw [hall c hc] at hforeign
    cases hforeign

/-- More zeros than a word has digits, a number that would be one if it were cut down to a word, and a digit of
another script. -/
theorem substitute_number_boundaries :
    substitute (String.ofList ('$' :: "0000000000000000000000002".toList)) [.literal "a", .literal "b"] = "b" ∧
    substitute (String.ofList ('$' :: "18446744073709551617".toList)) [.literal "a", .literal "b"] = "undefined" ∧
    substitute (String.ofList ('$' :: "1٢".toList)) [.literal "a", .literal "b"] = "undefined" := by
  have hzeros : "0000000000000000000000002".toList.all Char.isDigit = true := by decide
  have hlarge : "18446744073709551617".toList.all Char.isDigit = true := by decide
  have hforeign : "1٢".toList.all isDecimalDigit = true := by decide
  refine ⟨?_, ?_, ?_⟩
  · exact (substitute_number _ (by decide)).1 (List.all_eq_true.1 hzeros) _ (by decide)
  · exact (substitute_number _ (by decide)).1 (List.all_eq_true.1 hlarge) _ (by decide)
  · exact (substitute_number _ (by decide)).2 (List.all_eq_true.1 hforeign) ⟨'٢', by decide, by decide⟩ _

end SpriteScribe
