/-
String literals stand for the text that they quote. The inside of a literal can be read back without knowing
what was quoted: a backslash begins an escape, and no quote, backslash or control character stands for
itself. Quoting puts one such escape, or a character that needs none, in the place of each character
(`Escaped`), so the inside has no quote that ends the literal early, does not end in the middle of an escape,
and is read back as the text.
-/
import SpriteScribe.Text.Quoted

namespace SpriteScribe.Text

/-! ## Reading the inside of a literal -/

/-- Whether a character is escaped by what stands before it: by a backslash that is not escaped itself. -/
def escapesNext (before : List Char) : Bool := before.foldl (fun escaped c => !escaped && c == '\\') false

/-- The escapes of one letter, with the characters that they stand for. -/
def letterEscapes : List (Char × Char) :=
  [('"', '"'), ('\\', '\\'), ('/', '/'), ('b', '\x08'), ('f', '\x0c'), ('n', '\n'), ('r', '\r'), ('t', '\t')]

/-- The value of a hexadecimal digit, in either case. -/
def hexValue? (c : Char) : Option Nat :=
  if c.isDigit then some (c.toNat - '0'.toNat)
  else if 'a' ≤ c && c ≤ 'f' then some (c.toNat - 'a'.toNat + 10)
  else if 'A' ≤ c && c ≤ 'F' then some (c.toNat - 'A'.toNat + 10)
  else none

/-- The character with a code of some hexadecimal digits, if there is one. -/
def codeEscape? (digits : List Char) : Option Char := do
  let values ← digits.mapM hexValue?
  let code := values.foldl (16 * · + ·) 0
  if code.isValidChar then some (Char.ofNat code) else none

/-- The text that the inside of a literal stands for, if it is one. -/
def unescape : List Char → Option (List Char)
  | [] => some []
  | '\\' :: 'u' :: a :: b :: c :: d :: rest =>
    (codeEscape? [a, b, c, d]).bind fun x => (unescape rest).map (x :: ·)
  | '\\' :: e :: rest => (letterEscapes.lookup e).bind fun x => (unescape rest).map (x :: ·)
  | c :: rest => if c = '"' ∨ c = '\\' ∨ c.toNat < 0x20 then none else (unescape rest).map (c :: ·)

/-! ## Escapes -/

/-- The hexadecimal digits that escapes are written with. -/
def hexDigits : List Char := "0123456789abcdef".toList

/-- What may stand for a character inside a literal. -/
inductive Escaped (c : Char) : List Char → Prop
  | plain : c ≠ '"' → c ≠ '\\' → 0x20 ≤ c.toNat → Escaped c [c]
  | letter {e : Char} : (e, c) ∈ letterEscapes → Escaped c ['\\', e]
  | code {high low : Char} : high ∈ hexDigits → low ∈ hexDigits →
      codeEscape? ['0', '0', high, low] = some c → Escaped c ['\\', 'u', '0', '0', high, low]

theorem digitChar_mem_hexDigits : ∀ n < 16, Nat.digitChar n ∈ hexDigits := by decide

theorem codeEscape?_control : ∀ n < 0x20,
    codeEscape? ['0', '0', Nat.digitChar (n / 16), Nat.digitChar (n % 16)] = some (Char.ofNat n) := by decide

theorem escape_escaped (c : Char) : Escaped c (escape c) := by
  unfold escape
  split
  case h_8 hquote hslash _ _ _ _ _ =>
    split
    · rename_i hcontrol
      refine .code (digitChar_mem_hexDigits _ (by omega)) (digitChar_mem_hexDigits _ (by omega)) ?_
      rw [codeEscape?_control c.toNat hcontrol, Char.ofNat_toNat]
    · rename_i hcontrol
      exact .plain hquote hslash (Nat.le_of_not_lt hcontrol)
  all_goals exact .letter (by decide)

theorem hexDigits_plain : ∀ x ∈ hexDigits, 0x20 ≤ x.toNat ∧ x ≠ '\\' ∧ x ≠ '"' := by
  have h : hexDigits.all (fun x => decide (0x20 ≤ x.toNat ∧ x ≠ '\\' ∧ x ≠ '"')) = true := by decide
  simpa only [List.all_eq_true, decide_eq_true_eq] using h

section Escaped

variable {c : Char} {cs : List Char} (h : Escaped c cs)

include h

theorem Escaped.not_control : ∀ x ∈ cs, 0x20 ≤ x.toNat := by
  have hletters : ∀ e ∈ letterEscapes, 0x20 ≤ e.1.toNat := by decide
  cases h with
  | plain _ _ hc => simpa using hc
  | letter he => simpa using hletters _ he
  | code hhigh hlow _ => simpa using ⟨(hexDigits_plain _ hhigh).1, (hexDigits_plain _ hlow).1⟩

/-- An escape is over at its end. -/
theorem Escaped.escapesNext_append (rest : List Char) : escapesNext (cs ++ rest) = escapesNext rest := by
  cases h with
  | plain _ hc _ => simp [escapesNext, beq_false_of_ne hc]
  | letter _ => simp [escapesNext]
  | code hhigh hlow _ =>
    simp [escapesNext, beq_false_of_ne (hexDigits_plain _ hhigh).2.1, beq_false_of_ne (hexDigits_plain _ hlow).2.1]

/-- A quote inside an escape is escaped by it. -/
theorem Escaped.escapesNext_of_quote {before after : List Char} (hcs : cs = before ++ '"' :: after) :
    escapesNext before = true := by
  cases h with
  | plain hc _ _ =>
    have hmem : '"' ∈ [c] := by rw [hcs]; simp
    exact absurd (List.mem_singleton.1 hmem).symm hc
  | @letter e _ =>
    obtain _ | ⟨x, before⟩ := before
    · cases hcs
    · obtain _ | ⟨y, before⟩ := before
      · cases hcs; rfl
      · simp at hcs
  | code hhigh hlow _ =>
    have hmem : '"' ∈ before ++ '"' :: after := by simp
    rw [← hcs] at hmem
    simp [(hexDigits_plain _ hhigh).2.2.symm, (hexDigits_plain _ hlow).2.2.symm] at hmem

theorem Escaped.unescape_append (rest : List Char) : unescape (cs ++ rest) = (unescape rest).map (c :: ·) := by
  have hletters : ∀ e ∈ letterEscapes, e.1 ≠ 'u' ∧ letterEscapes.lookup e.1 = some e.2 := by decide
  cases h with
  | plain hquote hslash hcontrol =>
    rw [List.singleton_append, unescape, if_neg]
    · simp only [not_or]
      exact ⟨hquote, hslash, Nat.not_lt.2 hcontrol⟩
    · intro _ _ _ _ _ heq; exact absurd heq hslash
    · intro _ _ heq; exact absurd heq hslash
  | letter he =>
    obtain ⟨hu, hlookup⟩ := hletters _ he
    rw [List.cons_append, List.singleton_append, unescape, hlookup]
    · rfl
    · intro _ _ _ _ _ heq; exact absurd heq hu
  | code _ _ hcode =>
    simp only [List.cons_append, List.nil_append]
    rw [unescape, hcode]
    rfl

end Escaped

/-! ## Literals -/

theorem toList_quote (s : String) : (quote s).toList = '"' :: s.toList.flatMap escape ++ ['"'] := by
  rw [quote, String.toList_ofList]

theorem not_control_of_mem_flatMap_escape {cs : List Char} : ∀ x ∈ cs.flatMap escape, 0x20 ≤ x.toNat := by
  intro x hx
  obtain ⟨c, -, hc⟩ := List.mem_flatMap.1 hx
  exact (escape_escaped c).not_control x hc

theorem escapesNext_flatMap_escape (cs : List Char) : escapesNext (cs.flatMap escape) = false := by
  induction cs with
  | nil => rfl
  | cons c cs ih => rw [List.flatMap_cons, (escape_escaped c).escapesNext_append, ih]

/-- Every quote inside a literal is escaped. -/
theorem escapesNext_of_quote_mem {cs before after : List Char} (h : cs.flatMap escape = before ++ '"' :: after) :
    escapesNext before = true := by
  induction cs generalizing before with
  | nil => simp at h
  | cons c cs ih =>
    rw [List.flatMap_cons] at h
    rcases List.append_eq_append_iff.1 h with ⟨more, rfl, hmore⟩ | ⟨more, hmore, hrest⟩
    · rw [(escape_escaped c).escapesNext_append]
      exact ih hmore
    · cases more with
      | nil =>
        -- the quote is the first character after the escape
        rw [List.append_nil] at hmore
        rw [← hmore, ← List.append_nil (escape c), (escape_escaped c).escapesNext_append]
        exact @ih [] hrest.symm
      | cons x more =>
        obtain ⟨rfl, -⟩ := List.cons.inj hrest
        exact (escape_escaped c).escapesNext_of_quote hmore

theorem unescape_flatMap_escape (cs : List Char) : unescape (cs.flatMap escape) = some cs := by
  induction cs with
  | nil => rfl
  | cons c cs ih => rw [List.flatMap_cons, (escape_escaped c).unescape_append, ih, Option.map_some]

theorem quote_injective : Function.Injective quote := by
  intro s t h
  have hlist := congrArg String.toList h
  rw [toList_quote, toList_quote] at hlist
  have hinside : s.toList.flatMap escape = t.toList.flatMap escape := List.append_cancel_right (List.cons.inj hlist).2
  have hread := unescape_flatMap_escape s.toList
  rw [hinside, unescape_flatMap_escape, Option.some.injEq] at hread
  exact String.toList_injective hread.symm

end SpriteScribe.Text
