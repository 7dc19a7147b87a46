/-
Brackets in a text. A text is well nested if every bracket in it is closed by its own kind, with a well
nested text between the two (`WellNested`). This is decided by going through the text once and keeping
the closing brackets that are awaited (`awaiting`), which a well nested text leaves as they were. Only
brackets count for it, so it does not matter how the lines of a text are indented, what is set between
texts, or how a text is quoted.
-/
import SpriteScribe.Block.Render
import SpriteScribe.Proofs.Lookup

namespace SpriteScribe.Text

/-! ## Nesting -/

/-- Opening brackets with those that close them. -/
def bracketPairs : List (Char × Char) := [('(', ')'), ('[', ']'), ('\x7b', '\x7d')]

def isBracket (c : Char) : Bool := bracketPairs.any fun p => p.1 == c || p.2 == c

inductive WellNested : List Char → Prop
  | nil : WellNested []
  | plain {c : Char} {cs : List Char} : isBracket c = false → WellNested cs → WellNested (c :: cs)
  | pair {o c : Char} {inner rest : List Char} : (o, c) ∈ bracketPairs → WellNested inner → WellNested rest →
      WellNested (o :: (inner ++ c :: rest))

/-- One character, with the closing brackets that are awaited before and after it, innermost first. -/
def await (awaited : List Char) (c : Char) : Option (List Char) :=
  match bracketPairs.lookup c with
  | some closing => some (closing :: awaited)
  | none =>
    if isBracket c then
      match awaited with
      | [] => none
      | d :: rest => if c = d then some rest else none
    else some awaited

/-- The closing brackets that are awaited after a text, unless one in it closes nothing. -/
def awaiting (awaited cs : List Char) : Option (List Char) := cs.foldlM await awaited

theorem await_plain {c : Char} (h : isBracket c = false) (st : List Char) : await st c = some st := by
  have hopen : bracketPairs.lookup c = none := by
    rw [List.lookup_eq_none_iff]
    intro p hp
    have := List.any_eq_false.1 h p hp
    simp only [Bool.or_eq_true, beq_iff_eq, not_or] at this
    simpa using fun hc => this.1 hc.symm
  unfold await
  rw [hopen, h]
  rfl

theorem await_open {o c : Char} (h : (o, c) ∈ bracketPairs) (st : List Char) : await st o = some (c :: st) := by
  simp only [bracketPairs, List.mem_cons, Prod.mk.injEq, List.not_mem_nil, or_false] at h
  obtain ⟨rfl, rfl⟩ | ⟨rfl, rfl⟩ | ⟨rfl, rfl⟩ := h <;> rfl

theorem await_close {o c : Char} (h : (o, c) ∈ bracketPairs) (st : List Char) : await (c :: st) c = some st := by
  simp only [bracketPairs, List.mem_cons, Prod.mk.injEq, List.not_mem_nil, or_false] at h
  obtain ⟨rfl, rfl⟩ | ⟨rfl, rfl⟩ | ⟨rfl, rfl⟩ := h <;> rfl

/-- What a character can be: no bracket, one that opens, or the closing one that is awaited next. -/
theorem await_eq_some {st st' : List Char} {c : Char} (h : await st c = some st') :
    (isBracket c = false ∧ st' = st) ∨ (∃ d, (c, d) ∈ bracketPairs ∧ st' = d :: st) ∨ st = c :: st' := by
  unfold await at h
  split at h
  · rename_i d hd
    cases h
    exact .inr (.inl ⟨d, mem_of_lookup hd, rfl⟩)
  · split at h
    · split at h
      · cases h
      · split at h
        · rename_i hcd
          cases h
          exact .inr (.inr (by rw [hcd]))
        · cases h
    · rename_i hb
      cases h
      exact .inl ⟨by simpa using hb, rfl⟩

@[simp] theorem awaiting_nil (st : List Char) : awaiting st [] = some st := rfl

theorem awaiting_cons (st : List Char) (c : Char) (cs : List Char) :
    awaiting st (c :: cs) = (await st c).bind fun st' => awaiting st' cs := rfl

theorem awaiting_append (st a b : List Char) :
    awaiting st (a ++ b) = (awaiting st a).bind fun st' => awaiting st' b := by
  unfold awaiting; rw [List.foldlM_append]; rfl

/-- A well nested text leaves open what was open before it. -/
theorem WellNested.awaiting {cs : List Char} (h : WellNested cs) (st : List Char) : Text.awaiting st cs = some st := by
  induction h generalizing st with
  | nil => rfl
  | plain hc _ ih => rw [awaiting_cons, await_plain hc, Option.bind_some, ih]
  | pair hp _ _ ihin ihrest =>
    rw [awaiting_cons, await_open hp, Option.bind_some, awaiting_append, ihin, Option.bind_some, awaiting_cons,
      await_close hp, Option.bind_some, ihrest]

theorem WellNested.append {a b : List Char} (ha : WellNested a) (hb : WellNested b) : WellNested (a ++ b) := by
  induction ha with
  | nil => exact hb
  | plain hc _ ih => exact .plain hc ih
  | pair hp hin _ _ ih =>
    rw [List.cons_append, List.append_assoc, List.cons_append]
    exact .pair hp hin ih

/-- A text that closes brackets, in this order, and is well nested before each of them and at its end. -/
def Closes : List Char → List Char → Prop
  | [], cs => WellNested cs
  | d :: st, cs => ∃ inner rest, cs = inner ++ d :: rest ∧ WellNested inner ∧ Closes st rest

theorem Closes.prepend {a b st : List Char} (ha : WellNested a) (hb : Closes st b) : Closes st (a ++ b) := by
  cases st with
  | nil => exact ha.append hb
  | cons d st =>
    obtain ⟨inner, rest, rfl, hin, hrest⟩ := hb
    exact ⟨a ++ inner, rest, (List.append_assoc ..).symm, ha.append hin, hrest⟩

theorem closes_of_awaiting {st cs : List Char} (h : awaiting st cs = some []) : Closes st cs := by
  induction cs generalizing st with
  | nil => cases h; exact .nil
  | cons c cs ih =>
    rw [awaiting_cons, Option.bind_eq_some_iff] at h
    obtain ⟨st', hc, h⟩ := h
    have hrest := ih h
    obtain ⟨hplain, rfl⟩ | ⟨d, hp, rfl⟩ | rfl := await_eq_some hc
    · exact hrest.prepend (a := [c]) (.plain hplain .nil)
    · -- what is up to the bracket that closes this one is a pair, before the rest
      obtain ⟨inner, rest, rfl, hin, hrest⟩ := hrest
      have hpair : WellNested (c :: (inner ++ [d])) := .pair hp hin .nil
      simpa using hrest.prepend hpair
    · exact ⟨[], cs, rfl, .nil, hrest⟩

theorem wellNested_iff {cs : List Char} : WellNested cs ↔ awaiting [] cs = some [] :=
  ⟨fun h => h.awaiting [], fun h => closes_of_awaiting h⟩

instance (cs : List Char) : Decidable (WellNested cs) := decidable_of_iff _ wellNested_iff.symm

/-! ## Texts put together -/

theorem wellNested_of_noBracket {cs : List Char} (h : cs.all (!isBracket ·) = true) : WellNested cs := by
  induction cs with
  | nil => exact .nil
  | cons c cs ih =>
    rw [List.all_cons, Bool.and_eq_true, Bool.not_eq_true'] at h
    exact .plain h.1 (ih h.2)

theorem WellNested.wrap {o c : Char} {cs : List Char} (hp : (o, c) ∈ bracketPairs) (h : WellNested cs) :
    WellNested (o :: (cs ++ [c])) := .pair hp h .nil

/-- The closing brackets that are awaited after several texts. -/
def awaitingAll (awaited : List Char) (xs : List String) : Option (List Char) :=
  xs.foldlM (fun st x => awaiting st x.toList) awaited

theorem awaitingAll_cons (st : List Char) (x : String) (xs : List String) :
    awaitingAll st (x :: xs) = (awaiting st x.toList).bind fun st' => awaitingAll st' xs := rfl

theorem awaitingAll_append (st : List Char) (xs ys : List String) :
    awaitingAll st (xs ++ ys) = (awaitingAll st xs).bind fun st' => awaitingAll st' ys := by
  unfold awaitingAll; rw [List.foldlM_append]; rfl

/-- Texts that are well nested, each by itself. -/
def AllNested (xs : List String) : Prop := ∀ x ∈ xs, WellNested x.toList

theorem AllNested.of_append {ts us : List String} (h : AllNested (ts ++ us)) : AllNested ts ∧ AllNested us :=
  ⟨fun t ht => h t (List.mem_append_left _ ht), fun t ht => h t (List.mem_append_right _ ht)⟩

theorem AllNested.cons {t : String} {ts : List String} (h : WellNested t.toList) (hs : AllNested ts) :
    AllNested (t :: ts) := by
  intro x hx
  rcases List.mem_cons.1 hx with rfl | hx
  · exact h
  · exact hs x hx

theorem AllNested.append {ts us : List String} (ht : AllNested ts) (hu : AllNested us) : AllNested (ts ++ us) := by
  intro x hx
  rcases List.mem_append.1 hx with hx | hx
  · exact ht x hx
  · exact hu x hx

theorem AllNested.awaitingAll {xs : List String} (h : AllNested xs) (st : List Char) :
    Text.awaitingAll st xs = some st := by
  induction xs with
  | nil => rfl
  | cons x xs ih =>
    rw [awaitingAll_cons, (h x List.mem_cons_self).awaiting]
    exact ih fun y hy => h y (List.mem_cons_of_mem _ hy)

/-- What stands between texts opens and closes nothing. -/
theorem awaiting_intercalate {sep : String} (hsep : WellNested sep.toList) :
    ∀ (st : List Char) (xs : List String), awaiting st (sep.intercalate xs).toList = awaitingAll st xs
  | st, [] => rfl
  | st, [x] => by
    rw [String.intercalate_singleton, awaitingAll_cons]
    cases awaiting st x.toList <;> rfl
  | st, x :: y :: xs => by
    rw [String.intercalate_cons_cons, String.toList_append, String.toList_append, awaiting_append, awaiting_append,
      awaitingAll_cons]
    cases awaiting st x.toList with
    | none => rfl
    | some st' =>
      rw [Option.bind_some, hsep.awaiting, Option.bind_some, awaiting_intercalate hsep st' (y :: xs)]
      rfl

theorem wellNested_intercalate {sep : String} (hsep : WellNested sep.toList) {xs : List String} (h : AllNested xs) :
    WellNested (sep.intercalate xs).toList := by
  rw [wellNested_iff, awaiting_intercalate hsep, h.awaitingAll]

/-- The lines of a text with line ends between them are the text. -/
theorem intercalate_lines (s : String) : "\n".intercalate (lines s) = s := by
  apply String.toList_injective
  rw [String.toList_intercalate, lines, List.map_map]
  have hid : String.toList ∘ String.ofList = id := by funext cs; simp
  rw [hid, List.map_id]
  exact List.intercalate_splitOn '\n'

/-- Indented or not, a text opens and closes the same. -/
theorem awaitingAll_indent (st : List Char) (s : String) : awaitingAll st (indent s) = awaiting st s.toList := by
  have htab : ∀ (st : List Char) (x : String), awaiting st ("\t" ++ x).toList = awaiting st x.toList := by
    intro st x
    rw [String.toList_append, awaiting_append]
    rfl
  have hend : WellNested "\n".toList := by decide
  rw [indent, awaitingAll, List.foldlM_map]
  simp only [htab]
  rw [← awaitingAll, ← awaiting_intercalate hend, intercalate_lines]

/-! ## Quoted text -/

theorem isBracket_digitChar : ∀ n < 16, isBracket (Nat.digitChar n) = false := by decide

theorem isBracket_of_control {c : Char} (h : c.toNat < 0x20) : isBracket c = false := by
  have hall : bracketPairs.all (fun p => 0x20 ≤ p.1.toNat && 0x20 ≤ p.2.toNat) = true := by decide
  unfold isBracket
  rw [List.any_eq_false]
  intro p hp hc
  have hp := List.all_eq_true.1 hall p hp
  simp only [Bool.and_eq_true, decide_eq_true_eq, Bool.or_eq_true, beq_iff_eq] at hp hc
  obtain rfl | rfl := hc <;> omega

/-- A character stands for itself as far as brackets go, escaped or not. -/
theorem awaiting_escape (st : List Char) (c : Char) : awaiting st (escape c) = await st c := by
  unfold escape
  split
  case h_8 =>
    split
    · rename_i hcontrol
      have hhigh := isBracket_digitChar (c.toNat / 16) (by omega)
      have hlow := isBracket_digitChar (c.toNat % 16) (by omega)
      rw [await_plain (isBracket_of_control hcontrol)]
      refine WellNested.awaiting (wellNested_of_noBracket ?_) st
      simp only [List.all_cons, hhigh, hlow]
      rfl
    · rw [awaiting_cons]
      cases await st c <;> rfl
  all_goals rfl

theorem awaiting_flatMap_escape (st cs : List Char) : awaiting st (cs.flatMap escape) = awaiting st cs := by
  induction cs generalizing st with
  | nil => rfl
  | cons c cs ih =>
    rw [List.flatMap_cons, awaiting_append, awaiting_escape, awaiting_cons]
    simp only [ih]

/-- Quoting leaves the brackets of a text as they are, and adds none. -/
theorem wellNested_quote {s : String} (h : WellNested s.toList) : WellNested (quote s).toList := by
  have hmiddle : WellNested (s.toList.flatMap escape) := by
    rw [wellNested_iff, awaiting_flatMap_escape]
    exact h.awaiting []
  rw [quote, String.toList_ofList, List.cons_append]
  exact .plain (by decide) (hmiddle.append (.plain (by decide) .nil))

end SpriteScribe.Text
