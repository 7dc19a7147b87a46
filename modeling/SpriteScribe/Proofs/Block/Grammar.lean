/-
A grammar for the expressions of program text: names, member access and calls, negation, and the
binary operators with their precedences, all of them grouping to the left. The grammar is read off
its productions (`Derives`), with a production for each way in which an expression can be spelled,
and it is unambiguous: a sequence of tokens is read as one tree at most.

The proof compares two derivations of the same tokens by what is at their surface, outside all
parentheses. An operator of the grammar's current level is at the surface of the whole and not at the
surface of its right operand, so it can only be the last one of that level.
-/
import Mathlib.Data.List.Basic

namespace SpriteScribe.Grammar

/-! ## Tokens and trees -/

/-- A binary operator. -/
inductive Operator where
  | or
  | and
  | eq
  | lt
  | gt
  | add
  | sub
  | mul
  | div
  | mod
deriving DecidableEq, Repr

/-- How tightly an operator binds. -/
def Operator.level : Operator → Nat
  | .or => 0
  | .and => 1
  | .eq => 2
  | .lt | .gt => 3
  | .add | .sub => 4
  | .mul | .div | .mod => 5

inductive Token where
  | word (w : List Char)
  | op (o : Operator)
  | bang
  | dot
  | comma
  | lparen
  | rparen
deriving DecidableEq, Repr

/-- What an expression says. Parentheses only group, so they leave no trace in it. -/
inductive Tree where
  | name (w : List Char)
  | member (e : Tree) (w : List Char)
  | call (e : Tree) (args : List Tree)
  | not (e : Tree)
  | binary (o : Operator) (l r : Tree)

/-! ## Productions -/

mutual

/-- The tokens that an expression is spelled with at a level: the levels up to 5 are those of the
binary operators, 6 is that of negation, 7 that of calls and member access, and 8 that of names and
of anything in parentheses. -/
inductive Derives : Nat → List Token → Tree → Prop
  | name (w : List Char) : Derives 8 [.word w] (.name w)
  | group {ts : List Token} {e : Tree} : Derives 0 ts e → Derives 8 (.lparen :: (ts ++ [.rparen])) e
  | member {ts : List Token} {e : Tree} (w : List Char) : Derives 7 ts e →
      Derives 7 (ts ++ [.dot, .word w]) (.member e w)
  | call {ts us : List Token} {e : Tree} {es : List Tree} : Derives 7 ts e → DerivesArgs us es →
      Derives 7 (ts ++ .lparen :: (us ++ [.rparen])) (.call e es)
  | not {ts : List Token} {e : Tree} : Derives 6 ts e → Derives 6 (.bang :: ts) (.not e)
  | binary {ts us : List Token} {l r : Tree} (o : Operator) : Derives o.level ts l →
      Derives (o.level + 1) us r → Derives o.level (ts ++ .op o :: us) (.binary o l r)
  | tighter {n : Nat} {ts : List Token} {e : Tree} : n < 8 → Derives (n + 1) ts e → Derives n ts e

/-- The tokens that the arguments of a call are spelled with. -/
inductive DerivesArgs : List Token → List Tree → Prop
  | none : DerivesArgs [] []
  | last {ts : List Token} {e : Tree} : Derives 0 ts e → DerivesArgs ts [e]
  | more {ts us : List Token} {e : Tree} {es : List Tree} : Derives 0 ts e → DerivesArgs us es → us ≠ [] →
      DerivesArgs (ts ++ .comma :: us) (e :: es)

end

theorem Derives.of_le {m : Nat} {ts : List Token} {e : Tree} (h : Derives m ts e) :
    ∀ {n : Nat}, n ≤ m → m ≤ 8 → Derives n ts e := by
  intro n hn hm
  induction m with
  | zero => rwa [Nat.le_zero.1 hn]
  | succ m ih =>
    rcases Nat.lt_or_ge m n with hlt | hge
    · rwa [show n = m + 1 by omega]
    · exact ih (.tighter (by omega) h) hge (by omega)

/-! ## Depth and surface -/

/-- Whether a token is no parenthesis. -/
def Token.isPlain : Token → Bool
  | .lparen => false
  | .rparen => false
  | _ => true

/-- The depth in parentheses after a token; there is none where more are closed than were open. -/
def Token.shift : Token → Nat → Option Nat
  | .lparen, d => some (d + 1)
  | .rparen, 0 => none
  | .rparen, d + 1 => some d
  | _, d => some d

/-- The depth after a sequence of tokens. -/
def depth (d : Nat) : List Token → Option Nat
  | [] => some d
  | t :: ts => (t.shift d).bind (depth · ts)

/-- The tokens at depth zero, parentheses apart. -/
def surface (d : Nat) : List Token → List Token
  | [] => []
  | t :: ts => (if d = 0 ∧ t.isPlain then [t] else []) ++ surface ((t.shift d).getD 0) ts

theorem Token.shift_plain {t : Token} (h : t.isPlain = true) (d : Nat) : t.shift d = some d := by
  cases t <;> first | rfl | cases h

theorem Token.shift_succ {t : Token} {d k : Nat} (h : t.shift d = some k) : t.shift (d + 1) = some (k + 1) := by
  cases t with
  | lparen => cases h; rfl
  | rparen => cases d with
    | zero => cases h
    | succ d => cases h; rfl
  | _ => cases h; rfl

theorem depth_append (as bs : List Token) : ∀ d, depth d (as ++ bs) = (depth d as).bind (depth · bs) := by
  induction as with
  | nil => intro d; rfl
  | cons t as ih =>
    intro d
    rw [List.cons_append, depth, depth]
    cases t.shift d with
    | none => rfl
    | some k => exact ih k

theorem depth_plain {t : Token} (h : t.isPlain = true) (d : Nat) (ts : List Token) :
    depth d (t :: ts) = depth d ts := by
  rw [depth, Token.shift_plain h]; rfl

/-- Inside one more pair of parentheses all depths are greater by one. -/
theorem depth_succ {ts : List Token} : ∀ {d k : Nat}, depth d ts = some k → depth (d + 1) ts = some (k + 1) := by
  induction ts with
  | nil => intro d k h; cases h; rfl
  | cons t ts ih =>
    intro d k h
    rw [depth] at h ⊢
    cases hs : t.shift d with
    | none => rw [hs] at h; cases h
    | some d' => rw [hs] at h; rw [Token.shift_succ hs]; exact ih h

theorem surface_append (as bs : List Token) : ∀ {d k : Nat}, depth d as = some k →
    surface d (as ++ bs) = surface d as ++ surface k bs := by
  induction as with
  | nil => intro d k h; cases h; rfl
  | cons t as ih =>
    intro d k h
    rw [depth] at h
    rw [List.cons_append, surface, surface, List.append_assoc]
    cases hs : t.shift d with
    | none => rw [hs] at h; cases h
    | some d' => rw [hs] at h; rw [Option.getD_some, ih h]

theorem surface_plain {t : Token} (h : t.isPlain = true) (ts : List Token) :
    surface 0 (t :: ts) = t :: surface 0 ts := by
  rw [surface, if_pos ⟨rfl, h⟩, Token.shift_plain h]; rfl

/-- Nothing inside parentheses is at the surface. -/
theorem surface_succ {ts : List Token} : ∀ {d k : Nat}, depth d ts = some k → surface (d + 1) ts = [] := by
  induction ts with
  | nil => intro d k h; rfl
  | cons t ts ih =>
    intro d k h
    rw [depth] at h
    rw [surface, if_neg (by simp)]
    cases hs : t.shift d with
    | none => rw [hs] at h; cases h
    | some d' => rw [hs] at h; rw [Token.shift_succ hs]; exact ih h

/-- Tokens of which every parenthesis has its partner. -/
def Balanced (ts : List Token) : Prop := depth 0 ts = some 0

theorem Balanced.nil : Balanced [] := rfl

theorem Balanced.append {as bs : List Token} (ha : Balanced as) (hb : Balanced bs) : Balanced (as ++ bs) := by
  unfold Balanced at *
  rw [depth_append, ha]; exact hb

theorem Balanced.of_append {as bs : List Token} (ha : Balanced as) (h : Balanced (as ++ bs)) : Balanced bs := by
  unfold Balanced at *
  rwa [depth_append, ha] at h

theorem Balanced.cons {t : Token} {ts : List Token} (ht : t.isPlain = true) (h : Balanced ts) : Balanced (t :: ts) := by
  unfold Balanced at *
  rw [depth_plain ht, h]

theorem Balanced.of_cons {t : Token} {ts : List Token} (ht : t.isPlain = true) (h : Balanced (t :: ts)) :
    Balanced ts := by
  unfold Balanced at *
  rwa [depth_plain ht] at h

theorem Balanced.parens {ts : List Token} (h : Balanced ts) : Balanced (.lparen :: (ts ++ [.rparen])) := by
  unfold Balanced at *
  show depth 1 (ts ++ [.rparen]) = _
  rw [depth_append, depth_succ h]; rfl

theorem surface_parens {ts : List Token} (h : Balanced ts) : surface 0 (.lparen :: (ts ++ [.rparen])) = [] := by
  show surface 1 (ts ++ [.rparen]) = []
  rw [surface_append ts _ (depth_succ h), surface_succ h]; rfl

theorem mem_surface {as : List Token} {x : Token} (ha : Balanced as) (hx : x.isPlain = true) (bs : List Token) :
    x ∈ surface 0 (as ++ x :: bs) := by
  rw [surface_append as _ ha, surface_plain hx]; simp

/-! ## Splitting in two ways -/

/-- Two ways to split tokens at a plain one, after balanced ones: they are the same, or the one that
comes first is at the surface of what precedes the other, and this one of what follows the first. -/
theorem split_plain {as as' bs bs' : List Token} {x x' : Token} (ha : Balanced as) (ha' : Balanced as')
    (hx : x.isPlain = true) (hx' : x'.isPlain = true) (h : as ++ x :: bs = as' ++ x' :: bs') :
    (as = as' ∧ x = x' ∧ bs = bs') ∨ (x ∈ surface 0 as' ∧ x' ∈ surface 0 bs) ∨
      (x' ∈ surface 0 as ∧ x ∈ surface 0 bs') := by
  rcases List.append_eq_append_iff.1 h with ⟨m, rfl, hm⟩ | ⟨m, rfl, hm⟩
  · cases m with
    | nil => cases hm; exact .inl ⟨(List.append_nil _).symm, rfl, rfl⟩
    | cons y m =>
      cases hm
      have hbetween : Balanced m := .of_cons hx (ha.of_append ha')
      exact .inr (.inl ⟨mem_surface ha hx m, mem_surface hbetween hx' bs'⟩)
  · cases m with
    | nil => cases hm; exact .inl ⟨List.append_nil _, rfl, rfl⟩
    | cons y m =>
      cases hm
      have hbetween : Balanced m := .of_cons hx' (ha'.of_append ha)
      exact .inr (.inr ⟨mem_surface ha' hx' m, mem_surface hbetween hx bs⟩)

/-- What closes a parenthesis that was open before it is not the beginning of anything balanced. -/
theorem not_balanced_append {ts : List Token} (h : Balanced (.lparen :: ts)) (us : List Token) :
    ¬ Balanced (ts ++ us) := by
  intro hbal
  unfold Balanced at *
  rw [depth_append] at hbal
  cases hd : depth 0 ts with
  | none => rw [hd] at hbal; cases hbal
  | some k =>
    have hsucc : depth 1 ts = some 0 := h
    rw [depth_succ hd] at hsucc
    cases hsucc

/-- There is one way to split tokens at the parenthesis that is closed by the last one. -/
theorem split_paren {as as' bs bs' : List Token} (ha : Balanced as) (ha' : Balanced as') (hb : Balanced bs)
    (hb' : Balanced bs') (h : as ++ .lparen :: bs = as' ++ .lparen :: bs') : as = as' ∧ bs = bs' := by
  -- a longer first part would close the parenthesis that the shorter one leaves open
  rcases List.append_eq_append_iff.1 h with ⟨m, rfl, hm⟩ | ⟨m, rfl, hm⟩
  · cases m with
    | nil => cases hm; exact ⟨(List.append_nil _).symm, rfl⟩
    | cons y m => cases hm; exact absurd hb (not_balanced_append (ha.of_append ha') _)
  · cases m with
    | nil => cases hm; exact ⟨List.append_nil _, rfl⟩
    | cons y m => cases hm; exact absurd hb' (not_balanced_append (ha'.of_append ha) _)

/-! ## What is at the surface of an expression -/

theorem Operator.level_le (o : Operator) : o.level ≤ 5 := by
  cases o <;> decide

/-- Whether a token can be at the surface of an expression of a level. -/
def Token.Fits (n : Nat) : Token → Prop
  | .op o => n ≤ o.level
  | .bang => n ≤ 6
  | .dot => n ≤ 7
  | .comma => False
  | _ => True

theorem Token.Fits.of_succ {n : Nat} {t : Token} (h : t.Fits (n + 1)) : t.Fits n := by
  cases t with
  | op o => exact Nat.le_of_succ_le h
  | bang => exact Nat.le_of_succ_le h
  | dot => exact Nat.le_of_succ_le h
  | comma => exact h
  | _ => trivial

theorem Derives.le {n : Nat} {ts : List Token} {e : Tree} (h : Derives n ts e) : n ≤ 8 := by
  cases h with
  | binary o => have := o.level_le; omega
  | tighter hn => omega
  | _ => omega

theorem Derives.ne_nil {n : Nat} {ts : List Token} {e : Tree} : Derives n ts e → ts ≠ []
  | .name _ | .group _ | .not _ => List.cons_ne_nil _ _
  | .member _ _ | .call _ _ | .binary _ _ _ => List.append_ne_nil_of_right_ne_nil _ (List.cons_ne_nil _ _)
  | .tighter _ h => h.ne_nil

mutual

theorem Derives.balanced {n : Nat} {ts : List Token} {e : Tree} : Derives n ts e → Balanced ts
  | .name _ => rfl
  | .group h => h.balanced.parens
  | .member _ h => h.balanced.append rfl
  | .call h hs => h.balanced.append hs.balanced.parens
  | .not h => h.balanced.cons rfl
  | .binary _ hl hr => hl.balanced.append (hr.balanced.cons rfl)
  | .tighter _ h => h.balanced

theorem DerivesArgs.balanced {ts : List Token} {es : List Tree} : DerivesArgs ts es → Balanced ts
  | .none => rfl
  | .last h => h.balanced
  | .more h hs _ => h.balanced.append (hs.balanced.cons rfl)

end

/-- At the surface of an expression there are no commas, and only operators of its level or tighter. -/
theorem Derives.surface_fits {n : Nat} {ts : List Token} {e : Tree} : Derives n ts e → ∀ t ∈ surface 0 ts, t.Fits n
  | .name w, t, ht => by
    rw [List.mem_singleton.1 ht]; trivial
  | .group h, t, ht => by
    rw [surface_parens h.balanced] at ht
    cases ht
  | .member w h, t, ht => by
    rw [surface_append _ _ h.balanced, List.mem_append] at ht
    rcases ht with ht | ht
    · exact h.surface_fits t ht
    · rcases List.mem_pair.1 ht with rfl | rfl
      · exact Nat.le_refl 7
      · trivial
  | .call h hs, t, ht => by
    rw [surface_append _ _ h.balanced, surface_parens hs.balanced, List.append_nil] at ht
    exact h.surface_fits t ht
  | .not h, t, ht => by
    rw [surface_plain rfl, List.mem_cons] at ht
    rcases ht with rfl | ht
    · exact Nat.le_refl 6
    · exact h.surface_fits t ht
  | .binary o hl hr, t, ht => by
    rw [surface_append _ _ hl.balanced, surface_plain rfl, List.mem_append, List.mem_cons] at ht
    rcases ht with ht | rfl | ht
    · exact hl.surface_fits t ht
    · exact Nat.le_refl o.level
    · exact (hr.surface_fits t ht).of_succ
  | .tighter _ h, t, ht => (h.surface_fits t ht).of_succ

/-! ## The productions of a level -/

section Levels

variable {ts : List Token} {e : Tree}

theorem Derives.cases_atom (h : Derives 8 ts e) :
    (∃ w, ts = [.word w] ∧ e = .name w) ∨ ∃ us, ts = .lparen :: (us ++ [.rparen]) ∧ Derives 0 us e := by
  generalize hn : 8 = n at h
  cases h with
  | name w => exact .inl ⟨w, rfl, rfl⟩
  | group h => exact .inr ⟨_, rfl, h⟩
  | binary o => have hle := o.level_le; omega
  | tighter hlt => omega
  | _ => omega

theorem Derives.cases_call (h : Derives 7 ts e) :
    (∃ us e₀ w, ts = us ++ [.dot, .word w] ∧ e = .member e₀ w ∧ Derives 7 us e₀) ∨
      (∃ us vs e₀ es, ts = us ++ .lparen :: (vs ++ [.rparen]) ∧ e = .call e₀ es ∧ Derives 7 us e₀ ∧
        DerivesArgs vs es) ∨ Derives 8 ts e := by
  generalize hn : 7 = n at h
  cases h with
  | member w h => exact .inl ⟨_, _, w, rfl, rfl, h⟩
  | call h hs => exact .inr (.inl ⟨_, _, _, _, rfl, rfl, h, hs⟩)
  | binary o => have hle := o.level_le; omega
  | tighter _ h => subst hn; exact .inr (.inr h)
  | _ => omega

theorem Derives.cases_not (h : Derives 6 ts e) :
    (∃ us e₀, ts = .bang :: us ∧ e = .not e₀ ∧ Derives 6 us e₀) ∨ Derives 7 ts e := by
  generalize hn : 6 = n at h
  cases h with
  | not h => exact .inl ⟨_, _, rfl, rfl, h⟩
  | binary o => have hle := o.level_le; omega
  | tighter _ h => subst hn; exact .inr h
  | _ => omega

theorem Derives.cases_binary {n : Nat} (hle : n ≤ 5) (h : Derives n ts e) :
    (∃ o us vs l r, o.level = n ∧ ts = us ++ .op o :: vs ∧ e = .binary o l r ∧ Derives n us l ∧
      Derives (n + 1) vs r) ∨ Derives (n + 1) ts e := by
  cases h with
  | binary o hl hr => exact .inl ⟨o, _, _, _, _, rfl, rfl, rfl, hl, hr⟩
  | tighter _ h => exact .inr h
  | _ => omega

end Levels

/-! ## What one level spells no tighter one does -/

section Tighter

variable {ts us : List Token} {e : Tree}

theorem not_derives_member (w : List Char) (ht : Balanced ts) : ¬ Derives 8 (ts ++ [.dot, .word w]) e := by
  intro h
  have hfit : 8 ≤ 7 := h.surface_fits .dot (mem_surface ht rfl _)
  omega

theorem not_derives_call (hne : ts ≠ []) (ht : Balanced ts) (hu : Balanced us) :
    ¬ Derives 8 (ts ++ .lparen :: (us ++ [.rparen])) e := by
  intro h
  rcases h.cases_atom with ⟨w, hv, -⟩ | ⟨vs, hv, h⟩
  · have hlen := congrArg List.length hv
    simp at hlen; omega
  · -- the opening parenthesis of the call would be the first token
    have hv' : (ts ++ .lparen :: us) ++ [Token.rparen] = ([] ++ .lparen :: vs) ++ [.rparen] := by simpa using hv
    exact hne (split_paren ht .nil hu h.balanced (List.append_cancel_right hv')).1

theorem not_derives_not : ¬ Derives 7 (.bang :: ts) e := by
  intro h
  have hfit : 7 ≤ 6 := h.surface_fits .bang (mem_surface .nil rfl ts)
  omega

theorem not_derives_binary (o : Operator) (ht : Balanced ts) : ¬ Derives (o.level + 1) (ts ++ .op o :: us) e := by
  intro h
  have hfit : o.level + 1 ≤ o.level := h.surface_fits (.op o) (mem_surface ht rfl us)
  omega

/-- Tokens that a tighter level spells are at this level spelled by it alone. -/
theorem Derives.tighter_inv {n : Nat} {e' : Tree} (h : Derives (n + 1) ts e) (h' : Derives n ts e') :
    Derives (n + 1) ts e' := by
  cases h' with
  | name | group => exact absurd h.le (by omega)
  | member w h' => exact absurd h (not_derives_member w h'.balanced)
  | call h' hs' => exact absurd h (not_derives_call h'.ne_nil h'.balanced hs'.balanced)
  | not h' => exact absurd h not_derives_not
  | binary o hl hr => exact absurd h (not_derives_binary o hl.balanced)
  | tighter hn h' => exact h'

end Tighter

/-! ## Each spelling is read back -/

section Inversion

variable {ts us : List Token} {e : Tree}

theorem Derives.name_inv {w : List Char} (h : Derives 8 [.word w] e) : e = .name w := by
  rcases h.cases_atom with ⟨w', hv, rfl⟩ | ⟨us, hv, -⟩
  · cases hv; rfl
  · cases hv

theorem Derives.group_inv (h : Derives 8 (.lparen :: (ts ++ [.rparen])) e) : Derives 0 ts e := by
  rcases h.cases_atom with ⟨w, hv, -⟩ | ⟨us, hv, h⟩
  · cases hv
  · rwa [List.append_cancel_right (List.cons.inj hv).2]

theorem member_ne_call (ts' : List Token) (w : List Char) :
    ts ++ [.dot, .word w] ≠ ts' ++ .lparen :: (us ++ [.rparen]) := by
  intro h
  have hlast := congrArg List.getLast? h
  simp [List.getLast?_cons] at hlast

theorem Derives.member_inv {w : List Char} (ht : Balanced ts) (h : Derives 7 (ts ++ [.dot, .word w]) e) :
    ∃ e₀, e = .member e₀ w ∧ Derives 7 ts e₀ := by
  rcases h.cases_call with ⟨us, e₀, w', hv, rfl, h₀⟩ | ⟨us, vs, e₀, es, hv, -⟩ | h
  · obtain ⟨rfl, hw⟩ := List.append_inj' hv rfl
    cases hw
    exact ⟨e₀, rfl, h₀⟩
  · exact absurd hv (member_ne_call us w)
  · exact absurd h (not_derives_member w ht)

theorem Derives.call_inv (hne : ts ≠ []) (ht : Balanced ts) (hu : Balanced us)
    (h : Derives 7 (ts ++ .lparen :: (us ++ [.rparen])) e) :
    ∃ e₀ es, e = .call e₀ es ∧ Derives 7 ts e₀ ∧ DerivesArgs us es := by
  rcases h.cases_call with ⟨ts', e₀, w, hv, -⟩ | ⟨ts', us', e₀, es, hv, rfl, h, hs⟩ | h
  · exact absurd hv.symm (member_ne_call ts w)
  · have hv' : (ts ++ .lparen :: us) ++ [Token.rparen] = (ts' ++ .lparen :: us') ++ [.rparen] := by simpa using hv
    obtain ⟨rfl, rfl⟩ := split_paren ht h.balanced hu hs.balanced (List.append_cancel_right hv')
    exact ⟨e₀, es, rfl, h, hs⟩
  · exact absurd h (not_derives_call hne ht hu)

theorem Derives.not_inv (h : Derives 6 (.bang :: ts) e) : ∃ e₀, e = .not e₀ ∧ Derives 6 ts e₀ := by
  rcases h.cases_not with ⟨us, e₀, hv, rfl, h⟩ | h
  · cases hv
    exact ⟨e₀, rfl, h⟩
  · exact absurd h not_derives_not

/-- An operator groups to the left: of the operators of its level it is the last one that is read as
the root. -/
theorem Derives.binary_inv {o : Operator} {l r : Tree} (hl : Derives o.level ts l) (hr : Derives (o.level + 1) us r)
    (h : Derives o.level (ts ++ .op o :: us) e) :
    ∃ l' r', e = .binary o l' r' ∧ Derives o.level ts l' ∧ Derives (o.level + 1) us r' := by
  rcases h.cases_binary o.level_le with ⟨o', ts', us', l', r', ho, hv, rfl, hl', hr'⟩ | h
  · rcases split_plain hl.balanced hl'.balanced rfl rfl hv with ⟨rfl, hop, rfl⟩ | ⟨-, hin⟩ | ⟨-, hin⟩
    · cases hop
      exact ⟨l', r', rfl, hl', hr'⟩
    · -- the second operator would be at the surface of the first one's right operand
      have hfit : o.level + 1 ≤ o'.level := hr.surface_fits _ hin
      omega
    · have hfit : o.level + 1 ≤ o.level := hr'.surface_fits _ hin
      omega
  · exact absurd h (not_derives_binary o hl.balanced)

theorem DerivesArgs.nil_inv {es : List Tree} (h : DerivesArgs [] es) : es = [] := by
  generalize hv : [] = vs at h
  cases h with
  | none => rfl
  | last h => exact absurd hv.symm h.ne_nil
  | more => exact absurd hv.symm (List.append_ne_nil_of_right_ne_nil _ (List.cons_ne_nil _ _))

theorem not_derives_comma {n : Nat} (ht : Balanced ts) : ¬ Derives n (ts ++ .comma :: us) e :=
  fun h => h.surface_fits .comma (mem_surface ht rfl us)

theorem DerivesArgs.last_inv {es : List Tree} (ht : Derives 0 ts e) (h : DerivesArgs ts es) :
    ∃ e', es = [e'] ∧ Derives 0 ts e' := by
  cases h with
  | none => exact absurd rfl ht.ne_nil
  | last h => exact ⟨_, rfl, h⟩
  | more h => exact absurd ht (not_derives_comma h.balanced)

theorem DerivesArgs.more_inv {es : List Tree} (ht : Derives 0 ts e) (h : DerivesArgs (ts ++ .comma :: us) es) :
    ∃ e' es', es = e' :: es' ∧ Derives 0 ts e' ∧ DerivesArgs us es' := by
  generalize hv : ts ++ .comma :: us = vs at h
  cases h with
  | none => exact absurd hv (List.append_ne_nil_of_right_ne_nil _ (List.cons_ne_nil _ _))
  | last h =>
    subst hv
    exact absurd h (not_derives_comma ht.balanced)
  | more h hs =>
    rcases split_plain ht.balanced h.balanced rfl rfl hv with ⟨rfl, -, rfl⟩ | ⟨hin, -⟩ | ⟨hin, -⟩
    · exact ⟨_, _, rfl, h, hs⟩
    · exact (h.surface_fits _ hin).elim
    · exact (ht.surface_fits _ hin).elim

end Inversion

/-! ## Unambiguity -/

mutual

/-- The grammar is unambiguous: tokens are read as one tree at most. -/
theorem Derives.unique {n : Nat} {ts : List Token} {e e' : Tree} : Derives n ts e → Derives n ts e' → e = e'
  -- by recursion on the first derivation: the second has to end with the same production
  | .name w, h' => h'.name_inv.symm
  | .group h, h' => h.unique h'.group_inv
  | .member w h, h' => by
    obtain ⟨e₀, rfl, h₀⟩ := h'.member_inv h.balanced
    rw [h.unique h₀]
  | .call h hs, h' => by
    obtain ⟨e₀, es, rfl, h₀, hs'⟩ := h'.call_inv h.ne_nil h.balanced hs.balanced
    rw [h.unique h₀, hs.unique hs']
  | .not h, h' => by
    obtain ⟨e₀, rfl, h₀⟩ := h'.not_inv
    rw [h.unique h₀]
  | .binary o hl hr, h' => by
    obtain ⟨l', r', rfl, hl', hr'⟩ := hl.binary_inv hr h'
    rw [hl.unique hl', hr.unique hr']
  | .tighter _ h, h' => h.unique (h.tighter_inv h')

theorem DerivesArgs.unique {ts : List Token} {es es' : List Tree} : DerivesArgs ts es → DerivesArgs ts es' → es = es'
  | .none, h' => h'.nil_inv.symm
  | .last h, h' => by
    obtain ⟨e', rfl, h₀⟩ := h'.last_inv h
    rw [h.unique h₀]
  | .more h hs _, h' => by
    obtain ⟨e', es', rfl, h₀, hs'⟩ := h'.more_inv h
    rw [h.unique h₀, hs.unique hs']

end

end SpriteScribe.Grammar
