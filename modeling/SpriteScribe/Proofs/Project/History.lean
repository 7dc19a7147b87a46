/-
What a compiler remembers of the calls it has had. A declared name leads to the identifier that the last
successful call for it has returned, and to nothing if there was none. Identifiers are always new, so a
sprite stays under its own as it was returned, whatever is called later: calls for other names that come
to the same identifier, calls for the same name, and calls that fail.
-/
import SpriteScribe.Proofs.Lookup
import SpriteScribe.Proofs.Project.Calls
import Mathlib.Data.List.Induction

namespace SpriteScribe.Compiler

open SpriteScribe.Markup

/-! ## What one call leaves as it was -/

theorem lookup_insertSprite_of_ne {k name : String} (hk : k ≠ name) (s : Sprite) (l : List (String × Sprite)) :
    (insertSprite name s l).lookup k = l.lookup k := by
  induction l with
  | nil => rw [insertSprite, List.lookup_cons, beq_false_of_ne hk]
  | cons entry rest ih =>
    obtain ⟨other, x⟩ := entry
    rw [insertSprite]
    split
    · rw [List.lookup_cons, beq_false_of_ne hk]
    · split
      · rfl
      · rw [List.lookup_cons, List.lookup_cons, ih]

/-- What stands under an identifier stays there, since a call that succeeds takes another one. -/
theorem Attempt.sprite? {c c' : Compiler} {e : Element} {r : Except CompileError Sprite} (h : Attempt c e c' r)
    {k : String} {s : Sprite} (hs : c.sprite? k = some s) : c'.sprite? k = some s := by
  cases h with
  | unnamed => exact hs
  | exhausted => exact hs
  | failed => exact hs
  | @made declared name t _ hf _ =>
    have hfree := isTaken_eq_false.1 (Identifier.firstFree?_eq_some hf).1
    have hne : k ≠ name := by
      rintro rfl
      exact hfree (List.mem_map.2 ⟨_, mem_of_lookup hs, rfl⟩)
    exact (lookup_insertSprite_of_ne hne _ _).trans hs

theorem sprite?_after {c : Compiler} {k : String} {s : Sprite} (h : c.sprite? k = some s) (es : List Element) :
    (c.after es).sprite? k = some s := by
  induction es generalizing c with
  | nil => exact h
  | cons e es ih => exact ih ((attempt_makeSprite c e).sprite? h)

theorem Attempt.generatedName?_of_error {c c' : Compiler} {e : Element} {err : CompileError}
    (h : Attempt c e c' (.error err)) (d : String) : c'.generatedName? d = c.generatedName? d := by
  rw [generatedName?, h.of_error.2.1, generatedName?]

/-- A call that succeeds changes what its own declared name leads to, and nothing else. -/
theorem Attempt.generatedName?_of_ok {c c' : Compiler} {e : Element} {s : Sprite} (h : Attempt c e c' (.ok s))
    (d : String) : c'.generatedName? d = if e.attr? "name" = some d then some s.name else c.generatedName? d := by
  cases h with
  | made hn _ hb =>
    obtain ⟨hname, -, -⟩ := buildSprite_ok hb
    rw [generatedName?_register, hn, hname]
    simp only [Option.some.injEq, eq_comm]
    rfl

/-! ## Calls for a declared name -/

/-- The call at a position was for a declared name and has returned a sprite. -/
structure Made (c : Compiler) (es : List Element) (declared : String) (i : Nat) (s : Sprite) : Prop where
  element : es[i]?.bind (·.attr? "name") = some declared
  result : (c.results es)[i]? = some (.ok s)

/-- The last of the calls for a declared name that have returned a sprite. -/
structure LastMade (c : Compiler) (es : List Element) (declared : String) (i : Nat) (s : Sprite) : Prop
    extends Made c es declared i s where
  last : ∀ j t, i < j → ¬ Made c es declared j t

theorem length_results (c : Compiler) (es : List Element) : (c.results es).length = es.length := by
  induction es generalizing c with
  | nil => rfl
  | cons e es ih => rw [results, List.length_cons, List.length_cons, ih]

theorem results_concat (c : Compiler) (es : List Element) (e : Element) :
    c.results (es ++ [e]) = c.results es ++ [((c.after es).makeSprite e).2] := by
  induction es generalizing c with
  | nil => rfl
  | cons f es ih => rw [List.cons_append, results, results, ih, List.cons_append, after_cons]

theorem Made.lt {c : Compiler} {es : List Element} {declared : String} {i : Nat} {s : Sprite}
    (h : Made c es declared i s) : i < es.length := by
  rw [← length_results c es]
  exact (List.getElem?_eq_some_iff.1 h.result).1

theorem made_concat {c : Compiler} {es : List Element} {e : Element} {declared : String} {i : Nat} {s : Sprite} :
    Made c (es ++ [e]) declared i s ↔ Made c es declared i s ∨
      i = es.length ∧ e.attr? "name" = some declared ∧ ((c.after es).makeSprite e).2 = .ok s := by
  rcases Nat.lt_trichotomy i es.length with hlt | rfl | hgt
  · have hres : i < (c.results es).length := by rwa [length_results]
    constructor
    · rintro ⟨he, hr⟩
      rw [List.getElem?_append_left hlt] at he
      rw [results_concat, List.getElem?_append_left hres] at hr
      exact .inl ⟨he, hr⟩
    · rintro (⟨he, hr⟩ | ⟨rfl, -⟩)
      · refine ⟨by rwa [List.getElem?_append_left hlt], ?_⟩
        rwa [results_concat, List.getElem?_append_left hres]
      · exact absurd hlt (Nat.lt_irrefl _)
  · have hlast : (c.results (es ++ [e]))[es.length]? = some ((c.after es).makeSprite e).2 := by
      rw [results_concat, ← length_results c es, List.getElem?_concat_length]
    constructor
    · rintro ⟨he, hr⟩
      rw [List.getElem?_concat_length] at he
      rw [hlast] at hr
      exact .inr ⟨rfl, he, Option.some.inj hr⟩
    · rintro (h | ⟨-, he, hr⟩)
      · exact absurd h.lt (Nat.lt_irrefl _)
      · exact ⟨by rwa [List.getElem?_concat_length], by rw [hlast, hr]⟩
  · constructor
    · intro h
      have hi := h.lt
      rw [List.length_append, List.length_singleton] at hi
      omega
    · rintro (h | ⟨rfl, -⟩)
      · exact absurd h.lt (by omega)
      · omega

/-- After one more call, the last one for a declared name is that call if it has returned a sprite for it, and
else the last one from before. -/
theorem lastMade_concat {c : Compiler} {es : List Element} {e : Element} {declared : String} {i : Nat} {s : Sprite} :
    LastMade c (es ++ [e]) declared i s ↔
      (i = es.length ∧ e.attr? "name" = some declared ∧ ((c.after es).makeSprite e).2 = .ok s) ∨
      (LastMade c es declared i s ∧
        ¬ (e.attr? "name" = some declared ∧ ∃ t, ((c.after es).makeSprite e).2 = .ok t)) := by
  constructor
  · rintro ⟨hmade, hlast⟩
    rcases made_concat.1 hmade with hbefore | hnow
    · refine .inr ⟨⟨hbefore, fun j t hj ht => hlast j t hj (made_concat.2 (.inl ht))⟩, ?_⟩
      rintro ⟨he, t, ht⟩
      exact hlast es.length t hbefore.lt (made_concat.2 (.inr ⟨rfl, he, ht⟩))
    · exact .inl hnow
  · rintro (⟨rfl, he, hr⟩ | ⟨hbefore, hnot⟩)
    · refine ⟨made_concat.2 (.inr ⟨rfl, he, hr⟩), fun j t hj ht => ?_⟩
      have := ht.lt
      rw [List.length_append, List.length_singleton] at this
      omega
    · refine ⟨made_concat.2 (.inl hbefore.toMade), fun j t hj ht => ?_⟩
      rcases made_concat.1 ht with ht | ⟨-, he, ht⟩
      · exact hbefore.last j t hj ht
      · exact hnot ⟨he, t, ht⟩

/-- If calls for a declared name have returned sprites, one of them was the last. -/
theorem exists_lastMade {c : Compiler} {es : List Element} {declared : String} {i : Nat} {s : Sprite}
    (h : Made c es declared i s) : ∃ j t, LastMade c es declared j t := by
  induction es using List.reverseRecOn generalizing i s with
  | nil => exact absurd h.lt (Nat.not_lt_zero _)
  | append_singleton es e ih =>
    by_cases hnow : e.attr? "name" = some declared ∧ ∃ t, ((c.after es).makeSprite e).2 = .ok t
    · obtain ⟨he, t, ht⟩ := hnow
      exact ⟨es.length, t, lastMade_concat.2 (.inl ⟨rfl, he, ht⟩)⟩
    · rcases made_concat.1 h with hbefore | ⟨-, he, hr⟩
      · obtain ⟨j, t, hj⟩ := ih hbefore
        exact ⟨j, t, lastMade_concat.2 (.inr ⟨hj, hnow⟩)⟩
      · exact absurd ⟨he, s, hr⟩ hnow

/-! ## Names and calls -/

/-- A declared name leads to the identifier that the last call for it returned. -/
theorem generatedName?_eq_some_iff (strict : Bool) (es : List Element) (declared n : String) :
    ((new strict).after es).generatedName? declared = some n ↔
      ∃ i s, LastMade (new strict) es declared i s ∧ s.name = n := by
  induction es using List.reverseRecOn with
  | nil =>
    constructor
    · intro h; cases h
    · rintro ⟨i, s, h, -⟩
      exact absurd h.lt (Nat.not_lt_zero _)
  | append_singleton es e ih =>
    simp only [lastMade_concat]
    have ha := attempt_makeSprite ((new strict).after es) e
    rw [after_concat]
    cases hr : (((new strict).after es).makeSprite e).2 with
    | error err =>
      rw [hr] at ha
      rw [ha.generatedName?_of_error, ih]
      simp
    | ok s =>
      rw [hr] at ha
      rw [ha.generatedName?_of_ok]
      split
      · rename_i he
        simp [he]
      · rename_i he
        simp [he, ih]

theorem Made.registered {c : Compiler} {es : List Element} {declared : String} {i : Nat} {s : Sprite}
    (h : Made c es declared i s) : s.declared = declared ∧ (c.after (es.take (i + 1))).sprite? s.name = some s := by
  obtain ⟨e, he, ha⟩ := attempt_of_results h.result
  obtain ⟨hdeclared, -, -, hfound, -⟩ := ha.registered
  refine ⟨?_, hfound⟩
  have helement := h.element
  rw [he, Option.bind_some, hdeclared] at helement
  exact Option.some.inj helement

/-- A sprite that was returned is found under its identifier at any later time. -/
theorem Made.sprite?_take {c : Compiler} {es : List Element} {declared : String} {i : Nat} {s : Sprite}
    (h : Made c es declared i s) {j : Nat} (hij : i < j) : (c.after (es.take j)).sprite? s.name = some s := by
  obtain ⟨later, hlater⟩ : es.take (i + 1) <+: es.take j := List.take_prefix_take_left hij
  rw [← hlater, after_append]
  exact sprite?_after h.registered.2 later

/-- The names of a compiler tell the history of its calls. After any calls on a new compiler, of either
strictness, a declared name leads to the identifier of the sprite that the last successful call for it has
returned, and to nothing just if there was no such call. That sprite is declared so, and under its
identifier it is found after every later call as it was returned. -/
theorem generatedName?_history (strict : Bool) (es : List Element) (declared : String) :
    (∀ n, ((new strict).after es).generatedName? declared = some n ↔
      ∃ i s, LastMade (new strict) es declared i s ∧ s.name = n) ∧
    (((new strict).after es).generatedName? declared = none ↔ ∀ i s, ¬ Made (new strict) es declared i s) ∧
    ∀ i s, LastMade (new strict) es declared i s →
      s.declared = declared ∧ ((new strict).after es).sprite? s.name = some s ∧
      ∀ j, i < j → ((new strict).after (es.take j)).sprite? s.name = some s := by
  refine ⟨generatedName?_eq_some_iff strict es declared, ⟨fun hnone i s hmade => ?_, fun hnever => ?_⟩, ?_⟩
  · obtain ⟨j, t, hlast⟩ := exists_lastMade hmade
    have hsome := (generatedName?_eq_some_iff strict es declared t.name).2 ⟨j, t, hlast, rfl⟩
    rw [hnone] at hsome
    cases hsome
  · rw [Option.eq_none_iff_forall_ne_some]
    intro n hn
    obtain ⟨i, s, hlast, -⟩ := (generatedName?_eq_some_iff strict es declared n).1 hn
    exact hnever i s hlast.toMade
  · intro i s hlast
    have hend := hlast.toMade.sprite?_take hlast.lt
    rw [List.take_length] at hend
    exact ⟨hlast.registered.1, hend, fun j hj => hlast.toMade.sprite?_take hj⟩

/-- Two sprites declared `Cat` and one declared `cat` between them, with calls that fail before, between and
after them. -/
def namesakeCalls : List Element :=
  [.mk "sprite" [] [], .mk "sprite" [("name", "Cat")] [], .mk "sprite" [("name", "cat")] [], failingSprite,
   .mk "sprite" [("name", "Cat")] [], failingSprite]

set_option maxRecDepth 4096 in
theorem generatedName?_history_namesakes :
    LastMade (new true) namesakeCalls "Cat" 4 ⟨"cat__", "Cat", []⟩ ∧
    ((new true).after namesakeCalls).generatedName? "Cat" = some "cat__" ∧
    ((new true).after namesakeCalls).sprite? "cat__" = some ⟨"cat__", "Cat", []⟩ := by
  have hfailed : ((new true).results namesakeCalls)[5]? = some (.error (.missingAttribute "block" "s")) := by rfl
  have hlast : LastMade (new true) namesakeCalls "Cat" 4 ⟨"cat__", "Cat", []⟩ := by
    refine ⟨⟨by rfl, by rfl⟩, fun j t hj ht => ?_⟩
    have hlt : j < 6 := ht.lt
    obtain rfl : j = 5 := by omega
    have hresult := ht.result
    rw [hfailed] at hresult
    cases hresult
  obtain ⟨hname, -, hsprite⟩ := generatedName?_history true namesakeCalls "Cat"
  exact ⟨hlast, (hname _).2 ⟨4, _, hlast, rfl⟩, (hsprite 4 _ hlast).2.1⟩

end SpriteScribe.Compiler
