/-
Sequences of calls with their results, whether they succeed or fail. The identifiers in use are those
that the successful calls so far have returned, and a call takes the fewest underscores that are free
at its time, so of two sprites whose declared names come to the same the later one has more of them.
A call that fails leaves warnings and log records only. No call looks at these, so the others go as
they would without it.
-/
import SpriteScribe.Proofs.Project.Registry

namespace SpriteScribe.Compiler

open SpriteScribe.Markup Identifier

/-! ## Results of calls -/

/-- The results of a sequence of calls, each on an element. -/
def results (c : Compiler) : List Element → List (Except CompileError Sprite)
  | [] => []
  | e :: es => (c.makeSprite e).2 :: (c.makeSprite e).1.results es

theorem after_cons (c : Compiler) (e : Element) (es : List Element) :
    c.after (e :: es) = (c.makeSprite e).1.after es := rfl

theorem after_append (c : Compiler) (es fs : List Element) : c.after (es ++ fs) = (c.after es).after fs := by
  simp [after]

/-- A call sees the compiler that the calls before it leave. -/
theorem getElem?_results (c : Compiler) (es : List Element) (i : Nat) :
    (c.results es)[i]? = es[i]?.map fun e => ((c.after (es.take i)).makeSprite e).2 := by
  induction es generalizing c i with
  | nil => rfl
  | cons e es ih =>
    cases i with
    | zero => rfl
    | succ i =>
      rw [results, List.getElem?_cons_succ, List.getElem?_cons_succ, List.take_succ_cons, after_cons]
      exact ih _ i

theorem attempt_of_results {c : Compiler} {es : List Element} {i : Nat} {r : Except CompileError Sprite}
    (h : (c.results es)[i]? = some r) :
    ∃ e, es[i]? = some e ∧ Attempt (c.after (es.take i)) e (c.after (es.take (i + 1))) r := by
  rw [getElem?_results, Option.map_eq_some_iff] at h
  obtain ⟨e, he, rfl⟩ := h
  refine ⟨e, he, ?_⟩
  rw [List.take_add_one, he, Option.toList_some, after_concat]
  exact attempt_makeSprite _ _

/-! ## Identifiers in use -/

/-- A call that fails leaves records and warnings only. -/
theorem Attempt.of_error {c c' : Compiler} {e : Element} {err : CompileError} (h : Attempt c e c' (.error err)) :
    c'.sprites = c.sprites ∧ c'.names = c.names ∧ ∃ ws, c'.warnings = c.warnings ++ ws := by
  cases h with
  | unnamed => exact ⟨rfl, rfl, [], (List.append_nil _).symm⟩
  | exhausted => exact ⟨rfl, rfl, [], (List.append_nil _).symm⟩
  | failed => exact ⟨rfl, rfl, _, rfl⟩

/-- A call that succeeds takes the fewest underscores that are free. -/
theorem Attempt.fewest {c c' : Compiler} {e : Element} {s : Sprite} (h : Attempt c e c' (.ok s)) :
    ∃ n, s.name = suffixed (ofDeclared s.declared) n ∧ s.name ∉ c.spriteNames ∧
      ∀ m < n, suffixed (ofDeclared s.declared) m ∈ c.spriteNames := by
  cases h with
  | made hn hf hb =>
    obtain ⟨hname, rfl, -⟩ := buildSprite_ok hb
    simp only at hname
    subst hname
    obtain ⟨n, -, hsuffix, hfree, hless⟩ := firstFree?_eq_some_iff.1 hf
    refine ⟨n, hsuffix, isTaken_eq_false.1 hfree, fun m hm => ?_⟩
    simpa [isTaken] using hless m hm

theorem Attempt.mem_spriteNames {c c' : Compiler} {e : Element} {r : Except CompileError Sprite}
    (h : Attempt c e c' r) (k : String) : k ∈ c'.spriteNames ↔ k ∈ c.spriteNames ∨ ∃ s, r = .ok s ∧ s.name = k := by
  cases r with
  | error err =>
    obtain ⟨hs, -⟩ := h.of_error
    simp [spriteNames, hs]
  | ok s =>
    obtain ⟨-, -, hperm, -⟩ := h.registered
    rw [spriteNames, (hperm.map Prod.fst).mem_iff]
    simp [spriteNames, or_comm, eq_comm]

/-- The identifiers in use are those from before and those of the sprites that calls have returned. -/
theorem mem_spriteNames_after (c : Compiler) (es : List Element) (k : String) :
    k ∈ (c.after es).spriteNames ↔ k ∈ c.spriteNames ∨ ∃ s, .ok s ∈ c.results es ∧ s.name = k := by
  induction es generalizing c with
  | nil => simp [after, results]
  | cons e es ih =>
    rw [after_cons, ih, (attempt_makeSprite c e).mem_spriteNames, results]
    constructor
    · rintro ((h | ⟨s, hs, rfl⟩) | ⟨s, hs, rfl⟩)
      · exact .inl h
      · exact .inr ⟨s, by rw [hs]; exact List.mem_cons_self, rfl⟩
      · exact .inr ⟨s, List.mem_cons_of_mem _ hs, rfl⟩
    · rintro (h | ⟨s, hs, rfl⟩)
      · exact .inl (.inl h)
      · rcases List.mem_cons.1 hs with hs | hs
        · exact .inl (.inr ⟨s, hs.symm, rfl⟩)
        · exact .inr ⟨s, hs, rfl⟩

/-- An identifier that is in use stays in use. -/
theorem mem_spriteNames_of_take {c : Compiler} {es : List Element} {i j : Nat} (hij : i ≤ j) {k : String}
    (h : k ∈ (c.after (es.take i)).spriteNames) : k ∈ (c.after (es.take j)).spriteNames := by
  obtain ⟨later, hlater⟩ : es.take i <+: es.take j := List.take_prefix_take_left hij
  rw [← hlater, after_append, mem_spriteNames_after]
  exact .inl h

/-- What the calls of a sequence do with identifiers. In use are those that calls have returned. A call
that succeeds registers its declared name with the fewest underscores that make it differ from all in
use. A later sprite whose declared name comes to the same has the identifier of the earlier one with
further underscores, and both stay in use. -/
theorem calls_identifiers (strict : Bool) (es : List Element) :
    (∀ k, k ∈ ((new strict).after es).spriteNames ↔ ∃ s, .ok s ∈ (new strict).results es ∧ s.name = k) ∧
    (∀ (i : Nat) (s : Sprite), ((new strict).results es)[i]? = some (.ok s) →
      es[i]?.bind (·.attr? "name") = some s.declared ∧
      ∃ n, s.name = suffixed (ofDeclared s.declared) n ∧ s.name ∉ ((new strict).after (es.take i)).spriteNames ∧
        ∀ m < n, suffixed (ofDeclared s.declared) m ∈ ((new strict).after (es.take i)).spriteNames) ∧
    (∀ (i j : Nat) (s t : Sprite), i < j → ((new strict).results es)[i]? = some (.ok s) →
      ((new strict).results es)[j]? = some (.ok t) →
      ofDeclared s.declared = ofDeclared t.declared →
      (∃ n, 1 ≤ n ∧ t.name = suffixed s.name n) ∧
        s.name ∈ ((new strict).after es).spriteNames ∧ t.name ∈ ((new strict).after es).spriteNames) := by
  have hused : ∀ k, k ∈ ((new strict).after es).spriteNames ↔ ∃ s, .ok s ∈ (new strict).results es ∧ s.name = k := by
    intro k
    rw [mem_spriteNames_after]
    simp [new, spriteNames]
  refine ⟨hused, fun i s hs => ?_, fun i j s t hij hs ht hbase => ⟨?_, ?_, ?_⟩⟩
  · obtain ⟨e, he, ha⟩ := attempt_of_results hs
    exact ⟨by rw [he]; exact ha.registered.1, ha.fewest⟩
  · obtain ⟨e, -, ha⟩ := attempt_of_results hs
    obtain ⟨f, -, hb⟩ := attempt_of_results ht
    obtain ⟨m, hm, -, hless⟩ := ha.fewest
    obtain ⟨n, hn, hfree, -⟩ := hb.fewest
    -- up to the underscores of the earlier sprite all numbers of them are in use by then
    have htaken : ∀ l ≤ m, suffixed (ofDeclared t.declared) l ∈ ((new strict).after (es.take j)).spriteNames := by
      intro l hl
      apply mem_spriteNames_of_take (i := i + 1) hij
      rw [ha.mem_spriteNames, ← hbase]
      rcases Nat.lt_or_eq_of_le hl with hl | rfl
      · exact .inl (hless l hl)
      · exact .inr ⟨s, rfl, hm⟩
    have hmn : m < n := by
      by_contra hle
      exact hfree (hn ▸ htaken n (Nat.le_of_not_lt hle))
    refine ⟨n - m, by omega, ?_⟩
    rw [hm, hn, hbase, suffixed_suffixed, Nat.add_sub_cancel' hmn.le]
  · exact (hused _).2 ⟨s, List.mem_of_getElem? hs, rfl⟩
  · exact (hused _).2 ⟨t, List.mem_of_getElem? ht, rfl⟩

/-- Names that end in underscores themselves, with an element that has no name among them. -/
def underscoredSprites : List Element :=
  [.mk "sprite" [("name", "a")] [], .mk "sprite" [] [], .mk "sprite" [("name", "a_")] [],
   .mk "sprite" [("name", "A")] []]

set_option maxRecDepth 4096 in
theorem calls_identifiers_underscored :
    ((new true).results underscoredSprites)[0]? = some (.ok ⟨"a", "a", []⟩) ∧
    ((new true).results underscoredSprites)[3]? = some (.ok ⟨"a__", "A", []⟩) ∧
    suffixed "a" 1 ∈ ((new true).after (underscoredSprites.take 3)).spriteNames ∧
    (∃ n, 1 ≤ n ∧ "a__" = suffixed "a" n) ∧ "a__" ∈ ((new true).after underscoredSprites).spriteNames := by
  have hfirst : ((new true).results underscoredSprites)[0]? = some (.ok ⟨"a", "a", []⟩) := by rfl
  have hlast : ((new true).results underscoredSprites)[3]? = some (.ok ⟨"a__", "A", []⟩) := by rfl
  obtain ⟨-, hfewest, hcollide⟩ := calls_identifiers true underscoredSprites
  obtain ⟨-, n, hn, -, hless⟩ := hfewest 3 _ hlast
  obtain ⟨hmore, -, hused⟩ := hcollide 0 3 _ _ (by decide) hfirst hlast (by rfl)
  refine ⟨hfirst, hlast, hless 1 ?_, hmore, hused⟩
  -- the last one has two underscores, by the length of its identifier
  have hlen := congrArg (fun s : String => s.toList.length) hn
  simp only [toList_suffixed, List.length_append, List.length_replicate] at hlen
  have hbase : (ofDeclared "A").toList.length = 1 := by rfl
  have hname : ("a__" : String).toList.length = 3 := by rfl
  omega

/-! ## Failed calls -/

/-- Two compilers that have the same registry; their warnings and logs may differ. -/
structure Agrees (c d : Compiler) : Prop where
  strict : c.strict = d.strict
  sprites : c.sprites = d.sprites
  names : c.names = d.names

theorem settle_agrees {c d : Compiler} (h : Agrees c d) (declared name : String) (b : Build Sprite) :
    (c.settle declared name b).2 = (d.settle declared name b).2 ∧
      Agrees (c.settle declared name b).1 (d.settle declared name b).1 := by
  unfold settle
  cases b.result with
  | error err => exact ⟨rfl, h.strict, h.sprites, h.names⟩
  | ok s => exact ⟨rfl, h.strict, by simp [record, h.sprites], by simp [record, h.names]⟩

/-- What a call does depends on the registry alone. -/
theorem makeSprite_agrees {c d : Compiler} (h : Agrees c d) (e : Element) :
    (c.makeSprite e).2 = (d.makeSprite e).2 ∧ Agrees (c.makeSprite e).1 (d.makeSprite e).1 := by
  have htaken : d.isTaken = c.isTaken := by
    funext k; simp [isTaken, spriteNames, h.sprites]
  cases hn : e.attr? "name" with
  | none =>
    rw [makeSprite_unnamed hn, makeSprite_unnamed hn]
    exact ⟨rfl, h⟩
  | some declared =>
    cases hf : firstFree? c.isTaken (ofDeclared declared) with
    | none =>
      rw [makeSprite_exhausted hn hf, makeSprite_exhausted hn (htaken ▸ hf)]
      exact ⟨rfl, h⟩
    | some name =>
      rw [makeSprite_free hn hf, makeSprite_free hn (htaken ▸ hf), ← h.strict]
      exact settle_agrees h declared name _

/-- The elements of a sequence whose calls do not fail. -/
def succeeding (c : Compiler) (es : List Element) : List Element :=
  ((es.zip (c.results es)).filter (·.2.isOk)).map Prod.fst

/-- Without the calls that fail, the others return the same and leave the same registry. -/
theorem results_succeeding {c d : Compiler} (h : Agrees c d) (es : List Element) :
    d.results (c.succeeding es) = (c.results es).filter (·.isOk) ∧
      Agrees (c.after es) (d.after (c.succeeding es)) := by
  induction es generalizing c d with
  | nil => exact ⟨rfl, h⟩
  | cons e es ih =>
    have ha := attempt_makeSprite c e
    rw [after_cons]
    cases hr : (c.makeSprite e).2 with
    | error err =>
      rw [hr] at ha
      obtain ⟨hs, hn, -⟩ := ha.of_error
      have hskip : c.succeeding (e :: es) = (c.makeSprite e).1.succeeding es := by
        simp [succeeding, results, hr, Except.isOk, Except.toBool]
      have hsame : Agrees (c.makeSprite e).1 d := ⟨ha.strict.trans h.strict, hs.trans h.sprites, hn.trans h.names⟩
      rw [hskip, results, hr]
      exact ih hsame
    | ok s =>
      obtain ⟨hres, hsame⟩ := makeSprite_agrees h e
      have hkeep : c.succeeding (e :: es) = e :: (c.makeSprite e).1.succeeding es := by
        simp [succeeding, results, hr, Except.isOk, Except.toBool]
      obtain ⟨ihres, ihsame⟩ := ih hsame
      refine ⟨?_, by rw [hkeep]; exact ihsame⟩
      rw [hkeep, results, results, ← hres, hr, ihres]
      rfl

/-- A call that fails leaves sprites and names as they were and can only add warnings, whatever the
compiler. So a sequence of calls without those that fail returns the same for each of the others, and
the sprites, the names and the program text are the same in the end. -/
theorem failed_calls_leave_no_trace (c : Compiler) :
    (∀ (e : Element) (err : CompileError), (c.makeSprite e).2 = .error err →
      (c.makeSprite e).1.sprites = c.sprites ∧ (c.makeSprite e).1.names = c.names ∧
        ∃ ws, (c.makeSprite e).1.warnings = c.warnings ++ ws) ∧
    ∀ es : List Element,
      c.results (c.succeeding es) = (c.results es).filter (·.isOk) ∧
      (c.after (c.succeeding es)).sprites = (c.after es).sprites ∧
      (∀ declared, (c.after (c.succeeding es)).generatedName? declared = (c.after es).generatedName? declared) ∧
      (c.after (c.succeeding es)).spriteNames = (c.after es).spriteNames ∧
      (c.after (c.succeeding es)).render = (c.after es).render := by
  refine ⟨fun e err h => ?_, fun es => ?_⟩
  · have ha := attempt_makeSprite c e
    rw [h] at ha
    exact ha.of_error
  · obtain ⟨hres, hsame⟩ := results_succeeding (d := c) ⟨rfl, rfl, rfl⟩ es
    refine ⟨hres, hsame.sprites.symm, fun declared => ?_, ?_, ?_⟩
    · simp [generatedName?, hsame.names]
    · simp [spriteNames, hsame.sprites]
    · simp [render, spriteNames, hsame.sprites]

/-- A sprite that fails after a warning, since its second child is a block without selector. -/
def failingSprite : Element :=
  .mk "sprite" [("name", "Cat")] [.element (.mk "scripts" [] [.element (.mk "script" []
    [.element (.mk "comment" [] []), .element (.mk "block" [] [])])])]

theorem failed_calls_leave_no_trace_cat :
    ((new false).makeSprite failingSprite).2 = .error (.missingAttribute "block" "s") ∧
    ((new false).makeSprite failingSprite).1.warnings = [.skippedElement "comment" "cat"] ∧
    ((new false).makeSprite failingSprite).1.sprites = [] ∧
    (new false).succeeding [failingSprite, .mk "sprite" [("name", "Cat")] []] = [.mk "sprite" [("name", "Cat")] []] ∧
    (new false).results [.mk "sprite" [("name", "Cat")] []] = [.ok ⟨"cat", "Cat", []⟩] := by
  have herr : ((new false).makeSprite failingSprite).2 = .error (.missingAttribute "block" "s") := by rfl
  have hkeep : (new false).succeeding [failingSprite, .mk "sprite" [("name", "Cat")] []] =
      [.mk "sprite" [("name", "Cat")] []] := by rfl
  obtain ⟨hfail, hseq⟩ := failed_calls_leave_no_trace (new false)
  have hres := (hseq [failingSprite, .mk "sprite" [("name", "Cat")] []]).1
  rw [hkeep] at hres
  exact ⟨herr, by rfl, (hfail _ _ herr).1, hkeep, hres.trans (by rfl)⟩

end SpriteScribe.Compiler
