/-
Which projects compile, and what is reported of the others. `Visited` says which elements of a project
compiling comes to, and `Offends` what can be wrong with one of them. A project compiles when nothing
is wrong, and otherwise the error is that of the first element, in the order of the document, with
which something is.
-/
import SpriteScribe.Proofs.Project.Calls
import SpriteScribe.Proofs.Project.Faults

namespace SpriteScribe

open SpriteScribe.Markup

/-! ## What compiling comes to -/

/-- The sprites of a project, with their positions. -/
def spritePlaces (root : Element) : List (Position × Element) :=
  if root.name = "project" then root.places ["stage", "sprites", "sprite"]
  else if root.name = "snapdata" then root.places ["project", "stage", "sprites", "sprite"]
  else []

/-- The elements that compiling comes to, each with its position in the project and the type of the
nearest block around it, which is empty outside of blocks. -/
inductive Visited (root : Element) : Position → Element → String → Prop
  | sprite {p : Position} {e : Element} : (p, e) ∈ spritePlaces root → Visited root p e ""
  | script {p q : Position} {e x : Element} : (p, e) ∈ spritePlaces root →
      (q, x) ∈ e.places ["scripts", "script"] → Visited root (p ++ q) x ""
  | child {p q : Position} {e x : Element} {type : String} : Visited root p e type →
      (q, x) ∈ e.childPlaces → Enters e x → Visited root (p ++ q) x (typeInside e type)

/-- The identifiers in use after a sprite, which takes its declared name with the fewest underscores
that are free. -/
def takeIdentifier (taken : List String) (e : Element) : List String :=
  match (e.attr? "name").bind fun declared => Identifier.firstFree? taken.contains (Identifier.ofDeclared declared) with
  | some name => name :: taken
  | none => taken

/-- The identifiers that sprites take one after the other. -/
def identifiers (es : List Element) : List String := es.foldl takeIdentifier []

/-- What can be wrong with an element, by its position, and the error for it. -/
inductive Offends (strict : Bool) (root : Element) : Position → CompileError → Prop
  | unnamed {p : Position} {e : Element} : (p, e) ∈ spritePlaces root → e.attr? "name" = none →
      Offends strict root p (.missingAttribute e.name "name")
  | exhausted {before after : List (Position × Element)} {p : Position} {e : Element} {declared : String} :
      spritePlaces root = before ++ (p, e) :: after → e.attr? "name" = some declared →
      (∀ n ≤ 64, Identifier.suffixed (Identifier.ofDeclared declared) n ∈ identifiers (before.map Prod.snd)) →
      Offends strict root p (.nameExhausted (Identifier.ofDeclared declared))
  | untyped {p : Position} {e : Element} {type : String} : Visited root p e type →
      e.name = "block" → e.attr? "s" = none → Offends strict root p (.missingAttribute e.name "s")
  | stranger {p q : Position} {e x : Element} {type : String} : strict = true → Visited root p e type →
      e.name = "block" ∨ e.name = "list" → (q, x) ∈ e.childPlaces → x.name ∉ argTags →
      Offends strict root (p ++ q) (.unclassifiedArgument x.name (typeInside e type))

/-! ## Sprites -/

/-- What is wrong with a sprite and inside it, when some identifiers are in use. -/
inductive SpriteFault (strict : Bool) (taken : List String) (e : Element) : Position → CompileError → Prop
  | unnamed : e.attr? "name" = none → SpriteFault strict taken e [] (.missingAttribute e.name "name")
  | exhausted {declared : String} : e.attr? "name" = some declared →
      (∀ n ≤ 64, Identifier.suffixed (Identifier.ofDeclared declared) n ∈ taken) →
      SpriteFault strict taken e [] (.nameExhausted (Identifier.ofDeclared declared))
  | inside {p q : Position} {x : Element} {err : CompileError} : (q, x) ∈ e.places ["scripts", "script"] →
      Fault strict x "" p err → SpriteFault strict taken e (q ++ p) err

theorem scripts_inOrder (e : Element) : InOrder 2 (e.places ["scripts", "script"]) :=
  e.places_inOrder ["scripts", "script"]

theorem reported_buildScript (ctx : BuildContext) (declared : String) (e : Element) :
    reported (buildScript ctx declared e).result =
      reported (Build.collect (buildItem ctx) e.childElements).result := by
  rw [buildScript, reported_bind (r := none), Option.or_none]
  intro blocks
  split <;> rfl

/-- Building a sprite reports the first fault in its scripts. -/
theorem buildSprite_reports (ctx : BuildContext) (declared : String) (e : Element) :
    Reports (Inside (e.places ["scripts", "script"]) fun x => Fault ctx.strict x "")
      (reported (buildSprite ctx declared e).result) := by
  have hfind : e.find "scripts/script" = (e.places ["scripts", "script"]).map Prod.snd := by
    rw [Element.map_places]; rfl
  rw [buildSprite_eq, reported_map, reported_collect, hfind]
  refine Reports.inside (scripts_inOrder e) fun x hx => ?_
  rw [reported_buildScript]
  exact script_reports (Element.name_of_mem_places ["scripts"] hx)
    fun y _ hb => (build_reports ctx y).2 hb ""

namespace Compiler

theorem reported_settle (c : Compiler) (declared name : String) (b : Build Sprite) :
    reported (c.settle declared name b).2 = reported b.result := by
  unfold settle
  cases b.result <;> rfl

/-- A call reports the first fault of its sprite. -/
theorem makeSprite_reports {c : Compiler} {taken : List String} (htaken : ∀ k, k ∈ taken ↔ k ∈ c.spriteNames)
    (e : Element) : Reports (SpriteFault c.strict taken e) (reported (c.makeSprite e).2) := by
  have hexhausted : ∀ declared, Identifier.firstFree? c.isTaken (Identifier.ofDeclared declared) = none ↔
      ∀ n ≤ 64, Identifier.suffixed (Identifier.ofDeclared declared) n ∈ taken := by
    intro declared
    simp [Identifier.firstFree?_eq_none_iff, isTaken, htaken, Identifier.maxSuffix]
  cases hn : e.attr? "name" with
  | none =>
    rw [makeSprite_unnamed hn]
    refine Reports.here (.unnamed hn) fun q err h => ?_
    cases h with
    | unnamed => exact .inr rfl
    | exhausted hn' => rw [hn] at hn'; cases hn'
    | inside hx => exact .inl (List.append_ne_nil_of_left_ne_nil ((scripts_inOrder e).ne_nil hx) _)
  | some declared =>
    cases hf : Identifier.firstFree? c.isTaken (Identifier.ofDeclared declared) with
    | none =>
      rw [makeSprite_exhausted hn hf]
      refine Reports.here (.exhausted hn ((hexhausted declared).1 hf)) fun q err h => ?_
      cases h with
      | unnamed hn' => rw [hn] at hn'; cases hn'
      | exhausted hn' => rw [hn] at hn'; cases hn'; exact .inr rfl
      | inside hx => exact .inl (List.append_ne_nil_of_left_ne_nil ((scripts_inOrder e).ne_nil hx) _)
    | some name =>
      rw [makeSprite_free hn hf, reported_settle]
      refine (buildSprite_reports ⟨name, c.strict⟩ declared e).congr fun p err => ?_
      constructor
      · rintro ⟨q, x, r, hx, hr, rfl⟩
        exact .inside hx hr
      · intro h
        cases h with
        | unnamed hn' => rw [hn] at hn'; cases hn'
        | exhausted hn' hall =>
          rw [hn] at hn'; cases hn'
          rw [(hexhausted declared).2 hall] at hf; cases hf
        | inside hx hr => exact ⟨_, _, _, hx, hr, rfl⟩

/-- A call that succeeds registers the identifier that its sprite takes. -/
theorem mem_takeIdentifier {c : Compiler} {taken : List String} (htaken : ∀ k, k ∈ taken ↔ k ∈ c.spriteNames)
    {e : Element} (h : reported (c.makeSprite e).2 = none) (k : String) :
    k ∈ takeIdentifier taken e ↔ k ∈ (c.makeSprite e).1.spriteNames := by
  have hsame : taken.contains = c.isTaken := by
    funext k; simp [isTaken, htaken]
  have ha := attempt_makeSprite c e
  cases hr : (c.makeSprite e).2 with
  | error err => rw [hr] at h; cases h
  | ok s =>
    rw [hr] at ha
    have htake : takeIdentifier taken e = s.name :: taken := by
      generalize (c.makeSprite e).1 = c' at ha
      cases ha with
      | made hn hf hb =>
        obtain ⟨hname, -, -⟩ := buildSprite_ok hb
        rw [takeIdentifier, hn, Option.bind_some, hsame, hf, hname]
    rw [htake, ha.mem_spriteNames, List.mem_cons, htaken]
    simp [eq_comm, or_comm]

/-! ## Runs -/

/-- The faults of sprites that come one after the other. -/
def RunFault (strict : Bool) (taken : List String) (xs : List (Position × Element)) (p : Position)
    (err : CompileError) : Prop :=
  ∃ before q e after r, xs = before ++ (q, e) :: after ∧
    SpriteFault strict ((before.map Prod.snd).foldl takeIdentifier taken) e r err ∧ p = q ++ r

theorem runFault_cons {strict : Bool} {taken : List String} {q : Position} {e : Element}
    {xs : List (Position × Element)} {p : Position} {err : CompileError} :
    RunFault strict taken ((q, e) :: xs) p err ↔
      (∃ r, SpriteFault strict taken e r err ∧ p = q ++ r) ∨ RunFault strict (takeIdentifier taken e) xs p err := by
  constructor
  · rintro ⟨before, q', e', after, r, hxs, hr, rfl⟩
    cases before with
    | nil => cases hxs; exact .inl ⟨r, hr, rfl⟩
    | cons x before => cases hxs; exact .inr ⟨before, q', e', after, r, rfl, hr, rfl⟩
  · rintro (⟨r, hr, rfl⟩ | ⟨before, q', e', after, r, rfl, hr, rfl⟩)
    · exact ⟨[], q, e, xs, r, rfl, hr, rfl⟩
    · exact ⟨(q, e) :: before, q', e', after, r, rfl, hr, rfl⟩

theorem RunFault.append {strict : Bool} {taken : List String} {xs later : List (Position × Element)} {p : Position}
    {err : CompileError} (h : RunFault strict taken xs p err) : RunFault strict taken (xs ++ later) p err := by
  obtain ⟨before, q, e, after, r, rfl, hr, rfl⟩ := h
  exact ⟨before, q, e, after ++ later, r, by simp, hr, rfl⟩

/-- The faults of some sprites come before a sprite that follows on them. -/
theorem RunFault.before {strict : Bool} {taken : List String} {xs after : List (Position × Element)}
    {x : Position × Element} {p : Position} {err : CompileError} {depth : Nat} (ho : InOrder depth (xs ++ x :: after))
    (h : RunFault strict taken xs p err) : p.Before x.1 := by
  obtain ⟨before, q, e, between, r, rfl, -, rfl⟩ := h
  rw [List.append_assoc] at ho
  have hlast := (ho.sublist (List.sublist_append_right _ _)).append_before (y := x) (by simp) r []
  rwa [List.append_nil] at hlast

theorem reported_makeSprites_cons (c : Compiler) (e : Element) (es : List Element) :
    reported (c.makeSprites (e :: es)).2 =
      (reported (c.makeSprite e).2).or (reported ((c.makeSprite e).1.makeSprites es).2) := by
  rw [makeSprites]
  rcases c.makeSprite e with ⟨c', err | s⟩ <;> rfl

/-- A run over sprites in order reports the first fault of them all. -/
theorem makeSprites_reports {depth : Nat} {c : Compiler} {taken : List String} {xs : List (Position × Element)}
    (ho : InOrder depth xs) (htaken : ∀ k, k ∈ taken ↔ k ∈ c.spriteNames) :
    Reports (RunFault c.strict taken xs) (reported (c.makeSprites (xs.map Prod.snd)).2) := by
  induction xs generalizing c taken with
  | nil => rintro p err ⟨before, q, e, after, r, hxs, -⟩; simp at hxs
  | cons x xs ih =>
    obtain ⟨q, e⟩ := x
    have hstrict : (c.makeSprite e).1.strict = c.strict := (attempt_makeSprite c e).strict
    rw [List.map_cons, reported_makeSprites_cons]
    -- the run goes on only if the first call succeeds, and then with the identifier that it has taken
    refine (((makeSprite_reports htaken e).shift q).append (fun hok => ?_) ?_).congr fun p err => runFault_cons.symm
    · rw [← hstrict]
      exact ih (ho.sublist (List.sublist_cons_self _ _)) (mem_takeIdentifier htaken hok)
    · rintro - err - err' ⟨r, -, rfl⟩ ⟨before, q', e', after, r', rfl, -, rfl⟩
      exact ho.append_before (y := (q', e')) (by simp) r r'

/-- After a run without errors the identifiers in use are those that the sprites take. -/
theorem mem_foldl_takeIdentifier {c : Compiler} {taken : List String} {es : List Element}
    (htaken : ∀ k, k ∈ taken ↔ k ∈ c.spriteNames) (h : reported (c.makeSprites es).2 = none) (k : String) :
    k ∈ es.foldl takeIdentifier taken ↔ k ∈ (c.after es).spriteNames := by
  induction es generalizing c taken with
  | nil => exact htaken k
  | cons e es ih =>
    rw [reported_makeSprites_cons, Option.or_eq_none_iff] at h
    exact ih (mem_takeIdentifier htaken h.1) h.2

end Compiler

/-! ## Projects -/

open Compiler

theorem spritePlaces_eq (root : Element) : ∃ path, spritePlaces root = [] ∨
    spritePlaces root = root.places (path ++ ["sprite"]) := by
  unfold spritePlaces
  split
  · exact ⟨["stage", "sprites"], .inr rfl⟩
  · split
    · exact ⟨["project", "stage", "sprites"], .inr rfl⟩
    · exact ⟨[], .inl rfl⟩

theorem spritePlaces_inOrder (root : Element) : ∃ depth, InOrder depth (spritePlaces root) := by
  obtain ⟨path, h | h⟩ := spritePlaces_eq root
  · exact ⟨0, by rw [h]; exact ⟨.nil, nofun⟩⟩
  · exact ⟨_, by rw [h]; exact root.places_inOrder _⟩

theorem name_of_mem_spritePlaces {root : Element} {x : Position × Element} (h : x ∈ spritePlaces root) :
    x.2.name = "sprite" := by
  obtain ⟨path, hp | hp⟩ := spritePlaces_eq root <;> rw [hp] at h
  · cases h
  · exact Element.name_of_mem_places path h

/-- The sprites are the elements that the paths to sprites lead to. -/
theorem map_spritePlaces {root : Element} (h : root.name = "project" ∨ root.name = "snapdata") :
    (spritePlaces root).map Prod.snd = spriteElements root := by
  have hsearch : spriteElements root =
      (if "project" = root.name then Element.descend [root] ["stage", "sprites", "sprite"] else []) ++
      ((if "snapdata" = root.name then
        Element.descend [root] ["project", "stage", "sprites", "sprite"] else []) ++ []) :=
    rfl
  rw [hsearch]
  unfold spritePlaces
  rcases h with h | h <;> simp [h, Element.map_places]

/-- What is wrong inside an element that compiling comes to is wrong with the sprite around it. -/
theorem Visited.runFault {strict : Bool} {root e : Element} {p : Position} {type : String}
    (h : Visited root p e type) : ∀ {q : Position} {err : CompileError}, Fault strict e type q err →
      RunFault strict [] (spritePlaces root) (p ++ q) err := by
  induction h with
  | sprite hs =>
    intro q err hf
    -- compiling goes on from a sprite to its scripts only
    have hn := name_of_mem_spritePlaces hs
    rcases hf.name with h | h | h <;> rw [hn] at h <;> exact absurd h (by decide)
  | script hs hx =>
    intro q err hf
    obtain ⟨before, after, hsplit⟩ := List.append_of_mem hs
    exact ⟨before, _, _, after, _, hsplit, .inside hx hf, List.append_assoc _ _ _⟩
  | child _ hx hent ih =>
    intro q err hf
    rw [List.append_assoc]
    exact ih (.inChild hx hent hf)

theorem Fault.offends {strict : Bool} {root e : Element} {type : String} {q : Position} {err : CompileError}
    (h : Fault strict e type q err) : ∀ {p : Position}, Visited root p e type → Offends strict root (p ++ q) err := by
  induction h with
  | untyped hn hs =>
    intro p hv
    rw [List.append_nil]
    exact .untyped hv hn hs
  | stranger hstrict hn hx htag => intro p hv; exact .stranger hstrict hv hn hx htag
  | inChild hx hent _ ih =>
    intro p hv
    rw [← List.append_assoc]
    exact ih (.child hv hx hent)

/-- What is wrong in a project is what is wrong with its sprites in order. -/
theorem offends_iff_runFault (strict : Bool) (root : Element) (p : Position) (err : CompileError) :
    RunFault strict [] (spritePlaces root) p err ↔ Offends strict root p err := by
  constructor
  · rintro ⟨before, q, e, after, r, hsplit, hf, rfl⟩
    have hmem : (q, e) ∈ spritePlaces root := by rw [hsplit]; simp
    cases hf with
    | unnamed hn => rw [List.append_nil]; exact .unnamed hmem hn
    | exhausted hn hall => rw [List.append_nil]; exact .exhausted hsplit hn hall
    | inside hx hf =>
      rw [← List.append_assoc]
      exact hf.offends (.script hmem hx)
  · intro h
    cases h with
    | unnamed hs hn =>
      obtain ⟨before, after, hsplit⟩ := List.append_of_mem hs
      exact ⟨before, _, _, after, [], hsplit, .unnamed hn, (List.append_nil _).symm⟩
    | exhausted hsplit hn hall => exact ⟨_, _, _, _, [], hsplit, .exhausted hn hall, (List.append_nil _).symm⟩
    | untyped hv hn hs =>
      rw [← List.append_nil p]
      exact hv.runFault (.untyped hn hs)
    | stranger hstrict hv hn hx htag => exact hv.runFault (.stranger hstrict hn hx htag)

theorem compileProject_reports (strict : Bool) {root : Element} (h : root.name = "project" ∨ root.name = "snapdata") :
    Reports (Offends strict root) (reported (compileProject strict root).result) := by
  have hresult : reported (compileProject strict root).result =
      reported ((Compiler.new strict).makeSprites ((spritePlaces root).map Prod.snd)).2 := by
    rw [compileProject_result strict h, map_spritePlaces h]
    cases ((Compiler.new strict).makeSprites (spriteElements root)).2 <;> rfl
  obtain ⟨depth, ho⟩ := spritePlaces_inOrder root
  rw [hresult]
  exact (makeSprites_reports (c := Compiler.new strict) ho (by simp [new, spriteNames])).congr
    (offends_iff_runFault strict root)

/-- Which projects compile, and the error of those that do not. A project compiles when nothing is wrong
with any element that compiling comes to, and otherwise the error is that of the first such element in
the order of the document. The identifiers that count as in use for a sprite are those registered by the
sprites before it, as long as nothing is wrong before it. -/
theorem compileProject_first_offence (strict : Bool) (root : Element)
    (h : root.name = "project" ∨ root.name = "snapdata") :
    ((∃ program, (compileProject strict root).result = .ok program) ↔ ∀ p err, ¬ Offends strict root p err) ∧
    (∀ err, (compileProject strict root).result = .error err ↔
      ∃ p, Offends strict root p err ∧ ∀ q err', Offends strict root q err' → ¬ q.Before p) ∧
    ∀ before p e after, spritePlaces root = before ++ (p, e) :: after →
      (∀ q err, Offends strict root q err → ¬ q.Before p) →
      ∀ k, k ∈ identifiers (before.map Prod.snd) ↔
        k ∈ ((Compiler.new strict).after (before.map Prod.snd)).spriteNames := by
  have hreports := compileProject_reports strict h
  refine ⟨?_, fun err => ?_, fun before p e after hsplit hfirst => ?_⟩
  · rw [← reported_eq_none_iff, hreports.eq_none_iff]
  · rw [← reported_eq_some_iff, hreports.eq_some_iff]
  · obtain ⟨depth, ho⟩ := spritePlaces_inOrder root
    have hnew : ∀ k, k ∈ ([] : List String) ↔ k ∈ (Compiler.new strict).spriteNames := by simp [new, spriteNames]
    have hsub : before.Sublist (spritePlaces root) := by rw [hsplit]; exact List.sublist_append_left _ _
    have hbefore := makeSprites_reports (ho.sublist hsub) hnew
    refine mem_foldl_takeIdentifier hnew (hbefore.eq_none_iff.2 fun q err hq => ?_)
    -- it would be a fault of the project, before all others
    have hlt : q.Before p := by rw [hsplit] at ho; exact hq.before ho
    refine hfirst q err ((offends_iff_runFault strict root q err).1 ?_) hlt
    rw [hsplit]
    exact hq.append

/-- Two sprites of one name, the second with arguments of unknown shape in a list. -/
def oddProject : Element :=
  .mk "project" [] [.element (.mk "stage" [] [.element (.mk "sprites" [] [
    .element (.mk "sprite" [("name", "Cat")] []),
    .element (.mk "sprite" [("name", "Cat")] [.element (.mk "scripts" [] [.element (.mk "script" [] [
      .element (.mk "block" [("s", "bubble")] [.element (.mk "list" [] [
        .element (.mk "variable" [] []), .element (.mk "context" [] [])])])])])])])])]

theorem compileProject_first_offence_oddProject :
    oddProject.name = "project" ∧ (∀ p err, ¬ Offends false oddProject p err) ∧
    "cat" ∈ identifiers [.mk "sprite" [("name", "Cat")] []] ∧
    ∃ p, Offends true oddProject p (.unclassifiedArgument "variable" "bubble") ∧
      ∀ q err, Offends true oddProject q err → ¬ q.Before p := by
  obtain ⟨haccepts, -, hregistered⟩ := compileProject_first_offence false oddProject (.inl rfl)
  obtain ⟨-, hrejects, -⟩ := compileProject_first_offence true oddProject (.inl rfl)
  have hno := haccepts.1 ⟨_, rfl⟩
  refine ⟨rfl, hno, ?_, (hrejects _).1 rfl⟩
  refine (hregistered [([0, 0, 0], .mk "sprite" [("name", "Cat")] [])] _ _ _ rfl ?_ "cat").2 ?_
  · intro q err hq
    exact absurd hq (hno q err)
  · decide

end SpriteScribe
