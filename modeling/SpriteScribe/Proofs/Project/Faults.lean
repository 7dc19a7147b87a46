/-
What building reports. A fault is something wrong with an element that building comes to (`Fault`), and
each function of the build reports the first of the faults at or below its element, in the order of the
document (`Reports`). An element comes before what is inside it, and what is inside an earlier child
before all of a later one, so going through children in order keeps this.
-/
import SpriteScribe.Proofs.Markup.Position
import SpriteScribe.Proofs.Project.Nesting

namespace SpriteScribe

open SpriteScribe.Markup

/-! ## Reports -/

/-- What is reported of faults: nothing if there are none, and otherwise the first of them, which is
the only one at its position. -/
def Reports (S : Position → CompileError → Prop) : Option CompileError → Prop
  | none => ∀ p err, ¬ S p err
  | some err => ∃ p, S p err ∧ ∀ q err', S q err' → p.Before q ∨ q = p ∧ err' = err

/-- The faults in elements, by their positions from outside. -/
def Inside (xs : List (Position × Element)) (S : Element → Position → CompileError → Prop) (p : Position)
    (err : CompileError) : Prop :=
  ∃ q x r, (q, x) ∈ xs ∧ S x r err ∧ p = q ++ r

namespace Reports

variable {S T : Position → CompileError → Prop} {r t : Option CompileError}

theorem congr (h : Reports S r) (hST : ∀ p err, S p err ↔ T p err) : Reports T r := by
  have hEq : S = T := by funext p err; exact propext (hST p err)
  exact hEq ▸ h

/-- A report stands if all further faults come later. -/
theorem append (hS : Reports S r) (hT : r = none → Reports T t)
    (hlt : ∀ p err q err', S p err → T q err' → p.Before q) : Reports (fun p err => S p err ∨ T p err) (r.or t) := by
  cases r with
  | none => exact (hT rfl).congr fun p err => ⟨.inr, fun h => h.resolve_left (hS p err)⟩
  | some err =>
    -- the second part is not gone through, so nothing is known of `t`
    obtain ⟨p, hp, hfirst⟩ := hS
    refine ⟨p, .inl hp, fun q err' hq => ?_⟩
    rcases hq with hq | hq
    · exact hfirst q err' hq
    · exact .inl (hlt p err q err' hp hq)

theorem eq_none_iff (h : Reports S r) : r = none ↔ ∀ p err, ¬ S p err := by
  cases r with
  | none => exact ⟨fun _ => h, fun _ => rfl⟩
  | some err =>
    obtain ⟨p, hp, -⟩ := h
    exact ⟨nofun, fun hno => absurd hp (hno p err)⟩

theorem eq_some_iff (h : Reports S r) (err : CompileError) :
    r = some err ↔ ∃ p, S p err ∧ ∀ q err', S q err' → ¬ q.Before p := by
  constructor
  · rintro rfl
    obtain ⟨p, hp, hfirst⟩ := h
    refine ⟨p, hp, fun q err' hq => ?_⟩
    rcases hfirst q err' hq with hlt | ⟨rfl, -⟩
    · exact asymm hlt
    · exact irrefl q
  · rintro ⟨p, hp, hnone⟩
    cases r with
    | none => exact absurd hp (h p err)
    | some err' =>
      obtain ⟨q, hq, hfirst⟩ := h
      rcases hfirst p err hp with hlt | ⟨-, rfl⟩
      · exact absurd hlt (hnone q err' hq)
      · rfl

theorem shift (h : Reports S r) (q : Position) : Reports (fun p err => ∃ s, S s err ∧ p = q ++ s) r := by
  cases r with
  | none => rintro p err ⟨s, hs, -⟩; exact h s err hs
  | some err =>
    obtain ⟨p, hp, hfirst⟩ := h
    refine ⟨q ++ p, ⟨p, hp, rfl⟩, ?_⟩
    rintro - err' ⟨s, hs, rfl⟩
    rcases hfirst s err' hs with hlt | ⟨rfl, rfl⟩
    · exact .inl (hlt.append_left _ q)
    · exact .inr ⟨rfl, rfl⟩

/-- A fault of the element itself is reported before what is inside it. -/
theorem here {err : CompileError} (h : S [] err) (hfirst : ∀ q err', S q err' → q ≠ [] ∨ err' = err) :
    Reports S (some err) := by
  refine ⟨[], h, fun q err' hq => ?_⟩
  cases q with
  | nil => exact .inr ⟨rfl, (hfirst [] err' hq).resolve_left (· rfl)⟩
  | cons i q => exact .inl .nil

/-- Going through elements in order reports the first fault in any of them. -/
theorem inside {depth : Nat} {S : Element → Position → CompileError → Prop} {r : Element → Option CompileError}
    {xs : List (Position × Element)} (ho : InOrder depth xs) (h : ∀ x ∈ xs, Reports (S x.2) (r x.2)) :
    Reports (Inside xs S) ((xs.map Prod.snd).findSome? r) := by
  induction xs with
  | nil => rintro p err ⟨q, x, -, hx, -⟩; cases hx
  | cons x xs ih =>
    have hrest := ih (ho.sublist (List.sublist_cons_self _ _)) fun y hy => h y (List.mem_cons_of_mem _ hy)
    have hall := ((h x List.mem_cons_self).shift x.1).append (fun _ => hrest) (by
      rintro - err - err' ⟨s, -, rfl⟩ ⟨q, y, s', hy, -, rfl⟩
      exact ho.append_before hy s s')
    have hfind : ((x :: xs).map Prod.snd).findSome? r = (r x.2).or ((xs.map Prod.snd).findSome? r) := by
      rw [List.map_cons, List.findSome?_cons]
      cases r x.2 <;> rfl
    rw [hfind]
    refine hall.congr fun p err => ?_
    constructor
    · rintro (⟨s, hs, rfl⟩ | ⟨q, y, s, hy, hs, rfl⟩)
      · exact ⟨x.1, x.2, s, List.mem_cons_self, hs, rfl⟩
      · exact ⟨q, y, s, List.mem_cons_of_mem _ hy, hs, rfl⟩
    · rintro ⟨q, y, s, hy, hs, rfl⟩
      rcases List.mem_cons.1 hy with rfl | hy
      · exact .inl ⟨s, hs, rfl⟩
      · exact .inr ⟨q, y, s, hy, hs, rfl⟩

end Reports

/-! ## Errors of sequences -/

/-- The error that a result is, if it is one. -/
def reported {α : Type} : Except CompileError α → Option CompileError
  | .error err => some err
  | .ok _ => none

theorem reported_eq_none_iff {α : Type} {r : Except CompileError α} : reported r = none ↔ ∃ a, r = .ok a := by
  cases r <;> simp [reported]

theorem reported_eq_some_iff {α : Type} {r : Except CompileError α} {err : CompileError} :
    reported r = some err ↔ r = .error err := by
  cases r <;> simp [reported]

theorem reported_bind {α β : Type} (b : Build α) {f : α → Build β} {r : Option CompileError}
    (h : ∀ a, reported (f a).result = r) : reported (b >>= f).result = (reported b.result).or r := by
  obtain ⟨ws, err | a⟩ := b
  · rfl
  · rw [Build.bind_ok]; exact h a

theorem reported_map {α β : Type} (b : Build α) (f : α → β) :
    reported (b >>= fun a => pure (f a)).result = reported b.result := by
  rw [reported_bind (r := none) b fun _ => rfl, Option.or_none]

theorem reported_each {α β : Type} (f : α → Build β) (xs : List α) :
    reported (Build.each f xs).result = xs.findSome? fun x => reported (f x).result := by
  induction xs with
  | nil => rfl
  | cons x xs ih =>
    rw [Build.each, reported_bind (f x) fun y => (reported_map _ _).trans ih, List.findSome?_cons]
    cases reported (f x).result <;> rfl

theorem reported_collect {α β : Type} (f : α → Build (Option β)) (xs : List α) :
    reported (Build.collect f xs).result = xs.findSome? fun x => reported (f x).result := by
  rw [Build.collect, reported_map, reported_each]

/-! ## Faults inside a script -/

/-- Compiling goes on to all child elements of a block or a list, and to the blocks of a script. -/
def Enters (e x : Element) : Prop :=
  e.name = "block" ∨ e.name = "list" ∨ e.name = "script" ∧ x.name = "block"

/-- The type of the nearest block around the child elements of an element that has one of a type
around itself. -/
def typeInside (e : Element) (type : String) : String :=
  if e.name = "block" then (e.attr? "s").getD "" else type

/-- What is wrong with an element that compiling comes to, inside a block of a type, and with the
elements that it comes to from there. -/
inductive Fault (strict : Bool) : Element → String → Position → CompileError → Prop
  | untyped {e : Element} {type : String} : e.name = "block" → e.attr? "s" = none →
      Fault strict e type [] (.missingAttribute e.name "s")
  | stranger {e x : Element} {type : String} {q : Position} : strict = true →
      e.name = "block" ∨ e.name = "list" → (q, x) ∈ e.childPlaces → x.name ∉ argTags →
      Fault strict e type q (.unclassifiedArgument x.name (typeInside e type))
  | inChild {e x : Element} {type : String} {p q : Position} {err : CompileError} : (q, x) ∈ e.childPlaces →
      Enters e x → Fault strict x (typeInside e type) p err → Fault strict e type (q ++ p) err

/-- The same for an element that stands as an argument: it may itself be of unknown shape. -/
def ArgFault (strict : Bool) (type : String) (e : Element) (p : Position) (err : CompileError) : Prop :=
  (strict = true ∧ e.name ∉ argTags ∧ p = [] ∧ err = .unclassifiedArgument e.name type) ∨ Fault strict e type p err

theorem Fault.name {strict : Bool} {e : Element} {type : String} {p : Position} {err : CompileError}
    (h : Fault strict e type p err) : e.name = "block" ∨ e.name = "list" ∨ e.name = "script" := by
  cases h with
  | untyped hn => exact .inl hn
  | stranger _ hn => exact hn.imp id .inl
  | inChild _ hn => exact hn.imp id (Or.imp id And.left)

/-- The faults of a list, or of a block with a type, are those of its arguments. -/
theorem fault_iff_inside {strict : Bool} {e : Element} {type : String} (hn : e.name = "block" ∨ e.name = "list")
    (htyped : e.name = "block" → e.attr? "s" ≠ none) (p : Position) (err : CompileError) :
    Fault strict e type p err ↔ Inside e.childPlaces (ArgFault strict (typeInside e type)) p err := by
  constructor
  · intro h
    cases h with
    | untyped hb hs => exact absurd hs (htyped hb)
    | stranger hstrict _ hx htag =>
      exact ⟨_, _, [], hx, .inl ⟨hstrict, htag, rfl, rfl⟩, (List.append_nil _).symm⟩
    | inChild hx _ hf => exact ⟨_, _, _, hx, .inr hf, rfl⟩
  · rintro ⟨q, x, r, hx, ⟨hstrict, htag, rfl, rfl⟩ | hf, rfl⟩
    · rw [List.append_nil]
      exact .stranger hstrict hn hx htag
    · exact .inChild hx (hn.imp id .inl) hf

/-- The faults of a script are those of its blocks. -/
theorem fault_script_iff {strict : Bool} {e : Element} {type : String} (hn : e.name = "script") (p : Position)
    (err : CompileError) :
    Fault strict e type p err ↔
      Inside e.childPlaces (fun x r err => x.name = "block" ∧ Fault strict x type r err) p err := by
  have hblock : e.name ≠ "block" := by rw [hn]; decide
  have hlist : e.name ≠ "list" := by rw [hn]; decide
  have htype : typeInside e type = type := if_neg hblock
  constructor
  · intro h
    cases h with
    | untyped hb => exact absurd hb hblock
    | stranger _ hb => exact absurd hb (by simp [hblock, hlist])
    | inChild hx hent hf =>
      obtain ⟨-, hx'⟩ := (hent.resolve_left hblock).resolve_left hlist
      exact ⟨_, _, _, hx, ⟨hx', htype ▸ hf⟩, rfl⟩
  · rintro ⟨q, x, r, hx, ⟨hx', hf⟩, rfl⟩
    exact .inChild hx (.inr (.inr ⟨hn, hx'⟩)) (htype.symm ▸ hf)

/-! ## Building reports the first fault -/

theorem ofTag_cases (tag : String) :
    (tag = "l" ∧ ArgKind.ofTag tag = .literal) ∨ (tag = "color" ∧ ArgKind.ofTag tag = .color) ∨
      (tag = "list" ∧ ArgKind.ofTag tag = .list) ∨ (tag = "block" ∧ ArgKind.ofTag tag = .block) ∨
      (tag = "script" ∧ ArgKind.ofTag tag = .script) ∨ (tag ∉ argTags ∧ ArgKind.ofTag tag = .unknown) := by
  by_cases h : tag ∈ argTags
  · simp only [argTags, List.mem_cons, List.not_mem_nil, or_false] at h
    rcases h with rfl | rfl | rfl | rfl | rfl <;> decide
  · simp [h, ofTag_eq_unknown_iff]

section Reporting

variable {ctx : BuildContext} {e : Element} {type : String}

theorem argFault_iff (strict : Bool) (hn : e.name ∈ argTags) (p : Position) (err : CompileError) :
    Fault strict e type p err ↔ ArgFault strict type e p err :=
  ⟨.inr, fun h => h.resolve_left fun h => h.2.1 hn⟩

theorem args_report
    (ih : ∀ x ∈ e.childElements, Reports (ArgFault ctx.strict type x) (reported (buildArg ctx type x).result)) :
    Reports (Inside e.childPlaces (ArgFault ctx.strict type))
      (reported (Build.each (buildArg ctx type) e.childElements).result) := by
  rw [reported_each, ← e.map_childPlaces]
  exact Reports.inside e.childPlaces_inOrder fun x hx => ih x.2 (Element.mem_childElements_of_place hx)

theorem block_reports (hn : e.name = "block")
    (ih : ∀ x ∈ e.childElements, ∀ type, Reports (ArgFault ctx.strict type x) (reported (buildArg ctx type x).result)) :
    Reports (Fault ctx.strict e type) (reported (buildBlock ctx e).result) := by
  cases hs : e.attr? "s" with
  | none =>
    -- the block itself is at fault, whatever is inside it
    have hresult : reported (buildBlock ctx e).result = some (.missingAttribute e.name "s") := by
      unfold buildBlock required
      rw [show e.attributes.lookup "s" = none from hs]
      rfl
    rw [hresult]
    refine Reports.here (.untyped hn hs) fun q err h => ?_
    cases h with
    | untyped => exact .inr rfl
    | stranger _ _ hx => exact .inl (e.childPlaces_inOrder.ne_nil hx)
    | inChild hx => exact .inl (List.append_ne_nil_of_left_ne_nil (e.childPlaces_inOrder.ne_nil hx) _)
  | some inner =>
    have hresult : reported (buildBlock ctx e).result =
        reported (Build.each (buildArg ctx inner) e.childElements).result := by
      unfold buildBlock required
      rw [show e.attributes.lookup "s" = some inner from hs]
      exact reported_map _ _
    have htype : typeInside e type = inner := by rw [typeInside, if_pos hn, hs]; rfl
    rw [hresult]
    refine (args_report fun x hx => ih x hx inner).congr fun p err => ?_
    rw [fault_iff_inside (.inl hn) (by simp [hs]), htype]

theorem script_reports (hn : e.name = "script")
    (ih : ∀ x ∈ e.childElements, x.name = "block" →
      Reports (Fault ctx.strict x type) (reported (buildBlock ctx x).result)) :
    Reports (Fault ctx.strict e type) (reported (Build.collect (buildItem ctx) e.childElements).result) := by
  rw [reported_collect, ← e.map_childPlaces]
  refine (Reports.inside e.childPlaces_inOrder fun x hx => ?_).congr fun p err => (fault_script_iff hn p err).symm
  unfold buildItem
  by_cases hb : x.2.name = "block"
  · rw [if_pos hb, reported_map]
    exact (ih x.2 (Element.mem_childElements_of_place hx) hb).congr fun p err => by simp [hb]
  · rw [if_neg hb]
    rintro p err ⟨hb', -⟩
    exact hb hb'

theorem unclassified_reports (htag : e.name ∉ argTags) :
    Reports (ArgFault ctx.strict type e) (reported (unclassified ctx e.name type).result) := by
  have hno : ∀ p err, ¬ Fault ctx.strict e type p err := by
    intro p err h
    rcases h.name with hn | hn | hn <;> exact htag (by rw [hn]; decide)
  unfold unclassified
  cases hs : ctx.strict with
  | true =>
    refine Reports.here (.inl ⟨rfl, htag, rfl, rfl⟩) fun q err h => ?_
    rcases h with ⟨-, -, -, rfl⟩ | h
    · exact .inr rfl
    · exact absurd (hs ▸ h) (hno q err)
  | false =>
    rintro p err (⟨h, -⟩ | h)
    · cases h
    · exact hno p err (hs ▸ h)

/-- An element reports its first fault, read as an argument or, if it is one, as a block. -/
theorem build_reports (ctx : BuildContext) (e : Element) :
    (∀ type, Reports (ArgFault ctx.strict type e) (reported (buildArg ctx type e).result)) ∧
    (e.name = "block" → ∀ type, Reports (Fault ctx.strict e type) (reported (buildBlock ctx e).result)) := by
  induction e using Element.childInduction with
  | _ e ih =>
    have hblock : e.name = "block" →
        ∀ type, Reports (Fault ctx.strict e type) (reported (buildBlock ctx e).result) :=
      fun hn type => block_reports hn fun x hx => (ih x hx).1
    refine ⟨fun type => ?_, hblock⟩
    rw [buildArg_eq]
    -- nothing inside a literal or a color is looked at
    have hleaf : e.name = "l" ∨ e.name = "color" → Reports (ArgFault ctx.strict type e) none := by
      rintro hn p err (⟨-, htag, -⟩ | h)
      · rcases hn with hn | hn <;> exact htag (by rw [hn]; decide)
      · rcases hn with hn | hn <;> rcases h.name with h | h | h <;> rw [hn] at h <;> exact absurd h (by decide)
    rcases ofTag_cases e.name with ⟨hn, hk⟩ | ⟨hn, hk⟩ | ⟨hn, hk⟩ | ⟨hn, hk⟩ | ⟨hn, hk⟩ | ⟨htag, hk⟩ <;>
      simp only [hk]
    · exact hleaf (.inl hn)
    · exact hleaf (.inr hn)
    · have hb : e.name ≠ "block" := by rw [hn]; decide
      have htype : typeInside e type = type := if_neg hb
      rw [reported_map]
      refine (args_report fun x hx => (ih x hx).1 type).congr fun p err => ?_
      rw [← argFault_iff _ (by rw [hn]; decide), fault_iff_inside (.inr hn) (fun h => absurd h hb), htype]
    · rw [reported_map]
      exact (hblock hn type).congr (argFault_iff _ (by rw [hn]; decide))
    · rw [reported_map]
      exact (script_reports hn fun x hx hb => (ih x hx).2 hb type).congr (argFault_iff _ (by rw [hn]; decide))
    · exact unclassified_reports htag

end Reporting

end SpriteScribe
