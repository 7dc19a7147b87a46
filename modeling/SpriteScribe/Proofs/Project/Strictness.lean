/-
Strict and lenient compiling. A strict compiler does what a lenient one does up to the first warning
about an argument of unknown shape, and fails there: strict building is lenient building cut at that
warning (`Build.tighten`), and cutting passes through sequences, so this is shown once for every kind
of thing that is built. From this the results of the two for a whole project are related, and the
first such warning is traced to the sprite and the block that it is about.
-/
import SpriteScribe.Proofs.Project.Registry

namespace SpriteScribe

open SpriteScribe.Markup

/-! ## Cutting at the first refusal -/

/-- The error of a strict compiler where a lenient one raises a warning, if there is one. -/
def Warning.refusal? : Warning → Option CompileError
  | .unidentifiedArgument tag selector _ => some (.unclassifiedArgument tag selector)
  | .skippedElement _ _ => none
  | .emptyScript _ => none

namespace Build

variable {α β : Type}

/-- A warning as a strict compiler takes it. -/
def notice (w : Warning) : Build Unit :=
  match w.refusal? with
  | some err => .fail err
  | none => .warn w

/-- A result after warnings, as a strict compiler takes them. -/
def cut (r : Except CompileError α) : List Warning → Build α
  | [] => ⟨[], r⟩
  | w :: ws => do
    notice w
    cut r ws

/-- What becomes of a build when the first refusal ends it. -/
def tighten (b : Build α) : Build α := cut b.result b.warnings

theorem cut_error_bind (e : CompileError) (f : α → Build β) :
    ∀ ws, (cut (.error e) ws : Build α) >>= f = cut (.error e) ws
  | [] => rfl
  | w :: ws => by rw [cut, cut, bind_assoc]; simp only [cut_error_bind e f ws]

theorem cut_ok_bind (a : α) (f : α → Build β) (r : Except CompileError β) (vs : List Warning)
    (h : f a = cut r vs) : ∀ ws, (cut (.ok a) ws : Build α) >>= f = cut r (ws ++ vs)
  | [] => by rw [List.nil_append, ← h]; rfl
  | w :: ws => by rw [cut, List.cons_append, cut, bind_assoc]; simp only [cut_ok_bind a f r vs h ws]

/-- Cutting passes through sequences. -/
theorem tighten_bind (b : Build α) (f : α → Build β) :
    (b >>= f).tighten = b.tighten >>= fun a => (f a).tighten := by
  obtain ⟨ws, e | a⟩ := b
  · exact (cut_error_bind e _ ws).symm
  · exact (cut_ok_bind a (fun a => (f a).tighten) (f a).result (f a).warnings rfl ws).symm

@[simp] theorem tighten_pure (a : α) : (pure a : Build α).tighten = pure a := rfl

theorem each_tighten (f : α → Build β) : ∀ xs, (each f xs).tighten = each (fun x => (f x).tighten) xs
  | [] => rfl
  | x :: xs => by simp only [each, tighten_bind, each_tighten f xs, tighten_pure]

theorem each_congr {f g : α → Build β} : ∀ {xs : List α}, (∀ x ∈ xs, f x = g x) → each f xs = each g xs
  | [], _ => rfl
  | x :: xs, h => by
    rw [each, each, h x List.mem_cons_self, each_congr fun y hy => h y (List.mem_cons_of_mem _ hy)]

theorem collect_tighten {f g : α → Build (Option β)} {xs : List α} (h : ∀ x ∈ xs, g x = (f x).tighten) :
    collect g xs = (collect f xs).tighten := by
  rw [collect, collect, tighten_bind, each_tighten, each_congr h]
  simp only [tighten_pure]

/-- Without a refusal nothing is cut. -/
theorem cut_of_none (r : Except CompileError α) : ∀ {ws : List Warning}, ws.findSome? Warning.refusal? = none →
    cut r ws = ⟨ws, r⟩
  | [], _ => rfl
  | w :: ws, h => by
    rw [List.findSome?_cons] at h
    cases hw : w.refusal? with
    | some err => rw [hw] at h; cases h
    | none =>
      rw [hw] at h
      rw [cut, notice, hw, cut_of_none r h]; rfl

/-- The first refusal is the result. -/
theorem cut_of_some (r : Except CompileError α) : ∀ {ws : List Warning} {err : CompileError},
    ws.findSome? Warning.refusal? = some err → (cut r ws).result = .error err
  | w :: ws, err, h => by
    rw [List.findSome?_cons] at h
    rw [cut, notice]
    cases hw : w.refusal? with
    | some err' => rw [hw] at h; cases h; rfl
    | none =>
      rw [hw] at h
      have ih := cut_of_some r h
      show ((warn w : Build Unit) >>= fun _ => cut r ws).result = _
      rw [warn, bind_ok, ih]

end Build

/-! ## Building -/

section

variable (owner : String)

theorem required_tighten (name : String) (attributes : List (String × String)) (key : String) :
    (required name attributes key).tighten = required name attributes key := by
  unfold required; split <;> rfl

theorem unclassified_tighten (tag selector : String) :
    unclassified ⟨owner, true⟩ tag selector = (unclassified ⟨owner, false⟩ tag selector).tighten := rfl

theorem warn_tighten (w : Warning) (h : w.refusal? = none) : (Build.warn w).tighten = .warn w := by
  show (do Build.notice w; (⟨[], .ok ()⟩ : Build Unit)) = _
  rw [Build.notice, h]; rfl

theorem buildBlock_tighten {e : Element} (ih : ∀ x ∈ e.childElements, ∀ selector,
      buildArg ⟨owner, true⟩ selector x = (buildArg ⟨owner, false⟩ selector x).tighten) :
    buildBlock ⟨owner, true⟩ e = (buildBlock ⟨owner, false⟩ e).tighten := by
  simp only [buildBlock, Build.tighten_bind, required_tighten, Build.tighten_pure, Build.each_tighten]
  congr 1; funext selector
  rw [Build.each_congr fun x hx => ih x hx selector]

theorem buildItem_tighten {e : Element}
    (h : buildBlock ⟨owner, true⟩ e = (buildBlock ⟨owner, false⟩ e).tighten) :
    buildItem ⟨owner, true⟩ e = (buildItem ⟨owner, false⟩ e).tighten := by
  unfold buildItem
  split
  · rw [Build.tighten_bind, h]; rfl
  · rw [Build.tighten_bind, warn_tighten _ rfl]; rfl

/-- Strict building is lenient building, cut. -/
theorem build_tighten (e : Element) :
    (∀ selector, buildArg ⟨owner, true⟩ selector e = (buildArg ⟨owner, false⟩ selector e).tighten) ∧
      buildBlock ⟨owner, true⟩ e = (buildBlock ⟨owner, false⟩ e).tighten := by
  induction e using Element.childInduction with
  | _ e ih =>
    have hblock := buildBlock_tighten owner fun x hx => (ih x hx).1
    refine ⟨fun selector => ?_, hblock⟩
    rw [buildArg_eq, buildArg_eq]
    cases ArgKind.ofTag e.name with
    | literal => rfl
    | color => rfl
    | list =>
      simp only [Build.tighten_bind, Build.each_tighten, Build.tighten_pure]
      rw [Build.each_congr fun x hx => (ih x hx).1 selector]
    | block => simp only [Build.tighten_bind, Build.tighten_pure, hblock]
    | script =>
      simp only [Build.tighten_bind, Build.tighten_pure]
      rw [Build.collect_tighten fun x hx => buildItem_tighten owner (ih x hx).2]
    | unknown => exact unclassified_tighten owner e.name selector

theorem buildScript_tighten (declared : String) (e : Element) :
    buildScript ⟨owner, true⟩ declared e = (buildScript ⟨owner, false⟩ declared e).tighten := by
  unfold buildScript
  rw [Build.tighten_bind, Build.collect_tighten fun x _ => buildItem_tighten owner (build_tighten owner x).2]
  congr 1; funext blocks
  split
  · rw [Build.tighten_bind, warn_tighten _ rfl]; rfl
  · rfl

theorem buildSprite_tighten (declared : String) (e : Element) :
    buildSprite ⟨owner, true⟩ declared e = (buildSprite ⟨owner, false⟩ declared e).tighten := by
  rw [buildSprite_eq, buildSprite_eq, Build.tighten_bind,
    Build.collect_tighten fun x _ => buildScript_tighten owner declared x]
  rfl

end

/-! ## Calls and runs -/

namespace Compiler

/-- The same compiler, but strict. -/
def tightened (c : Compiler) : Compiler := { c with strict := true }

theorem settle_tightened (c : Compiler) (declared name : String) (b : Build Sprite) :
    c.tightened.settle declared name b =
      ((c.settle declared name b).1.tightened, (c.settle declared name b).2) := by
  unfold settle; split <;> rfl

theorem settle_warnings (c : Compiler) (declared name : String) (b : Build Sprite) :
    (c.settle declared name b).1.warnings = c.warnings ++ b.warnings := by
  unfold settle; split <;> rfl

/-- A strict call, by the warnings that the lenient one adds: the same call if there is no refusal
among them, and otherwise the first refusal. -/
theorem makeSprite_tightened {c : Compiler} (hc : c.strict = false) (e : Element) :
    ∃ ws, (c.makeSprite e).1.warnings = c.warnings ++ ws ∧
      (ws.findSome? Warning.refusal? = none →
        c.tightened.makeSprite e = ((c.makeSprite e).1.tightened, (c.makeSprite e).2)) ∧
      ∀ err, ws.findSome? Warning.refusal? = some err → (c.tightened.makeSprite e).2 = .error err := by
  cases hn : e.attr? "name" with
  | none =>
    rw [makeSprite_unnamed hn, makeSprite_unnamed hn]
    exact ⟨[], (List.append_nil _).symm, fun _ => rfl, nofun⟩
  | some declared =>
    -- the same identifiers are in use, so the search for a free one ends alike
    cases hf : Identifier.firstFree? c.isTaken (Identifier.ofDeclared declared) with
    | none =>
      rw [makeSprite_exhausted hn hf, makeSprite_exhausted (c := c.tightened) hn hf]
      exact ⟨[], (List.append_nil _).symm, fun _ => rfl, nofun⟩
    | some name =>
      rw [makeSprite_free hn hf, makeSprite_free (c := c.tightened) hn hf, hc]
      show ∃ ws, _ ∧ (_ → c.tightened.settle declared name (buildSprite ⟨name, true⟩ declared e) = _) ∧ _
      rw [buildSprite_tighten]
      refine ⟨_, settle_warnings _ _ _ _, fun hnone => ?_, fun err hsome => ?_⟩
      · rw [← settle_tightened, Build.tighten, Build.cut_of_none _ hnone]
      · have hres := Build.cut_of_some (buildSprite ⟨name, false⟩ declared e).result hsome
        show (c.tightened.settle declared name (buildSprite ⟨name, true⟩ declared e)).2 = _
        rw [buildSprite_tighten, settle, Build.tighten, hres]

theorem makeSprite_strict (c : Compiler) (e : Element) : (c.makeSprite e).1.strict = c.strict :=
  (attempt_makeSprite c e).strict

theorem makeSprites_of_error {c : Compiler} {e : Element} {err : CompileError} (h : (c.makeSprite e).2 = .error err)
    (es : List Element) : (c.makeSprites (e :: es)).2 = .error err := by
  rw [makeSprites]
  rcases hm : c.makeSprite e with ⟨c', r⟩
  rw [hm] at h
  cases h
  rfl

/-- The same for a whole run. -/
theorem makeSprites_tightened {c : Compiler} (hc : c.strict = false) (es : List Element) :
    ∃ ws, (c.makeSprites es).1.warnings = c.warnings ++ ws ∧
      (ws.findSome? Warning.refusal? = none →
        c.tightened.makeSprites es = ((c.makeSprites es).1.tightened, (c.makeSprites es).2)) ∧
      ∀ err, ws.findSome? Warning.refusal? = some err → (c.tightened.makeSprites es).2 = .error err := by
  induction es generalizing c with
  | nil => exact ⟨[], (List.append_nil _).symm, fun _ => rfl, nofun⟩
  | cons e es ih =>
    obtain ⟨ws, hws, hsame, hrefused⟩ := makeSprite_tightened hc e
    have hc' := (makeSprite_strict c e).trans hc
    rw [makeSprites]
    rcases hm : c.makeSprite e with ⟨c', err | s⟩ <;> rw [hm] at hws hsame hc'
    · refine ⟨ws, hws, fun hnone => ?_, fun err' hsome => makeSprites_of_error (hrefused err' hsome) es⟩
      rw [makeSprites, hsame hnone]
    · obtain ⟨vs, hvs, hsame', hrefused'⟩ := ih hc'
      refine ⟨ws ++ vs, by rw [← List.append_assoc, ← hws]; exact hvs, ?_, ?_⟩
      · rw [List.findSome?_append, Option.or_eq_none_iff]
        rintro ⟨hnone, hnone'⟩
        rw [makeSprites, hsame hnone]
        exact hsame' hnone'
      · intro err hsome
        rw [List.findSome?_append] at hsome
        cases hfirst : ws.findSome? Warning.refusal? with
        | some err' =>
          rw [hfirst] at hsome; cases hsome
          exact makeSprites_of_error (hrefused err hfirst) es
        | none =>
          rw [hfirst, Option.none_or] at hsome
          rw [makeSprites, hsame hfirst]
          exact hrefused' err hsome

end Compiler

/-! ## What a refusal is about -/

mutual

/-- The unclassified arguments in an argument of the block with a selector, in order, each with the
selector of the block that it belongs to. -/
def Arg.strangers (selector : String) : Arg → List (String × String)
  | .literal _ => []
  | .color _ => []
  | .list items => argStrangers selector items
  | .block b => b.strangers
  | .script s => s.strangers
  | .unclassified tag => [(tag, selector)]

def Block.strangers : Block → List (String × String)
  | .mk selector args => argStrangers selector args

def Script.strangers : Script → List (String × String)
  | .mk _ _ blocks => blockStrangers blocks

def argStrangers (selector : String) : List Arg → List (String × String)
  | [] => []
  | a :: as => a.strangers selector ++ argStrangers selector as

def blockStrangers : List Block → List (String × String)
  | [] => []
  | b :: bs => b.strangers ++ blockStrangers bs

end

/-- The unclassified arguments of a sprite, with the selectors of their blocks. -/
def Sprite.strangers (s : Sprite) : List (String × String) := s.scripts.flatMap Script.strangers

theorem argStrangers_eq (selector : String) :
    ∀ as : List Arg, argStrangers selector as = as.flatMap (Arg.strangers selector)
  | [] => rfl
  | a :: as => by rw [argStrangers, argStrangers_eq selector as]; rfl

theorem blockStrangers_eq : ∀ bs : List Block, blockStrangers bs = bs.flatMap Block.strangers
  | [] => rfl
  | b :: bs => by rw [blockStrangers, blockStrangers_eq bs]; rfl

/-- The warnings of a list that a strict compiler refuses. -/
def refused (ws : List Warning) : List Warning := ws.filter fun w => w.refusal?.isSome

@[simp] theorem refused_append (us vs : List Warning) : refused (us ++ vs) = refused us ++ refused vs :=
  List.filter_append ..

/-- The warnings about unclassified arguments of a sprite. -/
def strangerWarnings (owner : String) (xs : List (String × String)) : List Warning :=
  xs.map fun x => .unidentifiedArgument x.1 x.2 owner

@[simp] theorem strangerWarnings_append (owner : String) (xs ys : List (String × String)) :
    strangerWarnings owner (xs ++ ys) = strangerWarnings owner xs ++ strangerWarnings owner ys :=
  List.map_append

theorem each_refused {α β : Type} {f : α → Build β} {g : β → List (String × String)} {owner : String} :
    ∀ {xs : List α} {ws : List Warning} {ys : List β},
      (∀ x ∈ xs, ∀ us y, f x = ⟨us, .ok y⟩ → refused us = strangerWarnings owner (g y)) →
      Build.each f xs = ⟨ws, .ok ys⟩ → refused ws = strangerWarnings owner (ys.flatMap g)
  | [], ws, ys, _, h => by cases h; rfl
  | x :: xs, ws, ys, ih, h => by
    obtain ⟨us, y, vs, hx, hrest, rfl⟩ := Build.bind_eq_ok h
    obtain ⟨us', ys', vs', hxs, hend, rfl⟩ := Build.bind_eq_ok hrest
    cases hend
    have h1 := ih x List.mem_cons_self us y hx
    have h2 := each_refused (fun z hz => ih z (List.mem_cons_of_mem _ hz)) hxs
    rw [refused_append, refused_append, h1, h2, List.flatMap_cons, strangerWarnings_append]
    exact congrArg _ (List.append_nil _)

theorem collect_refused {α β : Type} {f : α → Build (Option β)} {g : β → List (String × String)}
    {owner : String} {xs : List α} {ws : List Warning} {ys : List β}
    (ih : ∀ x ∈ xs, ∀ us y, f x = ⟨us, .ok y⟩ → refused us = strangerWarnings owner (y.toList.flatMap g))
    (h : Build.collect f xs = ⟨ws, .ok ys⟩) : refused ws = strangerWarnings owner (ys.flatMap g) := by
  obtain ⟨us, os, vs, hos, hend, rfl⟩ := Build.bind_eq_ok h
  cases hend
  have he := each_refused ih hos
  rw [List.append_nil, he, List.filterMap_eq_flatMap_toList, List.flatMap_assoc]
  rfl

section

variable (owner : String)

theorem buildBlock_refused {e : Element} {ws : List Warning} {b : Block}
    (ih : ∀ x ∈ e.childElements, ∀ selector us a, buildArg ⟨owner, false⟩ selector x = ⟨us, .ok a⟩ →
      refused us = strangerWarnings owner (a.strangers selector))
    (h : buildBlock ⟨owner, false⟩ e = ⟨ws, .ok b⟩) : refused ws = strangerWarnings owner b.strangers := by
  obtain ⟨us, selector, vs, hs, hrest, rfl⟩ := Build.bind_eq_ok h
  obtain ⟨us', args, vs', hargs, hend, rfl⟩ := Build.bind_eq_ok hrest
  cases hend
  have hus : us = [] := by
    unfold required at hs; split at hs <;> cases hs; rfl
  have hall := each_refused (fun x hx => ih x hx selector) hargs
  rw [hus, List.nil_append, List.append_nil, hall, Block.strangers, argStrangers_eq]

theorem buildItem_refused {e : Element} {ws : List Warning} {o : Option Block}
    (ih : ∀ us b, buildBlock ⟨owner, false⟩ e = ⟨us, .ok b⟩ → refused us = strangerWarnings owner b.strangers)
    (h : buildItem ⟨owner, false⟩ e = ⟨ws, .ok o⟩) :
    refused ws = strangerWarnings owner (o.toList.flatMap Block.strangers) := by
  unfold buildItem at h
  split at h
  · obtain ⟨us, b, vs, hb, hend, rfl⟩ := Build.bind_eq_ok h
    cases hend
    simpa using ih us b hb
  · cases h; rfl

/-- The refused warnings of building are about the unclassified arguments of what was built, one for
each and in the same order. -/
theorem build_refused (e : Element) :
    (∀ selector ws a, buildArg ⟨owner, false⟩ selector e = ⟨ws, .ok a⟩ →
      refused ws = strangerWarnings owner (a.strangers selector)) ∧
    (∀ ws b, buildBlock ⟨owner, false⟩ e = ⟨ws, .ok b⟩ → refused ws = strangerWarnings owner b.strangers) := by
  induction e using Element.childInduction with
  | _ e ih =>
    have hblock : ∀ ws b, buildBlock ⟨owner, false⟩ e = ⟨ws, .ok b⟩ → refused ws = strangerWarnings owner b.strangers :=
      fun ws b => buildBlock_refused owner fun x hx => (ih x hx).1
    refine ⟨fun selector ws a h => ?_, hblock⟩
    rw [buildArg_eq] at h
    cases hk : ArgKind.ofTag e.name with
    | literal => rw [hk] at h; cases h; rfl
    | color => rw [hk] at h; cases h; rfl
    | list =>
      rw [hk] at h
      obtain ⟨us, items, vs, hi, hend, rfl⟩ := Build.bind_eq_ok h
      cases hend
      have hall := each_refused (fun x hx => (ih x hx).1 selector) hi
      rw [List.append_nil, hall, Arg.strangers, argStrangers_eq]
    | block =>
      rw [hk] at h
      obtain ⟨us, b, vs, hb, hend, rfl⟩ := Build.bind_eq_ok h
      cases hend
      rw [List.append_nil, hblock us b hb, Arg.strangers]
    | script =>
      rw [hk] at h
      obtain ⟨us, blocks, vs, hb, hend, rfl⟩ := Build.bind_eq_ok h
      cases hend
      have hall := collect_refused (fun x hx us o => buildItem_refused owner (ih x hx).2) hb
      rw [List.append_nil, hall, Arg.strangers, Script.strangers, blockStrangers_eq]
    | unknown => rw [hk] at h; cases h; rfl

theorem buildScript_refused (declared : String) {e : Element} {ws : List Warning} {o : Option Script}
    (h : buildScript ⟨owner, false⟩ declared e = ⟨ws, .ok o⟩) :
    refused ws = strangerWarnings owner (o.toList.flatMap Script.strangers) := by
  obtain ⟨us, blocks, vs, hb, hend, rfl⟩ := Build.bind_eq_ok h
  have hall := collect_refused (fun x _ us o => buildItem_refused owner (build_refused owner x).2) hb
  rw [refused_append, hall]
  split at hend
  · rename_i hempty
    rw [List.isEmpty_iff.1 hempty]
    cases hend; rfl
  · cases hend
    simp [Script.strangers, blockStrangers_eq, refused]

theorem buildSprite_refused {declared : String} {e : Element} {ws : List Warning} {s : Sprite}
    (h : buildSprite ⟨owner, false⟩ declared e = ⟨ws, .ok s⟩) :
    refused ws = strangerWarnings owner s.strangers := by
  rw [buildSprite_eq] at h
  obtain ⟨us, scripts, vs, hs, hend, rfl⟩ := Build.bind_eq_ok h
  cases hend
  rw [List.append_nil]
  exact collect_refused (fun x _ us o => buildScript_refused owner declared) hs

end

/-! ## The first refusal of a run -/

/-- Whether the text of a warning begins like that of an argument of unknown shape. -/
def Warning.isUnidentified (w : Warning) : Bool :=
  "Unidentified argument".toList.isPrefixOf w.message.toList

/-- By their texts, the warnings that a strict compiler refuses are told from all others. -/
theorem Warning.isUnidentified_eq (w : Warning) : w.isUnidentified = w.refusal?.isSome := by
  unfold isUnidentified message
  cases w <;> simp only [String.toList_append] <;> rfl

theorem findSome?_refusal (ws : List Warning) :
    ws.findSome? Warning.refusal? = (ws.find? Warning.isUnidentified).bind Warning.refusal? := by
  induction ws with
  | nil => rfl
  | cons w ws ih =>
    rw [List.findSome?_cons, List.find?_cons, Warning.isUnidentified_eq]
    cases hw : w.refusal? with
    | none => exact ih
    | some err => exact hw.symm

theorem find?_eq_head?_refused (ws : List Warning) : ws.find? Warning.isUnidentified = (refused ws).head? := by
  rw [refused, List.head?_filter]
  congr 1; funext w; exact w.isUnidentified_eq

namespace Compiler

/-- The refused warnings that a successful call adds are about the sprite it returns. -/
theorem makeSprite_refused {c : Compiler} (hc : c.strict = false) {e : Element} {s : Sprite}
    (h : (c.makeSprite e).2 = .ok s) : ∃ us, (c.makeSprite e).1.warnings = c.warnings ++ us ∧
      refused us = strangerWarnings s.name s.strangers := by
  have ha := attempt_makeSprite c e
  rw [h] at ha
  generalize (c.makeSprite e).1 = c' at ha ⊢
  cases ha with
  | @made declared name s hn hf hb =>
    rw [hc] at hb ⊢
    refine ⟨_, rfl, ?_⟩
    obtain ⟨rfl, -, -⟩ := buildSprite_ok hb
    cases hbuilt : buildSprite ⟨s.name, false⟩ declared e with
    | mk ws r =>
      rw [hbuilt] at hb
      cases hb
      exact buildSprite_refused s.name hbuilt

/-- In a successful lenient run the first refused warning is about the first unclassified argument of
a sprite, and names that sprite by its identifier. -/
theorem makeSprites_first_refused {c : Compiler} (hc : c.strict = false) {es : List Element}
    (h : (c.makeSprites es).2 = .ok ()) {ws : List Warning} (hws : (c.makeSprites es).1.warnings = c.warnings ++ ws)
    {w : Warning} (hw : ws.find? Warning.isUnidentified = some w) :
    ∃ before e later s tag selector, es = before ++ e :: later ∧ ((c.after before).makeSprite e).2 = .ok s ∧
      s.strangers.head? = some (tag, selector) ∧ w = .unidentifiedArgument tag selector s.name := by
  induction es generalizing c ws with
  | nil =>
    have : ws = [] := List.append_cancel_left ((hws.symm).trans (List.append_nil _).symm)
    rw [this] at hw; cases hw
  | cons e es ih =>
    rw [makeSprites] at h hws
    rcases hm : c.makeSprite e with ⟨c', err | s⟩ <;> rw [hm] at h hws
    · cases h
    · have hs : (c.makeSprite e).2 = .ok s := by rw [hm]
      have hc' : c'.strict = false := by rw [← hc, ← makeSprite_strict c e, hm]
      obtain ⟨us, hus, href⟩ := makeSprite_refused hc hs
      obtain ⟨vs, hvs, -, -⟩ := makeSprites_tightened hc' es
      rw [hm] at hus
      have hsplit : ws = us ++ vs := by
        have hall : c.warnings ++ ws = c.warnings ++ (us ++ vs) := by
          rw [← hws, ← List.append_assoc, ← hus]; exact hvs
        exact List.append_cancel_left hall
      rw [hsplit, List.find?_append, find?_eq_head?_refused us, href] at hw
      -- either the new sprite has an unclassified argument, or the search goes on after it
      cases hst : s.strangers with
      | cons x xs =>
        rw [hst] at hw
        cases hw
        exact ⟨[], e, es, s, x.1, x.2, rfl, hs, by rw [hst]; rfl, rfl⟩
      | nil =>
        rw [hst] at hw
        obtain ⟨before, e', later, t, tag, selector, rfl, ht, hhead, hwt⟩ := ih hc' h hvs hw
        refine ⟨e :: before, e', later, t, tag, selector, rfl, ?_, hhead, hwt⟩
        rw [← ht, after, List.foldl_cons, hm]; rfl

end Compiler

/-! ## Projects -/

/-- The result of strict compiling by the warnings of lenient compiling. -/
theorem compileProject_tightened (root : Element) :
    ∃ ws, (∀ p, (compileProject false root).result = .ok p → p.warnings = ws) ∧
      (ws.findSome? Warning.refusal? = none → (compileProject true root).result = (compileProject false root).result) ∧
      ∀ err, ws.findSome? Warning.refusal? = some err → (compileProject true root).result = .error err := by
  by_cases hr : root.name = "project" ∨ root.name = "snapdata"
  · obtain ⟨ws, hws, hsame, href⟩ := Compiler.makeSprites_tightened (c := Compiler.new false) rfl (spriteElements root)
    rw [compileProject_result true hr, compileProject_result false hr]
    refine ⟨ws, fun p hp => ?_, fun hnone => ?_, fun err hsome => ?_⟩
    · rw [← compileProject_result false hr] at hp
      obtain ⟨-, rfl⟩ := compileProject_ok hp
      exact hws
    · rw [show Compiler.new true = (Compiler.new false).tightened from rfl, hsame hnone]; rfl
    · rw [show Compiler.new true = (Compiler.new false).tightened from rfl, href err hsome]; rfl
  · rw [compileProject_notAProject true hr, compileProject_notAProject false hr]
    exact ⟨[], nofun, fun _ => rfl, nofun⟩

/-- Strict and lenient compiling of a project. What compiles strictly compiles leniently to the same
program and warnings. What compiles leniently compiles strictly just if no warning is about an
argument of unknown shape, and else fails with the argument of the first such warning, which names the
sprite that the argument belongs to. What does not compile leniently does not compile strictly, for the
same reason or for an argument of unknown shape. -/
theorem compileProject_strict_lenient (root : Element) :
    (∀ p, (compileProject true root).result = .ok p → (compileProject false root).result = .ok p) ∧
    (∀ p, (compileProject false root).result = .ok p →
      ((∃ q, (compileProject true root).result = .ok q) ↔ ∀ w ∈ p.warnings, w.isUnidentified = false) ∧
      ∀ w, p.warnings.find? Warning.isUnidentified = some w → ∃ tag selector owner,
        (compileProject true root).result = .error (.unclassifiedArgument tag selector) ∧
        w.message = "Unidentified argument <" ++ tag ++ "> in block '" ++ selector ++ "' of sprite '" ++
          owner ++ "'." ∧
        ∃ before e later s, spriteElements root = before ++ e :: later ∧
          (((Compiler.new false).after before).makeSprite e).2 = .ok s ∧
          s.name = owner ∧ s.strangers.head? = some (tag, selector)) ∧
    (∀ err, (compileProject false root).result = .error err →
      (compileProject true root).result = .error err ∨
      ∃ tag selector, (compileProject true root).result = .error (.unclassifiedArgument tag selector)) := by
  obtain ⟨ws, hws, hsame, href⟩ := compileProject_tightened root
  have hfind := findSome?_refusal ws
  refine ⟨fun p hp => ?_, fun p hp => ⟨⟨?_, ?_⟩, fun w hw => ?_⟩, fun err herr => ?_⟩
  · cases h : ws.findSome? Warning.refusal? with
    | some err => rw [href err h] at hp; cases hp
    | none => rw [← hsame h]; exact hp
  · rintro ⟨q, hq⟩ w hw
    obtain rfl := hws p hp
    rw [Warning.isUnidentified_eq]
    cases h : p.warnings.findSome? Warning.refusal? with
    | some err => rw [href err h] at hq; cases hq
    | none => rw [List.findSome?_eq_none_iff.1 h w hw]; rfl
  · intro hnone
    obtain rfl := hws p hp
    refine ⟨p, (hsame (List.findSome?_eq_none_iff.2 fun w hw => ?_)).trans hp⟩
    have := hnone w hw
    rw [Warning.isUnidentified_eq] at this
    simpa using this
  · -- the first refused warning is both what ends the strict run and what names the sprite
    obtain rfl := hws p hp
    obtain ⟨hmade, rfl⟩ := compileProject_ok hp
    obtain ⟨before, e, later, s, tag, selector, hes, hs, hhead, rfl⟩ :=
      Compiler.makeSprites_first_refused (c := Compiler.new false) rfl hmade (List.nil_append _).symm hw
    rw [hw] at hfind
    exact ⟨tag, selector, s.name, href _ hfind, rfl, before, e, later, s, hes, hs, rfl, hhead⟩
  · -- the lenient run may have raised warnings before it failed
    cases h : ws.findSome? Warning.refusal? with
    | none => exact .inl ((hsame h).trans herr)
    | some err' =>
      obtain ⟨w, -, hw⟩ := List.exists_of_findSome?_eq_some h
      cases w with
      | unidentifiedArgument tag selector owner => cases hw; exact .inr ⟨tag, selector, href _ h⟩
      | skippedElement tag owner => cases hw
      | emptyScript declared => cases hw

/-- A project with an element of unknown shape in a list that is an argument. -/
def strangeProject : Element :=
  .mk "project" [] [.element (.mk "stage" [] [.element (.mk "sprites" [] [.element
    (.mk "sprite" [("name", "Cat")] [.element (.mk "scripts" [] [.element (.mk "script" []
      [.element (.mk "block" [("s", "say")] [.element (.mk "list" [] [.element (.mk "wish" [] [])])])])])])])])]

theorem compileProject_strict_lenient_strange :
    ∃ p, (compileProject false strangeProject).result = .ok p ∧
      (¬ ∃ q, (compileProject true strangeProject).result = .ok q) ∧
      ∃ tag selector owner, (compileProject true strangeProject).result = .error (.unclassifiedArgument tag selector) ∧
        "Unidentified argument <wish> in block 'say' of sprite 'cat'." =
          "Unidentified argument <" ++ tag ++ "> in block '" ++ selector ++ "' of sprite '" ++ owner ++ "'." := by
  have h : (compileProject false strangeProject).result = .ok
      ⟨"var cat;\n\ncat = new Sprite();\n\ncat.onReceiveMessage(function () \x7b\n\x7d);",
        [.unidentifiedArgument "wish" "say" "cat"]⟩ := by rfl
  obtain ⟨hiff, hfirst⟩ := (compileProject_strict_lenient strangeProject).2.1 _ h
  obtain ⟨tag, selector, owner, hstrict, hmessage, -⟩ := hfirst (.unidentifiedArgument "wish" "say" "cat") rfl
  refine ⟨_, h, fun hok => ?_, tag, selector, owner, hstrict, hmessage⟩
  exact absurd (hiff.1 hok _ List.mem_cons_self) (by decide)

end SpriteScribe
