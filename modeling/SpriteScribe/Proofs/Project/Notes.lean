/-
The warnings of building. A note is something about an element that building passes over (`Note`), and it
has a position: that of the child element it is about or, for a script without blocks, the one after all
children of the script. A build that succeeds raises exactly one warning for each note at or below its
element, in the order of their positions (`Enumerates`). As for faults, this is kept by going through
children in order.
-/
import SpriteScribe.Proofs.Project.Faults

namespace SpriteScribe

open SpriteScribe.Markup

/-! ## Warnings in order -/

/-- Warnings, or texts of them, are those at some positions: each of these just once, in the order of the
document. -/
def Enumerates {α : Type} (S : Position → α → Prop) (ws : List α) : Prop :=
  ∃ placed : List (Position × α), ws = placed.map Prod.snd ∧
    placed.Pairwise (fun x y => x.1.Before y.1) ∧ ∀ p w, (p, w) ∈ placed ↔ S p w

namespace Enumerates

variable {α β : Type} {S T : Position → α → Prop} {us vs : List α}

theorem congr (h : Enumerates S us) (hST : ∀ p w, S p w ↔ T p w) : Enumerates T us := by
  obtain ⟨placed, hus, hsorted, hmem⟩ := h
  exact ⟨placed, hus, hsorted, fun p w => (hmem p w).trans (hST p w)⟩

theorem nil (h : ∀ p w, ¬ S p w) : Enumerates S [] :=
  ⟨[], rfl, .nil, fun p w => by simp [h p w]⟩

theorem singleton {p : Position} {w : α} (h : ∀ q v, S q v ↔ q = p ∧ v = w) : Enumerates S [w] :=
  ⟨[(p, w)], rfl, List.pairwise_singleton _ _, fun q v => by simp [h q v]⟩

theorem append (hS : Enumerates S us) (hT : Enumerates T vs)
    (hlt : ∀ p w q v, S p w → T q v → p.Before q) : Enumerates (fun p w => S p w ∨ T p w) (us ++ vs) := by
  obtain ⟨ps, rfl, hps, hS⟩ := hS
  obtain ⟨qs, rfl, hqs, hT⟩ := hT
  refine ⟨ps ++ qs, List.map_append.symm, ?_, fun p w => ?_⟩
  · refine List.pairwise_append.2 ⟨hps, hqs, fun x hx y hy => ?_⟩
    exact hlt x.1 x.2 y.1 y.2 ((hS _ _).1 hx) ((hT _ _).1 hy)
  · rw [List.mem_append, hS, hT]

/-- What is said of each stands at the same positions. -/
theorem map (h : Enumerates S us) (f : α → β) : Enumerates (fun p b => ∃ a, S p a ∧ b = f a) (us.map f) := by
  obtain ⟨placed, rfl, hsorted, hmem⟩ := h
  refine ⟨placed.map fun x => (x.1, f x.2), by simp, ?_, fun p b => ?_⟩
  · rw [List.pairwise_map]
    exact hsorted
  · rw [List.mem_map]
    constructor
    · rintro ⟨⟨q, a⟩, hx, heq⟩
      cases heq
      exact ⟨a, (hmem q a).1 hx, rfl⟩
    · rintro ⟨a, ha, rfl⟩
      exact ⟨(p, a), (hmem p a).2 ha, rfl⟩

/-- Warnings inside an element, by their positions from outside. -/
theorem shift (h : Enumerates S us) (q : Position) : Enumerates (fun p w => ∃ r, S r w ∧ p = q ++ r) us := by
  obtain ⟨placed, rfl, hsorted, hmem⟩ := h
  refine ⟨placed.map fun x => (q ++ x.1, x.2), by simp, ?_, fun p w => ?_⟩
  · rw [List.pairwise_map]
    exact hsorted.imp fun hlt => hlt.append_left _ q
  · rw [List.mem_map]
    constructor
    · rintro ⟨⟨r, v⟩, hx, heq⟩
      cases heq
      exact ⟨r, (hmem r v).1 hx, rfl⟩
    · rintro ⟨r, hr, rfl⟩
      exact ⟨(r, w), (hmem r w).2 hr, rfl⟩

/-- Going through elements in order raises the warnings of all of them in order. -/
theorem inside {depth : Nat} {S : Element → Position → α → Prop} {f : Element → List α}
    {xs : List (Position × Element)} (ho : InOrder depth xs) (h : ∀ x ∈ xs, Enumerates (S x.2) (f x.2)) :
    Enumerates (fun p w => ∃ x ∈ xs, ∃ r, S x.2 r w ∧ p = x.1 ++ r) ((xs.map Prod.snd).flatMap f) := by
  induction xs with
  | nil => exact nil (by simp)
  | cons x xs ih =>
    have hrest := ih (ho.sublist (List.sublist_cons_self _ _)) fun y hy => h y (List.mem_cons_of_mem _ hy)
    have hall := ((h x List.mem_cons_self).shift x.1).append hrest (by
      rintro - w - v ⟨r, -, rfl⟩ ⟨y, hy, r', -, rfl⟩
      exact ho.append_before hy r r')
    rw [List.map_cons, List.flatMap_cons]
    exact hall.congr fun p w => by simp

end Enumerates

/-! ## Warnings of sequences -/

namespace Build

variable {α β γ : Type}

theorem bind_warnings {b : Build α} {a : α} (h : b.result = .ok a) (f : α → Build β) :
    (b >>= f).warnings = b.warnings ++ (f a).warnings := by
  obtain ⟨ws, err | a'⟩ := b
  · cases h
  · cases h; rfl

theorem map_warnings (b : Build α) (g : α → β) : (b >>= fun a => pure (g a)).warnings = b.warnings := by
  obtain ⟨ws, err | a⟩ := b
  · rfl
  · exact List.append_nil _

/-- What succeeds for a list succeeds for each of it, and the warnings are theirs in order. -/
theorem each_warnings {f : α → Build β} : ∀ {xs : List α} {ys : List β}, (each f xs).result = .ok ys →
    (∀ x ∈ xs, ∃ y, (f x).result = .ok y) ∧ (each f xs).warnings = xs.flatMap fun x => (f x).warnings
  | [], _, _ => ⟨by simp, rfl⟩
  | x :: xs, ys, h => by
    obtain ⟨y, hy, h⟩ := bind_result_ok.1 h
    obtain ⟨ys', hys, -⟩ := bind_result_ok.1 h
    obtain ⟨hall, hwarnings⟩ := each_warnings hys
    rw [List.forall_mem_cons]
    refine ⟨⟨⟨y, hy⟩, hall⟩, ?_⟩
    rw [each, bind_warnings hy, map_warnings, hwarnings, List.flatMap_cons]

theorem collect_warnings {f : α → Build (Option β)} {xs : List α} {ys : List β} (h : (collect f xs).result = .ok ys) :
    (∀ x ∈ xs, ∃ y, (f x).result = .ok y) ∧ (collect f xs).warnings = xs.flatMap fun x => (f x).warnings := by
  obtain ⟨os, hos, -⟩ := bind_result_ok.1 h
  rw [collect, map_warnings]
  exact each_warnings hos

end Build

/-! ## Notes inside a script -/

/-- What is passed over among the child elements of an element, inside a block of a type: an argument of
unknown shape in a block or a list, and an element of a script that is no block. -/
inductive Note (owner : String) (e : Element) (type : String) : Position → Warning → Prop
  | stranger {q : Position} {x : Element} : e.name = "block" ∨ e.name = "list" → (q, x) ∈ e.childPlaces →
      x.name ∉ argTags → Note owner e type q (.unidentifiedArgument x.name (typeInside e type) owner)
  | skipped {q : Position} {x : Element} : e.name = "script" → (q, x) ∈ e.childPlaces → x.name ≠ "block" →
      Note owner e type q (.skippedElement x.name owner)

/-- The notes of an element and of those that compiling comes to from there. -/
inductive Notes (owner : String) : Element → String → Position → Warning → Prop
  | here {e : Element} {type : String} {q : Position} {w : Warning} : Note owner e type q w → Notes owner e type q w
  | inChild {e x : Element} {type : String} {p q : Position} {w : Warning} : (q, x) ∈ e.childPlaces → Enters e x →
      Notes owner x (typeInside e type) p w → Notes owner e type (q ++ p) w

theorem Notes.name {owner : String} {e : Element} {type : String} {p : Position} {w : Warning}
    (h : Notes owner e type p w) : e.name = "block" ∨ e.name = "list" ∨ e.name = "script" := by
  cases h with
  | here h =>
    cases h with
    | stranger hn => exact hn.imp id .inl
    | skipped hn => exact .inr (.inr hn)
  | inChild _ hent => exact hent.imp id (Or.imp id And.left)

/-- The notes of an element that stands as an argument: it may itself be of unknown shape. -/
def ArgNotes (owner type : String) (e : Element) (p : Position) (w : Warning) : Prop :=
  (e.name ∉ argTags ∧ p = [] ∧ w = .unidentifiedArgument e.name type owner) ∨ Notes owner e type p w

/-- The notes of an element that stands in a script: it may itself be no block. -/
def ItemNotes (owner : String) (type : String) (e : Element) (p : Position) (w : Warning) : Prop :=
  (e.name ≠ "block" ∧ p = [] ∧ w = .skippedElement e.name owner) ∨ (e.name = "block" ∧ Notes owner e type p w)

section Owner

variable {owner : String} {e : Element} {type : String}

theorem notes_iff_args (hn : e.name = "block" ∨ e.name = "list") (p : Position) (w : Warning) :
    Notes owner e type p w ↔ ∃ x ∈ e.childPlaces, ∃ r, ArgNotes owner (typeInside e type) x.2 r w ∧ p = x.1 ++ r := by
  have hscript : e.name ≠ "script" := by rcases hn with hn | hn <;> rw [hn] <;> decide
  constructor
  · intro h
    cases h with
    | here h =>
      cases h with
      | stranger _ hx htag => exact ⟨_, hx, [], .inl ⟨htag, rfl, rfl⟩, (List.append_nil _).symm⟩
      | skipped hs => exact absurd hs hscript
    | inChild hx _ h => exact ⟨_, hx, _, .inr h, rfl⟩
  · rintro ⟨⟨q, x⟩, hx, r, ⟨htag, rfl, rfl⟩ | h, rfl⟩
    · rw [List.append_nil]
      exact .here (.stranger hn hx htag)
    · exact .inChild hx (hn.imp id .inl) h

theorem notes_iff_items (hn : e.name = "script") (p : Position) (w : Warning) :
    Notes owner e type p w ↔ ∃ x ∈ e.childPlaces, ∃ r, ItemNotes owner type x.2 r w ∧ p = x.1 ++ r := by
  have hblock : e.name ≠ "block" := by rw [hn]; decide
  have hlist : e.name ≠ "list" := by rw [hn]; decide
  have htype : typeInside e type = type := if_neg hblock
  constructor
  · intro h
    cases h with
    | here h =>
      cases h with
      | stranger hb => exact absurd hb (by simp [hblock, hlist])
      | skipped _ hx hne => exact ⟨_, hx, [], .inl ⟨hne, rfl, rfl⟩, (List.append_nil _).symm⟩
    | inChild hx hent h =>
      obtain ⟨-, hx'⟩ := (hent.resolve_left hblock).resolve_left hlist
      exact ⟨_, hx, _, .inr ⟨hx', htype ▸ h⟩, rfl⟩
  · rintro ⟨⟨q, x⟩, hx, r, ⟨hne, rfl, rfl⟩ | ⟨hx', h⟩, rfl⟩
    · rw [List.append_nil]
      exact .here (.skipped hn hx hne)
    · exact .inChild hx (.inr (.inr ⟨hn, hx'⟩)) (htype.symm ▸ h)

/-! ## Building raises the notes -/

theorem args_enumerate {as : List Arg}
    (ih : ∀ x ∈ e.childElements, ∀ a, (buildArg ⟨owner, false⟩ type x).result = .ok a →
      Enumerates (ArgNotes owner type x) (buildArg ⟨owner, false⟩ type x).warnings)
    (h : (Build.each (buildArg ⟨owner, false⟩ type) e.childElements).result = .ok as) :
    Enumerates (fun p w => ∃ x ∈ e.childPlaces, ∃ r, ArgNotes owner type x.2 r w ∧ p = x.1 ++ r)
      (Build.each (buildArg ⟨owner, false⟩ type) e.childElements).warnings := by
  obtain ⟨hall, hwarnings⟩ := Build.each_warnings h
  rw [hwarnings, ← e.map_childPlaces]
  refine Enumerates.inside e.childPlaces_inOrder fun x hx => ?_
  have hmem := Element.mem_childElements_of_place hx
  obtain ⟨a, ha⟩ := hall x.2 hmem
  exact ih x.2 hmem a ha

theorem block_enumerates (hn : e.name = "block") {b : Block}
    (ih : ∀ x ∈ e.childElements, ∀ type a, (buildArg ⟨owner, false⟩ type x).result = .ok a →
      Enumerates (ArgNotes owner type x) (buildArg ⟨owner, false⟩ type x).warnings)
    (h : (buildBlock ⟨owner, false⟩ e).result = .ok b) :
    Enumerates (Notes owner e type) (buildBlock ⟨owner, false⟩ e).warnings := by
  obtain ⟨inner, hinner, h⟩ := Build.bind_result_ok.1 h
  obtain ⟨as, has, -⟩ := Build.bind_result_ok.1 h
  have hrequired : required e.name e.attributes "s" = pure inner := by
    unfold required at hinner ⊢
    split at hinner <;> cases hinner
    rfl
  have hs : e.attr? "s" = some inner := by
    unfold required at hrequired
    split at hrequired <;> cases hrequired
    assumption
  have htype : typeInside e type = inner := by rw [typeInside, if_pos hn, hs]; rfl
  have hwarnings : (buildBlock ⟨owner, false⟩ e).warnings =
      (Build.each (buildArg ⟨owner, false⟩ inner) e.childElements).warnings := by
    rw [buildBlock, hrequired, pure_bind, Build.map_warnings]
  rw [hwarnings]
  refine (args_enumerate (fun x hx => ih x hx inner) has).congr fun p w => ?_
  rw [notes_iff_args (.inl hn), htype]

theorem item_enumerates {o : Option Block}
    (ih : e.name = "block" → ∀ b, (buildBlock ⟨owner, false⟩ e).result = .ok b →
      Enumerates (Notes owner e type) (buildBlock ⟨owner, false⟩ e).warnings)
    (h : (buildItem ⟨owner, false⟩ e).result = .ok o) :
    Enumerates (ItemNotes owner type e) (buildItem ⟨owner, false⟩ e).warnings := by
  unfold buildItem at h ⊢
  by_cases hb : e.name = "block"
  · rw [if_pos hb] at h ⊢
    obtain ⟨b, hbuilt, -⟩ := Build.bind_result_ok.1 h
    rw [Build.map_warnings]
    exact (ih hb b hbuilt).congr fun p w => by simp [ItemNotes, hb]
  · rw [if_neg hb]
    exact Enumerates.singleton (p := []) fun q v => by simp [ItemNotes, hb]

theorem script_enumerates (hn : e.name = "script") {bs : List Block}
    (ih : ∀ x ∈ e.childElements, x.name = "block" → ∀ b, (buildBlock ⟨owner, false⟩ x).result = .ok b →
      Enumerates (Notes owner x type) (buildBlock ⟨owner, false⟩ x).warnings)
    (h : (Build.collect (buildItem ⟨owner, false⟩) e.childElements).result = .ok bs) :
    Enumerates (Notes owner e type) (Build.collect (buildItem ⟨owner, false⟩) e.childElements).warnings := by
  obtain ⟨hall, hwarnings⟩ := Build.collect_warnings h
  rw [hwarnings, ← e.map_childPlaces]
  refine (Enumerates.inside e.childPlaces_inOrder fun x hx => ?_).congr fun p w => (notes_iff_items hn p w).symm
  have hmem := Element.mem_childElements_of_place hx
  obtain ⟨o, ho⟩ := hall x.2 hmem
  exact item_enumerates (ih x.2 hmem) ho

end Owner

/-- A build that succeeds raises the notes of its element, read as an argument or, if it is one, as a block. -/
theorem build_enumerates (owner : String) (e : Element) :
    (∀ type a, (buildArg ⟨owner, false⟩ type e).result = .ok a →
      Enumerates (ArgNotes owner type e) (buildArg ⟨owner, false⟩ type e).warnings) ∧
    (e.name = "block" → ∀ type b, (buildBlock ⟨owner, false⟩ e).result = .ok b →
      Enumerates (Notes owner e type) (buildBlock ⟨owner, false⟩ e).warnings) := by
  induction e using Element.childInduction with
  | _ e ih =>
    have hblock : e.name = "block" → ∀ type b, (buildBlock ⟨owner, false⟩ e).result = .ok b →
        Enumerates (Notes owner e type) (buildBlock ⟨owner, false⟩ e).warnings :=
      fun hn type b => block_enumerates hn fun x hx => (ih x hx).1
    refine ⟨fun type a h => ?_, hblock⟩
    -- an element with one of the names of arguments is not itself of unknown shape
    have harg : e.name ∈ argTags → ∀ p w, Notes owner e type p w ↔ ArgNotes owner type e p w :=
      fun hn p w => ⟨.inr, fun hw => hw.resolve_left fun hw => hw.1 hn⟩
    have hleaf : e.name = "l" ∨ e.name = "color" → Enumerates (ArgNotes owner type e) [] := by
      intro hn
      refine (Enumerates.nil fun p w hw => ?_).congr (harg (by rcases hn with hn | hn <;> rw [hn] <;> decide))
      rcases hn with hn | hn <;> rcases hw.name with hw | hw | hw <;> rw [hn] at hw <;> exact absurd hw (by decide)
    rw [buildArg_eq] at h ⊢
    rcases ofTag_cases e.name with ⟨hn, hk⟩ | ⟨hn, hk⟩ | ⟨hn, hk⟩ | ⟨hn, hk⟩ | ⟨hn, hk⟩ | ⟨htag, hk⟩ <;>
      simp only [hk] at h ⊢
    · exact hleaf (.inl hn)
    · exact hleaf (.inr hn)
    · have htype : typeInside e type = type := if_neg (by rw [hn]; decide)
      obtain ⟨items, hitems, -⟩ := Build.bind_result_ok.1 h
      rw [Build.map_warnings]
      refine (args_enumerate (fun x hx => (ih x hx).1 type) hitems).congr fun p w => ?_
      rw [← harg (by rw [hn]; decide), notes_iff_args (.inr hn), htype]
    · obtain ⟨b, hb, -⟩ := Build.bind_result_ok.1 h
      rw [Build.map_warnings]
      exact (hblock hn type b hb).congr (harg (by rw [hn]; decide))
    · obtain ⟨bs, hbs, -⟩ := Build.bind_result_ok.1 h
      rw [Build.map_warnings]
      exact (script_enumerates hn (fun x hx hx' => (ih x hx).2 hx' type) hbs).congr (harg (by rw [hn]; decide))
    · have hno : ∀ p w, ¬ Notes owner e type p w := by
        intro p w hw
        rcases hw.name with hn | hn | hn <;> exact htag (by rw [hn]; decide)
      exact Enumerates.singleton (p := []) fun q v => by simp [ArgNotes, htag, hno]

/-! ## Sprites -/

theorem Build.collect_eq_nil_iff {ctx : BuildContext} : ∀ {es : List Element} {bs : List Block},
    (collect (buildItem ctx) es).result = .ok bs → (bs = [] ↔ es.filter (·.name == "block") = [])
  | [], bs, h => by cases h; simp
  | e :: es, bs, h => by
    rw [collect_cons] at h
    obtain ⟨o, ho, h⟩ := bind_result_ok.1 h
    obtain ⟨bs', hbs, h⟩ := bind_result_ok.1 h
    cases h
    by_cases hn : e.name = "block"
    · rw [buildItem, if_pos hn] at ho
      obtain ⟨b, -, ho⟩ := bind_result_ok.1 ho
      cases ho
      simp [hn]
    · rw [buildItem, if_neg hn] at ho
      cases ho
      simpa [hn] using collect_eq_nil_iff hbs

/-- The notes of a script of a sprite: those inside it, and at its end that it has no blocks. -/
def ScriptNotes (owner declared : String) (e : Element) (p : Position) (w : Warning) : Prop :=
  Notes owner e "" p w ∨ (e.childrenNamed "block" = [] ∧ p = [e.childElements.length] ∧ w = .emptyScript declared)

theorem Notes.before_end {owner : String} {e : Element} (hn : e.name = "script") {type : String} {p : Position}
    {w : Warning} (h : Notes owner e type p w) : p.Before [e.childElements.length] := by
  obtain ⟨x, hx, r, -, rfl⟩ := (notes_iff_items hn p w).1 h
  obtain ⟨⟨y, i⟩, hy, rfl⟩ := List.mem_map.1 hx
  exact .rel (List.snd_lt_of_mem_zipIdx hy)

theorem buildScript_enumerates {owner declared : String} {e : Element} (hn : e.name = "script") {o : Option Script}
    (h : (buildScript ⟨owner, false⟩ declared e).result = .ok o) :
    Enumerates (ScriptNotes owner declared e) (buildScript ⟨owner, false⟩ declared e).warnings := by
  obtain ⟨bs, hbs, h⟩ := Build.bind_result_ok.1 h
  have hinside : Enumerates (Notes owner e "") (Build.collect (buildItem ⟨owner, false⟩) e.childElements).warnings :=
    script_enumerates hn (fun x _ hx => (build_enumerates owner x).2 hx "") hbs
  have hempty : bs = [] ↔ e.childrenNamed "block" = [] := Build.collect_eq_nil_iff hbs
  rw [buildScript, Build.bind_warnings hbs]
  refine hinside.append ?_ fun p w q v hp hq => hq.2.1 ▸ hp.before_end hn
  cases bs with
  | nil => exact Enumerates.singleton (p := [e.childElements.length]) fun q v => by simp [hempty.1 rfl]
  | cons b bs => exact Enumerates.nil fun q v hq => absurd (hempty.2 hq.1) (List.cons_ne_nil b bs)

/-- The notes of the scripts of a sprite. -/
def SpriteNotes (owner declared : String) (e : Element) (p : Position) (w : Warning) : Prop :=
  ∃ x ∈ e.places ["scripts", "script"], ∃ r, ScriptNotes owner declared x.2 r w ∧ p = x.1 ++ r

theorem buildSprite_enumerates {owner declared : String} {e : Element} {s : Sprite}
    (h : (buildSprite ⟨owner, false⟩ declared e).result = .ok s) :
    Enumerates (SpriteNotes owner declared e) (buildSprite ⟨owner, false⟩ declared e).warnings := by
  have hfind : e.find "scripts/script" = (e.places ["scripts", "script"]).map Prod.snd := by
    rw [Element.map_places]; rfl
  rw [buildSprite_eq] at h ⊢
  obtain ⟨scripts, hscripts, -⟩ := Build.bind_result_ok.1 h
  obtain ⟨hall, hwarnings⟩ := Build.collect_warnings hscripts
  rw [Build.map_warnings, hwarnings, hfind]
  refine Enumerates.inside (e.places_inOrder ["scripts", "script"]) fun x hx => ?_
  obtain ⟨o, ho⟩ := hall x.2 (by rw [hfind]; exact List.mem_map_of_mem hx)
  exact buildScript_enumerates (Element.name_of_mem_places ["scripts"] hx) ho

end SpriteScribe
