/-
What search by path finds. A path is read as its segments, so it makes no difference whether slashes lead,
trail or are doubled, and a path after a path is a search from everything that the first one finds. The
elements found are those at the end of a way down through elements named by the segments (`Element.Way`),
each once and in the order of the document, although the search goes level by level. A search that starts
with the name of the root is the search from a parent of the root.
-/
import SpriteScribe.Proofs.Markup.Position

namespace SpriteScribe.Markup

/-! ## Segments -/

theorem segments_append (p q : List Char) : segments (p ++ '/' :: q) = segments p ++ segments q := by
  unfold segments
  rw [List.splitOn_append_cons_self, List.filter_append, List.map_append]

theorem segments_slash (p : List Char) : segments ('/' :: p) = segments p := segments_append [] p

theorem segments_of_not_mem {p : List Char} (hne : p ≠ []) (h : '/' ∉ p) : segments p = [String.ofList p] := by
  unfold segments
  rw [List.splitOn_eq_singleton h, List.filter_cons_of_pos (by simpa using hne)]
  rfl

theorem segments_dropWhile (p : List Char) : segments (p.dropWhile (· == '/')) = segments p := by
  induction p with
  | nil => rfl
  | cons c p ih =>
    by_cases hc : c = '/'
    · subst hc
      rw [List.dropWhile_cons_of_pos (by decide), ih, segments_slash]
    · rw [List.dropWhile_cons_of_neg (by simpa using hc)]

/-- A path that does not begin with a slash begins with its first segment. -/
theorem segments_cons {c : Char} (hc : c ≠ '/') (p : List Char) :
    segments (c :: p) = String.ofList ((c :: p).takeWhile (· != '/')) ::
      segments (((c :: p).dropWhile (· != '/')).drop 1) := by
  have hhead : (c :: p).takeWhile (· != '/') ≠ [] := by simp [hc]
  have hslash : '/' ∉ (c :: p).takeWhile (· != '/') := by
    intro h
    simpa using List.all_eq_true.1 List.all_takeWhile '/' h
  have hsplit := List.takeWhile_append_dropWhile (p := (· != '/')) (l := c :: p)
  cases hrest : (c :: p).dropWhile (· != '/') with
  | nil =>
    rw [hrest, List.append_nil] at hsplit
    rw [hsplit] at hslash ⊢
    exact segments_of_not_mem (List.cons_ne_nil _ _) hslash
  | cons d rest =>
    -- the characters before the first slash end there
    obtain rfl : d = '/' := by
      have hd := List.head?_dropWhile_not (· != '/') (c :: p)
      rw [hrest] at hd
      simpa using hd
    rw [hrest] at hsplit
    conv_lhs => rw [← hsplit]
    rw [segments_append, segments_of_not_mem hhead hslash]
    rfl

namespace Element

/-! ## Ways -/

/-- A way from an element down to another one: which of the child elements it goes through at each level, and
how these are named. -/
inductive Way : Element → Position → List String → Element → Prop
  | here (e : Element) : Way e [] [] e
  | child {e x y : Element} {i : Nat} {p : Position} {names : List String} :
      e.childElements[i]? = some x → Way x p names y → Way e (i :: p) (x.name :: names) y

theorem mem_childPlaces {e x : Element} {q : Position} :
    (q, x) ∈ e.childPlaces ↔ ∃ i, q = [i] ∧ e.childElements[i]? = some x := by
  unfold childPlaces
  constructor
  · intro h
    obtain ⟨⟨y, i⟩, hy, heq⟩ := List.mem_map.1 h
    cases heq
    exact ⟨i, rfl, List.mem_zipIdx_iff_getElem?.1 hy⟩
  · rintro ⟨i, rfl, hi⟩
    exact List.mem_map.2 ⟨(x, i), List.mem_zipIdx_iff_getElem?.2 hi, rfl⟩

/-- The places of a path are the ends of the ways along it. -/
theorem mem_places_iff {e x : Element} {p : Position} {path : List String} :
    (p, x) ∈ e.places path ↔ e.Way p path x := by
  induction path generalizing e p with
  | nil =>
    constructor
    · intro h
      cases List.mem_singleton.1 h
      exact .here _
    · intro h
      cases h
      exact List.mem_singleton.2 rfl
  | cons name path ih =>
    constructor
    · intro h
      obtain ⟨⟨q, y⟩, hy, h⟩ := List.mem_flatMap.1 h
      obtain ⟨⟨r, z⟩, hz, heq⟩ := List.mem_map.1 h
      cases heq
      obtain ⟨hchild, hname⟩ := List.mem_filter.1 hy
      obtain ⟨i, rfl, hi⟩ := mem_childPlaces.1 hchild
      obtain rfl : y.name = name := by simpa using hname
      exact .child hi (ih.1 hz)
    · intro h
      cases h with
      | @child _ y _ i q _ hi hway =>
        refine List.mem_flatMap.2 ⟨([i], y), ?_, List.mem_map.2 ⟨(q, x), ih.2 hway, rfl⟩⟩
        exact List.mem_filter.2 ⟨mem_childPlaces.2 ⟨i, rfl, hi⟩, by simp⟩

/-! ## Search -/

theorem descend_append (es : List Element) (p q : List String) :
    descend es (p ++ q) = (descend es p).flatMap fun x => descend [x] q := by
  rw [← descend_eq_flatMap]
  exact List.foldl_append

theorem toList_append_slash (p q : String) : (p ++ "/" ++ q).toList = p.toList ++ '/' :: q.toList := by
  rw [String.toList_append, String.toList_append, List.append_assoc]
  rfl

theorem find_append (e : Element) (p q : String) : e.find (p ++ "/" ++ q) = (e.find p).flatMap (·.find q) := by
  unfold find
  rw [toList_append_slash, segments_append, descend_append]

theorem find_of_not_mem {name : String} (hne : name.toList ≠ []) (h : '/' ∉ name.toList) (e : Element) :
    e.find name = e.childrenNamed name := by
  unfold find
  rw [segments_of_not_mem hne h, String.ofList_toList, ← List.flatMap_singleton (·.childrenNamed name) e]
  rfl

/-- Search from the root goes on below it, if it has the name before the first slash. -/
theorem findFromRoot_append {name : String} (hne : name.toList ≠ []) (h : '/' ∉ name.toList) (e : Element)
    (path : String) : e.findFromRoot (name ++ "/" ++ path) = if name = e.name then e.find path else [] := by
  have hall : ∀ c ∈ name.toList, (c != '/') = true := by
    intro c hc
    rw [bne_iff_ne]
    rintro rfl
    exact h hc
  have hkeep : (name.toList ++ '/' :: path.toList).dropWhile (· == '/') = name.toList ++ '/' :: path.toList := by
    obtain ⟨c, cs, hcs⟩ := List.exists_cons_of_ne_nil hne
    have hc := hall c (by rw [hcs]; exact List.mem_cons_self)
    rw [hcs, List.cons_append, List.dropWhile_cons_of_neg (by simpa using hc)]
  have hhead : (name.toList ++ '/' :: path.toList).takeWhile (· != '/') = name.toList := by
    rw [List.takeWhile_append_of_pos hall]
    simp
  have hrest : ((name.toList ++ '/' :: path.toList).dropWhile (· != '/')).drop 1 = path.toList := by
    rw [List.dropWhile_append_of_pos hall]
    simp
  simp only [findFromRoot, toList_append_slash, hkeep, hhead, hrest, String.ofList_toList]
  rfl

/-- Searching from an element with a single child element goes on from that one, if it has the name. -/
theorem descend_parent {parent root : Element} (h : parent.childElements = [root]) (name : String)
    (path : List String) : descend [parent] (name :: path) = if name = root.name then descend [root] path else [] := by
  have hstep : descend [parent] (name :: path) = descend (parent.childrenNamed name) path := by
    rw [← List.flatMap_singleton (·.childrenNamed name) parent]
    rfl
  rw [hstep, childrenNamed, h]
  split
  · rename_i hname
    rw [List.filter_cons_of_pos (by simp [hname])]
    rfl
  · rename_i hname
    rw [List.filter_cons_of_neg (by simpa using Ne.symm hname), descend_eq_flatMap]
    rfl

theorem findFromRoot_eq_find {parent root : Element} (h : parent.childElements = [root]) {path : String}
    (hpath : segments path.toList ≠ []) : root.findFromRoot path = parent.find path := by
  unfold findFromRoot find
  rw [← segments_dropWhile] at hpath ⊢
  cases htrim : path.toList.dropWhile (· == '/') with
  | nil =>
    rw [htrim] at hpath
    exact absurd rfl hpath
  | cons c rest =>
    have hc : c ≠ '/' := by
      have hd := List.head?_dropWhile_not (· == '/') path.toList
      rw [htrim] at hd
      simpa using hd
    rw [segments_cons hc, descend_parent h]

/-- Search by path. The segments of the path lead to certain places, found by going depth first through the
children with the name of each segment in turn. What is found are the elements at these places in the
order of the document, no place twice, and a place is among them just if the elements on the way to it
have the segments as their names. A path after a path searches from all that the first one finds, in
order. Search from the root by a path with a segment is search from any parent whose only child element
is the root. -/
theorem find_places (e : Element) (path : String) :
    e.find path = (e.places (segments path.toList)).map Prod.snd ∧
    (e.places (segments path.toList)).Pairwise (fun x y => x.1.Before y.1) ∧
    (∀ p x, (p, x) ∈ e.places (segments path.toList) ↔ e.Way p (segments path.toList) x) ∧
    (∀ p q : String, e.find (p ++ "/" ++ q) = (e.find p).flatMap (·.find q)) ∧
    (∀ parent : Element, parent.childElements = [e] → segments path.toList ≠ [] →
      e.findFromRoot path = parent.find path) :=
  ⟨(e.map_places _).symm, (e.places_inOrder _).sorted, fun _ _ => mem_places_iff, e.find_append,
    fun _ h hpath => findFromRoot_eq_find h hpath⟩

/-- A stage with a sprite after an element of another name. -/
def secondStage : Element := .mk "stage" [] [.element (.mk "pane" [] []), .text " ", .element (.mk "sprite" [] [])]

/-- A project with two stages and a comment between them. -/
def twoStages : Element :=
  .mk "project" [] [.element (.mk "stage" [] [.element (.mk "sprite" [] [])]), .comment "", .element secondStage]

theorem find_places_twoStages :
    twoStages.findFromRoot "//project///stage/sprite/" =
      (Element.mk "parent" [] [.text "", .element twoStages]).find "//project///stage/sprite/" ∧
    twoStages.findFromRoot "//project///stage/sprite/" = [.mk "sprite" [] [], .mk "sprite" [] []] ∧
    ([1, 1], .mk "sprite" [] []) ∈ twoStages.places (segments "stage/sprite".toList) := by
  have hroot := (find_places twoStages "//project///stage/sprite/").2.2.2.2
    (.mk "parent" [] [.text "", .element twoStages]) rfl (by decide)
  have hway : twoStages.Way [1, 1] ["stage", "sprite"] (.mk "sprite" [] []) :=
    .child (x := secondStage) rfl (.child (x := .mk "sprite" [] []) rfl (.here _))
  exact ⟨hroot, by rfl, ((find_places twoStages "stage/sprite").2.2.1 _ _).2 hway⟩

end Element

end SpriteScribe.Markup
