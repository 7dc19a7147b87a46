/-
Positions in a document. An element stands where the way to it from the root says, by which of the
child elements it goes on at each level. The order of positions is that of the document, with an
element before everything inside it. The elements that a path leads to stand at one depth, and search
by path finds them in order.
-/
import SpriteScribe.Markup.Path
import Mathlib.Data.List.Lex
import Mathlib.Data.List.Nodup

namespace SpriteScribe.Markup

/-- Which child element the way to an element goes through, at each level. -/
abbrev Position := List Nat

/-! ## Order -/

/-- The order of the document: at the first level where two ways part, the one through the earlier child
comes first, and an element comes before what is inside it. -/
abbrev Position.Before (p q : Position) : Prop := List.Lex (· < ·) p q

/-- Of two positions of one depth, all that is inside the first comes before all that is inside the second. -/
theorem Position.Before.append {p q : Position} (h : p.Before q) (hlen : p.length = q.length) (r s : Position) :
    Position.Before (p ++ r) (q ++ s) := by
  induction h with
  | nil => cases hlen
  | rel h => exact .rel h
  | cons _ ih => exact .cons (ih (Nat.succ.inj hlen))

/-- Elements with their positions, all of one depth and in the order of the document. -/
structure InOrder (depth : Nat) (xs : List (Position × Element)) : Prop where
  sorted : xs.Pairwise fun x y => x.1.Before y.1
  length : ∀ x ∈ xs, x.1.length = depth

namespace InOrder

variable {depth : Nat} {x : Position × Element} {xs : List (Position × Element)}

theorem sublist {ys : List (Position × Element)} (h : InOrder depth xs) (hsub : ys.Sublist xs) : InOrder depth ys :=
  ⟨h.sorted.sublist hsub, fun y hy => h.length y (hsub.mem hy)⟩

theorem append_before (h : InOrder depth (x :: xs)) {y : Position × Element} (hy : y ∈ xs) (p q : Position) :
    Position.Before (x.1 ++ p) (y.1 ++ q) := by
  refine ((List.pairwise_cons.1 h.sorted).1 y hy).append ?_ p q
  rw [h.length x List.mem_cons_self, h.length y (List.mem_cons_of_mem _ hy)]

theorem ne_nil (h : InOrder (depth + 1) xs) (hx : x ∈ xs) : x.1 ≠ [] :=
  List.ne_nil_of_length_eq_add_one (h.length x hx)

theorem nodup (h : InOrder depth xs) : (xs.map Prod.fst).Nodup := by
  refine List.pairwise_map.2 (h.sorted.imp fun {u v} hlt heq => ?_)
  rw [heq] at hlt
  exact irrefl v.1 hlt

/-- A position is inside at most one of them. -/
theorem eq_of_prefix (h : InOrder depth xs) {y : Position × Element} (hx : x ∈ xs) (hy : y ∈ xs) {p : Position}
    (hxp : x.1 <+: p) (hyp : y.1 <+: p) : x = y := by
  have hlen : x.1.length = y.1.length := (h.length x hx).trans (h.length y hy).symm
  have hpos : x.1 = y.1 := (List.prefix_of_prefix_length_le hxp hyp hlen.le).eq_of_length hlen
  exact List.inj_on_of_nodup_map h.nodup hx hy hpos

end InOrder

namespace Element

/-! ## Child elements -/

/-- The child elements of an element, with their positions in it. -/
def childPlaces (e : Element) : List (Position × Element) :=
  e.childElements.zipIdx.map fun x => ([x.2], x.1)

theorem map_childPlaces (e : Element) : e.childPlaces.map Prod.snd = e.childElements := by
  rw [childPlaces, List.map_map]
  exact List.zipIdx_map_fst 0 e.childElements

theorem mem_childElements_of_place {e : Element} {x : Position × Element} (h : x ∈ e.childPlaces) :
    x.2 ∈ e.childElements := by
  rw [← map_childPlaces]
  exact List.mem_map_of_mem h

theorem childPlaces_inOrder (e : Element) : InOrder 1 e.childPlaces := by
  constructor
  · have hidx : (e.childElements.zipIdx.map Prod.snd).Pairwise (· < ·) := by
      rw [List.zipIdx_map_snd]
      exact List.pairwise_lt_range'
    rw [childPlaces, List.pairwise_map]
    exact (List.pairwise_map.1 hidx).imp List.Lex.rel
  · intro x hx
    obtain ⟨y, -, rfl⟩ := List.mem_map.1 hx
    rfl

/-! ## Paths -/

/-- The elements that a path leads to from an element, with their positions. -/
def places (e : Element) : List String → List (Position × Element)
  | [] => [([], e)]
  | name :: path => (e.childPlaces.filter (·.2.name == name)).flatMap fun x =>
      (x.2.places path).map fun y => (x.1 ++ y.1, y.2)

theorem descend_eq_flatMap (es : List Element) (path : List String) :
    descend es path = es.flatMap fun e => descend [e] path := by
  induction path generalizing es with
  | nil => simp [descend]
  | cons name path ih =>
    have hstep : ∀ fs, descend fs (name :: path) = descend (fs.flatMap (·.childrenNamed name)) path :=
      fun _ => rfl
    rw [hstep, ih, List.flatMap_assoc]
    congr 1; funext e
    rw [hstep, List.flatMap_singleton, ← ih]

/-- Search by path finds the elements at the places of the path. -/
theorem map_places (e : Element) (path : List String) : (e.places path).map Prod.snd = descend [e] path := by
  induction path generalizing e with
  | nil => rfl
  | cons name path ih =>
    have hnamed : e.childrenNamed name = (e.childPlaces.filter (·.2.name == name)).map Prod.snd := by
      rw [childrenNamed, ← map_childPlaces, List.filter_map]
      rfl
    calc ((e.places (name :: path)).map Prod.snd)
        = (e.childPlaces.filter (·.2.name == name)).flatMap fun x => descend [x.2] path := by
          rw [places, List.map_flatMap]
          congr 1; funext x
          rw [List.map_map, ← ih x.2]
          rfl
      _ = (e.childrenNamed name).flatMap fun x => descend [x] path := by rw [hnamed, List.flatMap_map]
      _ = descend [e] (name :: path) := by
          rw [← descend_eq_flatMap, ← List.flatMap_singleton (·.childrenNamed name) e]
          rfl

theorem places_inOrder (e : Element) (path : List String) : InOrder path.length (e.places path) := by
  induction path generalizing e with
  | nil => exact ⟨List.pairwise_singleton _ _, fun x hx => by rw [List.mem_singleton.1 hx]; rfl⟩
  | cons name path ih =>
    have hchildren : InOrder 1 (e.childPlaces.filter (·.2.name == name)) :=
      e.childPlaces_inOrder.sublist List.filter_sublist
    constructor
    · rw [places, List.pairwise_flatMap]
      constructor
      · intro x _
        rw [List.pairwise_map]
        exact (ih x.2).sorted.imp fun h => h.append_left _ x.1
      · refine hchildren.sorted.imp_of_mem fun {x y} hx hy hxy u hu v hv => ?_
        obtain ⟨u, -, rfl⟩ := List.mem_map.1 hu
        obtain ⟨v, -, rfl⟩ := List.mem_map.1 hv
        exact hxy.append ((hchildren.length x hx).trans (hchildren.length y hy).symm) _ _
    · intro y hy
      obtain ⟨x, hx, hy⟩ := List.mem_flatMap.1 hy
      obtain ⟨z, hz, rfl⟩ := List.mem_map.1 hy
      rw [List.length_append, hchildren.length x hx, (ih x.2).length z hz, List.length_cons, Nat.add_comm]

/-- The last segment of a path is the name of what it leads to. -/
theorem name_of_mem_places {e : Element} (path : List String) {name : String} {x : Position × Element}
    (h : x ∈ e.places (path ++ [name])) : x.2.name = name := by
  induction path generalizing e x with
  | nil =>
    obtain ⟨y, hy, h⟩ := List.mem_flatMap.1 h
    obtain ⟨z, hz, rfl⟩ := List.mem_map.1 h
    rw [List.mem_singleton.1 hz]
    simpa using (List.mem_filter.1 hy).2
  | cons segment path ih =>
    obtain ⟨y, -, h⟩ := List.mem_flatMap.1 h
    obtain ⟨z, hz, rfl⟩ := List.mem_map.1 h
    exact ih (x := z) hz

end Element

end SpriteScribe.Markup
