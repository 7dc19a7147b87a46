/-
What the operations on a file tree do to it. A tree is looked at place by place: a file, a directory or
nothing stands there (`FileTree.node?`). Where steps lead from a place is said by rules (`FileTree.Leads`),
which walks follow. Making directories only adds directories, each where a path leads then
(`FileTree.Grown`), and writing a file changes the one place that the path leads to (`FileTree.Updated`).
What has failed to be written has changed nothing. So file trees are reliable (`FileTree.reliable`).
-/
import SpriteScribe.Command.FileTree
import SpriteScribe.Proofs.Command.View
import SpriteScribe.Proofs.Lookup

namespace SpriteScribe.Command

/-! ## Places -/

namespace Entry

def node : Entry → Node
  | .file bytes => .file bytes
  | .directory _ => .directory

/-- What stands where names lead to. -/
def node? (e : Entry) (place : List String) : Option Node := (e.below? place).map node

theorem node_eq_directory {e : Entry} : e.node = .directory ↔ e.isDirectory = true := by
  cases e <;> simp [node, isDirectory]

theorem node?_cons (e : Entry) (name : String) (place : List String) :
    e.node? (name :: place) = (e.child? name).bind (·.node? place) := by
  rw [node?, below?]
  cases e.child? name <;> rfl

theorem below?_append (e : Entry) (place rest : List String) :
    e.below? (place ++ rest) = (e.below? place).bind (·.below? rest) := by
  induction place generalizing e with
  | nil => rfl
  | cons name place ih =>
    rw [List.cons_append, below?, below?]
    cases h : e.child? name with
    | none => rfl
    | some x => exact ih x

theorem node?_of_entries {e : Entry} (h : e.entries = []) (name : String) (place : List String) :
    e.node? (name :: place) = none := by
  rw [node?_cons, child?, h]
  rfl

/-- What is in a directory after something was put into it. -/
theorem child?_put_cons (e new : Entry) (name : String) (place : List String) (other : String) :
    (e.put (name :: place) new).child? other =
      if other = name then some (((e.child? name).getD (.directory [])).put place new) else e.child? other := by
  rw [put, child?, entries]
  by_cases h : other = name
  · simp [h]
  · rw [List.lookup_cons, beq_false_of_ne h, if_neg h]
    exact lookup_filter_key (p := fun key => key ≠ name) (by simpa using h) e.entries

/-- Something without anything in it, put into a directory that exists, changes this place and no other. -/
theorem node?_put {e new : Entry} {place : List String} {name : String} (hplace : e.node? place = some .directory)
    (hold : e.node? (place ++ [name]) ≠ some .directory) (hnew : new.entries = []) (other : List String) :
    (e.put (place ++ [name]) new).node? other = if other = place ++ [name] then some new.node else e.node? other := by
  induction place generalizing e other with
  | nil =>
    cases other with
    | nil => simpa [node?, below?, put, node] using hplace.symm
    | cons first rest =>
      rw [List.nil_append] at hold ⊢
      rw [node?_cons, child?_put_cons]
      by_cases hfirst : first = name
      · subst hfirst
        rw [if_pos rfl, Option.bind_some, put]
        cases rest with
        | nil => simp [node?, below?]
        | cons second rest =>
          -- below what was there before there was nothing either
          rw [node?_of_entries hnew, if_neg (by simp), node?_cons]
          rw [node?_cons] at hold
          cases hchild : e.child? first with
          | none => rfl
          | some x =>
            cases x with
            | file bytes => exact (node?_of_entries rfl _ _).symm
            | directory es => exact absurd (by rw [hchild]; rfl) hold
      · rw [if_neg hfirst, if_neg (by simp [hfirst]), node?_cons]
  | cons top place ih =>
    rw [node?_cons] at hplace
    obtain ⟨x, hx, hinner⟩ := Option.bind_eq_some_iff.1 hplace
    rw [List.cons_append, node?_cons, hx, Option.bind_some] at hold
    cases other with
    | nil =>
      cases e with
      | file bytes => cases hx
      | directory es => rfl
    | cons first rest =>
      rw [List.cons_append, node?_cons, child?_put_cons, node?_cons]
      by_cases hfirst : first = top
      · subst hfirst
        rw [if_pos rfl, Option.bind_some, hx, Option.getD_some, Option.bind_some, ih hinner hold rest]
        simp
      · rw [if_neg hfirst, if_neg (by simp [hfirst])]

end Entry

namespace FileTree

/-- What stands at a place. -/
def node? (t : FileTree) (place : List String) : Option Node := t.top.node? place

/-- One tree is the other with something else at one place. -/
structure Updated (t t' : FileTree) (place : List String) (node : Node) : Prop where
  workplace : t'.workplace = t.workplace
  nodes (other : List String) : t'.node? other = if other = place then some node else t.node? other

/-- What is there stays there, and directories stay directories. -/
structure Kept (t t' : FileTree) : Prop where
  workplace : t'.workplace = t.workplace
  directory {place : List String} : t.node? place = some .directory → t'.node? place = some .directory
  present {place : List String} : t.node? place ≠ none → t'.node? place ≠ none

theorem Updated.kept {t t' : FileTree} {place : List String} {node : Node} (h : t.Updated t' place node)
    (hold : t.node? place ≠ some .directory) : t.Kept t' where
  workplace := h.workplace
  directory {other} hother := by
    have hne : other ≠ place := by
      rintro rfl
      exact hold hother
    rw [h.nodes other, if_neg hne, hother]
  present {other} hother := by
    rw [h.nodes other]
    split
    · nofun
    · exact hother

/-! ## Ways -/

/-- Where steps lead to from a place. Every step is taken from a directory, also one that leads nowhere else,
and leads to what exists; a step up leads to the directory that the place is in, and nowhere else at the top. -/
inductive Leads (t : FileTree) : List String → List String → List String → Prop
  | stay {place : List String} : Leads t place [] place
  | idle {place steps target : List String} {step : String} : t.node? place = some .directory →
      isIdle step = true → Leads t place steps target → Leads t place (step :: steps) target
  | up {place steps target : List String} {name : String} : t.node? (place ++ [name]) = some .directory →
      Leads t place steps target → Leads t (place ++ [name]) (".." :: steps) target
  | top {steps target : List String} : t.node? [] = some .directory → Leads t [] steps target →
      Leads t [] (".." :: steps) target
  | down {place steps target : List String} {step : String} : t.node? place = some .directory →
      isIdle step = false → step ≠ ".." → step.utf8ByteSize ≤ nameSizeLimit → t.node? (place ++ [step]) ≠ none →
      Leads t (place ++ [step]) steps target → Leads t place (step :: steps) target

theorem Leads.mono {t t' : FileTree} (h : t.Kept t') {place steps target : List String}
    (hleads : t.Leads place steps target) : t'.Leads place steps target := by
  induction hleads with
  | stay => exact .stay
  | idle hdir hidle _ ih => exact .idle (h.directory hdir) hidle ih
  | up hdir _ ih => exact .up (h.directory hdir) ih
  | top hdir _ ih => exact .top (h.directory hdir) ih
  | down hdir hidle hup hsize hnext _ ih => exact .down (h.directory hdir) hidle hup hsize (h.present hnext) ih

theorem Leads.trans {t : FileTree} {place steps target rest final : List String}
    (h : t.Leads place steps target) (hrest : t.Leads target rest final) : t.Leads place (steps ++ rest) final := by
  induction h with
  | stay => exact hrest
  | idle hdir hidle _ ih => exact .idle hdir hidle (ih hrest)
  | up hdir _ ih => exact .up hdir (ih hrest)
  | top hdir _ ih => exact .top hdir (ih hrest)
  | down hdir hidle hup hsize hnext _ ih => exact .down hdir hidle hup hsize hnext (ih hrest)

theorem Leads.concat {t : FileTree} {place steps target : List String} {step : String}
    (h : t.Leads place steps target) (hdir : t.node? target = some .directory) (hidle : isIdle step = false)
    (hup : step ≠ "..") (hsize : step.utf8ByteSize ≤ nameSizeLimit) (hnext : t.node? (target ++ [step]) ≠ none) :
    t.Leads place (steps ++ [step]) (target ++ [step]) :=
  h.trans (.down hdir hidle hup hsize hnext .stay)

end FileTree

/-! ## Walks -/

namespace Spot

/-- The spots of a tree: at its top, and one level down from every other one. -/
inductive From (top : Entry) : Spot → Prop
  | top : From top ⟨top, []⟩
  | child {s : Spot} {name : String} {next : Entry} : From top s → s.entry.child? name = some next →
      From top ⟨next, (name, s.entry) :: s.trail⟩

@[simp] theorem place_cons (e above : Entry) (name : String) (trail : List (String × Entry)) :
    place ⟨e, (name, above) :: trail⟩ = place ⟨above, trail⟩ ++ [name] := by
  simp [place]

/-- What is at a spot stands at its place. -/
theorem From.below? {top : Entry} {s : Spot} (h : s.From top) : top.below? s.place = some s.entry := by
  induction h with
  | top => rfl
  | child _ hchild ih =>
    rw [place_cons, Entry.below?_append, ih, Option.bind_some, Entry.below?, hchild]
    rfl

theorem From.node? {t : FileTree} {s : Spot} (h : s.From t.top) : t.node? s.place = some s.entry.node := by
  rw [FileTree.node?, Entry.node?, h.below?]
  rfl

theorem From.node?_concat {t : FileTree} {s : Spot} (h : s.From t.top) (name : String) :
    t.node? (s.place ++ [name]) = (s.entry.child? name).map Entry.node := by
  rw [FileTree.node?, Entry.node?, Entry.below?_append, h.below?, Option.bind_some, Entry.below?]
  cases s.entry.child? name <;> rfl

/-- A walk comes to where its steps lead. -/
theorem leads_of_walk {t : FileTree} {steps : List String} : ∀ {s r : Spot}, s.From t.top →
    s.walk steps = .ok r → r.From t.top ∧ t.Leads s.place steps r.place := by
  -- every spot on the way is one of the tree, so the way back that it carries is the one up from its place
  induction steps with
  | nil =>
    intro s r hs h
    cases h
    exact ⟨hs, .stay⟩
  | cons step steps ih =>
    intro s r hs h
    rw [walk] at h
    split at h
    · cases h
    rename_i hdir
    have hnode : t.node? s.place = some .directory := by
      rw [hs.node?, Entry.node_eq_directory.2 (by simpa using hdir)]
    split at h
    · rename_i hidle
      obtain ⟨hr, hleads⟩ := ih hs h
      exact ⟨hr, .idle hnode hidle hleads⟩
    rename_i hidle
    split at h
    · rename_i hup
      subst hup
      obtain ⟨e, trail⟩ := s
      cases hs with
      | top =>
        obtain ⟨hr, hleads⟩ := ih .top h
        exact ⟨hr, .top hnode hleads⟩
      | child hs _ =>
        obtain ⟨hr, hleads⟩ := ih hs h
        rw [place_cons] at hnode ⊢
        exact ⟨hr, .up hnode hleads⟩
    rename_i hup
    split at h
    · cases h
    rename_i hsize
    split at h
    · rename_i next hnext
      obtain ⟨hr, hleads⟩ := ih (hs.child hnext) h
      rw [place_cons] at hleads
      refine ⟨hr, .down hnode (by simpa using hidle) hup (by omega) ?_ hleads⟩
      rw [hs.node?_concat, hnext]
      nofun
    · cases h

/-- A walk does not fail where its steps lead somewhere. -/
theorem walk_of_leads {t : FileTree} {place steps target : List String} (h : t.Leads place steps target) :
    ∀ {s : Spot}, s.From t.top → s.place = place → ∃ r, s.walk steps = .ok r ∧ r.place = target := by
  have hdirectory : ∀ {s : Spot}, s.From t.top → t.node? s.place = some .directory → s.entry.isDirectory = true := by
    intro s hs hnode
    rw [hs.node?] at hnode
    exact Entry.node_eq_directory.1 (Option.some.inj hnode)
  induction h with
  | stay =>
    intro s _ hplace
    exact ⟨s, rfl, hplace⟩
  | idle hdir hidle _ ih =>
    intro s hs hplace
    subst hplace
    rw [walk, hdirectory hs hdir, if_neg (by simp), if_pos hidle]
    exact ih hs rfl
  | @up place steps target name hdir _ ih =>
    intro s hs hplace
    rw [← hplace] at hdir
    rw [walk, hdirectory hs hdir, if_neg (by simp), if_neg (by decide), if_pos rfl]
    cases hs with
    | top => simp [Spot.place] at hplace
    | child hs _ =>
      rw [place_cons] at hplace
      exact ih hs (List.append_inj' hplace rfl).1
  | top hdir _ ih =>
    intro s hs hplace
    rw [← hplace] at hdir
    rw [walk, hdirectory hs hdir, if_neg (by simp), if_neg (by decide), if_pos rfl]
    cases hs with
    | top => exact ih .top rfl
    | child hs _ => simp at hplace
  | @down place steps target step hdir hidle hup hsize hnext _ ih =>
    intro s hs hplace
    subst hplace
    rw [walk, hdirectory hs hdir, if_neg (by simp), if_neg (by simpa using hidle), if_neg hup, if_neg (by omega)]
    rw [hs.node?_concat] at hnext
    cases hchild : s.entry.child? step with
    | none => rw [hchild] at hnext; exact absurd rfl hnext
    | some next => exact ih (hs.child hchild) (place_cons ..)

end Spot

namespace FileTree

theorem locate_ok {t : FileTree} {steps : List String} {spot : Spot} (h : t.locate steps = .ok spot) :
    spot.From t.top ∧ t.Leads [] steps spot.place :=
  Spot.leads_of_walk .top h

theorem locateDirectory_ok {t : FileTree} {steps : List String} {spot : Spot}
    (h : t.locateDirectory steps = .ok spot) :
    spot.From t.top ∧ t.Leads [] steps spot.place ∧ t.node? spot.place = some .directory := by
  unfold locateDirectory at h
  split at h
  · cases h
  · rename_i spot' hspot
    split at h
    · rename_i hdir
      cases h
      obtain ⟨hfrom, hleads⟩ := locate_ok hspot
      exact ⟨hfrom, hleads, by rw [hfrom.node?, Entry.node_eq_directory.2 hdir]⟩
    · cases h

theorem usable_ok {path : String} {steps : List String} (h : usable path = .ok steps) : steps = pathSteps path := by
  unfold usable at h
  split at h
  · cases h
  split at h
  · cases h
  split at h
  · cases h
  · cases h
    rfl

/-- A path leads to a place. -/
structure LeadsTo (t : FileTree) (path : String) (place : List String) : Prop where
  usable : usable path = .ok (pathSteps path)
  leads : t.Leads [] (t.origin path ++ pathSteps path) place

theorem LeadsTo.mono {t t' : FileTree} (h : t.Kept t') {path : String} {place : List String}
    (hleads : t.LeadsTo path place) : t'.LeadsTo path place where
  usable := hleads.usable
  leads := by
    have horigin : t'.origin path = t.origin path := by
      rw [origin, h.workplace]
      rfl
    rw [horigin]
    exact hleads.leads.mono h

/-- The place that a path leads to. -/
def target? (t : FileTree) (path : String) : Option (List String) := (t.follow path).toOption.map Spot.place

theorem follow_of_usable (t : FileTree) {path : String} (h : usable path = .ok (pathSteps path)) :
    t.follow path = t.locate (t.origin path ++ pathSteps path) := by
  rw [follow, h]
  rfl

theorem target?_eq_some_iff {t : FileTree} {path : String} {place : List String} :
    t.target? path = some place ↔ t.LeadsTo path place := by
  rw [target?, Option.map_eq_some_iff]
  constructor
  · rintro ⟨spot, hspot, rfl⟩
    cases husable : usable path with
    | error e =>
      rw [follow, husable] at hspot
      cases hspot
    | ok steps =>
      obtain rfl := usable_ok husable
      rw [follow_of_usable t husable] at hspot
      cases hlocate : t.locate (t.origin path ++ pathSteps path) with
      | error e =>
        rw [hlocate] at hspot
        cases hspot
      | ok spot' =>
        rw [hlocate] at hspot
        cases hspot
        exact ⟨husable, (locate_ok hlocate).2⟩
  · intro h
    obtain ⟨spot, hwalk, hplace⟩ := Spot.walk_of_leads h.leads (.top : Spot.From t.top _) rfl
    refine ⟨spot, ?_, hplace⟩
    rw [follow_of_usable t h.usable, locate, hwalk]
    rfl

/-- Something without anything in it, set under a name where there was no directory, is where the steps to
its directory and that name lead then. -/
theorem leads_set {t : FileTree} {steps : List String} {spot : Spot} {name : String} {e : Entry}
    (hlocate : t.locateDirectory steps = .ok spot) (hidle : isIdle name = false) (hup : name ≠ "..")
    (hsize : name.utf8ByteSize ≤ nameSizeLimit) (hold : t.node? (spot.place ++ [name]) ≠ some .directory)
    (he : e.entries = []) :
    t.Updated (t.set (spot.place ++ [name]) e) (spot.place ++ [name]) e.node ∧
      (t.set (spot.place ++ [name]) e).Leads [] (steps ++ [name]) (spot.place ++ [name]) := by
  obtain ⟨-, hleads, hdir⟩ := locateDirectory_ok hlocate
  have hupdated : t.Updated (t.set (spot.place ++ [name]) e) (spot.place ++ [name]) e.node :=
    ⟨rfl, Entry.node?_put hdir hold he⟩
  have hkept := hupdated.kept hold
  refine ⟨hupdated, (hleads.mono hkept).concat (hkept.directory hdir) hidle hup hsize ?_⟩
  rw [hupdated.nodes, if_pos rfl]
  nofun

/-! ## Making directories -/

/-- A directory that is made stands where its path leads then, and nothing was there before. -/
theorem makeDirectory_ok {t t' : FileTree} {path : String} (h : t.makeDirectory path = .ok t') :
    ∃ place, t.node? place = none ∧ t.Updated t' place .directory ∧ t'.LeadsTo path place := by
  unfold makeDirectory at h
  cases husable : usable path with
  | error e => rw [husable] at h; cases h
  | ok steps =>
    obtain rfl := usable_ok husable
    rw [husable] at h
    simp only [bind, Except.bind] at h
    split at h
    · cases h
    rename_i last above hreverse
    cases hlocate : t.locateDirectory (t.origin path ++ above.reverse) with
    | error e => rw [hlocate] at h; cases h
    | ok spot =>
      obtain ⟨hfrom, -⟩ := locateDirectory_ok hlocate
      simp only [hlocate] at h
      split at h
      · cases h
      rename_i hlast
      split at h
      · cases h
      rename_i hsize
      split at h
      · cases h
      rename_i hchild
      cases h
      have hnone : t.node? (spot.place ++ [last]) = none := by
        rw [hfrom.node?_concat, Option.not_isSome_iff_eq_none.1 hchild]
        rfl
      simp only [Bool.or_eq_true, decide_eq_true_eq, not_or, Bool.not_eq_true] at hlast
      obtain ⟨hupdated, hleads⟩ := leads_set (e := .directory []) hlocate hlast.1 hlast.2 (by omega)
        (by rw [hnone]; nofun) rfl
      rw [List.append_assoc, ← List.reverse_eq_cons_iff.1 hreverse] at hleads
      exact ⟨spot.place ++ [last], hnone, hupdated, husable, hleads⟩

/-- A tree has become another by directories that were made, each where one of some paths leads. -/
structure Grown (t t' : FileTree) (paths : List String) : Prop where
  workplace : t'.workplace = t.workplace
  nodes (place : List String) : t'.node? place = t.node? place ∨
    t.node? place = none ∧ t'.node? place = some .directory ∧ ∃ path ∈ paths, t'.LeadsTo path place

theorem Grown.refl (t : FileTree) (paths : List String) : t.Grown t paths := ⟨rfl, fun _ => .inl rfl⟩

theorem Grown.cons {t t' : FileTree} {paths : List String} (h : t.Grown t' paths) (path : String) :
    t.Grown t' (path :: paths) := by
  refine ⟨h.workplace, fun place => ?_⟩
  obtain heq | ⟨hnone, hdir, other, hmem, hleads⟩ := h.nodes place
  · exact .inl heq
  · exact .inr ⟨hnone, hdir, other, List.mem_cons_of_mem _ hmem, hleads⟩

/-- One directory more. -/
theorem Grown.makeDirectory {t t' t'' : FileTree} {path : String} {paths : List String} (h : t.Grown t' paths)
    (hmade : t'.makeDirectory path = .ok t'') : t.Grown t'' (path :: paths) := by
  obtain ⟨new, hnew, hupdated, hleads⟩ := makeDirectory_ok hmade
  have hkept := hupdated.kept (by rw [hnew]; nofun)
  refine ⟨hkept.workplace.trans h.workplace, fun place => ?_⟩
  by_cases hplace : place = new
  · subst hplace
    right
    refine ⟨?_, by rw [hupdated.nodes, if_pos rfl], path, List.mem_cons_self, hleads⟩
    obtain heq | ⟨hnone, -⟩ := h.nodes place
    · rw [← heq, hnew]
    · exact hnone
  · rw [hupdated.nodes, if_neg hplace]
    obtain heq | ⟨hnone, hdir, other, hmem, hother⟩ := h.nodes place
    · exact .inl heq
    · exact .inr ⟨hnone, hdir, other, List.mem_cons_of_mem _ hmem, hother.mono hkept⟩

/-- Whether or not all of them can be made, directories are all that is new. -/
theorem grown_makeDirectories (t : FileTree) (paths : List String) : t.Grown (t.makeDirectories paths).1 paths := by
  induction paths generalizing t with
  | nil => exact .refl t []
  | cons path above ih =>
    rw [makeDirectories]
    split
    · rename_i made hmade
      exact (Grown.refl t above).makeDirectory hmade
    · have hgrown := ih t
      split
      · rename_i t' e habove
        rw [habove] at hgrown
        exact hgrown.cons path
      · rename_i t' habove
        rw [habove] at hgrown
        split
        · rename_i made hmade
          exact hgrown.makeDirectory hmade
        · exact hgrown.cons path
    · exact .refl t _

/-! ## Writing -/

theorem getLast?_intercalate_concat_nil (sep : Char) {runs : List (List Char)} (h : runs ≠ []) :
    ([sep].intercalate (runs ++ [[]])).getLast? = some sep := by
  induction runs with
  | nil => exact absurd rfl h
  | cons run runs ih =>
    cases runs with
    | nil => simp [List.intercalate_cons_cons]
    | cons next runs =>
      rw [List.cons_append, List.cons_append, List.intercalate_cons_cons, ← List.cons_append, List.getLast?_append,
        ih nofun]
      rfl

/-- Only the empty path and those that end with a slash have no last step. -/
theorem pathSteps_concat_empty {path : String} {steps : List String} (h : pathSteps path = steps ++ [""])
    (hslash : path.toList.getLast? ≠ some '/') : steps = [] := by
  have hruns : path.toList.splitOn '/' = steps.map String.toList ++ [[]] := by
    have hmap := congrArg (List.map String.toList) h
    simpa [pathSteps, Function.comp_def] using hmap
  cases steps with
  | nil => rfl
  | cons step steps =>
    refine absurd ?_ hslash
    have hpath : ['/'].intercalate (path.toList.splitOn '/') = path.toList := List.intercalate_splitOn '/'
    rw [← hpath, hruns]
    exact getLast?_intercalate_concat_nil '/' (by simp)

theorem pathSteps_of_dropWhile {path last : String} {above : List String}
    (h : (pathSteps path).reverse.dropWhile (· == "") = last :: above) (hslash : path.toList.getLast? ≠ some '/') :
    pathSteps path = above.reverse ++ [last] ∧ last ≠ "" := by
  cases hreverse : (pathSteps path).reverse with
  | nil => rw [hreverse] at h; cases h
  | cons step rest =>
    have hpath := List.reverse_eq_cons_iff.1 hreverse
    rw [hreverse] at h
    by_cases hstep : step = ""
    · subst hstep
      have hrest := List.reverse_eq_nil_iff.1 (pathSteps_concat_empty hpath hslash)
      rw [hrest] at h
      cases h
    · rw [List.dropWhile_cons_of_neg (by simpa using hstep)] at h
      cases h
      exact ⟨hpath, hstep⟩

/-- A file that is written stands where its path leads then, and no directory was there before. -/
theorem writable_ok {t : FileTree} {path : String} {target : List String} (h : t.writable path = .ok target)
    (bytes : ByteArray) :
    t.node? target ≠ some .directory ∧ t.Updated (t.set target (.file bytes)) target (.file bytes) ∧
      (t.set target (.file bytes)).LeadsTo path target := by
  unfold writable at h
  cases husable : usable path with
  | error e => rw [husable] at h; cases h
  | ok steps =>
    obtain rfl := usable_ok husable
    rw [husable] at h
    simp only [bind, Except.bind] at h
    split at h
    · cases h
    rename_i last above hreverse
    cases hlocate : t.locateDirectory (t.origin path ++ above.reverse) with
    | error e => rw [hlocate] at h; cases h
    | ok spot =>
      obtain ⟨hfrom, -⟩ := locateDirectory_ok hlocate
      simp only [hlocate] at h
      split at h
      · cases h
      rename_i hlast
      split at h
      · cases h
      rename_i hsize
      split at h
      · cases h
      rename_i hchild
      cases h
      simp only [Bool.or_eq_true, decide_eq_true_eq, not_or] at hlast
      obtain ⟨⟨hslash, hdot⟩, hup⟩ := hlast
      have hnode : t.node? (spot.place ++ [last]) ≠ some .directory := by
        rw [hfrom.node?_concat]
        cases hc : spot.entry.child? last with
        | none => nofun
        | some x =>
          rw [hc] at hchild
          intro hx
          exact hchild (Entry.node_eq_directory.1 (Option.some.inj hx))
      obtain ⟨hpath, hne⟩ := pathSteps_of_dropWhile hreverse hslash
      obtain ⟨hupdated, hleads⟩ := leads_set (e := .file bytes) hlocate (by simp [isIdle, hne, hdot]) hup (by omega)
        hnode rfl
      rw [List.append_assoc, ← hpath] at hleads
      exact ⟨hnode, hupdated, husable, hleads⟩

/-! ## Reliability -/

/-- A tree as it is seen from outside. -/
def view : View FileTree (List String) := ⟨node?, target?⟩

theorem Grown.paved {t t' : FileTree} {path : String} (h : t.Grown t' (ancestors path)) : view.Paved t t' path := by
  intro place
  obtain heq | ⟨hnone, hdir, above, hmem, hleads⟩ := h.nodes place
  · exact .inl heq
  · exact .inr ⟨hnone, hdir, above, isUpward_of_mem_ancestors hmem, target?_eq_some_iff.2 hleads⟩

theorem paved_createDirectories (t : FileTree) (path : String) : view.Paved t (t.createDirectories path).1 path :=
  (t.grown_makeDirectories (ancestors path)).paved

theorem written_set {t : FileTree} {path text : String} {target : List String} (h : t.writable path = .ok target) :
    view.Written t (t.set target (.file text.toUTF8)) path text target := by
  obtain ⟨hold, hupdated, hleads⟩ := writable_ok h text.toUTF8
  refine ⟨target?_eq_some_iff.2 hleads, ?_, fun place hne => ?_, fun place above _ hplace => ?_⟩
  · exact (hupdated.nodes target).trans (if_pos rfl)
  · exact (hupdated.nodes place).trans (if_neg hne)
  · exact target?_eq_some_iff.2 ((target?_eq_some_iff.1 hplace).mono (hupdated.kept hold))

/-- File trees do what is expected of a file system. -/
theorem reliable : Reliable view where
  isFile_same h := by cases h; exact fun _ => rfl
  resolve_same h := by cases h; exact fun _ => rfl
  read_same h := by cases h; exact fun _ => rfl
  createDirectories_ok {t t' path} h := by
    obtain rfl : (t.createDirectories path).1 = t' := congrArg Prod.snd h
    exact t.paved_createDirectories path
  createDirectories_error {t t' path e} h := by
    obtain rfl : (t.createDirectories path).1 = t' := congrArg Prod.snd h
    exact (t.paved_createDirectories path).sameFiles
  write_ok {t t' path text} h := by
    have hwrite : t.write path text = (t', .ok ()) := congrArg Prod.swap h
    unfold write at hwrite
    cases htarget : t.writable path with
    | error e => rw [htarget] at hwrite; cases hwrite
    | ok target =>
      rw [htarget] at hwrite
      cases hwrite
      exact ⟨target, written_set htarget⟩
  write_error {t t' path text e} h := by
    have hwrite : t.write path text = (t', .error e) := congrArg Prod.swap h
    unfold write at hwrite
    cases htarget : t.writable path with
    | error e => rw [htarget] at hwrite; cases hwrite; exact fun _ _ => Iff.rfl
    | ok target => rw [htarget] at hwrite; cases hwrite

end FileTree

end SpriteScribe.Command
