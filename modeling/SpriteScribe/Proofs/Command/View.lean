/-
File systems as they are seen from outside. A file, a directory or nothing stands at a place, and a path
leads to a place or to none (`View`). What a program can rely on is said about these alone (`Reliable`):
looking changes nothing, directories are made only where a path or one above it leads, a file is written
at the one place that its path leads to, and an operation that fails leaves all files as they were.
-/
import SpriteScribe.Command.FileSystem
import SpriteScribe.Proofs.Text.Lines

namespace SpriteScribe.Command

/-! ## Paths above a path -/

/-- A path that another one goes on from, at a slash. It names a directory on the way of the other. -/
def IsAbove (above path : String) : Prop :=
  ∃ rest, rest ≠ "" ∧ path = above ++ rest ∧ (rest.toList.head? = some '/' ∨ above.toList.getLast? = some '/')

theorem IsAbove.trans {a b c : String} (hab : IsAbove a b) (hbc : IsAbove b c) : IsAbove a c := by
  obtain ⟨rest, hne, rfl, hslash⟩ := hab
  obtain ⟨rest', -, rfl, -⟩ := hbc
  obtain ⟨first, tail, hrest⟩ := List.exists_cons_of_ne_nil (mt String.toList_eq_nil_iff.1 hne)
  refine ⟨rest ++ rest', ?_, String.append_assoc, hslash.imp_left fun hfirst => ?_⟩
  · intro hnil
    simpa [hrest] using congrArg String.toList hnil
  · rw [String.toList_append, hrest, List.cons_append]
    rw [hrest] at hfirst
    exact hfirst

/-- A path, or one above it. -/
def IsUpward (above path : String) : Prop := above = path ∨ IsAbove above path

theorem IsUpward.trans {a b c : String} (hab : IsUpward a b) (hbc : IsUpward b c) : IsUpward a c := by
  rcases hab with rfl | hab
  · exact hbc
  · rcases hbc with rfl | hbc
    · exact .inr hab
    · exact .inr (hab.trans hbc)

theorem mem_pathsUpward {path : String} {steps : List String} (h : path ∈ pathsUpward steps) :
    ∃ rest, rest ≠ [] ∧ rest <:+ steps ∧ path = pathOfSteps rest := by
  fun_induction pathsUpward steps with
  | case1 => cases h
  | case2 first => exact ⟨[first], nofun, List.suffix_rfl, List.mem_singleton.1 h⟩
  | case3 step above _ _ ih =>
    obtain ⟨rest, hne, hsuffix, hpath⟩ := ih h
    exact ⟨rest, hne, hsuffix.trans (List.suffix_cons step above), hpath⟩
  | case4 step above _ _ ih =>
    obtain rfl | h := List.mem_cons.1 h
    · exact ⟨step :: above, nofun, List.suffix_rfl, rfl⟩
    · obtain ⟨rest, hne, hsuffix, hpath⟩ := ih h
      exact ⟨rest, hne, hsuffix.trans (List.suffix_cons step above), hpath⟩

theorem intercalate_pathSteps (path : String) : "/".intercalate (pathSteps path) = path := by
  apply String.toList_injective
  rw [String.toList_intercalate, pathSteps, List.map_map]
  simp [Function.comp_def]

/-- The paths upward from a path are the path and paths above it. -/
theorem isUpward_of_mem_ancestors {path above : String} (h : above ∈ ancestors path) : IsUpward above path := by
  unfold ancestors at h
  split at h
  · cases h
  rename_i hne
  obtain ⟨steps, hsteps, ⟨more, hmore⟩, rfl⟩ := mem_pathsUpward h
  have hpath : pathSteps path = steps.reverse ++ more.reverse := by
    rw [← List.reverse_append, hmore, List.reverse_reverse]
  have htext := intercalate_pathSteps path
  unfold pathOfSteps
  cases more with
  | nil =>
    rw [hpath, List.reverse_nil, List.append_nil] at htext
    left
    split
    · rename_i htop
      rw [htop] at htext
      exact absurd htext.symm hne
    · exact htext
  | cons step more =>
    rw [hpath, Text.intercalate_append "/" (by simpa using hsteps) (by simp)] at htext
    split
    · rename_i htop
      -- the path begins at the top, and may be no more than that
      rw [htop, List.reverse_singleton, String.intercalate_singleton, String.empty_append] at htext
      by_cases hrest : "/".intercalate (step :: more).reverse = ""
      · rw [hrest, String.append_empty] at htext
        exact .inl htext
      · exact .inr ⟨_, hrest, htext.symm, .inr rfl⟩
    · rw [String.append_assoc] at htext
      refine .inr ⟨_, ?_, htext.symm, .inl (by simp)⟩
      intro hnil
      simpa using congrArg String.toList hnil

theorem isUpward_parent? {path above : String} (h : parent? path = some above) : IsUpward above path :=
  isUpward_of_mem_ancestors (List.mem_of_mem_tail (List.mem_of_head? h))

/-! ## Views -/

/-- What stands at a place, without a look into it. -/
inductive Node where
  | file (bytes : ByteArray)
  | directory

/-- What can be seen of a file system in its states. -/
structure View (σ π : Type) where
  /-- What stands at a place. -/
  node? : σ → π → Option Node
  /-- The place that a path leads to. -/
  target? : σ → String → Option π

namespace View

variable {σ π : Type} (v : View σ π) {s₁ s₂ s₃ : σ}

/-- Nothing has been created or changed. -/
def Same (s s' : σ) : Prop := ∀ place, v.node? s' place = v.node? s place

/-- No file has been created or changed. -/
def SameFiles (s s' : σ) : Prop :=
  ∀ place bytes, v.node? s' place = some (.file bytes) ↔ v.node? s place = some (.file bytes)

/-- All is as it was but for new directories, each where a path or one above it leads. -/
def Paved (s s' : σ) (path : String) : Prop :=
  ∀ place, v.node? s' place = v.node? s place ∨
    v.node? s place = none ∧ v.node? s' place = some .directory ∧
      ∃ above, IsUpward above path ∧ v.target? s' above = some place

/-- A text stands where a path leads, and all else is as it was. Directories are still where they were. -/
structure Written (s s' : σ) (path text : String) (target : π) : Prop where
  leads : v.target? s' path = some target
  holds : v.node? s' target = some (.file text.toUTF8)
  others : ∀ place, place ≠ target → v.node? s' place = v.node? s place
  ways : ∀ place above, v.node? s place = some .directory → v.target? s above = some place →
    v.target? s' above = some place

variable {v}

theorem Same.refl (s : σ) : v.Same s s := fun _ => rfl

theorem Same.trans (h₁ : v.Same s₁ s₂) (h₂ : v.Same s₂ s₃) : v.Same s₁ s₃ := fun place =>
  (h₂ place).trans (h₁ place)

theorem Same.sameFiles (h : v.Same s₁ s₂) : v.SameFiles s₁ s₂ := by
  intro place bytes
  rw [h place]

theorem SameFiles.trans (h₁ : v.SameFiles s₁ s₂) (h₂ : v.SameFiles s₂ s₃) : v.SameFiles s₁ s₃ :=
  fun place bytes => (h₂ place bytes).trans (h₁ place bytes)

theorem Paved.sameFiles {path : String} (h : v.Paved s₁ s₂ path) : v.SameFiles s₁ s₂ := by
  intro place bytes
  obtain heq | ⟨hnone, hdir, -⟩ := h place
  · rw [heq]
  · rw [hnone, hdir]
    exact ⟨nofun, nofun⟩

theorem Paved.mono {path below : String} (h : v.Paved s₁ s₂ path) (hbelow : IsUpward path below) :
    v.Paved s₁ s₂ below := by
  intro place
  obtain heq | ⟨hnone, hdir, above, habove, hleads⟩ := h place
  · exact .inl heq
  · exact .inr ⟨hnone, hdir, above, habove.trans hbelow, hleads⟩

theorem Same.paved (h : v.Same s₁ s₂) (path : String) : v.Paved s₁ s₂ path := fun place => .inl (h place)

theorem Same.paved_trans (h₁ : v.Same s₁ s₂) {path : String} (h₂ : v.Paved s₂ s₃ path) : v.Paved s₁ s₃ path := by
  intro place
  rw [← h₁ place]
  exact h₂ place

/-- A text that is written on a paved way: what else is new are directories above it. -/
theorem Written.paved {path text : String} {target : π} (h : v.Written s₂ s₃ path text target)
    (hpaved : v.Paved s₁ s₂ path) {place : π} (hne : place ≠ target) :
    v.node? s₃ place = v.node? s₁ place ∨
      v.node? s₁ place = none ∧ v.node? s₃ place = some .directory ∧
        ∃ above, IsAbove above path ∧ v.target? s₃ above = some place := by
  rw [h.others place hne]
  obtain heq | ⟨hnone, hdir, above, habove, hleads⟩ := hpaved place
  · exact .inl heq
  · have hstill := h.ways place above hdir hleads
    refine .inr ⟨hnone, hdir, above, ?_, hstill⟩
    -- the path itself leads to the text, and not to a directory
    rcases habove with rfl | habove
    · rw [h.leads] at hstill
      exact absurd (Option.some.inj hstill).symm hne
    · exact habove

end View

/-! ## What is relied on -/

/-- What the operations of a file system do, by what can be seen of it. Directories that could not all be made
and a text that could not be written are taken to have cost no file. -/
structure Reliable {σ π : Type} [FileSystem (StateM σ)] (v : View σ π) : Prop where
  isFile_same {s s' : σ} {path : String} {found : Bool} :
    (FileSystem.isFile path : StateM σ _).run s = (found, s') → v.Same s s'
  resolve_same {s s' : σ} {path : String} {location : Except FileError String} :
    (FileSystem.resolve path : StateM σ _).run s = (location, s') → v.Same s s'
  read_same {s s' : σ} {path : String} {text : Except FileError String} :
    (FileSystem.read path : StateM σ _).run s = (text, s') → v.Same s s'
  createDirectories_ok {s s' : σ} {path : String} :
    (FileSystem.createDirectories path : StateM σ _).run s = (.ok (), s') → v.Paved s s' path
  createDirectories_error {s s' : σ} {path : String} {e : FileError} :
    (FileSystem.createDirectories path : StateM σ _).run s = (.error e, s') → v.SameFiles s s'
  write_ok {s s' : σ} {path text : String} :
    (FileSystem.write path text : StateM σ _).run s = (.ok (), s') → ∃ target, v.Written s s' path text target
  write_error {s s' : σ} {path text : String} {e : FileError} :
    (FileSystem.write path text : StateM σ _).run s = (.error e, s') → v.SameFiles s s'

end SpriteScribe.Command
