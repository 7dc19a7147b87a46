/-
A project that is wrapped together with its media. Of a wrapper only the projects directly inside it count:
compiling it is compiling, in order and with one compiler, the sprites of each of them, and around a single
project the wrapper makes no difference. A project is not searched as a wrapper nor a wrapper as a project,
so every sprite is come to by one of the two paths only, and once.
-/
import SpriteScribe.Proofs.Markup.Search
import SpriteScribe.Proofs.Project.Acceptance

namespace SpriteScribe

open SpriteScribe.Markup

/-- Where the sprites of a project are that stands alone. -/
def projectPath : String := "project/stage/sprites/sprite"

/-- Where they are in a wrapper. -/
def wrapperPath : String := "snapdata/project/stage/sprites/sprite"

theorem spriteElements_eq (root : Element) :
    spriteElements root = root.findFromRoot projectPath ++ root.findFromRoot wrapperPath := by
  simp [spriteElements, spritePaths, projectPath, wrapperPath]

theorem projectPath_eq : projectPath = "project" ++ "/" ++ "stage/sprites/sprite" := rfl

theorem wrapperPath_eq : wrapperPath = "snapdata" ++ "/" ++ projectPath := rfl

theorem findFromRoot_projectPath (e : Element) :
    e.findFromRoot projectPath = if "project" = e.name then e.find "stage/sprites/sprite" else [] := by
  rw [projectPath_eq, Element.findFromRoot_append (by decide) (by decide)]

theorem findFromRoot_wrapperPath (e : Element) :
    e.findFromRoot wrapperPath = if "snapdata" = e.name then e.find projectPath else [] := by
  rw [wrapperPath_eq, Element.findFromRoot_append (by decide) (by decide)]

/-- Below a wrapper the path to the sprites of a project is followed from each project in it. -/
theorem find_projectPath (e : Element) :
    e.find projectPath = (e.childrenNamed "project").flatMap (·.findFromRoot projectPath) := by
  have hstep : e.find projectPath = (e.childrenNamed "project").flatMap (·.find "stage/sprites/sprite") := by
    rw [projectPath_eq, e.find_append, Element.find_of_not_mem (by decide) (by decide)]
  rw [hstep]
  refine List.flatMap_congr fun x hx => ?_
  have hname : x.name = "project" := by simpa using (List.mem_filter.1 hx).2
  rw [findFromRoot_projectPath, if_pos hname.symm]

theorem spriteElements_project {root : Element} (h : root.name = "project") :
    root.findFromRoot wrapperPath = [] ∧ spriteElements root = root.findFromRoot projectPath := by
  have hnone : root.findFromRoot wrapperPath = [] := by
    rw [findFromRoot_wrapperPath, h, if_neg (by decide)]
  exact ⟨hnone, by rw [spriteElements_eq, hnone, List.append_nil]⟩

theorem spriteElements_snapdata {root : Element} (h : root.name = "snapdata") :
    root.findFromRoot projectPath = [] ∧
      spriteElements root = (root.childrenNamed "project").flatMap (·.findFromRoot projectPath) := by
  have hnone : root.findFromRoot projectPath = [] := by
    rw [findFromRoot_projectPath, h, if_neg (by decide)]
  refine ⟨hnone, ?_⟩
  rw [spriteElements_eq, hnone, List.nil_append, findFromRoot_wrapperPath, if_pos h.symm, find_projectPath]

/-- What compiling sprites in order with a new compiler comes to. -/
def compileSprites (strict : Bool) (sprites : List Element) : Outcome :=
  let (c, made) := (Compiler.new strict).makeSprites sprites
  ⟨c.log, made.map fun _ => c.finish⟩

theorem compileProject_eq (strict : Bool) {root : Element} (h : root.name = "project" ∨ root.name = "snapdata") :
    compileProject strict root = compileSprites strict (spriteElements root) := by
  unfold compileProject compileSprites
  rw [if_pos h]

/-- Wrappers make no difference. Compiling a wrapper comes to the program, the warnings, the error and the log
of compiling in order the sprites of the projects directly inside it. If there is one such project it comes
to the same as compiling that project, whatever else is in the wrapper. A project has no sprites as a
wrapper and a wrapper none as a project, and the sprites of either stand at different positions, so none is
compiled twice. -/
theorem compileProject_wrapper (strict : Bool) (root : Element) :
    (root.name = "snapdata" → compileProject strict root =
      compileSprites strict ((root.childrenNamed "project").flatMap (·.findFromRoot projectPath))) ∧
    (∀ project, root.name = "snapdata" → root.childrenNamed "project" = [project] →
      compileProject strict root = compileProject strict project) ∧
    (root.name = "project" → root.findFromRoot wrapperPath = []) ∧
    (root.name = "snapdata" → root.findFromRoot projectPath = []) ∧
    (root.name = "project" ∨ root.name = "snapdata" →
      (spritePlaces root).map Prod.snd = spriteElements root ∧ ((spritePlaces root).map Prod.fst).Nodup) := by
  have hwrapper : root.name = "snapdata" → compileProject strict root =
      compileSprites strict ((root.childrenNamed "project").flatMap (·.findFromRoot projectPath)) := by
    intro h
    rw [compileProject_eq strict (.inr h), (spriteElements_snapdata h).2]
  refine ⟨hwrapper, fun project h hone => ?_, fun h => (spriteElements_project h).1,
    fun h => (spriteElements_snapdata h).1, fun h => ⟨map_spritePlaces h, ?_⟩⟩
  · have hname : project.name = "project" := by
      have hmem : project ∈ root.childrenNamed "project" := by rw [hone]; exact List.mem_singleton.2 rfl
      simpa using (List.mem_filter.1 hmem).2
    rw [hwrapper h, hone, List.flatMap_singleton, compileProject_eq strict (.inl hname),
      (spriteElements_project hname).2]
  · obtain ⟨depth, horder⟩ := spritePlaces_inOrder root
    exact horder.nodup

/-- A project with two stages, each with a sprite of one and the same name. -/
def twinProject : Element :=
  .mk "project" [] [
    .element (.mk "stage" [] [.element (.mk "sprites" [] [.element (.mk "sprite" [("name", "Cat")] [])])]),
    .element (.mk "stage" [] [.element (.mk "sprites" [] [.element (.mk "sprite" [("name", "Cat")] [])])])]

/-- That project in a wrapper, after media that have a project inside. -/
def wrappedTwins : Element :=
  .mk "snapdata" [] [.element (.mk "media" [] [.element twinProject]), .element twinProject, .comment ""]

theorem compileProject_wrapper_twins :
    compileProject true wrappedTwins = compileProject true twinProject ∧
    (compileProject true wrappedTwins).result = .ok
      ⟨"var cat, cat_;\n\ncat = new Sprite();\n\n\n\ncat_ = new Sprite();\n\n", []⟩ ∧
    wrappedTwins.findFromRoot projectPath = [] ∧ ((spritePlaces wrappedTwins).map Prod.fst).Nodup := by
  obtain ⟨-, hsingle, -, hnone, honce⟩ := compileProject_wrapper true wrappedTwins
  have hsame : compileProject true wrappedTwins = compileProject true twinProject := hsingle twinProject rfl rfl
  exact ⟨hsame, by rw [hsame]; rfl, hnone rfl, (honce (.inr rfl)).2⟩

end SpriteScribe
