/-
Compiling a whole project, from its root element or from its text.
-/
import SpriteScribe.Markup.Document
import SpriteScribe.Project.Compiler

namespace SpriteScribe

open SpriteScribe.Markup

/-- How compiling a project went, with the log of it. -/
structure Outcome where
  log : List LogRecord
  result : Except CompileError Program

/-- Where the sprites of a project are: a project may stand alone or be wrapped with its media. -/
def spritePaths : List String :=
  ["project/stage/sprites/sprite", "snapdata/project/stage/sprites/sprite"]

/-- The elements of the sprites of a project. -/
def spriteElements (root : Element) : List Element := spritePaths.flatMap root.findFromRoot

/-- Compiles the project under a root element. -/
def compileProject (strict : Bool) (root : Element) : Outcome :=
  if root.name = "project" ∨ root.name = "snapdata" then
    let (c, made) := (Compiler.new strict).makeSprites (spriteElements root)
    ⟨c.log, made.map fun _ => c.finish⟩
  else ⟨[], .error (.notAProject root.name)⟩

/-- The root element of the text of a project. How an error in the text is put into words is up to
`describe`. -/
def readProject (describe : SyntaxError → String) (source : String) : Except CompileError Element :=
  match parse source with
  | .ok root => .ok root
  | .error e => .error (.malformed (describe e))

/-- Compiles the text of a project. -/
def compileText (describe : SyntaxError → String) (strict : Bool) (source : String) : Outcome :=
  match readProject describe source with
  | .ok root => compileProject strict root
  | .error e => ⟨[], .error e⟩

end SpriteScribe
