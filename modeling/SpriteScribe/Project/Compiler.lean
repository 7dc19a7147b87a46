/-
The compiler collects the sprites of a project one after the other. It keeps them in the order of
their identifiers, remembers which identifier was given to which declared name, and gathers
warnings and the log.
-/
import SpriteScribe.Project.Build

namespace SpriteScribe

open SpriteScribe.Markup

/-- The program text of a project, and what was passed over. -/
structure Program where
  text : String
  warnings : List Warning

/-- What is known of a project after some of its sprites. -/
structure Compiler where
  /-- Whether arguments of unknown shape are refused. -/
  strict : Bool
  /-- Under their identifiers, in the order of these. -/
  sprites : List (String × Sprite)
  /-- Declared names with their identifiers, the latest first. -/
  names : List (String × String)
  warnings : List Warning
  log : List LogRecord

namespace Compiler

/-- A compiler without sprites. -/
def new (strict : Bool) : Compiler where
  strict := strict
  sprites := []
  names := []
  warnings := []
  log := []

/-- The sprite with an identifier. -/
def sprite? (c : Compiler) (name : String) : Option Sprite := c.sprites.lookup name

/-- The identifiers in use, in order. -/
def spriteNames (c : Compiler) : List String := c.sprites.map Prod.fst

/-- Whether an identifier is in use. -/
def isTaken (c : Compiler) (name : String) : Bool := c.spriteNames.contains name

/-- The identifier of the sprite that was last declared under a name. -/
def generatedName? (c : Compiler) (declared : String) : Option String := c.names.lookup declared

/-- Adds a sprite under an identifier, before the first one with a greater identifier. One that is
there already stays. -/
def insertSprite (name : String) (s : Sprite) : List (String × Sprite) → List (String × Sprite)
  | [] => [(name, s)]
  | (other, x) :: rest =>
    if name < other then (name, s) :: (other, x) :: rest
    else if name = other then (other, x) :: rest
    else (other, x) :: insertSprite name s rest

/-- Registers a sprite under an identifier, which its declared name stands for from now on. -/
def register (c : Compiler) (declared name : String) (s : Sprite) : Compiler :=
  { c with sprites := insertSprite name s c.sprites, names := (declared, name) :: c.names }

/-- Takes note of the identifier chosen for a sprite, and of the warnings of building it. -/
def record (c : Compiler) (declared name : String) (warnings : List Warning) : Compiler :=
  { c with
    warnings := c.warnings ++ warnings
    log := c.log ++ .named declared name :: warnings.map LogRecord.ofWarning }

/-- Builds a sprite from its element and registers it under a free identifier; the sprite found
there afterwards is the result. When building fails nothing is registered, but the warnings raised
so far stay. -/
def makeSprite (c : Compiler) (e : Element) : Compiler × Except CompileError Sprite :=
  match e.attr? "name" with
  | none => (c, .error (.missingAttribute e.name "name"))
  | some declared =>
    let base := Identifier.ofDeclared declared
    match Identifier.firstFree? c.isTaken base with
    | none => (c, .error (.nameExhausted base))
    | some name =>
      let built := buildSprite ⟨name, c.strict⟩ declared e
      let c := c.record declared name built.warnings
      match built.result with
      | .error err => (c, .error err)
      | .ok sprite =>
        let c := c.register declared name sprite
        (c, .ok ((c.sprite? name).getD sprite))

/-- Makes sprites of elements in order, up to the first that fails. -/
def makeSprites (c : Compiler) : List Element → Compiler × Except CompileError Unit
  | [] => (c, .ok ())
  | e :: es =>
    match c.makeSprite e with
    | (c, .ok _) => c.makeSprites es
    | (c, .error err) => (c, .error err)

/-- The program text of all sprites: their names, then each of them. -/
def render (c : Compiler) : String :=
  if c.sprites.isEmpty then ""
  else
    "var " ++ commaSeparated c.spriteNames ++ ";\n\n" ++
      "\n\n".intercalate (c.sprites.map fun entry => entry.2.render)

/-- The program, once all sprites are in. -/
def finish (c : Compiler) : Program := ⟨c.render, c.warnings⟩

end Compiler

end SpriteScribe
