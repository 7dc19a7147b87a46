/-
Sprites: an identifier, the name declared in the project, and header scripts.
-/
import SpriteScribe.Block.Render

namespace SpriteScribe

/-- An actor of a project, with what it does. -/
structure Sprite where
  name : String
  declared : String
  scripts : List Script

/-- The program text of a sprite: its creation, then its scripts, with an empty line between. -/
def Sprite.render (s : Sprite) : String :=
  s.name ++ " = new Sprite();\n\n" ++ "\n\n".intercalate (s.scripts.map (Script.render .statement))

end SpriteScribe
