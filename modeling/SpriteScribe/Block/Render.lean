/-
Program text for arguments, blocks and scripts. A block with a template is written by it, any
other as a call of a method of the sprite. A script is a function, a body, or the registration of
a function, with its blocks one level further in.
-/
import SpriteScribe.Block.Basic
import SpriteScribe.Block.Placeholder
import SpriteScribe.Block.Template

namespace SpriteScribe

/-- Items with a comma between them. -/
def commaSeparated (items : List String) : String := ", ".intercalate items

def Color.render (c : Color) : String := "new Color(" ++ commaSeparated c.components ++ ")"

/-- The items of a list in brackets. -/
def bracketed (items : List String) : String := "[" ++ commaSeparated items ++ "]"

/-- A call of a method of the sprite. -/
def methodCall (selector : String) (args : List String) : String :=
  "this." ++ selector ++ "(" ++ commaSeparated args ++ ")"

/-- The lines of a text, one level further in. -/
def indent (s : String) : List String := (Text.lines s).map ("\t" ++ ·)

/-- The line that a script begins with. -/
def openingLine (owner : String) (isHeader : Bool) (kind : HeaderKind) (mode : RenderMode) : String :=
  if isHeader then owner ++ "." ++ kind.method ++ "(function () \x7b"
  else if mode = .block then "\x7b"
  else "function () \x7b"

/-- The line that a script ends with. -/
def closingLine (isHeader : Bool) : String := if isHeader then "\x7d);" else "\x7d"

/-- Whether an argument is put in parentheses where it is an operand: only blocks can be. -/
def Arg.needsParens : Arg → Bool
  | .block b => SpriteScribe.needsParens b.selector
  | _ => false

mutual

/-- The text of an argument. -/
def Arg.render (mode : RenderMode) : Arg → String
  | .literal value => value
  | .color c => c.render
  | .list items => bracketed (expressions items)
  | .block b => b.render mode
  | .script s => s.render mode
  | .unclassified _ => undefinedText

/-- The text of a block. A call ends with a semicolon where it is a statement. -/
def Block.render (mode : RenderMode) : Block → String
  | .mk selector args =>
    match Template.lookup? selector with
    | some ⟨.pattern text, _⟩ => fill text (operands args)
    | some ⟨.listLiteral, _⟩ => bracketed (spread args)
    | some ⟨.joinedWords, _⟩ => bracketed (spread args) ++ ".join('')"
    | none => methodCall selector (expressions args) ++ if mode = .statement then ";" else ""

/-- The text of a script. The first block of a header script is not written: it has become the
registration. -/
def Script.render (mode : RenderMode) : Script → String
  | .mk owner isHeader blocks =>
    let body := (statements blocks).drop (if isHeader then 1 else 0)
    "\n".intercalate
      (openingLine owner isHeader (Script.mk owner isHeader blocks).headerKind mode ::
        (body.flatMap indent ++ [closingLine isHeader]))

/-- The texts of arguments. -/
def expressions : List Arg → List String
  | [] => []
  | a :: as => a.render .expression :: expressions as

/-- Arguments as templates see them. -/
def operands : List Arg → List Operand
  | [] => []
  | a :: as => ⟨fun mode => a.render mode, a.needsParens⟩ :: operands as

/-- The texts of arguments, where a list contributes its items. -/
def spread : List Arg → List String
  | [] => []
  | .list items :: as => expressions items ++ spread as
  | a :: as => a.render .expression :: spread as

/-- The texts of blocks as statements. -/
def statements : List Block → List String
  | [] => []
  | b :: bs => b.render .statement :: statements bs

end

/-- A template filled with arguments. -/
def substitute (template : String) (args : List Arg) : String := fill template (operands args)

end SpriteScribe
