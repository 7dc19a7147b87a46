/-
The tokens of markup. Which characters make a token depends on where they stand; what a token
means is decided only when it is read. So a token that means nothing where it stands can be taken
as the text it was made of.
-/
import SpriteScribe.Markup.Char

namespace SpriteScribe.Markup

/-- A piece of a document that is not taken apart further. -/
inductive Token where
  /-- A character without a meaning of its own. -/
  | char (c : Char)
  /-- A single or a double quotation mark. -/
  | quote (mark : Char)
  | equals
  | ampersand
  | semicolon
  /-- The character `<`, where a name or a blank follows. -/
  | tagStart
  /-- The characters `</`. -/
  | closeStart
  /-- The character `>`. -/
  | tagEnd
  /-- The characters `/>`. -/
  | emptyEnd
  /-- The characters `<!--`. -/
  | commentStart
  /-- The characters `-->`. -/
  | commentEnd
  /-- The characters `<![CDATA[`. -/
  | cdataStart
  /-- The characters `]]>`. -/
  | cdataEnd
  /-- The characters `<?`. -/
  | instructionStart
  /-- The characters `?>`. -/
  | instructionEnd
  /-- The characters `<!DOCTYPE`. -/
  | doctypeStart
  /-- The characters `<!`, where the keyword of a declaration follows. -/
  | declarationStart
deriving DecidableEq, Repr

namespace Token

/-- A token taken as text. The start of a declaration leaves no text. -/
def text : Token → String
  | .char c => c.toString
  | .quote mark => mark.toString
  | .equals => "="
  | .ampersand => "&"
  | .semicolon => ";"
  | .tagStart => "<"
  | .closeStart => "</"
  | .tagEnd => ">"
  | .emptyEnd => "/>"
  | .commentStart => "<!--"
  | .commentEnd => "-->"
  | .cdataStart => "<![CDATA["
  | .cdataEnd => "]]>"
  | .instructionStart => "<?"
  | .instructionEnd => "?>"
  | .doctypeStart => "<!DOCTYPE"
  | .declarationStart => ""

/-- Whether a token is one blank. -/
def isBlank : Token → Bool
  | .char c => Markup.isBlank c
  | _ => false

/-- The character of a token that can continue a name. -/
def nameChar? : Token → Option Char
  | .char c => if isNameChar c then some c else none
  | _ => none

end Token

end SpriteScribe.Markup
