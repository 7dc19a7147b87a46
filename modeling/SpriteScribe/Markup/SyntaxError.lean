/-
What can be wrong with the text of a document.
-/
import SpriteScribe.Markup.QName

namespace SpriteScribe.Markup

/-- Why a text is not a document. -/
inductive SyntaxError where
  /-- A piece of the text that cannot stand where it does. -/
  | unexpected (text : String)
  /-- The text ends inside markup or inside an element. -/
  | unexpectedEnd
  /-- A character that the version of the document does not allow. -/
  | invalidCharacter (c : Char)
  /-- A run of name characters that is no qualified name. -/
  | invalidName (text : String)
  /-- A name with more characters than are kept. -/
  | nameTooLong
  /-- More attributes in one tag than are kept. -/
  | tooManyAttributes
  /-- A name space that names may not use, or that may not be declared so. -/
  | reservedSpace (text : String)
  /-- A shorthand without a declaration in scope. -/
  | unboundSpace (name : QName)
  /-- The same attribute twice in one tag. -/
  | repeatedAttribute (name : QName)
  /-- A closing tag that does not close the innermost element. -/
  | unmatchedClose (opened closed : QName)
  /-- A reference that names neither a character nor an entity. -/
  | unknownReference (name : String)
  /-- Entities that insert one another too often, or too much. -/
  | expansionLimit
  /-- An instruction without a name, or with the name of the declaration. -/
  | invalidInstruction (target : String)
  /-- An opening declaration that does not say what it has to. -/
  | invalidDeclaration (text : String)
  /-- A declared encoding that is unknown or cannot be the one in use. -/
  | unsupportedEncoding (name : String)
  /-- A character that the declared encoding does not have. -/
  | undecodable (c : Char)
  /-- An unknown kind of declaration inside the document type. -/
  | unknownDeclaration (word : String)
  /-- Nothing but blanks, comments and instructions. -/
  | noElement
deriving Repr

/-- The error in words. -/
def SyntaxError.message : SyntaxError → String
  | .unexpected text => "Unexpected '" ++ text ++ "'"
  | .unexpectedEnd => "Unexpected end of the document"
  | .invalidCharacter c => "Invalid character, code point " ++ toString c.toNat
  | .invalidName text => "'" ++ text ++ "' is not a name"
  | .nameTooLong => "A name is too long"
  | .tooManyAttributes => "A tag has too many attributes"
  | .reservedSpace text => "The name space '" ++ text ++ "' is reserved"
  | .unboundSpace name => "The name space of '" ++ name.text ++ "' is not declared"
  | .repeatedAttribute name => "The attribute '" ++ name.text ++ "' is given twice"
  | .unmatchedClose opened closed =>
    "'" ++ closed.text ++ "' is closed where '" ++ opened.text ++ "' is open"
  | .unknownReference name => "Unknown reference '" ++ name ++ "'"
  | .expansionLimit => "Entities expand too far"
  | .invalidInstruction target => "Invalid processing instruction '" ++ target ++ "'"
  | .invalidDeclaration text => "Invalid declaration at '" ++ text ++ "'"
  | .unsupportedEncoding name => "The encoding '" ++ name ++ "' is not supported"
  | .undecodable c => "Character outside the encoding, code point " ++ toString c.toNat
  | .unknownDeclaration word => "Unknown declaration '" ++ word ++ "'"
  | .noElement => "The document has no element"

end SpriteScribe.Markup
