/-
Identifiers for sprites. A declared name is any text; the identifier made from it is spelled in
lower case with its later words capitalised, keeps only letters, numbers, `_` and `$`, and is
neither empty nor reserved. Names that collide are told apart by underscores.
-/
import SpriteScribe.Text.Alphanumeric
import SpriteScribe.Text.Lowercase
import SpriteScribe.Text.Words

namespace SpriteScribe.Identifier

open SpriteScribe.Text

/-- The words that no sprite may be called. -/
def reserved : List String :=
  ["arguments", "await", "break", "case", "catch", "class", "const", "continue", "debugger",
   "default", "delete", "do", "else", "enum", "eval", "export", "extends", "false", "finally",
   "for", "function", "if", "implements", "import", "in", "instanceof", "interface", "let", "new",
   "null", "package", "private", "protected", "public", "random", "return", "static", "super",
   "switch", "this", "throw", "true", "try", "typeof", "undefined", "var", "void", "while", "with",
   "yield"]

/-- A word with its first character in upper case. -/
def capitalize : List Char → List Char
  | [] => []
  | c :: cs => upperChar c ++ cs

/-- Words run together, all but the first capitalised. -/
def camelCase : List (List Char) → List Char
  | [] => []
  | first :: rest => first ++ rest.flatMap capitalize

/-- The characters that an identifier keeps. -/
def isKept (c : Char) : Bool := isAlphanumeric c || c == '_' || c == '$'

/-- The name of a sprite whose declared name leaves nothing. -/
def fallback : List Char := "sprite".toList

/-- The kept characters of a declared name, in camel case. -/
def letters (declared : List Char) : List Char := (camelCase (words (lowercase declared))).filter isKept

/-- Sets an underscore before a name that begins with a digit. -/
def guardDigit (name : List Char) : List Char :=
  match name with
  | c :: _ => if c.isDigit then '_' :: name else name
  | [] => name

/-- The identifier for a declared name. -/
def ofDeclared (declared : String) : String :=
  let kept := letters declared.toList
  let name := String.ofList (guardDigit (if kept.isEmpty then fallback else kept))
  if reserved.contains name then name.push '_' else name

/-! ## Collisions -/

/-- How many underscores may be appended. -/
def maxSuffix : Nat := 64

/-- A name with a number of underscores appended. -/
def suffixed (base : String) (count : Nat) : String :=
  base ++ String.ofList (List.replicate count '_')

/-- Tries a name and, while it is taken, the same with one more underscore. At most `tries` names are
tried. -/
def tryNames (taken : String → Bool) (name : String) : Nat → Option String
  | 0 => none
  | tries + 1 => if taken name then tryNames taken (name.push '_') tries else some name

/-- The name itself or, if it is taken, the name with as few underscores as it takes. -/
def firstFree? (taken : String → Bool) (base : String) : Option String := tryNames taken base (maxSuffix + 1)

end SpriteScribe.Identifier
