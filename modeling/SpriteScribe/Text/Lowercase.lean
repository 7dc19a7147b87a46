/-
Lower case of a whole text. Characters are lowered one by one, except that a capital sigma which
ends a word becomes the final form of the small letter.
-/
import SpriteScribe.Text.CaseMap
import SpriteScribe.Text.Cased

namespace SpriteScribe.Text

/-- Whether the first character that case does not ignore is a cased one. -/
def meetsCased (cs : List Char) : Bool :=
  match cs.dropWhile isCaseIgnorable with
  | c :: _ => isCased c
  | [] => false

/-- A sigma ends a word if a cased character comes before it and none after it. `before` is read
outward from the sigma, so nearest first. -/
def endsWord (before after : List Char) : Bool := meetsCased before && !meetsCased after

/-- The lower case of the rest of a text, given what precedes it, nearest character first. -/
def lowercaseFrom (before : List Char) : List Char → List Char
  | [] => []
  | c :: cs =>
    (if c = 'Σ' then [if endsWord before cs then 'ς' else 'σ'] else lowerChar c) ++
      lowercaseFrom (c :: before) cs

/-- The lower case of a text. -/
def lowercase (cs : List Char) : List Char := lowercaseFrom [] cs

end SpriteScribe.Text
