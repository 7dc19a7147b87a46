/-
Cutting a text: the words of a name, a component without the blanks around it, and lines.
-/
import SpriteScribe.Text.Blank

namespace SpriteScribe.Text

/-- The maximal runs of characters that are not blank. -/
def words (cs : List Char) : List (List Char) := (cs.splitOnP isBlank).filter (· ≠ [])

/-- A text without the blanks before its first and after its last other character. -/
def trim (cs : List Char) : List Char :=
  ((cs.dropWhile isBlank).reverse.dropWhile isBlank).reverse

/-- The lines of a text, one more than it has line ends. -/
def lines (s : String) : List String := (s.toList.splitOn '\n').map String.ofList

end SpriteScribe.Text
