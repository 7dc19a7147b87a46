/-
Search by path: the elements reached by following element names, one level per segment.
-/
import SpriteScribe.Markup.Element

namespace SpriteScribe.Markup

/-- The segments of a path; empty ones do not count, so slashes may be doubled, lead or trail. -/
def segments (path : List Char) : List String :=
  ((path.splitOn '/').filter (· ≠ [])).map String.ofList

namespace Element

/-- The children of an element that have a name. -/
def childrenNamed (e : Element) (name : String) : List Element :=
  e.childElements.filter (·.name == name)

/-- The elements reached from one of `es` by following the segments downward. -/
def descend (es : List Element) (path : List String) : List Element :=
  path.foldl (fun found segment => found.flatMap (·.childrenNamed segment)) es

/-- The descendants of an element that a path leads to, in document order. The empty path leads to
the element itself. -/
def find (e : Element) (path : String) : List Element := descend [e] (segments path.toList)

/-- Like `find`, where the first segment has to name the element itself. -/
def findFromRoot (e : Element) (path : String) : List Element :=
  let trimmed := path.toList.dropWhile (· == '/')
  let head := String.ofList (trimmed.takeWhile (· != '/'))
  let rest := (trimmed.dropWhile (· != '/')).drop 1
  if head = e.name then descend [e] (segments rest) else []

end Element

end SpriteScribe.Markup
