/-
Qualified names: a local name, optionally in a name space chosen by a shorthand before a colon.
-/
import SpriteScribe.Markup.Char

namespace SpriteScribe.Markup

/-- A name as it is written, with the shorthand of its name space apart. -/
structure QName where
  space : Option String
  name : String
deriving DecidableEq, Repr

/-- The written form. -/
def QName.text (q : QName) : String :=
  match q.space with
  | none => q.name
  | some s => s ++ ":" ++ q.name

/-- Reads a run of name characters. It has to begin like a name, may hold one colon, and has
something on either side of it. -/
def QName.parse? (s : String) : Option QName :=
  match s.toList.splitOn ':' with
  | [first :: rest] =>
    if isNameStart first then some ⟨none, String.ofList (first :: rest)⟩ else none
  | [first :: rest, c :: cs] =>
    if isNameStart first then some ⟨some (String.ofList (first :: rest)), String.ofList (c :: cs)⟩
    else none
  | _ => none

/-! ## Reserved name spaces -/

/-- The shorthand that is always bound, for attributes only. -/
def xmlSpace : String := "xml"

/-- The shorthand under which others are declared. -/
def xmlnsSpace : String := "xmlns"

/-- Where the standing name spaces of the format are registered. -/
def spaceHost : String := "//www.w3.org/"

/-- What `xml` is bound to. -/
def xmlSpaceUri : String := "http:" ++ spaceHost ++ "XML/1998/namespace"

/-- What `xmlns` is bound to. -/
def xmlnsSpaceUri : String := "http:" ++ spaceHost ++ "2000/xmlns/"

end SpriteScribe.Markup
