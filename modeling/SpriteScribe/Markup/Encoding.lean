/-
Encodings that a document can declare. A document comes as text that was decoded as UTF-8; one
that declares an encoding of single bytes means the bytes of that text.
-/

namespace SpriteScribe.Markup

/-- The encodings that are known by name. -/
inductive Encoding where
  | utf8
  | latin1
  | utf16
  | ascii
deriving DecidableEq, Repr

namespace Encoding

/-- The names of the encodings, in the order in which they are tried. -/
def labels : List (String × Encoding) :=
  [("utf-8", .utf8), ("utf8", .utf8), ("iso-8859-1", .latin1), ("latin1", .latin1),
   ("utf-16", .utf16), ("utf16", .utf16), ("ascii", .ascii), ("us-ascii", .ascii)]

/-- Whether a name goes with a label: they agree, letter case apart, as far as the shorter one
goes. -/
def fits (label name : List Char) : Bool := (label.zip name).all fun (a, b) => a == b.toLower

/-- The encoding of a name. -/
def ofName? (name : String) : Option Encoding :=
  (labels.find? fun (label, _) => fits label.toList name.toList).map Prod.snd

/-- What a character of the text stands for. In an encoding of single bytes each byte of it is a
character; `none` if one of them is not in use there. -/
def decode? (encoding : Encoding) (c : Char) : Option (List Char) :=
  match encoding with
  | .latin1 => some ((String.utf8EncodeChar c).map fun byte => Char.ofNat byte.toNat)
  | .ascii => if c.toNat < 128 then some [c] else none
  | .utf8 => some [c]
  | .utf16 => some [c]

end Encoding

end SpriteScribe.Markup
