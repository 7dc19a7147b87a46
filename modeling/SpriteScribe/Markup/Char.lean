/-
The character classes of markup: blanks, the characters of names, and the characters that may
stand in a document at all, which depend on the declared version.
-/
import SpriteScribe.Text.CodeRange

namespace SpriteScribe.Markup

open SpriteScribe.Text

/-- The four blanks of markup. Other white space is ordinary text. -/
def isBlank (c : Char) : Bool := c == ' ' || c == '\t' || c == '\n' || c == '\r'

/-! ## Names -/

/-- The characters that may begin a name. -/
def nameStartRanges : List (Nat × Nat) :=
  [(0x3A, 0x3A), (0x41, 0x5A), (0x5F, 0x5F), (0x61, 0x7A), (0xC0, 0xD6), (0xD8, 0xF6),
   (0xF8, 0x2FF), (0x370, 0x37D), (0x37F, 0x1FFF), (0x200C, 0x200D), (0x2070, 0x218F),
   (0x2C00, 0x2FEF), (0x3001, 0xD7FF), (0xF900, 0xFDCF), (0xFDF0, 0xFFFD), (0x10000, 0xEFFFF)]

/-- A character that may begin a name; the colon is one. -/
def isNameStart (c : Char) : Bool := inRanges nameStartRanges c

/-- A character that may continue a name. -/
def isNameChar (c : Char) : Bool :=
  isNameStart c ||
    inRanges [(0x2D, 0x2E), (0x30, 0x39), (0xB7, 0xB7), (0x300, 0x36F), (0x203F, 0x2040)] c

/-! ## Characters of a document -/

/-- The version that a document declares. -/
inductive Version where
  | v10
  | v11
deriving DecidableEq, Repr

/-- The characters that a document of a version can mention, be it by their number. -/
def Version.allows : Version → Char → Bool
  | .v10, c => inRanges [(0x9, 0xA), (0xD, 0xD), (0x20, 0xFFFD), (0x10000, 0x10FFFF)] c
  | .v11, c => inRanges [(0x1, 0xFFFD), (0x10000, 0x10FFFF)] c

/-- The characters that can stand in text and attribute values as themselves: version 1.1 wants
control characters other than blanks and the next-line character written by number. -/
def Version.allowsLiteral : Version → Char → Bool
  | .v10, c => Version.v10.allows c
  | .v11, c =>
    Version.v11.allows c &&
      !inRanges [(0x1, 0x8), (0xB, 0xC), (0xE, 0x1F), (0x7F, 0x84), (0x86, 0x9F)] c

end SpriteScribe.Markup
