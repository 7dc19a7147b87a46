/-
Sets of characters written as ranges of code points, the form in which the character properties
of this library are tabulated.
-/

namespace SpriteScribe.Text

/-- Whether the code point of `c` lies in one of the closed ranges. -/
def inRanges (ranges : List (Nat × Nat)) (c : Char) : Bool :=
  ranges.any fun r => r.1 ≤ c.toNat && c.toNat ≤ r.2

end SpriteScribe.Text
