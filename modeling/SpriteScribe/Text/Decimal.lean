/-
Decimal numbers of one machine word, read digit by digit. A number that the word cannot hold is refused; it
is never cut down to one that it can hold.
-/

namespace SpriteScribe.Text

/-- The product of two words, if a word can hold it. -/
def checkedMul (a b : UInt64) : Option UInt64 :=
  if a.toBitVec.umulOverflow b.toBitVec then none else some (a * b)

/-- The sum of two words, if a word can hold it. -/
def checkedAdd (a b : UInt64) : Option UInt64 :=
  if a.toBitVec.uaddOverflow b.toBitVec then none else some (a + b)

/-- The value of a digit. Those of other scripts have none here. -/
def digitValue? (c : Char) : Option UInt64 :=
  if c.isDigit then some (c.val - '0'.val).toUInt64 else none

/-- A number with one more digit behind it. -/
def pushDigit (n : UInt64) (c : Char) : Option UInt64 := do
  let tens ← checkedMul n 10
  let digit ← digitValue? c
  checkedAdd tens digit

/-- The number that is written with some digits. -/
def readWord? (digits : List Char) : Option UInt64 := digits.foldlM pushDigit 0

end SpriteScribe.Text
