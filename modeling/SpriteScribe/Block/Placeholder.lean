/-
Placeholders: the marks in a template that stand for an argument, written `$`, then letters, then
a number. The letters choose how the argument is written there.
-/
import SpriteScribe.Text.Decimal
import SpriteScribe.Text.DecimalDigit
import SpriteScribe.Text.Quoted

namespace SpriteScribe

/-- How a piece of program text is going to be used. -/
inductive RenderMode where
  | expression
  | statement
  /-- As the body of a control structure. -/
  | block
deriving DecidableEq, Repr

/-- The text of an argument that is absent or of unknown shape. -/
def undefinedText : String := "undefined"

/-- What a placeholder asks for. -/
structure Placeholder where
  /-- Which argument, counted from one. -/
  index : Nat
  /-- Written as the body of a control structure. -/
  block : Bool
  /-- Written as a string literal. -/
  string : Bool
  /-- In parentheses if it is an operator. -/
  parens : Bool
deriving DecidableEq, Repr

/-- The letters are looked at one by one; those without a meaning are passed over. -/
def Placeholder.ofFlags (flags : List Char) (index : Nat) : Placeholder where
  index := index
  block := flags.contains 'b'
  string := flags.contains 's'
  parens := flags.contains 'p'

/-! ## Finding placeholders -/

/-- A placeholder as it is written. -/
structure Hole where
  flags : List Char
  digits : List Char
deriving DecidableEq, Repr

namespace Hole

/-- The written form. -/
def source (h : Hole) : List Char := '$' :: h.flags ++ h.digits

/-- The number of the argument. Digits of other scripts, and numbers that are too large for a machine
word, give zero, which is the number of no argument. -/
def index (h : Hole) : Nat := ((Text.readWord? h.digits).map UInt64.toNat).getD 0

/-- What the written form asks for. -/
def placeholder (h : Hole) : Placeholder := .ofFlags h.flags h.index

/-- The placeholder that a text begins with, if it begins with one: as many letters as there are,
then as many digits as there are, at least one. -/
def at? : List Char → Option Hole
  | '$' :: cs =>
    let flags := cs.takeWhile Char.isAlpha
    let digits := (cs.dropWhile Char.isAlpha).takeWhile Text.isDecimalDigit
    if digits.isEmpty then none else some ⟨flags, digits⟩
  | _ => none

end Hole

/-- A template is a sequence of characters that stand for themselves and of placeholders. -/
inductive Piece where
  | plain (c : Char)
  | hole (h : Hole)
deriving DecidableEq, Repr

namespace Piece

/-- The pieces of a text of which the first `covered` characters belong to a placeholder that has
been found already. -/
def scan (covered : Nat) : List Char → List Piece
  | [] => []
  | c :: cs =>
    match covered with
    | n + 1 => scan n cs
    | 0 =>
      match Hole.at? (c :: cs) with
      | some h => .hole h :: scan (h.source.length - 1) cs
      | none => .plain c :: scan 0 cs

/-- The pieces of a template, from left to right. -/
def ofTemplate (template : String) : List Piece := scan 0 template.toList

/-- The placeholder inside a piece, if it is one. -/
def hole? : Piece → Option Hole
  | .hole h => some h
  | .plain _ => none

end Piece

/-- The placeholders of a template, from left to right. -/
def placeholders (template : String) : List Placeholder :=
  ((Piece.ofTemplate template).filterMap Piece.hole?).map Hole.placeholder

/-! ## Filling placeholders -/

/-- An argument as templates see it. -/
structure Operand where
  text : RenderMode → String
  /-- Whether it is put in parentheses where it is an operand. -/
  needsParens : Bool

namespace Placeholder

/-- How an argument is written at a placeholder. A string literal of a body quotes the body, and
either of the two makes parentheses unnecessary. -/
def write (p : Placeholder) (arg : Operand) : String :=
  let raw := arg.text (if p.block then .block else .expression)
  if p.string then Text.quote raw
  else if p.block then raw
  else if p.parens && arg.needsParens then "(" ++ raw ++ ")"
  else raw

/-- The text that takes the place of a placeholder. -/
def resolve (p : Placeholder) (args : List Operand) : String :=
  match p.index with
  | 0 => undefinedText
  | i + 1 =>
    match args[i]? with
    | none => undefinedText
    | some arg => p.write arg

end Placeholder

/-- The text of a piece of a template. -/
def Piece.fill (args : List Operand) : Piece → String
  | .plain c => String.singleton c
  | .hole h => h.placeholder.resolve args

/-- A template with its placeholders filled. What is filled in is not searched again. -/
def fill (template : String) (args : List Operand) : String :=
  String.join ((Piece.ofTemplate template).map (Piece.fill args))

end SpriteScribe
