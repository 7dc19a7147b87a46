/-
Templates: how the blocks of the language are written as program text. A pattern has places for
the arguments; two blocks are lists and have forms of their own.
-/

namespace SpriteScribe

/-- The shape of the text of a block. -/
inductive TemplateForm where
  /-- A text with placeholders for the arguments. -/
  | pattern (text : String)
  /-- All arguments as the items of a list. -/
  | listLiteral
  /-- All arguments as the items of a list, which is joined to one word. -/
  | joinedWords
deriving DecidableEq, Repr

/-- How a block is written. -/
structure Template where
  form : TemplateForm
  /-- Whether the text is put in parentheses where it is an operand. -/
  needsParens : Bool
deriving DecidableEq, Repr

namespace Template

/-- The letter `o` among the flags of a template marks an operator, whose text needs parentheses
inside another. Other letters mean nothing. -/
def isOperator (flags : String) : Bool := flags.toList.contains 'o'

/-- An operator between its operands. -/
def operator (text : String) : Template := ⟨.pattern text, true⟩

/-- A text that stands by itself. -/
def plain (text : String) : Template := ⟨.pattern text, false⟩

/-- The blocks that have a template, by selector. -/
def table : List (String × Template) :=
  [("reportSum", operator "$p1 + $p2"),
   ("reportDifference", operator "$p1 - $p2"),
   ("reportProduct", operator "$p1 * $p2"),
   ("reportQuotient", operator "$p1 / $p2"),
   ("reportModulus", operator "$p1 % $p2"),
   ("reportRandom", plain "random($1, $2)"),
   ("reportLessThan", operator "$p1 < $p2"),
   ("reportEquals", operator "$p1 == $p2"),
   ("reportGreaterThan", operator "$p1 > $p2"),
   ("reportNot", operator "!$p1"),
   ("reportAttributeOf", plain "$p2[$s1]"),
   ("reportTrue", plain "true"),
   ("reportFalse", plain "false"),
   ("reportAnd", operator "$p1 && $p2"),
   ("reportOr", operator "$p1 || $p2"),
   ("reportMap", plain "$p1.map(function (item) \x7b $p2(item) \x7d)"),
   ("reportNewList", ⟨.listLiteral, false⟩),
   ("reportJoinWords", ⟨.joinedWords, false⟩),
   ("doForever", plain "while (true) $b1"),
   ("doRepeat", plain "($1).times($2)"),
   ("doUntil", plain "while (!($1)) $b2"),
   ("doIf", plain "if ($1) $b2"),
   ("doIfElse", plain "if ($1) $b2 else $b3")]

/-- The template of a block. -/
def lookup? (selector : String) : Option Template := table.lookup selector

end Template

/-- Whether the text of a block is put in parentheses where it is an operand. Blocks without a
template are calls and never are. -/
def needsParens (selector : String) : Bool := (Template.lookup? selector).any (·.needsParens)

end SpriteScribe
