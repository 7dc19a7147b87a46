/-
What a project is made of: blocks with their arguments, and scripts, which are sequences of
blocks. A block is known by its selector; arguments may hold blocks and scripts again.
-/
import SpriteScribe.Text.Words

namespace SpriteScribe

/-- A colour by its components, as they are written in the project. -/
structure Color where
  components : List String
deriving DecidableEq, Repr

/-- The components are set off by commas; blanks around them do not count. -/
def Color.parse (raw : String) : Color where
  components :=
    (raw.toList.splitOn ',').map fun part => String.ofList (Text.trim part)

mutual

/-- An argument of a block. -/
inductive Arg where
  | literal (value : String)
  | color (c : Color)
  | list (items : List Arg)
  | block (b : Block)
  | script (s : Script)
  /-- Something of unknown shape, by the name of its element. -/
  | unclassified (tag : String)

/-- A block: which one it is, and its arguments. -/
inductive Block where
  | mk (selector : String) (args : List Arg)

/-- A sequence of blocks of a sprite. A header script begins with the block that says when it is
to run. -/
inductive Script where
  | mk (owner : String) (isHeader : Bool) (blocks : List Block)

end

instance : Inhabited Arg := ⟨.literal ""⟩

instance : Inhabited Block := ⟨.mk "" []⟩

instance : Inhabited Script := ⟨.mk "" false []⟩

def Block.selector : Block → String
  | .mk s _ => s

def Block.args : Block → List Arg
  | .mk _ as => as

namespace Script

def owner : Script → String
  | .mk o _ _ => o

def isHeader : Script → Bool
  | .mk _ h _ => h

def blocks : Script → List Block
  | .mk _ _ bs => bs

end Script

/-! ## Headers -/

/-- The event that a header script waits for. -/
inductive HeaderKind where
  | go
  | click
  | message
deriving DecidableEq, Repr

/-- The event announced by the first block of a script. -/
def HeaderKind.ofHat (selector : String) : HeaderKind :=
  if selector = "receiveGo" then .go
  else if selector = "receiveClick" then .click
  else .message

/-- The method that registers a script for an event. -/
def HeaderKind.method : HeaderKind → String
  | .go => "onReceiveGo"
  | .click => "onReceiveClick"
  | .message => "onReceiveMessage"

/-- The event of a script; one without blocks waits for messages. -/
def Script.headerKind (s : Script) : HeaderKind :=
  match s.blocks with
  | [] => .message
  | hat :: _ => .ofHat hat.selector

end SpriteScribe
