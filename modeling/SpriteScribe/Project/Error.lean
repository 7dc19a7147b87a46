/-
Why a project cannot be compiled, and what is worth telling about one that can.
-/
import SpriteScribe.Sprite.Identifier

namespace SpriteScribe

/-! ## Errors -/

/-- Why there is no program for a project. -/
inductive CompileError where
  /-- The text is no document. -/
  | malformed (message : String)
  | notAProject (root : String)
  | missingAttribute (element key : String)
  /-- An argument of unknown shape, where those are not accepted. -/
  | unclassifiedArgument (tag selector : String)
  /-- All names that may be given to a sprite are taken. -/
  | nameExhausted (base : String)
deriving DecidableEq, Repr

def CompileError.message : CompileError → String
  | .malformed message => "Invalid project XML: " ++ message
  | .notAProject root => "Expected a <project> or <snapdata> document, found <" ++ root ++ ">."
  | .missingAttribute element key =>
    "<" ++ element ++ "> is missing required attribute '" ++ key ++ "'."
  | .unclassifiedArgument tag selector =>
    "Unidentified argument <" ++ tag ++ "> in block '" ++ selector ++ "'."
  | .nameExhausted base =>
    "Could not find a free identifier for '" ++ base ++ "' within " ++
      toString Identifier.maxSuffix ++ " suffixes."

/-! ## Warnings -/

/-- Something in a project that was passed over. -/
inductive Warning where
  | unidentifiedArgument (tag selector owner : String)
  /-- An element in a script that is no block. -/
  | skippedElement (tag owner : String)
  /-- A script without blocks, of the sprite with a declared name. -/
  | emptyScript (declared : String)
deriving DecidableEq, Repr

def Warning.message : Warning → String
  | .unidentifiedArgument tag selector owner =>
    "Unidentified argument <" ++ tag ++ "> in block '" ++ selector ++ "' of sprite '" ++ owner ++ "'."
  | .skippedElement tag owner =>
    "Skipping <" ++ tag ++ "> inside a script of sprite '" ++ owner ++ "'."
  | .emptyScript declared => "Skipping empty script of sprite '" ++ declared ++ "'."

/-! ## Log -/

inductive LogLevel where
  | debug
  | info
  | warn
deriving DecidableEq, Repr

def LogLevel.name : LogLevel → String
  | .debug => "DEBUG"
  | .info => "INFO"
  | .warn => "WARN"

/-- A record of what happened, for whoever watches. -/
structure LogRecord where
  level : LogLevel
  text : String
deriving DecidableEq, Repr

namespace LogRecord

def render (r : LogRecord) : String := r.level.name ++ " " ++ r.text

/-- Every warning is on record. -/
def ofWarning (w : Warning) : LogRecord := ⟨.warn, w.message⟩

/-- The record of the identifier chosen for a sprite. -/
def named (declared name : String) : LogRecord :=
  ⟨.debug, "Sprite '" ++ declared ++ "' translates as '" ++ name ++ "'."⟩

end LogRecord

end SpriteScribe
