/-
From elements to sprites. Building raises warnings on the way, and keeps those it has raised when
it fails.
-/
import SpriteScribe.Markup.Path
import SpriteScribe.Project.Error
import SpriteScribe.Sprite.Basic

namespace SpriteScribe

open SpriteScribe.Markup

/-! ## Results with warnings -/

/-- A result together with the warnings raised before it was reached. -/
structure Build (α : Type) where
  warnings : List Warning
  result : Except CompileError α

namespace Build

/-- A value, reached without warnings. -/
def ok {α : Type} (a : α) : Build α := ⟨[], .ok a⟩

/-- An error, reached without warnings. -/
def fail {α : Type} (e : CompileError) : Build α := ⟨[], .error e⟩

/-- Raises a warning. -/
def warn (w : Warning) : Build Unit := ⟨[w], .ok ()⟩

/-- Goes on with a value, and stops at an error; warnings add up in order. -/
def andThen {α β : Type} (b : Build α) (f : α → Build β) : Build β :=
  match b.result with
  | .error e => ⟨b.warnings, .error e⟩
  | .ok a => ⟨b.warnings ++ (f a).warnings, (f a).result⟩

instance : Monad Build where
  pure := ok
  bind := andThen

end Build

/-! ## Blocks and scripts -/

/-- For which sprite something is built, and whether arguments of unknown shape are refused. -/
structure BuildContext where
  owner : String
  strict : Bool

/-- What kind of argument an element is, by its name. -/
inductive ArgKind where
  | literal
  | color
  | list
  | block
  | script
  | unknown
deriving DecidableEq, Repr

/-- The names of the elements that arguments stand in. -/
def ArgKind.ofTag (tag : String) : ArgKind :=
  if tag = "l" then .literal
  else if tag = "color" then .color
  else if tag = "list" then .list
  else if tag = "block" then .block
  else if tag = "script" then .script
  else .unknown

/-- The value of a literal. One chosen from a menu stands in an `option` child. -/
def literalText (e : Element) : String :=
  match e.childElements.find? (·.name == "option") with
  | some option => option.text
  | none => e.text

/-- An attribute that an element must have. -/
def required (name : String) (attributes : List (String × String)) (key : String) : Build String :=
  match attributes.lookup key with
  | some value => .ok value
  | none => .fail (.missingAttribute name key)

/-- An argument of unknown shape in a block. -/
def unclassified (ctx : BuildContext) (tag selector : String) : Build Arg :=
  if ctx.strict then .fail (.unclassifiedArgument tag selector)
  else do
    .warn (.unidentifiedArgument tag selector ctx.owner)
    return .unclassified tag

mutual

/-- The argument that an element is, inside the block with a selector. -/
def buildArg (ctx : BuildContext) (selector : String) : Element → Build Arg
  | .mk name attributes children =>
    match ArgKind.ofTag name with
    | .literal => .ok (.literal (literalText (.mk name attributes children)))
    | .color => .ok (.color (.parse (Element.mk name attributes children).text))
    | .list => do return .list (← buildArgs ctx selector children)
    | .block => do
      let inner ← required name attributes "s"
      return .block (.mk inner (← buildArgs ctx inner children))
    | .script => do return .script (.mk ctx.owner false (← buildBlocks ctx children))
    | .unknown => unclassified ctx name selector

/-- The arguments among the children of an element, inside the block with a selector. -/
def buildArgs (ctx : BuildContext) (selector : String) : List Node → Build (List Arg)
  | [] => .ok []
  | .element e :: rest => do
    let a ← buildArg ctx selector e
    let as ← buildArgs ctx selector rest
    return a :: as
  | _ :: rest => buildArgs ctx selector rest

/-- The blocks among the children of a script. Other elements are passed over. -/
def buildBlocks (ctx : BuildContext) : List Node → Build (List Block)
  | [] => .ok []
  | .element (.mk name attributes children) :: rest =>
    if name = "block" then do
      let selector ← required name attributes "s"
      let args ← buildArgs ctx selector children
      let bs ← buildBlocks ctx rest
      return .mk selector args :: bs
    else do
      .warn (.skippedElement name ctx.owner)
      buildBlocks ctx rest
  | _ :: rest => buildBlocks ctx rest

end

/-! ## Sprites -/

/-- The scripts of a sprite, all of them headers. Those without blocks are passed over. -/
def buildScripts (ctx : BuildContext) (declared : String) : List Element → Build (List Script)
  | [] => .ok []
  | e :: es => do
    let blocks ← buildBlocks ctx e.children
    if blocks.isEmpty then do
      .warn (.emptyScript declared)
      buildScripts ctx declared es
    else do
      let scripts ← buildScripts ctx declared es
      return .mk ctx.owner true blocks :: scripts

/-- The sprite that an element is, under the identifier of the context. -/
def buildSprite (ctx : BuildContext) (declared : String) (e : Element) : Build Sprite := do
  return ⟨ctx.owner, declared, ← buildScripts ctx declared (e.find "scripts/script")⟩

end SpriteScribe
