/-
The argument line: an input path, perhaps an output path, and flags. Arguments are taken from left
to right, and the first that cannot be taken decides what is reported.
-/

namespace SpriteScribe.Command

/-- What the program is asked to do. -/
structure Arguments where
  input : String
  /-- Where the program text goes, if not to standard output. -/
  output : Option String
  strict : Bool
  quiet : Bool
deriving DecidableEq, Repr

/-- Why an argument line is not carried out. -/
inductive UsageError where
  | missingInput
  /-- An unknown option, or a path too many. -/
  | unknownArgument
  /-- A value given to a flag. -/
  | unexpectedValue
  | repeatedFlag
  | emptyPath
  /-- Not an error of the user: help is wanted instead. -/
  | helpRequested
deriving DecidableEq, Repr

/-- The arguments taken so far. -/
structure Given where
  paths : List String
  strict : Bool
  quiet : Bool

namespace Given

/-- Before the first argument. -/
def start : Given := ⟨[], false, false⟩

/-- Paths are looked at only when the next argument is taken, or at the end: an empty one is
reported then, and after an argument that is refused not at all. -/
def settle (g : Given) : Except UsageError Given :=
  if g.paths.contains "" then .error .emptyPath else .ok g

/-- Takes a path, of which there can be two. -/
def addPath (g : Given) (path : String) : Except UsageError Given :=
  if 2 ≤ g.paths.length then .error .unknownArgument
  else do
    let g ← g.settle
    return { g with paths := g.paths ++ [path] }

/-- Takes a flag, which can be given once. -/
def setStrict (g : Given) : Except UsageError Given := do
  let g ← g.settle
  if g.strict then throw .repeatedFlag
  return { g with strict := true }

/-- Takes a flag, which can be given once. -/
def setQuiet (g : Given) : Except UsageError Given := do
  let g ← g.settle
  if g.quiet then throw .repeatedFlag
  return { g with quiet := true }

/-- Stops for help. -/
def help (g : Given) : Except UsageError Given := do
  let _ ← g.settle
  throw .helpRequested

/-- An option with a long name, from behind its two dashes. -/
def addLong (g : Given) (option : List Char) : Except UsageError Given :=
  let name := String.ofList (option.takeWhile (· != '='))
  let hasValue := option.contains '='
  if name ∉ ["strict", "quiet", "help"] then .error .unknownArgument
  else if hasValue then .error .unexpectedValue
  else if name = "strict" then g.setStrict
  else if name = "quiet" then g.setQuiet
  else g.help

/-- Options with names of one letter, from behind their dash. -/
def addShort (g : Given) : List Char → Except UsageError Given
  | [] => .ok g
  | 'q' :: cs => do (← g.setQuiet).addShort cs
  | 'h' :: _ => g.help
  | _ => .error .unknownArgument

/-- Takes all arguments as paths. -/
def addPaths (g : Given) : List String → Except UsageError Given
  | [] => .ok g
  | a :: as => do (← g.addPath a).addPaths as

/-- Takes arguments in order. After two dashes all are paths; a single dash is one. -/
def addAll (g : Given) : List String → Except UsageError Given
  | [] => .ok g
  | a :: as => do
    match a.toList with
    | ['-', '-'] => g.addPaths as
    | '-' :: '-' :: option => (← g.addLong option).addAll as
    | '-' :: c :: cs => (← g.addShort (c :: cs)).addAll as
    | _ => (← g.addPath a).addAll as

end Given

/-- Reads an argument line, without the name of the program. -/
def Arguments.parse (args : List String) : Except UsageError Arguments := do
  let g ← (← Given.start.addAll args).settle
  match g.paths with
  | [] => throw .missingInput
  | input :: rest => return ⟨input, rest.head?, g.strict, g.quiet⟩

end SpriteScribe.Command
