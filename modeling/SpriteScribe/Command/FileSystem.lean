/-
What the program needs of a file system: to find and read an input, to make directories, to write a text.
-/

namespace SpriteScribe.Command

/-- Why a file operation fails. -/
inductive FileError where
  | notFound
  | exists
  | notADirectory
  | isADirectory
  /-- A path, or a name on it, that is longer than can be. -/
  | nameTooLong
  /-- A path with a character that ends it. -/
  | nulInPath
  /-- The bytes of a file are no text. -/
  | notText
  | other (message : String)
deriving DecidableEq, Repr

def FileError.message : FileError → String
  | .notFound => "No such file or directory (os error 2)"
  | .exists => "File exists (os error 17)"
  | .notADirectory => "Not a directory (os error 20)"
  | .isADirectory => "Is a directory (os error 21)"
  | .nameTooLong => "File name too long (os error 36)"
  | .nulInPath => "file name contained an unexpected NUL byte"
  | .notText => "stream did not contain valid UTF-8"
  | .other message => message

/-- The file operations of the program. -/
class FileSystem (m : Type → Type) where
  /-- Whether a path leads to a regular file. -/
  isFile : String → m Bool
  /-- The full path, without detours, of what a path leads to. -/
  resolve : String → m (Except FileError String)
  /-- The text of a file. -/
  read : String → m (Except FileError String)
  /-- Makes a directory and those above it, where they are missing. -/
  createDirectories : String → m (Except FileError Unit)
  /-- Replaces or creates a file. -/
  write : String → String → m (Except FileError Unit)

/-! ## Paths -/

/-- The steps of a path, between its slashes. -/
def pathSteps (path : String) : List String := (path.toList.splitOn '/').map String.ofList

/-- Whether a step leads nowhere else. -/
def isIdle (step : String) : Bool := step = "" || step = "."

/-- Whether a path begins at the top of the file system. -/
def isAbsolute (path : String) : Bool := path.toList.head? = some '/'

/-- The path made of some steps, the last one first. -/
def pathOfSteps (steps : List String) : String :=
  if steps = [""] then "/" else "/".intercalate steps.reverse

/-- The paths that lead a way and ever less of it, up to its first step. Steps come last first, and
idle ones behind the first do not count. -/
def pathsUpward : List String → List String
  | [] => []
  | [first] => [pathOfSteps [first]]
  | step :: above =>
    if isIdle step then pathsUpward above else pathOfSteps (step :: above) :: pathsUpward above

/-- A path without idle steps at its end, then that of the directory it is in, and so on upward. -/
def ancestors (path : String) : List String :=
  if path = "" then [] else pathsUpward (pathSteps path).reverse

/-- The path of the directory that a path is in; none if that is where the program runs. -/
def parent? (path : String) : Option String := (ancestors path).tail.head?

end SpriteScribe.Command
