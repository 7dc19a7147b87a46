/-
A run of the program: read the project, compile it, and print or write the program text.
-/
import SpriteScribe.Command.Arguments
import SpriteScribe.Command.FileTree
import SpriteScribe.Command.Progress
import SpriteScribe.Project.Compile

namespace SpriteScribe.Command

open SpriteScribe.Markup

/-! ## Failures -/

/-- A path as it is shown: without the mark of long paths. -/
def shownPath (path : String) : String :=
  match path.toList with
  | '\\' :: '\\' :: '?' :: '\\' :: rest => String.ofList rest
  | _ => path

/-- Why a run fails. -/
inductive Failure where
  | inputNotFound (path : String)
  | unresolved (cause : FileError)
  | unreadable (location : String) (cause : FileError)
  | uncompiled (origin : String) (cause : CompileError)
  | noDirectory (cause : FileError)
  | unwritable (path : String) (cause : FileError)
deriving DecidableEq, Repr

/-- What failed, then why, outermost first. -/
def Failure.chain : Failure → List String
  | .inputNotFound path => ["Input file not found: '" ++ path ++ "'."]
  | .unresolved cause => [cause.message]
  | .unreadable location cause => ["Failed to read '" ++ shownPath location ++ "'.", cause.message]
  | .uncompiled origin cause =>
    ["Translation of '" ++ shownPath origin ++ "' failed", cause.message]
  | .noDirectory cause => [cause.message]
  | .unwritable path cause => ["Failed to write '" ++ shownPath path ++ "'.", cause.message]

/-! ## Compiling files -/

/-- How compiling a source went, with the log of it. -/
structure SourceOutcome where
  log : List LogRecord
  result : Except Failure Program

/-- Compiles the text of a project that was read from somewhere. -/
def compileSource (describe : SyntaxError → String) (strict : Bool) (source origin : String) :
    SourceOutcome :=
  let outcome := compileText describe strict source
  ⟨outcome.log, outcome.result.mapError (.uncompiled origin)⟩

section Files

variable {m : Type → Type} [Monad m] [FileSystem m]

/-- The full path of an input, which has to be a regular file. -/
def resolveInput (path : String) : m (Except Failure String) := do
  if ← FileSystem.isFile path then
    return (← FileSystem.resolve path).mapError .unresolved
  else
    return .error (.inputNotFound path)

/-- Compiles the project in a file. -/
def compileFile (describe : SyntaxError → String) (strict : Bool) (path : String) : m SourceOutcome := do
  match ← resolveInput path with
  | .error e => return ⟨[], .error e⟩
  | .ok location =>
    match ← FileSystem.read location with
    | .error e => return ⟨[], .error (.unreadable location e)⟩
    | .ok source => return compileSource describe strict source location

end Files

/-! ## Sessions -/

/-- What a run has put out. -/
structure Console where
  stdout : String
  stderr : String
  log : List LogRecord

/-- Before anything was put out. -/
def Console.blank : Console := ⟨"", "", []⟩

/-- Steps of a run. They add to what has been put out, and the first that fails is the last. -/
abbrev Session (m : Type → Type) := ExceptT Failure (StateT Console m)

namespace Session

variable {m : Type → Type} [Monad m]

/-- Prints to standard output. -/
def print (text : String) : Session m Unit := modify fun c => { c with stdout := c.stdout ++ text }

/-- Shows on standard error that a stage begins. -/
def enter (progress : Progress) (step : Nat) (label : String) : Session m Unit :=
  modify fun c => { c with stderr := c.stderr ++ progress.announce step label }

/-- Adds to the log. -/
def record (records : List LogRecord) : Session m Unit := modify fun c => { c with log := c.log ++ records }

/-- Goes on with the result of something that may fail. -/
def settle {α : Type} : Except Failure α → Session m α
  | .ok a => pure a
  | .error e => throw e

/-- Carries out a file operation, where a failure of it is one of the run. -/
def attempt {ε α : Type} (operation : m (Except ε α)) (wrap : ε → Failure) : Session m α := do
  settle ((← operation).mapError wrap)

end Session

/-! ## Runs -/

/-- The record of the number of warnings, if there are any. -/
def countRecord (program : Program) : List LogRecord :=
  if program.warnings.isEmpty then []
  else [⟨.info, "Translated with " ++ toString program.warnings.length ++ " warning(s)."⟩]

/-- What a run leaves behind, files apart. -/
structure Report extends Console where
  failure : Option Failure

section Runs

variable {m : Type → Type} [Monad m] [FileSystem m]

open Session

/-- The stages of a run. Each is shown before it is gone through. -/
def stages (describe : SyntaxError → String) (args : Arguments) : Session m Unit := do
  let progress := Progress.new "Translate" (3 + args.output.isSome.toNat) args.quiet
  let mut stage := 0
  stage := stage + 1
  enter progress stage "Resolving input path"
  let location ← attempt (resolveInput args.input) id
  stage := stage + 1
  enter progress stage "Reading project XML"
  let source ← attempt (FileSystem.read location) (.unreadable location)
  stage := stage + 1
  enter progress stage "Translating sprites and scripts"
  let outcome := compileSource describe args.strict source location
  record outcome.log
  let program ← settle outcome.result
  record (countRecord program)
  match args.output with
  | none => print (program.text ++ "\n")
  | some path =>
    stage := stage + 1
    enter progress stage "Writing generated code"
    if let some above := parent? path then
      attempt (FileSystem.createDirectories above) .noDirectory
    attempt (FileSystem.write path program.text) (.unwritable path)

/-- Carries out an argument line. -/
def run (describe : SyntaxError → String) (args : Arguments) : m Report := do
  let (result, console) ← ((stages describe args).run : StateT Console m _).run .blank
  match result with
  | .ok () => return ⟨console, none⟩
  | .error e => return ⟨console, some e⟩

end Runs

end SpriteScribe.Command
