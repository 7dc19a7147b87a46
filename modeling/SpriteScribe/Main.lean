/-
The command line: compiles a block project to program text for the sprite runtime.
-/
import SpriteScribe.Command.Run

namespace SpriteScribe.Command

/-- The file operations of the program on the files of the machine. -/
instance : FileSystem IO where
  isFile path := do
    try
      return (← (← IO.FS.realPath path).metadata).type == .file
    catch _ => return false
  resolve path := do
    try
      return .ok (← IO.FS.realPath path).toString
    catch e => return .error (.other (toString e))
  read path := do
    try
      match String.fromUTF8? (← IO.FS.readBinFile path) with
      | some text => return .ok text
      | none => return .error .notText
    catch e => return .error (.other (toString e))
  createDirectories path := do
    try
      IO.FS.createDirAll path
      return .ok ()
    catch e => return .error (.other (toString e))
  write path text := do
    try
      IO.FS.writeFile path text
      return .ok ()
    catch e => return .error (.other (toString e))

/-- What is printed about an argument line that is not carried out. -/
def usageText : String :=
  "Usage: spritescribe [--strict] [-q | --quiet] INPUT [OUTPUT]\n"

/-- A failure with its causes. -/
def failureText (failure : Failure) : String :=
  match failure.chain with
  | [] => ""
  | [message] => "Error: " ++ message ++ "\n"
  | message :: causes =>
    "Error: " ++ message ++ "\n\nCaused by:\n    " ++ "\n    ".intercalate causes ++ "\n"

end SpriteScribe.Command

open SpriteScribe SpriteScribe.Command

def main (args : List String) : IO UInt32 := do
  match Arguments.parse args with
  | .error .helpRequested =>
    IO.print usageText
    return 0
  | .error _ =>
    IO.eprint usageText
    return 2
  | .ok arguments =>
    let report ← run Markup.SyntaxError.message arguments
    IO.eprint report.stderr
    IO.print report.stdout
    for record in report.log do
      if record.level = .warn then IO.eprintln record.render
    match report.failure with
    | none => return 0
    | some failure =>
      IO.eprint (failureText failure)
      return 1
