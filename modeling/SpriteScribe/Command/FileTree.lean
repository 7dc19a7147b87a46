/-
A file system as a value: all files and directories from the top down, the directory where the
program runs, and the file operations on them.
-/
import SpriteScribe.Command.FileSystem

namespace SpriteScribe.Command

/-- What stands at a place: a file with its bytes, or a directory with what is in it, by name. -/
inductive Entry where
  | file (bytes : ByteArray)
  | directory (entries : List (String × Entry))

namespace Entry

/-- Whether an entry is a directory. -/
def isDirectory : Entry → Bool
  | .file _ => false
  | .directory _ => true

/-- What is directly in a directory. A file holds nothing. -/
def entries : Entry → List (String × Entry)
  | .file _ => []
  | .directory es => es

/-- What is directly in a directory under a name. -/
def child? (e : Entry) (name : String) : Option Entry := e.entries.lookup name

/-- What names lead to, one level down for each. -/
def below? : Entry → List String → Option Entry
  | e, [] => some e
  | e, name :: rest => (e.child? name).bind (·.below? rest)

/-- Puts something where names lead to. -/
def put : Entry → List String → Entry → Entry
  | _, [], new => new
  | e, name :: rest, new =>
    let inner := ((e.child? name).getD (.directory [])).put rest new
    .directory ((name, inner) :: e.entries.filter (·.1 ≠ name))

/-- Whether two entries cannot be told apart without looking into directories. -/
def same : Entry → Entry → Bool
  | .file a, .file b => a.toList == b.toList
  | .directory _, .directory _ => true
  | _, _ => false

mutual

/-- All that is below an entry, by the names on the way down. -/
def contents : Entry → List (List String × Entry)
  | .file _ => []
  | .directory es => contentsOf es

/-- All that some entries are and hold, by the names on the way down. -/
def contentsOf : List (String × Entry) → List (List String × Entry)
  | [] => []
  | (name, e) :: rest =>
    ([name], e) :: e.contents.map (fun (place, x) => (name :: place, x)) ++ contentsOf rest

end

end Entry

/-! ## Walks -/

/-- How long a path has to be, in bytes, to be refused. -/
def pathSizeLimit : Nat := 4096

/-- How long a name on a path can be, in bytes. -/
def nameSizeLimit : Nat := 255

/-- Where a walk has come to: what stands there, and the way back. -/
structure Spot where
  entry : Entry
  /-- The names on the way, each with the directory that it was found in, the last one first. -/
  trail : List (String × Entry)

namespace Spot

/-- The names on the way. -/
def place (s : Spot) : List String := (s.trail.map Prod.fst).reverse

/-- Takes some steps. A step can be taken only from a directory, also one that leads nowhere else,
and only to what exists. Above the top there is nothing, so a step up stays there. -/
def walk (s : Spot) : List String → Except FileError Spot
  | [] => .ok s
  | step :: rest =>
    if !s.entry.isDirectory then .error .notADirectory
    else if isIdle step then s.walk rest
    else if step = ".." then
      match s.trail with
      | [] => s.walk rest
      | (_, above) :: trail => walk ⟨above, trail⟩ rest
    else if nameSizeLimit < step.utf8ByteSize then .error .nameTooLong
    else
      match s.entry.child? step with
      | some next => walk ⟨next, (step, s.entry) :: s.trail⟩ rest
      | none => .error .notFound

end Spot

/-- The files around a run of the program. -/
structure FileTree where
  /-- The directory that all others are in. -/
  top : Entry
  /-- The names on the way from there to the directory where the program runs. -/
  workplace : List String

namespace FileTree

/-- A directory to run in, with nothing in it and nothing beside it. -/
def empty (workplace : List String) : FileTree :=
  ⟨Entry.put (.directory []) workplace (.directory []), workplace⟩

/-- What stands at a place. -/
def entry? (t : FileTree) (place : List String) : Option Entry := t.top.below? place

/-- Puts something at a place. -/
def set (t : FileTree) (place : List String) (entry : Entry) : FileTree :=
  { t with top := t.top.put place entry }

/-- Where steps from the top lead to. -/
def locate (t : FileTree) (steps : List String) : Except FileError Spot := Spot.walk ⟨t.top, []⟩ steps

/-- The directory that steps from the top lead to. -/
def locateDirectory (t : FileTree) (steps : List String) : Except FileError Spot :=
  match t.locate steps with
  | .error e => .error e
  | .ok spot => if spot.entry.isDirectory then .ok spot else .error .notADirectory

/-- The place that the steps of a path begin at: the top if the path says so, and else the directory
where the program runs. -/
def origin (t : FileTree) (path : String) : List String := if isAbsolute path then [] else t.workplace

/-- The steps of a path that can be used. -/
def usable (path : String) : Except FileError (List String) :=
  if path.toList.contains '\x00' then .error .nulInPath
  else if pathSizeLimit ≤ path.utf8ByteSize then .error .nameTooLong
  else if path = "" then .error .notFound
  else .ok (pathSteps path)

/-- Where a path leads to. -/
def follow (t : FileTree) (path : String) : Except FileError Spot := do
  t.locate (t.origin path ++ (← usable path))

/-! ## Operations -/

/-- The path from the top to a place. -/
def fullPath (place : List String) : String := "/" ++ "/".intercalate place

/-- Whether a path leads to a regular file. -/
def isFile (t : FileTree) (path : String) : Bool :=
  match t.follow path with
  | .ok spot => !spot.entry.isDirectory
  | .error _ => false

/-- The full path, without detours, of what a path leads to. It is as bounded as any path. -/
def resolve (t : FileTree) (path : String) : Except FileError String := do
  let location := fullPath (← t.follow path).place
  if pathSizeLimit ≤ location.utf8ByteSize then .error .nameTooLong else .ok location

/-- The text of the file that a path leads to. -/
def read (t : FileTree) (path : String) : Except FileError String := do
  match (← t.follow path).entry with
  | .directory _ => .error .isADirectory
  | .file bytes =>
    match String.fromUTF8? bytes with
    | some text => .ok text
    | none => .error .notText

/-- Makes one directory, where all above it exists. -/
def makeDirectory (t : FileTree) (path : String) : Except FileError FileTree := do
  match (← usable path).reverse with
  | [] => .error .notFound
  | last :: above =>
    let spot ← t.locateDirectory (t.origin path ++ above.reverse)
    if isIdle last || last = ".." then .error .exists
    else if nameSizeLimit < last.utf8ByteSize then .error .nameTooLong
    else if (spot.entry.child? last).isSome then .error .exists
    else .ok (t.set (spot.place ++ [last]) (.directory []))

/-- Whether a path leads to a directory. -/
def reachesDirectory (t : FileTree) (path : String) : Bool :=
  match t.follow path with
  | .ok spot => spot.entry.isDirectory
  | .error _ => false

/-- Makes the directory at the first path and, if something on the way is missing, first those at
the paths behind it, each of which is one level further up. Directories that were made stay when a
later one fails. -/
def makeDirectories (t : FileTree) : List String → FileTree × Except FileError Unit
  | [] => (t, .ok ())
  | path :: above =>
    match t.makeDirectory path with
    | .ok made => (made, .ok ())
    | .error .notFound =>
      match t.makeDirectories above with
      | (t, .error e) => (t, .error e)
      | (t, .ok ()) =>
        match t.makeDirectory path with
        | .ok made => (made, .ok ())
        | .error e => (t, if t.reachesDirectory path then .ok () else .error e)
    | .error e => (t, if t.reachesDirectory path then .ok () else .error e)

/-- Makes a directory and those above it, where they are missing. -/
def createDirectories (t : FileTree) (path : String) : FileTree × Except FileError Unit :=
  t.makeDirectories (ancestors path)

/-- Where a file is written, if one can be at the end of a path. A path that ends with a slash or
with a step that stays in or leaves a directory names a directory. -/
def writable (t : FileTree) (path : String) : Except FileError (List String) := do
  match (← usable path).reverse.dropWhile (· == "") with
  | [] => .error .isADirectory
  | last :: above =>
    let spot ← t.locateDirectory (t.origin path ++ above.reverse)
    if path.toList.getLast? = some '/' || last = "." || last = ".." then .error .isADirectory
    else if nameSizeLimit < last.utf8ByteSize then .error .nameTooLong
    else if (spot.entry.child? last).any Entry.isDirectory then .error .isADirectory
    else .ok (spot.place ++ [last])

/-- Replaces or creates a file. -/
def write (t : FileTree) (path text : String) : FileTree × Except FileError Unit :=
  match t.writable path with
  | .error e => (t, .error e)
  | .ok place => (t.set place (.file text.toUTF8), .ok ())

/-! ## Comparison -/

/-- What is new or different in a tree. -/
def changesSince (t before : FileTree) : List (List String × Entry) :=
  t.top.contents.filter fun (place, entry) => !(before.entry? place).any (Entry.same entry)

end FileTree

/-- The file operations of the program on a tree. -/
instance : FileSystem (StateM FileTree) where
  isFile path := do return (← get).isFile path
  resolve path := do return (← get).resolve path
  read path := do return (← get).read path
  createDirectories path := modifyGet fun t => (t.createDirectories path).swap
  write path text := modifyGet fun t => (t.write path text).swap

end SpriteScribe.Command
