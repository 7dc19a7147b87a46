/-
Documents: from the characters of a text to the element at its root. The text is read once, from
front to back. An entity that is mentioned in text is put in front of what is still to be read, so
it may hold markup; how often that can happen before the next character of the document itself is
bounded, which rules out entities that mention themselves.
-/
import SpriteScribe.Markup.Reader.Content
import SpriteScribe.Markup.Scanner

namespace SpriteScribe.Markup

/-- A document that is being read: characters go to the scanner, its tokens to the reader. -/
structure Reading where
  scanner : Scanner
  reader : Reader
  place : Place

namespace Reading

/-- Before the first character, perhaps behind a byte order mark. -/
def start (marked : Bool) : Reading := ⟨.start, .start marked, .start⟩

/-- Reads one character, and gives the text that it inserts. -/
def step (d : Reading) (c : Char) : Except SyntaxError (Reading × List Char) :=
  let ⟨scanner, reader, place⟩ := d
  match scanner.step c with
  | .error e => .error e
  | .ok (scanner, tokens) =>
    match reader.steps place tokens with
    | .error e => .error e
    | .ok (reader, place, inserted) => .ok (⟨scanner, reader, place⟩, inserted)

/-- How many entities may be inserted before the next character of the document itself. -/
def maxInsertions : Nat := 10

/-- How much inserted text may be left to read when more is inserted. -/
def maxPending : Nat := 1000000

/-- Reads characters up to one that inserts text. If there is one, gives that text and what stands
behind the character. -/
def stretch (d : Reading) :
    List Char → Except SyntaxError (Reading × Option (List Char × List Char))
  | [] => .ok (d, none)
  | c :: rest =>
    match d.step c with
    | .error e => .error e
    | .ok (d, []) => d.stretch rest
    | .ok (d, inserted) => .ok (d, some (inserted, rest))

/-- Reads some characters and whatever they insert, with at most `budget` insertions. -/
def feed (budget : Nat) (d : Reading) (cs : List Char) : Except SyntaxError Reading :=
  match d.stretch cs with
  | .error e => .error e
  | .ok (d, none) => .ok d
  | .ok (d, some (inserted, rest)) =>
    match budget with
    | 0 => .error .expansionLimit
    | budget + 1 =>
      if maxPending < rest.length then .error .expansionLimit
      else feed budget d (inserted ++ rest)

/-- Reads one character of the source, which stands for others if the document says so. -/
def read (d : Reading) (c : Char) : Except SyntaxError Reading :=
  match (d.reader.encoding.getD .utf8).decode? c with
  | none => .error (.undecodable c)
  | some cs => cs.foldlM (fun d c => d.feed maxInsertions [c]) d

/-- The document, once all its characters have been read. -/
def finish (d : Reading) : Except SyntaxError Element :=
  if !d.scanner.isFinished then .error .unexpectedEnd
  else
    match d.place, d.reader.opened, d.reader.root with
    | .text, [], some root => .ok root
    | .text, [], none => .error .noElement
    | .start, _, _ => .error .noElement
    | _, _, _ => .error .unexpectedEnd

end Reading

/-- The root element of a document. Further elements may follow it; they have to be well formed
and are not kept. A byte order mark in front is passed over. -/
def parse (source : String) : Except SyntaxError Element := do
  let cs := source.toList
  let marked := cs.head? = some '\ufeff'
  let d ← (if marked then cs.tail else cs).foldlM Reading.read (Reading.start marked)
  d.finish

end SpriteScribe.Markup
