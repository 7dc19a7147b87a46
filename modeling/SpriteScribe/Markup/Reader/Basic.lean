/-
The state of reading a document token by token: what is known of it so far, and the place inside
the grammar where the next token stands.
-/
import SpriteScribe.Markup.Element
import SpriteScribe.Markup.Encoding
import SpriteScribe.Markup.SyntaxError
import SpriteScribe.Markup.Token

namespace SpriteScribe.Markup

/-! ## Places in the grammar -/

/-- Where inside a quoted value the next token stands. -/
inductive ValuePart where
  /-- Before the opening quotation mark. -/
  | before
  | inside (quote : Char) (text : String)
  /-- Inside a reference that is part of the value. -/
  | reference (quote : Char) (text : String) (name : String)

/-- The words of the declaration that opens a document. -/
inductive DeclarationWord where
  | version
  | encoding
  | standalone
deriving DecidableEq, Repr

/-- Where inside the opening declaration the next token stands. -/
inductive DeclarationPart where
  /-- Before a word, with the last word that was given. -/
  | gap (last : Option DeclarationWord)
  /-- Inside a word, behind its first letter. -/
  | name (word : DeclarationWord) (text : String)
  | equals (word : DeclarationWord)
  | value (word : DeclarationWord) (part : ValuePart)
  /-- Right behind a value. -/
  | after (word : DeclarationWord)

/-- A start tag as far as it has been read, the latest attribute first. -/
structure TagHead where
  name : QName
  attributes : List (QName × String)
  /-- The shorthands that the tag declares. -/
  spaces : List String

/-- Where inside a start tag, behind its name, the next token stands. -/
inductive TagPart where
  | gap
  | attrName (text : String)
  | equals (name : QName)
  | value (name : QName) (part : ValuePart)
  /-- Right behind a value. -/
  | after

/-- Where inside a document type the next token stands. -/
inductive TypePart where
  /-- Between declarations. -/
  | outside
  | literal (quote : Char)
  | comment
  | keyword (word : String)
  | beforeEntity
  /-- Behind the percent sign of a parameter entity. -/
  | beforeParameter
  | entity (name : String)
  | beforeValue (name : String)
  | value (name : String) (quote : Char) (text : String)
  | valueAmp (name : String) (quote : Char) (text : String)
  | valueNumber (name : String) (quote : Char) (text : String) (digits : String)
  | valueParameter (name : String) (quote : Char) (text : String) (ref : String)
  | parameter (ref : String)
  /-- In a declaration, or the rest of one, that does not matter. -/
  | skip

/-- Where the next token of a document stands. -/
inductive Place where
  /-- At the very start. -/
  | start
  /-- In the opening declaration, with the encoding that it gave. -/
  | declaration (encoding : Option String) (part : DeclarationPart)
  | text
  | reference (name : String)
  | comment (value : String)
  | cdata (value : String)
  /-- In the name of an instruction, which may be the first thing in the document. -/
  | target (first : Bool) (name : String)
  | data (target value : String)
  | openName (name : String)
  | tag (head : TagHead) (part : TagPart)
  | closeName (name : String)
  | closeGap (name : QName)
  | doctype (part : TypePart)

/-! ## State -/

/-- An element whose closing tag has not come yet, its latest child first. -/
structure OpenElement where
  name : QName
  attributes : List (String × String)
  /-- The shorthands in scope inside the element. -/
  spaces : List String
  children : List Node

/-- What is known of a document after some of its tokens. -/
structure Reader where
  version : Version
  /-- The encoding, once it is certain. -/
  encoding : Option Encoding
  /-- Whether it is too late for a document type: one was given, or an element has begun. -/
  typed : Bool
  entities : List (String × String)
  /-- The open elements, innermost first. -/
  opened : List OpenElement
  root : Option Element
  /-- The text since the last markup. -/
  run : String
  /-- Whether the text is to be kept: all but blanks is. -/
  solid : Bool

/-- Before the first token. A byte order mark makes the encoding certain. -/
def Reader.start (marked : Bool) : Reader where
  version := .v10
  encoding := if marked then some .utf8 else none
  typed := false
  entities := []
  opened := []
  root := none
  run := ""
  solid := false

/-- The state after a token, the next place, and text that has to be scanned before the rest of
the input. -/
abbrev Step := Except SyntaxError (Reader × Place × List Char)

/-- A token that cannot stand where it does. -/
def Token.refuse {α : Type} (t : Token) : Except SyntaxError α := .error (.unexpected t.text)

/-- How long a name can be, in bytes, and still grow. -/
def maxNameSize : Nat := 262144

/-- Adds a character to a name. -/
def growName (name : String) (c : Char) : Except SyntaxError String :=
  if maxNameSize < name.utf8ByteSize then .error .nameTooLong else .ok (name.push c)

namespace Reader

/-- Goes on at a place, with nothing to be scanned before the rest of the input. -/
def goTo (r : Reader) (place : Place) : Step := .ok (r, place, [])

/-- Whether the next token stands outside all elements. -/
def isOutside (r : Reader) : Bool := r.opened.isEmpty

/-- The shorthands in scope. -/
def spaces (r : Reader) : List String :=
  match r.opened with
  | [] => [xmlSpace]
  | o :: _ => o.spaces

/-! ## Children -/

/-- Adds a node to the innermost open element. Outside of all elements only the first element is
kept: it is the document. -/
def append (r : Reader) (node : Node) : Reader :=
  match r.opened with
  | o :: os => { r with opened := { o with children := node :: o.children } :: os }
  | [] => { r with root := r.root <|> node.element? }

/-- Ends the run of text before markup. A run of blanks leaves no node. -/
def flush (r : Reader) : Reader :=
  let next := { r with run := "", solid := false }
  if r.solid && !r.run.isEmpty then next.append (.text r.run) else next

/-- Adds a character to the run of text. -/
def collect (r : Reader) (c : Char) : Reader :=
  { r with run := r.run.push c, solid := r.solid || !isBlank c }

/-! ## References -/

/-- The value of a numeral in a base, if all its characters are digits of it. A plus sign may
stand in front. -/
def number? (base : Nat) (numeral : List Char) : Option Nat :=
  let digits := if numeral.head? = some '+' then numeral.tail else numeral
  if digits.isEmpty then none
  else digits.foldlM (fun n c => (digit? c).map (n * base + ·)) 0
where
  /-- Decimal digits, and the letters that follow them up to the base, in either case. -/
  digit? (c : Char) : Option Nat :=
    let d :=
      if c.isDigit then c.toNat - '0'.toNat
      else if 'a' ≤ c && c ≤ 'f' then c.toNat - 'a'.toNat + 10
      else if 'A' ≤ c && c ≤ 'F' then c.toNat - 'A'.toNat + 10
      else base
    if d < base then some d else none

/-- The character with a number, written in decimal, or in hexadecimal behind an `x`. -/
def numbered? (version : Version) (digits : List Char) : Option Char := do
  let n ← match digits with
    | 'x' :: hex => number? 16 hex
    | decimal => number? 10 decimal
  if n.isValidChar && version.allows (Char.ofNat n) then some (Char.ofNat n) else none

/-- What a reference stands for: a character, or the text of an entity. -/
def resolve (r : Reader) (name : String) : Except SyntaxError (Char ⊕ String) :=
  match name with
  | "lt" => .ok (.inl '<')
  | "gt" => .ok (.inl '>')
  | "amp" => .ok (.inl '&')
  | "apos" => .ok (.inl '\'')
  | "quot" => .ok (.inl '"')
  | _ =>
    match name.toList with
    | '#' :: digits =>
      match numbered? r.version digits with
      | some c => .ok (.inl c)
      | none => .error (.unknownReference name)
    | _ =>
      match r.entities.lookup name with
      | some text => .ok (.inr text)
      | none => .error (.unknownReference name)

/-- Whether a character can continue the name of a reference. -/
def continuesReference (name : String) (c : Char) : Bool :=
  if name.isEmpty then isNameStart c || c == '#' else isNameChar c

/-! ## Quoted values -/

/-- A token of a quoted value: the next part, or the whole value at its end. Entities are taken
literally. Markup that begins a tag or an instruction cannot stand in a value; other markup is
text. -/
def stepValue (r : Reader) (part : ValuePart) (t : Token) :
    Except SyntaxError (ValuePart ⊕ String) :=
  match part with
  | .before =>
    match t with
    | .quote mark => .ok (.inl (.inside mark ""))
    | _ => if t.isBlank then .ok (.inl .before) else t.refuse
  | .inside quote text =>
    match t with
    | .quote mark =>
      .ok (if mark = quote then .inr text else .inl (.inside quote (text.push mark)))
    | .ampersand => .ok (.inl (.reference quote text ""))
    | .tagStart => t.refuse
    | .instructionStart => t.refuse
    | .char c =>
      if r.version.allowsLiteral c then .ok (.inl (.inside quote (text.push c)))
      else .error (.invalidCharacter c)
    | _ => .ok (.inl (.inside quote (text ++ t.text)))
  | .reference quote text name =>
    match t with
    | .semicolon =>
      match r.resolve name with
      | .ok (.inl c) => .ok (.inl (.inside quote (text.push c)))
      | .ok (.inr found) => .ok (.inl (.inside quote (text ++ found)))
      | .error e => .error e
    | .char c =>
      if continuesReference name c then .ok (.inl (.reference quote text (name.push c)))
      else t.refuse
    | _ => t.refuse

end Reader

end SpriteScribe.Markup
