/-
From characters to tokens. The scanner knows what it is inside of, be it a comment, a literal
section, an instruction or a declaration, and whether it is inside the document type, and nothing
of tags and elements. A character gives at most three tokens: those of characters that were held
back because they could have begun a longer token, then its own.
-/
import SpriteScribe.Markup.SyntaxError
import SpriteScribe.Markup.Token

namespace SpriteScribe.Markup

/-- What the scanner is inside of. -/
inductive Mode where
  /-- Text, or the inside of a tag. -/
  | plain
  /-- Behind a `<`. -/
  | less
  /-- Behind `<!` and the given characters. -/
  | bang (seen : List Char)
  /-- Behind a slash. -/
  | slash
  /-- Behind one closing bracket, or behind two. -/
  | brackets (two : Bool)
  /-- In an instruction, perhaps behind a question mark. -/
  | instruction (mark : Bool)
  /-- In a comment, behind so many dashes. -/
  | comment (dashes : Nat)
  /-- In a literal section, behind so many closing brackets. -/
  | cdata (brackets : Nat)
  /-- In a declaration of the document type, perhaps in a quoted part of it. -/
  | declaration (quote : Option Char)
deriving DecidableEq, Repr

/-- The state between two characters. -/
structure Scanner where
  mode : Mode
  /-- Whether what is scanned when nothing else has begun is the document type. -/
  inDoctype : Bool
deriving DecidableEq, Repr

namespace Scanner

/-- Before the first character. -/
def start : Scanner := ⟨.plain, false⟩

/-- The same scanner in another mode. -/
def goTo (s : Scanner) (mode : Mode) : Scanner := { s with mode := mode }

/-! ## Modes -/

/-- A character of text or of a tag. Inside the document type only some characters have a meaning
of their own, and a `>` ends it. -/
def stepPlain (s : Scanner) (c : Char) : Scanner × List Token :=
  match c with
  | '<' => (s.goTo .less, [])
  | '>' => (⟨.plain, false⟩, [.tagEnd])
  | '&' => (s.goTo .plain, [.ampersand])
  | ';' => (s.goTo .plain, [.semicolon])
  | '"' => (s.goTo .plain, [.quote '"'])
  | '\'' => (s.goTo .plain, [.quote '\''])
  | '=' => (s.goTo .plain, [if s.inDoctype then .char '=' else .equals])
  | '/' => if s.inDoctype then (s.goTo .plain, [.char '/']) else (s.goTo .slash, [])
  | ']' => if s.inDoctype then (s.goTo .plain, [.char ']']) else (s.goTo (.brackets false), [])
  | _ => (s.goTo .plain, [.char c])

/-- A character of an instruction that does not follow a question mark. -/
def stepInstruction (s : Scanner) (c : Char) : Scanner × List Token :=
  let token : Token := match c with
    | '<' => .tagStart
    | '>' => .tagEnd
    | '&' => .ampersand
    | ';' => .semicolon
    | '"' => .quote '"'
    | '\'' => .quote '\''
    | '=' => .equals
    | _ => .char c
  if c = '?' then (s.goTo (.instruction true), []) else (s.goTo (.instruction false), [token])

/-- A character of a declaration, outside its quoted parts. -/
def stepDeclaration (s : Scanner) (c : Char) : Except SyntaxError (Scanner × List Token) :=
  match c with
  | '<' => .error (.unexpected "<")
  | '>' => .ok (s.goTo .plain, [.tagEnd])
  | '&' => .ok (s, [.ampersand])
  | ';' => .ok (s, [.semicolon])
  | '"' => .ok (s.goTo (.declaration (some '"')), [.quote '"'])
  | '\'' => .ok (s.goTo (.declaration (some '\'')), [.quote '\''])
  | _ => .ok (s, [.char c])

/-- The character behind a `<`. -/
def stepLess (s : Scanner) (c : Char) : Except SyntaxError (Scanner × List Token) :=
  match c with
  | '?' => .ok (s.goTo (.instruction false), [.instructionStart])
  | '/' => .ok (s.goTo .plain, [.closeStart])
  | '!' => .ok (s.goTo (.bang []), [])
  | _ =>
    if isBlank c || isNameChar c then .ok (s.goTo .plain, [.tagStart, .char c])
    else .error (.unexpected c.toString)

/-- A character behind `<!`, until it is clear what begins there. Declarations stand only in the
document type. -/
def stepBang (s : Scanner) (seen : List Char) (c : Char) :
    Except SyntaxError (Scanner × List Token) :=
  let word := seen ++ [c]
  if word = "--".toList then .ok (s.goTo (.comment 0), [.commentStart])
  else if word = "[CDATA[".toList then .ok (s.goTo (.cdata 0), [.cdataStart])
  else if word = "DOCTYPE".toList then .ok (⟨.plain, true⟩, [.doctypeStart])
  else if ["--", "[CDATA[", "DOCTYPE"].any (word.isPrefixOf ·.toList) then
    .ok (s.goTo (.bang word), [])
  else if s.inDoctype && seen.isEmpty && (c == 'E' || c == 'A' || c == 'N') then
    .ok (s.goTo (.declaration none), [.declarationStart, .char c])
  else .error (.unexpected c.toString)

/-- A character of a comment. Two dashes stand only at its end. -/
def stepComment (s : Scanner) (dashes : Nat) (c : Char) :
    Except SyntaxError (Scanner × List Token) :=
  if dashes = 2 then
    if c = '>' then .ok (s.goTo .plain, [.commentEnd]) else .error (.unexpected "--")
  else if c = '-' then .ok (s.goTo (.comment (dashes + 1)), [])
  else .ok (s.goTo (.comment 0), List.replicate dashes (.char '-') ++ [.char c])

/-- A character of a literal section. -/
def stepCdata (s : Scanner) (brackets : Nat) (c : Char) : Scanner × List Token :=
  if c = ']' then
    if brackets = 2 then (s, [.char ']']) else (s.goTo (.cdata (brackets + 1)), [])
  else if c = '>' && brackets = 2 then (s.goTo .plain, [.cdataEnd])
  else (s.goTo (.cdata 0), List.replicate brackets (.char ']') ++ [.char c])

/-- The tokens of a character, behind some that were held back. -/
def after (held : List Token) (found : Scanner × List Token) : Scanner × List Token :=
  (found.1, held ++ found.2)

/-! ## One character -/

/-- Scans one character. -/
def step (s : Scanner) (c : Char) : Except SyntaxError (Scanner × List Token) :=
  match s.mode with
  | .plain => .ok (s.stepPlain c)
  | .less => s.stepLess c
  | .bang seen => s.stepBang seen c
  | .slash =>
    if c = '>' then .ok (s.goTo .plain, [.emptyEnd])
    else .ok (after [.char '/'] (s.stepPlain c))
  | .brackets false =>
    if c = ']' then .ok (s.goTo (.brackets true), [])
    else .ok (after [.char ']'] (s.stepPlain c))
  | .brackets true =>
    if c = '>' then .ok (s.goTo .plain, [.cdataEnd])
    else if c = ']' then .ok (s, [.char ']'])
    else .ok (after [.char ']', .char ']'] (s.stepPlain c))
  | .instruction false => .ok (s.stepInstruction c)
  | .instruction true =>
    if c = '>' then .ok (s.goTo .plain, [.instructionEnd])
    else .ok (after [.char '?'] (s.stepInstruction c))
  | .comment dashes => s.stepComment dashes c
  | .cdata brackets => .ok (s.stepCdata brackets c)
  | .declaration none => s.stepDeclaration c
  | .declaration (some quote) =>
    if c = quote then .ok (s.goTo (.declaration none), [.quote quote])
    else .ok (s, [.char c])

/-- Whether a document can end here. -/
def isFinished (s : Scanner) : Bool := s = start

end Scanner

end SpriteScribe.Markup
