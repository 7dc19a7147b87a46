/-
Reading what stands between tags: text, references, comments, literal sections and instructions.
-/
import SpriteScribe.Markup.Reader.Declaration
import SpriteScribe.Markup.Reader.Doctype
import SpriteScribe.Markup.Reader.Tag

namespace SpriteScribe.Markup.Reader

/-- A token of text. Outside of all elements only blanks, comments, instructions and the document
type can stand. Inside an element, a token that is no markup there is text. -/
def stepText (r : Reader) (t : Token) : Step :=
  match t with
  | .tagStart => { r.flush with typed := true }.goTo (.openName "")
  | .commentStart => r.flush.goTo (.comment "")
  | .instructionStart => r.flush.goTo (.target false "")
  | .doctypeStart =>
    if r.typed then t.refuse else { r with typed := true }.goTo (.doctype .outside)
  | .declarationStart => t.refuse
  | .cdataEnd => t.refuse
  | _ =>
    if r.isOutside then if t.isBlank then r.goTo .text else t.refuse
    else
      match t with
      | .closeStart => r.flush.goTo (.closeName "")
      | .cdataStart => r.flush.goTo (.cdata "")
      | .ampersand => r.goTo (.reference "")
      | .char c =>
        if r.version.allowsLiteral c then (r.collect c).goTo .text
        else .error (.invalidCharacter c)
      | _ => (t.text.toList.foldl collect r).goTo .text

/-- A token of a reference in text. The text of an entity is scanned like the document itself. If
no text came before it since the last markup, what follows is kept even if it is blank. -/
def stepReference (r : Reader) (name : String) (t : Token) : Step :=
  match t with
  | .semicolon =>
    match r.resolve name with
    | .ok (.inl c) => (r.collect c).goTo .text
    | .ok (.inr found) => .ok ({ r with solid := r.solid || r.run.isEmpty }, .text, found.toList)
    | .error e => .error e
  | .char c =>
    if continuesReference name c then r.goTo (.reference (name.push c)) else t.refuse
  | _ => t.refuse

/-- A token of a comment. -/
def stepComment (r : Reader) (value : String) (t : Token) : Step :=
  match t with
  | .commentEnd => (r.append (.comment value)).goTo .text
  | .char c =>
    if r.version.allows c then r.goTo (.comment (value.push c)) else .error (.invalidCharacter c)
  | _ => r.goTo (.comment (value ++ t.text))

/-- A token of a literal section. If it holds more than blanks, the text right behind it is kept
even if that is blank. -/
def stepCdata (r : Reader) (value : String) (t : Token) : Step :=
  match t with
  | .cdataEnd => (r.append (.cdata value)).goTo .text
  | .char c =>
    if r.version.allows c then
      { r with solid := r.solid || !isBlank c }.goTo (.cdata (value.push c))
    else .error (.invalidCharacter c)
  | _ => r.goTo (.cdata (value ++ t.text))

/-! ## Instructions -/

/-- The name of the declaration, in any case, is no name for an instruction. -/
def isReservedTarget (name : String) : Bool := name.toList.map Char.toLower == "xml".toList

/-- A token of the name of an instruction. At the very start of a document, a certain name begins
the declaration. -/
def stepTarget (r : Reader) (first : Bool) (name : String) (t : Token) : Step :=
  match t with
  | .instructionEnd =>
    if name.isEmpty || isReservedTarget name then .error (.invalidInstruction name)
    else (r.append (.instruction name none)).goTo .text
  | .char c =>
    if (if name.isEmpty then isNameStart c else isNameChar c) then
      match growName name c with
      | .ok name => r.goTo (.target first name)
      | .error e => .error e
    else if !isBlank c then t.refuse
    else if first && name = "xml" then r.goToDeclaration none (.gap none)
    else if isReservedTarget name then .error (.invalidInstruction name)
    else r.goTo (.data name "")
  | _ => t.refuse

/-- A token of the data of an instruction. -/
def stepData (r : Reader) (target value : String) (t : Token) : Step :=
  match t with
  | .instructionEnd => (r.append (.instruction target (some value))).goTo .text
  | .char c =>
    if r.version.allows c then r.goTo (.data target (value.push c))
    else .error (.invalidCharacter c)
  | _ => r.goTo (.data target (value ++ t.text))

/-! ## One token -/

/-- Reads one token at a place. -/
def step (r : Reader) (place : Place) (t : Token) : Step :=
  match place with
  | .start => if t = .instructionStart then r.goTo (.target true "") else r.stepText t
  | .declaration encoding part => r.stepDeclaration encoding part t
  | .text => r.stepText t
  | .reference name => r.stepReference name t
  | .comment value => r.stepComment value t
  | .cdata value => r.stepCdata value t
  | .target first name => r.stepTarget first name t
  | .data target value => r.stepData target value t
  | .openName text => r.stepOpenName text t
  | .tag head part => r.stepTag head part t
  | .closeName text => r.stepCloseName text t
  | .closeGap name => r.stepCloseGap name t
  | .doctype part => r.stepDoctype part t

/-- Reads some tokens, and gives what they insert. -/
def steps (r : Reader) (place : Place) : List Token → Step
  | [] => r.goTo place
  | t :: ts =>
    match r.step place t with
    | .error e => .error e
    | .ok (r, place, inserted) =>
      match r.steps place ts with
      | .error e => .error e
      | .ok (r, place, more) => .ok (r, place, inserted ++ more)

end SpriteScribe.Markup.Reader
