/-
Reading the declaration that opens a document. It gives the version, then perhaps the encoding,
then perhaps whether the document stands alone.
-/
import SpriteScribe.Markup.Reader.Basic

namespace SpriteScribe.Markup

namespace DeclarationWord

/-- The first letter of a word. -/
def initial : DeclarationWord → Char
  | .version => 'v'
  | .encoding => 'e'
  | .standalone => 's'

/-- A word without its first letter. -/
def rest : DeclarationWord → String
  | .version => "ersion"
  | .encoding => "ncoding"
  | .standalone => "tandalone"

/-- The words that can come next, after the last one given. -/
def following : Option DeclarationWord → List DeclarationWord
  | none => [.version]
  | some .version => [.encoding, .standalone]
  | some .encoding => [.standalone]
  | some .standalone => []

end DeclarationWord

/-- The versions there are. -/
def Version.ofText? : String → Option Version
  | "1.0" => some .v10
  | "1.1" => some .v11
  | _ => none

namespace Reader

/-- Goes on at a place inside the declaration. -/
def goToDeclaration (r : Reader) (encoding : Option String) (part : DeclarationPart) : Step :=
  r.goTo (.declaration encoding part)

/-- The end of the declaration. What it says of the encoding must be known and must not contradict
what is certain; text that was decoded already cannot be in units of two bytes. -/
def endDeclaration (r : Reader) (encoding : Option String) : Step :=
  match encoding with
  | none => r.goTo .text
  | some name =>
    match Encoding.ofName? name with
    | none => .error (.unsupportedEncoding name)
    | some declared =>
      if declared = .utf16 || r.encoding.any (· ≠ declared) then .error (.unsupportedEncoding name)
      else { r with encoding := some declared }.goTo .text

/-- Takes the value of a word. -/
def endDeclarationValue (r : Reader) (encoding : Option String) (word : DeclarationWord)
    (value : String) : Step :=
  match word with
  | .version =>
    match Version.ofText? value with
    | some version => { r with version := version }.goToDeclaration encoding (.after word)
    | none => .error (.invalidDeclaration value)
  | .encoding => r.goToDeclaration (some value) (.after word)
  | .standalone =>
    if value = "yes" || value = "no" then r.goToDeclaration encoding (.after word)
    else .error (.invalidDeclaration value)

/-- A token of the declaration. Behind its first letter, a word is a qualified name, of which only
the local part matters. -/
def stepDeclaration (r : Reader) (encoding : Option String) (part : DeclarationPart) (t : Token) :
    Step :=
  match part with
  | .gap last =>
    match t with
    | .instructionEnd => if last.isSome then r.endDeclaration encoding else t.refuse
    | .char c =>
      if isBlank c then r.goToDeclaration encoding (.gap last)
      else
        match (DeclarationWord.following last).find? (·.initial = c) with
        | some word => r.goToDeclaration encoding (.name word "")
        | none => t.refuse
    | _ => t.refuse
  | .name word text =>
    match t.nameChar? with
    | some c =>
      match growName text c with
      | .ok text => r.goToDeclaration encoding (.name word text)
      | .error e => .error e
    | none =>
      if (QName.parse? text).any (·.name = word.rest) then
        if t = .equals then r.goToDeclaration encoding (.value word .before)
        else if t.isBlank then r.goToDeclaration encoding (.equals word)
        else t.refuse
      else .error (.invalidDeclaration text)
  | .equals word =>
    if t = .equals then r.goToDeclaration encoding (.value word .before)
    else if t.isBlank then r.goToDeclaration encoding (.equals word)
    else t.refuse
  | .value word part =>
    match r.stepValue part t with
    | .ok (.inl part) => r.goToDeclaration encoding (.value word part)
    | .ok (.inr value) => r.endDeclarationValue encoding word value
    | .error e => .error e
  | .after word =>
    if t = .instructionEnd then r.endDeclaration encoding
    else if t.isBlank then r.goToDeclaration encoding (.gap (some word))
    else t.refuse

end Reader

end SpriteScribe.Markup
