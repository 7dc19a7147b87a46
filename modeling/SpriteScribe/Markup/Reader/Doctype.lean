/-
Reading a document type. Only its entities matter: a general entity gives a text for references
in the document, a parameter entity a text for references in the document type itself. The first
declaration of a name counts. External texts are not fetched and are empty. Between declarations
all but comments, quoted texts and references is passed over.
-/
import SpriteScribe.Markup.Reader.Basic

namespace SpriteScribe.Markup.Reader

/-- Declares an entity. Parameter entities are kept under their name behind a percent sign. -/
def declare (r : Reader) (name text : String) : Reader :=
  if (r.entities.lookup name).isSome then r else { r with entities := (name, text) :: r.entities }

/-- Goes on at a place inside the document type. -/
def goToType (r : Reader) (part : TypePart) : Step := r.goTo (.doctype part)

/-- A token between the declarations of a document type. -/
def stepTypeOutside (r : Reader) (t : Token) : Step :=
  match t with
  | .tagEnd => r.goTo .text
  | .declarationStart => r.goToType (.keyword "")
  | .char '%' => r.goToType (.parameter "%")
  | .commentStart => r.goToType .comment
  | .quote mark => r.goToType (.literal mark)
  | .cdataStart => t.refuse
  | .cdataEnd => t.refuse
  | _ => r.goToType .outside

/-- A token of the keyword of a declaration. -/
def stepTypeKeyword (r : Reader) (word : String) (t : Token) : Step :=
  match t with
  | .char c =>
    if 'A' ≤ c && c ≤ 'Z' then r.goToType (.keyword (word.push c))
    else if isBlank c then
      if word = "ENTITY" then r.goToType .beforeEntity
      else if ["NOTATION", "ELEMENT", "ATTLIST"].contains word then r.goToType .skip
      else .error (.unknownDeclaration word)
    else t.refuse
  | _ => t.refuse

/-- A token of the name of an entity. -/
def stepTypeEntity (r : Reader) (name : String) (t : Token) : Step :=
  match t.nameChar? with
  | some c =>
    match growName name c with
    | .ok name => r.goToType (.entity name)
    | .error e => .error e
  | none => if t.isBlank then r.goToType (.beforeValue name) else t.refuse

/-- A token of the value of an entity. Numbered characters are replaced at once, references to
parameter entities too, references to general entities where the value is used. -/
def stepTypeValue (r : Reader) (name : String) (quote : Char) (text : String) (t : Token) : Step :=
  match t with
  | .quote mark =>
    if mark = quote then (r.declare name text).goToType .skip
    else r.goToType (.value name quote (text.push mark))
  | .ampersand => r.goToType (.valueAmp name quote text)
  | .char c =>
    if c = '&' then r.goToType (.valueAmp name quote text)
    else if c = '%' then r.goToType (.valueParameter name quote text "%")
    else if r.version.allows c then r.goToType (.value name quote (text.push c))
    else .error (.invalidCharacter c)
  | _ => t.refuse

/-- Whether a token ends a reference: in a quoted part of a declaration a semicolon is a character
like others. -/
def endsReference (t : Token) : Bool := t = .semicolon || t = .char ';'

/-- A token of a document type. -/
def stepDoctype (r : Reader) (part : TypePart) (t : Token) : Step :=
  match part with
  | .outside => r.stepTypeOutside t
  | .literal quote => r.goToType (if t = .quote quote then .outside else .literal quote)
  | .comment => r.goToType (if t = .commentEnd then .outside else .comment)
  | .keyword word => r.stepTypeKeyword word t
  | .beforeEntity =>
    match t with
    | .char c =>
      if isBlank c then r.goToType .beforeEntity
      else if c = '%' then r.goToType .beforeParameter
      else if isNameStart c then r.goToType (.entity c.toString)
      else t.refuse
    | _ => t.refuse
  | .beforeParameter =>
    match t with
    | .char c =>
      if isBlank c then r.goToType .beforeParameter
      else if isNameStart c then r.goToType (.entity ("%".push c))
      else t.refuse
    | _ => t.refuse
  | .entity name => r.stepTypeEntity name t
  | .beforeValue name =>
    match t with
    | .quote mark => r.goToType (.value name mark "")
    | .char c =>
      if isBlank c then r.goToType (.beforeValue name)
      else if c = 'S' || c = 'P' then (r.declare name "").goToType .skip
      else t.refuse
    | _ => t.refuse
  | .value name quote text => r.stepTypeValue name quote text t
  | .valueAmp name quote text =>
    match t with
    | .char c =>
      if c = '#' then r.goToType (.valueNumber name quote text "")
      else if r.version.allows c then r.goToType (.value name quote ((text.push '&').push c))
      else .error (.invalidCharacter c)
    | _ => t.refuse
  | .valueNumber name quote text digits =>
    if endsReference t then
      match numbered? r.version digits.toList with
      | some c => r.goToType (.value name quote (text.push c))
      | none => .error (.unknownReference digits)
    else
      match t with
      | .char c => r.goToType (.valueNumber name quote text (digits.push c))
      | _ => t.refuse
  | .valueParameter name quote text ref =>
    if endsReference t then
      match r.entities.lookup ref with
      | some found => r.goToType (.value name quote (text ++ found))
      | none => .error (.unknownReference ref)
    else
      match t.nameChar? with
      | some c => r.goToType (.valueParameter name quote text (ref.push c))
      | none => t.refuse
  | .parameter ref =>
    if endsReference t then
      match r.entities.lookup ref with
      | some found => .ok (r, .doctype .outside, found.toList)
      | none => .error (.unknownReference ref)
    else
      match t.nameChar? with
      | some c => r.goToType (.parameter (ref.push c))
      | none => t.refuse
  | .skip => r.goToType (if t = .tagEnd then .outside else .skip)

end SpriteScribe.Markup.Reader
