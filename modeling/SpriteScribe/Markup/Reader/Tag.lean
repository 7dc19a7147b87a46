/-
Reading tags: names, attributes, declarations of name spaces, and the opening and closing of
elements.
-/
import SpriteScribe.Markup.Reader.Basic

namespace SpriteScribe.Markup.Reader

/-- Sets an attribute; of two with the same local name the later one counts. -/
def setAttribute (attributes : List (String × String)) (key value : String) :
    List (String × String) :=
  attributes.filter (·.1 != key) ++ [(key, value)]

/-- Whether the name space of a name is in scope. -/
def isBound (spaces : List String) (name : QName) : Bool := name.space.all (spaces.contains ·)

/-- Opens the element of a start tag, or adds it at once if it is empty. -/
def openElement (r : Reader) (head : TagHead) (empty : Bool) : Step :=
  let spaces := head.spaces ++ r.spaces
  match (head.name :: head.attributes.map Prod.fst).find? (!isBound spaces ·) with
  | some name => .error (.unboundSpace name)
  | none =>
    let attributes :=
      head.attributes.foldr (fun (name, value) as => setAttribute as name.name value) []
    if empty then (r.append (.element (.mk head.name.name attributes []))).goTo .text
    else { r with opened := ⟨head.name, attributes, spaces, []⟩ :: r.opened }.goTo .text

/-- Closes the innermost element, which has to have the given name. -/
def closeElement (r : Reader) (name : QName) : Step :=
  match r.opened with
  | [] => .error .unexpectedEnd
  | o :: os =>
    if o.name = name then
      let element := Element.mk o.name.name o.attributes o.children.reverse
      ({ r with opened := os }.append (.element element)).goTo .text
    else .error (.unmatchedClose o.name name)

/-- The name of a tag. Two name spaces are not for elements. -/
def tagName (text : String) : Except SyntaxError QName :=
  match QName.parse? text with
  | none => .error (.invalidName text)
  | some name =>
    if name.space = some xmlSpace || name.space = some xmlnsSpace then
      .error (.reservedSpace text)
    else .ok name

/-- The name of an attribute, which must be new to its tag. -/
def attributeName (head : TagHead) (text : String) : Except SyntaxError QName :=
  match QName.parse? text with
  | none => .error (.invalidName text)
  | some name =>
    if head.attributes.any (·.1 = name) then .error (.repeatedAttribute name) else .ok name

/-- How many attributes a tag can have. -/
def maxAttributes : Nat := 65536

/-- Adds a complete attribute to a tag. Declarations of name spaces are no attributes: one for a
shorthand may not be empty or touch a reserved shorthand, and the default may be none of the
reserved names. -/
def addAttribute (head : TagHead) (name : QName) (value : String) : Except SyntaxError TagHead :=
  if name.space = some xmlnsSpace then
    if name.name = xmlnsSpace || (name.name = xmlSpace && value ≠ xmlSpaceUri) || value.isEmpty then
      .error (.reservedSpace name.name)
    else .ok { head with spaces := name.name :: head.spaces }
  else if name.space = none && name.name = xmlnsSpace then
    if [xmlSpace, xmlnsSpace, xmlSpaceUri, xmlnsSpaceUri].contains value then
      .error (.reservedSpace value)
    else .ok head
  else if maxAttributes ≤ head.attributes.length then .error .tooManyAttributes
  else .ok { head with attributes := (name, value) :: head.attributes }

/-- The tokens that can follow a tag's name, a gap or a value alike. -/
def endTag (r : Reader) (head : TagHead) (t : Token) : Step :=
  match t with
  | .tagEnd => r.openElement head false
  | .emptyEnd => r.openElement head true
  | _ => if t.isBlank then r.goTo (.tag head .gap) else t.refuse

/-- A token of a start tag's name, or the first one behind it. -/
def stepOpenName (r : Reader) (text : String) (t : Token) : Step :=
  match t.nameChar? with
  | some c =>
    match growName text c with
    | .ok text => r.goTo (.openName text)
    | .error e => .error e
  | none =>
    match tagName text with
    | .ok name => r.endTag ⟨name, [], []⟩ t
    | .error e => .error e

/-- A token of a start tag behind its name. -/
def stepTag (r : Reader) (head : TagHead) (part : TagPart) (t : Token) : Step :=
  match part with
  | .gap =>
    match t with
    | .char c =>
      if isNameStart c then r.goTo (.tag head (.attrName c.toString)) else r.endTag head t
    | _ => r.endTag head t
  | .attrName text =>
    match t.nameChar? with
    | some c =>
      match growName text c with
      | .ok text => r.goTo (.tag head (.attrName text))
      | .error e => .error e
    | none =>
      if t = .equals || t.isBlank then
        match attributeName head text with
        | .ok name =>
          r.goTo (.tag head (if t = .equals then .value name .before else .equals name))
        | .error e => .error e
      else t.refuse
  | .equals name =>
    if t = .equals then r.goTo (.tag head (.value name .before))
    else if t.isBlank then r.goTo (.tag head (.equals name))
    else t.refuse
  | .value name part =>
    match r.stepValue part t with
    | .ok (.inl part) => r.goTo (.tag head (.value name part))
    | .ok (.inr value) =>
      match addAttribute head name value with
      | .ok head => r.goTo (.tag head .after)
      | .error e => .error e
    | .error e => .error e
  | .after => r.endTag head t

/-- A token between the name of a closing tag and its end. -/
def stepCloseGap (r : Reader) (name : QName) (t : Token) : Step :=
  if t = .tagEnd then r.closeElement name
  else if t.isBlank then r.goTo (.closeGap name)
  else t.refuse

/-- A token of a closing tag's name, or the first one behind it. -/
def stepCloseName (r : Reader) (text : String) (t : Token) : Step :=
  match t.nameChar? with
  | some c =>
    match growName text c with
    | .ok text => r.goTo (.closeName text)
    | .error e => .error e
  | none =>
    match tagName text with
    | .ok name => r.stepCloseGap name t
    | .error e => .error e

end SpriteScribe.Markup.Reader
