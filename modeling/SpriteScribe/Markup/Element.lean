/-
The document tree: elements under local names, with what they contain in document order.
-/

namespace SpriteScribe.Markup

mutual

/-- An element: its local name, its attributes, each local name at most once, and its children. -/
inductive Element where
  | mk (name : String) (attributes : List (String × String)) (children : List Node)

/-- A child of an element. -/
inductive Node where
  | element (e : Element)
  | text (value : String)
  | cdata (value : String)
  | comment (value : String)
  | instruction (target : String) (data : Option String)

end

/-- The element inside a node, if it is one. -/
def Node.element? : Node → Option Element
  | .element e => some e
  | _ => none

/-- The characters that a node contributes to the text of its parent. -/
def Node.characters? : Node → Option String
  | .text s => some s
  | .cdata s => some s
  | _ => none

namespace Element

def name : Element → String
  | .mk n _ _ => n

def attributes : Element → List (String × String)
  | .mk _ as _ => as

def children : Element → List Node
  | .mk _ _ cs => cs

/-- The value of an attribute. -/
def attr? (e : Element) (key : String) : Option String := e.attributes.lookup key

/-- The children that are elements, in document order. -/
def childElements (e : Element) : List Element := e.children.filterMap Node.element?

/-- The text directly inside an element; that of its child elements is not part of it. -/
def text (e : Element) : String := String.join (e.children.filterMap Node.characters?)

end Element

end SpriteScribe.Markup
