import StringOrigins.Xml.Element
import StringOrigins.Xml.Encoding

/-! # Documents

    A document is read from octets into the list of its elements, in the
    order of their start tags.  It has one root element; every element ends
    in the document or entity in which it starts.  A reference to an entity
    in content is followed by reading its replacement text in its place.
    Any fault refuses the whole document. -/

namespace StringOrigins.Xml

/-! ## Section 1: Building -/

/-- An element whose end tag is still to come. -/
structure Unfinished where
  name : List Char
  /-- The scope inside the element. -/
  scope : Scope
  deriving Repr

/-- A document that is partly read. -/
structure Builder where
  /-- The elements around the text ahead, innermost first. -/
  unfinished : List Unfinished
  /-- The elements that have started, in reverse. -/
  elements : List Element
  /-- The identities of these elements. -/
  identities : List (List Char)
  /-- The length of all replacements so far. -/
  spent : Nat
  deriving Repr

namespace Builder

/-- The builder of a document of which nothing has been read. -/
def initial : Builder := ⟨[], [], [], 0⟩

/-- How many elements may lie around one another. -/
def maxElementDepth : Nat := 256

/-- The scope of the text ahead. -/
def scope (builder : Builder) : Scope :=
  match builder.unfinished with
  | [] => []
  | inner :: _ => inner.scope

/-- Character data, which stands inside the root element only. -/
def data (builder : Builder) : Except Fault Builder :=
  if builder.unfinished.isEmpty then .error .faultyRoot else .ok builder

/-- A start tag, which ends at a place.  The depth is the greatest outside of
    entities, and one less is left for the values of attributes. -/
def start (builder : Builder) (doctype : Doctype) (depth : Nat) (tag : Tag) (place : Place) :
    Except Fault Builder :=
  if builder.unfinished.isEmpty && !builder.elements.isEmpty then .error .faultyRoot
  else if maxElementDepth ≤ builder.unfinished.length then .error .nestedTooDeep
  else do
    let (spent, values) ←
      Tag.values doctype tag.name (depth - 1) builder.spent tag.attributes
    let (element, scope) ← Tag.resolve doctype builder.scope tag.name values place
    -- Inside an entity, identities are not taken.
    let identities ←
      if depth = maxEntityDepth then Tag.identify doctype tag.name builder.identities values
      else .ok builder.identities
    let unfinished :=
      if tag.isEmpty then builder.unfinished else ⟨tag.name, scope⟩ :: builder.unfinished
    .ok ⟨unfinished, element :: builder.elements, identities, spent⟩

/-- An end tag.  The elements below the floor cannot end here. -/
def finish (builder : Builder) (floor : Nat) (name : List Char) : Except Fault Builder :=
  match builder.unfinished with
  | [] => .error .mismatchedTag
  | inner :: outer =>
    if outer.length < floor then .error .unbalancedEntity
    else if inner.name = name then .ok { builder with unfinished := outer }
    else .error .mismatchedTag

end Builder

/-! ## Section 2: Content -/

/-- Reads content to its end.  `whole` is the text of the document or the
    entity that is read, `floor` is how many elements lie around all of it,
    and `depth` bounds how deep entities may refer to each other. -/
def content (doctype : Doctype) (depth floor : Nat) (whole text : List Char)
    (builder : Builder) : Except Fault Builder :=
  match text with
  | [] => if builder.unfinished.length = floor then .ok builder else .error .unbalancedEntity
  | c :: ahead =>
    match h : Token.next c ahead with
    | .error fault => .error fault
    | .ok (token, rest) =>
      have := Token.length_of_next h
      match token with
      | .blank => content doctype depth floor whole rest builder
      | .aside => content doctype depth floor whole rest builder
      | .data =>
        match builder.data with
        | .error fault => .error fault
        | .ok builder => content doctype depth floor whole rest builder
      | .opening tag left =>
        match builder.start doctype depth tag ⟨whole, left⟩ with
        | .error fault => .error fault
        | .ok builder => content doctype depth floor whole rest builder
      | .closing name =>
        match builder.finish floor name with
        | .error fault => .error fault
        | .ok builder => content doctype depth floor whole rest builder
      | .entity name =>
        match builder.data, depth with
        | .error fault, _ => .error fault
        | .ok _, 0 => .error .entityTooDeep
        | .ok builder, below + 1 =>
          match doctype.entities.replacement name with
          | .error fault => .error fault
          | .ok inner =>
            match spend builder.spent inner with
            | .error fault => .error fault
            | .ok spent =>
              -- The replacement is read whole, then the text behind the reference.
              match content doctype below builder.unfinished.length inner inner
                  { builder with spent := spent } with
              | .error fault => .error fault
              | .ok builder => content doctype (below + 1) floor whole rest builder
  termination_by (depth, text.length)

/-! ## Section 3: Documents -/

/-- Reads what stands in front of the root element: asides and an optional
    document type.  Gives also the text behind the document type, or the
    text of the root element if there is none. -/
def prolog (text : List Char) : Except Fault (Doctype × List Char) :=
  match behind? "<!DOCTYPE".toList text with
  | some rest => Doctype.read rest
  | none =>
    match text with
    | [] => .ok (.empty, [])
    | c :: ahead =>
      match h : Token.next c ahead with
      | .ok (.blank, rest) =>
        have := Token.length_of_next h
        prolog rest
      | .ok (.aside, rest) =>
        have := Token.length_of_next h
        prolog rest
      | _ => .ok (.empty, c :: ahead)
  termination_by text.length

/-- The elements of a document, from its text. -/
def elementsOfText (text : List Char) : Except Fault (List Element) := do
  let (_, body) ← Declaration.read text
  let (doctype, body) ← prolog body
  let builder ← content doctype maxEntityDepth 0 text body .initial
  if builder.elements.isEmpty then .error .faultyRoot else .ok builder.elements.reverse

/-- The elements of a document, from its octets. -/
def elements (octets : Utf8.Octets) : Except Fault (List Element) :=
  match Encoding.decode octets with
  | .error fault => .error fault
  | .ok text => elementsOfText text

end StringOrigins.Xml
