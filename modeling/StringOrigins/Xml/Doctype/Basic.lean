import StringOrigins.Xml.Aside
import StringOrigins.Xml.Doctype.AttributeRule
import StringOrigins.Xml.Doctype.ContentModel

/-! # Document types

    The declarations inside a document that matter to its content: entities
    and rules for attributes.  All other declarations are read for their
    form.  Nothing outside the document is ever read, and a reference to a
    parameter entity is refused. -/

namespace StringOrigins.Xml

/-- What a document type declares. -/
structure Doctype where
  entities : Entities
  /-- At most one rule for each attribute of an element. -/
  rules : List AttributeRule
  /-- The elements whose content is declared. -/
  elements : List (List Char)
  notations : List (List Char)
  deriving Repr

namespace Doctype

/-- The document type without declarations. -/
def empty : Doctype := ⟨[], [], [], []⟩

/-! ## Section 1: Looking up rules -/

/-- The rule for an attribute of an element. -/
def rule? (doctype : Doctype) (element key : List Char) : Option AttributeRule :=
  doctype.rules.find? fun rule => rule.element = element ∧ rule.key = key

/-- The rules for the attributes of an element. -/
def rulesOf (doctype : Doctype) (element : List Char) : List AttributeRule :=
  doctype.rules.filter fun rule => rule.element = element

/-- The type of an attribute of an element. -/
def typeOf (doctype : Doctype) (element key : List Char) : ValueType :=
  ((doctype.rule? element key).map (·.type)).getD .text

/-- The defaults of the attributes of an element. -/
def defaultsOf (doctype : Doctype) (element : List Char) : List (List Char × List Char) :=
  (doctype.rulesOf element).filterMap fun rule => rule.default.map (rule.key, ·)

/-- The document type with one more rule.  The first rule for an attribute
    counts.  An element has one attribute of identity at most, and
    `xml:id` is always one. -/
def addRule (doctype : Doctype) (rule : AttributeRule) : Except Fault Doctype :=
  if rule.key = "xml:id".toList ∧ rule.type ≠ .identity then .error .faultyDoctype
  else if (doctype.rule? rule.element rule.key).isSome then .ok doctype
  else if rule.type = .identity ∧
      (doctype.rulesOf rule.element).any (fun other => other.type = .identity) then
    .error .repeatedDeclaration
  else .ok { doctype with rules := doctype.rules ++ [rule] }

/-! ## Section 2: Identifiers of external texts -/

/-- The further characters of public identifiers. -/
def publicMarks : List Char := " \n\r-'()+,./:=?;!*#@$_%".toList

/-- Whether a text may be a public identifier. -/
def isPublic (s : List Char) : Bool := s.all fun c => c.isAlphanum || publicMarks.contains c

/-- Reads a public identifier. -/
def publicLiteral (text : List Char) : Except Fault (List Char) := do
  let (found, rest) ← literal text
  if isPublic found then .ok rest else .error .faultyDoctype

/-- Reads the identifier of an external text, if there is one: where the
    text is, and the text behind the identifier. -/
def external (text : List Char) : Except Fault (Option (List Char) × List Char) :=
  match behind? "SYSTEM".toList text, behind? "PUBLIC".toList text with
  | some rest, _ => do
    let rest ← blanks rest
    let (place, rest) ← literal rest
    .ok (some place, rest)
  | none, some rest => do
    let rest ← blanks rest
    let rest ← publicLiteral rest
    let rest ← blanks rest
    let (place, rest) ← literal rest
    .ok (some place, rest)
  | none, none => .ok (none, text)

/-! ## Section 3: Declarations -/

/-- Whether a replacement text is one that a fixed name may be declared
    with: the character itself, unless it starts markup, or a reference to it. -/
def isFixedReplacement (c : Char) (text : List Char) : Bool :=
  (text = [c] && (c = '>' || c = '\'' || c = '"')) ||
    text = ['&', '#'] ++ (toString c.toNat).toList ++ [';'] ||
    (['&', '#', 'x'].isPrefixOf text &&
      text.map Char.toLower = ['&', '#', 'x'] ++ Hex.lowerPadded 2 c.toNat ++ [';'])

/-- Reads the value of an entity: a replacement text, or something outside. -/
def entityValue (isParameter : Bool) (text : List Char) : Except Fault (Entity × List Char) := do
  let (place, rest) ← external text
  match place with
  | some place =>
    if place.contains '#' then .error .faultyDoctype
    else if isParameter then .ok (.outer, rest)
    else match behind? "NDATA".toList (skipBlanks rest) with
      | none => .ok (.outer, rest)
      | some more => do
        let _ ← blanks rest
        let (_, more) ← name (← blanks more)
        .ok (.outer, more)
  | none => do
    let (written, rest) ← literal text
    let text ← replacementFrom [] (Text.unifyLineEnds written)
    .ok (.inner text, rest)

/-- The document type with one more entity. -/
def addEntity (doctype : Doctype) (name : List Char) (entity : Entity) : Except Fault Doctype :=
  match Reference.fixed.lookup name, entity with
  | none, _ => .ok { doctype with entities := doctype.entities.declare name entity }
  | some c, .inner text =>
    if isFixedReplacement c text then .ok doctype else .error .repeatedDeclaration
  | some _, .outer => .error .repeatedDeclaration

/-- Reads the declaration of an entity behind its keyword. -/
def entity (doctype : Doctype) (text : List Char) : Except Fault (Doctype × List Char) := do
  let text ← blanks text
  match text with
  | '%' :: rest =>
    let (_, rest) ← plainName (← blanks rest)
    let (_, rest) ← entityValue true (← blanks rest)
    .ok (doctype, ← behind ['>'] (skipBlanks rest))
  | _ =>
    let (found, rest) ← plainName text
    let (entity, rest) ← entityValue false (← blanks rest)
    let doctype ← doctype.addEntity found entity
    .ok (doctype, ← behind ['>'] (skipBlanks rest))

/-- Reads the declaration of an element behind its keyword. -/
def element (doctype : Doctype) (text : List Char) : Except Fault (Doctype × List Char) := do
  let (found, rest) ← name (← blanks text)
  let rest ← ContentModel.read (← blanks rest)
  let rest ← behind ['>'] (skipBlanks rest)
  if doctype.elements.contains found then .error .repeatedDeclaration
  else .ok ({ doctype with elements := found :: doctype.elements }, rest)

/-- Reads the declaration of attributes behind its keyword. -/
def attributes (doctype : Doctype) (text : List Char) : Except Fault (Doctype × List Char) := do
  let (found, rest) ← name (← blanks text)
  let (rules, rest) ← AttributeRule.readAll doctype.entities found [] rest
  .ok (← rules.foldlM addRule doctype, rest)

/-- Reads the declaration of a notation behind its keyword. -/
def notated (doctype : Doctype) (text : List Char) : Except Fault (Doctype × List Char) := do
  let (found, rest) ← plainName (← blanks text)
  let rest ← blanks rest
  let rest ←
    match behind? "PUBLIC".toList rest with
    | some more => do
      let more ← publicLiteral (← blanks more)
      -- A public identifier may stand alone here.
      match blanks more with
      | .error _ => .ok more
      | .ok ahead => .ok (((literal ahead).toOption.map (·.2)).getD more)
    | none => do
      match ← external rest with
      | (some _, more) => .ok more
      | (none, _) => .error .faultyDoctype
  let rest ← behind ['>'] (skipBlanks rest)
  if doctype.notations.contains found then .error .repeatedDeclaration
  else .ok ({ doctype with notations := found :: doctype.notations }, rest)

/-! ## Section 4: The whole -/

/-- Reads one declaration or aside. -/
def declaration (doctype : Doctype) (text : List Char) : Except Fault (Doctype × List Char) :=
  let readers : List (List Char × (List Char → Except Fault (Doctype × List Char))) :=
    [("<!ENTITY".toList, doctype.entity), ("<!ELEMENT".toList, doctype.element),
     ("<!ATTLIST".toList, doctype.attributes), ("<!NOTATION".toList, doctype.notated),
     ("<!--".toList, fun rest => (comment rest).map (doctype, ·)),
     ("<?".toList, fun rest => (instruction rest).map (doctype, ·))]
  match readers.findSome? fun (keyword, reader) => (behind? keyword text).map reader with
  | some result => result
  | none => .error .faultyDoctype

/-- Reads declarations up to the closing bracket. -/
def declarations (doctype : Doctype) (text : List Char) : Except Fault (Doctype × List Char) :=
  match skipBlanks text with
  | ']' :: rest => .ok (doctype, rest)
  | '%' :: _ => .error .outerEntity
  | ahead =>
    match doctype.declaration ahead with
    | .error fault => .error fault
    | .ok (doctype, rest) =>
      if rest.length < text.length then declarations doctype rest else .error .faultyDoctype
  termination_by text.length

/-- Reads a document type behind its keyword. -/
def read (text : List Char) : Except Fault (Doctype × List Char) := do
  let (_, text) ← name (← blanks text)
  let (_, text) ← external (skipBlanks text)
  match skipBlanks text with
  | '[' :: rest =>
    let (doctype, rest) ← declarations empty rest
    .ok (doctype, ← behind ['>'] (skipBlanks rest))
  | '>' :: rest => .ok (empty, rest)
  | _ => .error .faultyDoctype

end Doctype

end StringOrigins.Xml
