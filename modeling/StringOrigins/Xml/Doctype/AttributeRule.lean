import StringOrigins.Xml.Entity

/-! # Attribute rules

    What a document type says about an attribute: the type of its values
    and a default.  A default has to fit the type.  A value of any type but
    plain text is a list of words, in which only single spaces count. -/

namespace StringOrigins.Xml

/-- The type of the values of an attribute. -/
inductive ValueType where
  /-- Any text. -/
  | text
  /-- A name that no other element has in such an attribute. -/
  | identity
  /-- One name, or a list of names if `several`. -/
  | names (several : Bool)
  /-- One word, or a list of words if `several`. -/
  | words (several : Bool)
  deriving DecidableEq, Repr

/-- The rule for an attribute of an element. -/
structure AttributeRule where
  element : List Char
  key : List Char
  type : ValueType
  default : Option (List Char)
  deriving DecidableEq, Repr

namespace ValueType

/-! ## Section 1: Values of a type -/

/-- Whether a text is a name. -/
def isName : List Char → Bool
  | [] => false
  | c :: rest => (isNameStart c || c = ':') && rest.all isNameChar

/-- Whether a text is a word. -/
def isWord (s : List Char) : Bool := !s.isEmpty && s.all isNameChar

/-- The parts of a text between single spaces. -/
def parts : List Char → List (List Char)
  | [] => [[]]
  | c :: rest =>
    if c = ' ' then [] :: parts rest
    else match parts rest with
      | [] => [[c]]
      | part :: more => (c :: part) :: more

/-- Whether a value fits a type. -/
def admits (type : ValueType) (value : List Char) : Bool :=
  match type with
  | .text => true
  | .identity => isName value
  | .names several => if several then (parts value).all isName else isName value
  | .words several => if several then (parts value).all isWord else isWord value

/-! ## Section 2: Reading types -/

/-- The types that are named by a keyword.  A keyword comes before those
    that it starts with. -/
def keywords : List (List Char × ValueType) :=
  [("CDATA".toList, .text), ("IDREFS".toList, .names true), ("IDREF".toList, .names false),
   ("ID".toList, .identity), ("ENTITIES".toList, .names true), ("ENTITY".toList, .names false),
   ("NMTOKENS".toList, .words true), ("NMTOKEN".toList, .words false)]

/-- Reads the choices of a list in parentheses, behind those that are given,
    with a reader for each.  No choice may be given twice. -/
def choices (one : List Char → Except Fault (List Char × List Char))
    (seen : List (List Char)) (text : List Char) : Except Fault (List Char) :=
  match one (skipBlanks text) with
  | .error fault => .error fault
  | .ok (choice, rest) =>
    if seen.contains choice then .error .repeatedDeclaration
    else match skipBlanks rest with
      | ')' :: left => .ok left
      | '|' :: left =>
        if left.length < text.length then choices one (choice :: seen) left
        else .error .faultyDoctype
      | _ => .error .faultyDoctype
  termination_by text.length

/-- Reads a type. -/
def read (text : List Char) : Except Fault (ValueType × List Char) :=
  match keywords.findSome? fun (keyword, type) => (behind? keyword text).map (type, ·) with
  | some found => .ok found
  | none =>
    match behind? "NOTATION".toList text, text with
    | some rest, _ => do
      let rest ← blanks rest
      let rest ← behind ['('] rest
      let rest ← choices name [] rest
      .ok (.names false, rest)
    | none, '(' :: rest => do
      let rest ← choices word [] rest
      .ok (.words true, rest)
    | none, _ => .error .faultyDoctype

end ValueType

namespace AttributeRule

/-! ## Section 3: Reading rules -/

/-- Reads what stands for a default: a keyword, or a value. -/
def readDefault (entities : Entities) (type : ValueType) (text : List Char) :
    Except Fault (Option (List Char) × List Char) :=
  match behind? "#REQUIRED".toList text, behind? "#IMPLIED".toList text with
  | some rest, _ => .ok (none, rest)
  | none, some rest => .ok (none, rest)
  | none, none => do
    let text ←
      match behind? "#FIXED".toList text with
      | some rest => blanks rest
      | none => .ok text
    let (written, rest) ← literal text
    -- A default is a value like any other, and has to fit its type.
    let (_, value) ← attributeValue entities maxEntityDepth 0 (type != .text) written
    if type.admits value then .ok (some value, rest) else .error .faultyDoctype

/-- Reads the rule for one attribute of an element, from its name on. -/
def read (entities : Entities) (element text : List Char) :
    Except Fault (AttributeRule × List Char) := do
  let (key, text) ← name text
  let text ← blanks text
  let (type, text) ← ValueType.read text
  let text ← blanks text
  let (default, text) ← readDefault entities type text
  .ok (⟨element, key, type, default⟩, text)

/-- Reads the rules for attributes of an element, behind those that have
    been read, up to the end of the declaration. -/
def readAll (entities : Entities) (element : List Char) (rules : List AttributeRule)
    (text : List Char) : Except Fault (List AttributeRule × List Char) :=
  match skipBlanks text with
  | '>' :: rest => .ok (rules.reverse, rest)
  | ahead =>
    match blanks text with
    | .error fault => .error fault
    | .ok _ =>
      match read entities element ahead with
      | .error fault => .error fault
      | .ok (rule, rest) =>
        if rest.length < text.length then readAll entities element (rule :: rules) rest
        else .error .faultyDoctype
  termination_by text.length

end AttributeRule

end StringOrigins.Xml
