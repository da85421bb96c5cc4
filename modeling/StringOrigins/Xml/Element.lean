import StringOrigins.Xml.Doctype.Basic
import StringOrigins.Xml.Namespace
import StringOrigins.Xml.Token

/-! # Elements

    An element as its start tag gives it: the namespace and the name, the
    attributes with their values, and the place of the tag.  `Tag.resolve`
    makes an element of a tag in a scope and gives the scope inside it.
    Defaults of a document type are declarations of namespaces, if they are
    that; other defaults are not applied, but have to make sense. -/

namespace StringOrigins.Xml

/-! ## Section 1: Elements and places -/

/-- A place in a text: the whole text, and the part of it from the place on. -/
structure Place where
  text : List Char
  left : List Char
  deriving DecidableEq, Repr

/-- The line of a place.  Lines count from one and end with a line feed. -/
def Place.line (place : Place) : Nat :=
  1 + (place.text.take (place.text.length - place.left.length)).count '\n'

/-- An attribute of an element. -/
structure Attribute where
  space : Option (List Char)
  base : List Char
  value : List Char
  deriving DecidableEq, Repr

/-- An element of a document. -/
structure Element where
  space : Option (List Char)
  base : List Char
  attributes : List Attribute
  /-- The place where the start tag ends. -/
  place : Place
  deriving DecidableEq, Repr

/-- The value of an attribute without a namespace. -/
def Element.value? (element : Element) (base : List Char) : Option (List Char) :=
  (element.attributes.find? fun a => a.space = none ∧ a.base = base).map (·.value)

/-! ## Section 2: Values -/

/-- The names and values of the attributes of an element, and the length of
    all replacements so far. -/
def Tag.values (doctype : Doctype) (element : List Char) (depth spent : Nat) :
    List Written → Except Fault (Nat × List (List Char × List Char))
  | [] => .ok (spent, [])
  | written :: more =>
    let isWords := doctype.typeOf element written.name != .text
    match attributeValue doctype.entities depth spent isWords written.value with
    | .error fault => .error fault
    | .ok (spent, value) =>
      match Tag.values doctype element depth spent more with
      | .error fault => .error fault
      | .ok (spent, values) => .ok (spent, (written.name, value) :: values)

/-! ## Section 3: Namespaces -/

/-- Splits the name of an attribute. -/
def qualify (given : List Char × List Char) : Except Fault (QualifiedName × List Char) :=
  (QualifiedName.ofName given.1).map (·, given.2)

/-- The declarations of namespaces among attributes. -/
def declarations (attributes : List (QualifiedName × List Char)) : Scope :=
  attributes.filterMap fun (name, value) => (declaredQualifier? name).map (·, value)

/-- The attributes that declare no namespace, in their namespaces. -/
def placed (scope : Scope) (attributes : List (QualifiedName × List Char)) :
    Except Fault (List Attribute) :=
  (attributes.filter fun (name, _) => (declaredQualifier? name).isNone).mapM
    fun (name, value) => (scope.ofAttribute name).map (⟨·, name.base, value⟩)

/-- The element of a start tag whose attributes have the given values, and
    the scope inside the element. -/
def Tag.resolve (doctype : Doctype) (scope : Scope) (name : List Char)
    (values : List (List Char × List Char)) (place : Place) :
    Except Fault (Element × Scope) := do
  let keys := values.map (·.1)
  if ¬ keys.Nodup then .error .repeatedAttribute
  else
    let given ← values.mapM qualify
    -- A default counts where its attribute is not given.
    let assumed := ((doctype.defaultsOf name).filter fun (key, _) => !keys.contains key).filterMap
      fun default => (qualify default).toOption
    if (declarations given).any fun (qualifier, space) => !mayDeclare qualifier space then
      .error .faultyNamespace
    else
      -- A tag lies in the scope of its own declarations.
      let scope := declarations given ++ declarations assumed ++ scope
      let name ← QualifiedName.ofName name
      let space ← scope.ofElement name
      let attributes ← placed scope given
      -- The other defaults are placed for their form alone.
      let unused ← placed scope assumed
      if ¬ ((attributes ++ unused).map fun a => (a.space, a.base)).Nodup then
        .error .repeatedAttribute
      else .ok (⟨space, name.base, attributes, place⟩, scope)

/-! ## Section 4: Identities -/

/-- The identities that a start tag gives to its element, behind those that
    are taken.  No two elements share one. -/
def Tag.identify (doctype : Doctype) (name : List Char) (taken : List (List Char)) :
    List (List Char × List Char) → Except Fault (List (List Char))
  | [] => .ok taken
  | (key, value) :: more =>
    if key = "xml:id".toList ∧ !isPlainName (skipBlanks (skipBlanks value).reverse).reverse then
      .error .nameExpected
    else if key = "xml:id".toList ∨ doctype.typeOf name key = .identity then
      if taken.contains value then .error .repeatedDeclaration
      else Tag.identify doctype name (value :: taken) more
    else Tag.identify doctype name taken more

end StringOrigins.Xml
