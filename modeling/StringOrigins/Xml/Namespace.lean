import StringOrigins.Xml.Lexeme
import StringOrigins.Xml.Uri

/-! # Namespaces

    A qualified name is a plain name with a qualifier in front, or without
    one.  A scope says which namespace a qualifier stands for; elements
    without a qualifier are in the default namespace, attributes without
    one are in none. -/

namespace StringOrigins.Xml

/-! ## Section 1: Qualified names -/

/-- A name in two parts. -/
structure QualifiedName where
  qualifier : Option (List Char)
  base : List Char
  deriving DecidableEq, Repr

/-- The two parts of a name. -/
def QualifiedName.ofName (name : List Char) : Except Fault QualifiedName :=
  match name.takeWhile (· ≠ ':'), name.dropWhile (· ≠ ':') with
  | base, [] => if isPlainName base then .ok ⟨none, base⟩ else .error .faultyQualifiedName
  | qualifier, _ :: base =>
    if isPlainName qualifier && isPlainName base then .ok ⟨some qualifier, base⟩
    else .error .faultyQualifiedName

/-! ## Section 2: Scopes -/

/-- The namespaces that qualifiers stand for, innermost declaration first.
    The empty qualifier stands for the default namespace, and an empty
    namespace for none. -/
abbrev Scope := List (List Char × List Char)

/-- The namespace that the qualifier `xml` always stands for. -/
def xmlNamespace : List Char := "http://www.w3.org/XML/1998/namespace".toList

/-- The namespace of declarations of namespaces, which no qualifier stands for. -/
def declarationNamespace : List Char := "http://www.w3.org/2000/xmlns/".toList

namespace Scope

/-- The namespace of names without a qualifier. -/
def default? (scope : Scope) : Option (List Char) :=
  (scope.lookup []).filter (· ≠ [])

/-- The namespace of names with a qualifier. -/
def qualified (scope : Scope) (qualifier : List Char) : Except Fault (List Char) :=
  if qualifier = "xml".toList then .ok xmlNamespace
  else match scope.lookup qualifier with
    | some space => .ok space
    | none => .error .unboundQualifier

/-- The namespace of an element. -/
def ofElement (scope : Scope) (name : QualifiedName) : Except Fault (Option (List Char)) :=
  match name.qualifier with
  | none => .ok scope.default?
  | some qualifier => (scope.qualified qualifier).map some

/-- The namespace of an attribute. -/
def ofAttribute (scope : Scope) (name : QualifiedName) : Except Fault (Option (List Char)) :=
  match name.qualifier with
  | none => .ok none
  | some qualifier => (scope.qualified qualifier).map some

end Scope

/-! ## Section 3: Declarations -/

/-- The qualifier that an attribute declares: the empty one for the default
    namespace, and none if the attribute is no declaration. -/
def declaredQualifier? (name : QualifiedName) : Option (List Char) :=
  if name.qualifier = some "xmlns".toList then some name.base
  else if name.qualifier = none ∧ name.base = "xmlns".toList then some []
  else none

/-- Whether a qualifier may be declared to stand for a namespace. -/
def mayDeclare (qualifier space : List Char) : Bool :=
  if qualifier = "xml".toList then space = xmlNamespace
  else space ≠ xmlNamespace && space ≠ declarationNamespace && qualifier ≠ "xmlns".toList &&
    (if space = [] then qualifier = [] else Uri.isReference space)

end StringOrigins.Xml
