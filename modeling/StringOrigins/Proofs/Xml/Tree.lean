import StringOrigins.Xml.Aside
import StringOrigins.Xml.Element

/-! # Trees of elements

    A document before it is written: elements in one another, with text,
    sections, comments and instructions between their tags.  Every part
    carries the rules of its own form, so that each tree can be written.
    `Content.outlines` says which elements a tree has: their namespaces by
    the declarations around them, their names and their attributes. -/

namespace StringOrigins.Xml

/-! ## Section 1: What elements look like -/

/-- An element wherever it stands: its namespace, its name, and the names and
    values of its attributes without a namespace. -/
structure Outline where
  space : Option (List Char)
  name : List Char
  attributes : List (List Char × List Char)
  deriving DecidableEq, Repr

/-- An element of a document without its place. -/
def Element.outline (element : Element) : Outline :=
  ⟨element.space, element.base,
    (element.attributes.filter fun a => a.space = none).map fun a => (a.base, a.value)⟩

/-- The value of an attribute is found in the outline. -/
theorem Element.value?_eq_lookup (element : Element) (base : List Char) :
    element.value? base = element.outline.attributes.lookup base := by
  unfold Element.value? Element.outline
  dsimp only
  -- Along the attributes: one with a namespace is passed on both sides.
  induction element.attributes with
  | nil => rfl
  | cons a rest ih =>
    by_cases placed : a.space = none
    · by_cases same : a.base = base
      · simp [placed, same]
      · have other : (base == a.base) = false := beq_eq_false_iff_ne.2 (Ne.symm same)
        simp only [List.find?_cons, placed, same, and_false, decide_false, List.filter_cons,
          decide_true, if_true, List.map_cons, List.lookup_cons, other]
        exact ih
    · simp only [List.find?_cons, placed, false_and, decide_false, List.filter_cons]
      exact ih

/-! ## Section 2: Parts of documents -/

/-- Whether a document may hold all characters of a text. -/
def areAllowed (s : List Char) : Bool := s.all fun c => isAllowed c.toNat

namespace Tree

/-- The attribute that declares the default namespace. -/
def defaultKey : List Char := "xmlns".toList

/-- What a start tag says: the name of the element and its attributes.  An
    attribute `xmlns` is the declaration of a default namespace, or takes the
    one around the element back if its value is empty. -/
structure Label where
  name : List Char
  /-- Names and values, in the order in which they are written. -/
  attributes : List (List Char × List Char)
  isName : isPlainName name = true
  areNames : (attributes.all fun a => isPlainName a.1) = true
  areDistinct : (attributes.map (·.1)).Nodup
  areAllowed : (attributes.all fun a => Xml.areAllowed a.2) = true
  mayDeclare : (attributes.all fun a => a.1 ≠ defaultKey || Xml.mayDeclare [] a.2) = true

/-- A run of characters. -/
structure Run where
  text : List Char
  isAllowed : areAllowed text = true

/-- A section of characters, without the mark that ends it. -/
structure Section extends Run where
  isUnended : ¬ "]]>".toList <:+: text

/-- A comment.  Two hyphens would end it, also if the first one is its own
    last character. -/
structure Comment extends Run where
  isUnended : ¬ "--".toList <:+: text
  endsOtherwise : text.getLast? ≠ some '-'

/-- An instruction: its target, and the text behind the target. -/
structure Instruction extends Run where
  target : List Char
  isName : isPlainName target = true
  isUnreserved : isReserved target = false
  isUnended : ¬ "?>".toList <:+: text

/-- What stands between two tags: a part and what follows it, up to the end. -/
inductive Content where
  | none
  | element (label : Label) (inside rest : Content)
  | text (part : Run) (rest : Content)
  | characters (part : Section) (rest : Content)
  | comment (part : Comment) (rest : Content)
  | instruction (part : Instruction) (rest : Content)

/-! ## Section 3: The elements of a tree -/

/-- The default namespace inside an element, by the one around it. -/
def Label.space (label : Label) (outer : Option (List Char)) : Option (List Char) :=
  match label.attributes.lookup defaultKey with
  | none => outer
  | some space => if space = [] then none else some space

/-- The element of a label in the default namespace around it. -/
def Label.outline (label : Label) (outer : Option (List Char)) : Outline :=
  ⟨label.space outer, label.name, label.attributes.filter fun a => a.1 ≠ defaultKey⟩

namespace Content

/-- How many elements lie around one another. -/
def depth : Content → Nat
  | none => 0
  | element _ inside rest => max (inside.depth + 1) rest.depth
  | text _ rest => rest.depth
  | characters _ rest => rest.depth
  | comment _ rest => rest.depth
  | instruction _ rest => rest.depth

/-- The elements in a default namespace, in the order of their start tags. -/
def outlines (outer : Option (List Char)) : Content → List Outline
  | none => []
  | element label inside rest =>
    label.outline outer :: (inside.outlines (label.space outer) ++ rest.outlines outer)
  | text _ rest => rest.outlines outer
  | characters _ rest => rest.outlines outer
  | comment _ rest => rest.outlines outer
  | instruction _ rest => rest.outlines outer

end Content

/-- A document: one element with all else inside of it, not too deep. -/
structure Document where
  root : Label
  inside : Content
  isShallow : (Content.element root inside .none).depth ≤ 256

/-- The root element with nothing beside it. -/
def Document.content (document : Document) : Content :=
  .element document.root document.inside .none

/-- The elements of a document.  Nothing is declared around the root. -/
def Document.outlines (document : Document) : List Outline := document.content.outlines none

end Tree

end StringOrigins.Xml
