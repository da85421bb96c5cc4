/-! # JSON values

    The values that a source map is written as: texts, and objects whose
    members have an order.  Before a value is printed, the members of all
    its objects are put in the order of their names. -/

namespace StringOrigins

/-- Whether a text comes before another one.  Where the two differ first, it
    has the character with the lower code point, or it ends. -/
def Precedes (first second : List Char) : Prop :=
  List.Lex (fun c d => c.toNat < d.toNat) first second

instance (first second : List Char) : Decidable (Precedes first second) :=
  inferInstanceAs (Decidable (List.Lex (fun c d => c.toNat < d.toNat) first second))

/-- A JSON value made of texts and objects. -/
inductive Json where
  | text (s : List Char)
  | object (members : List (List Char × Json))
  deriving Repr

namespace Json

/-- Whether two members are in order: the name of the second one does not
    come before that of the first. -/
def inOrder (first second : List Char × Json) : Bool := !decide (Precedes second.1 first.1)

mutual

/-- A value with the members of every object in the order of their names. -/
def sorted : Json → Json
  | .text s => .text s
  | .object members => .object ((sortedValues members).mergeSort inOrder)

/-- Members with their values in order, but not yet in order themselves. -/
def sortedValues : List (List Char × Json) → List (List Char × Json)
  | [] => []
  | (name, value) :: more => (name, value.sorted) :: sortedValues more

end

end Json

end StringOrigins
