/-! # Kinds of string resources

    A string resource is a single text, a text with plural forms, or an
    array of texts.  The id table and the strings files have a word each
    for every kind. -/

namespace StringOrigins

/-- A kind of string resource. -/
inductive ResourceKind where
  | string
  | plurals
  | array
  deriving DecidableEq, Repr

namespace ResourceKind

/-- The kinds, in the order in which a strings file is read for them. -/
def all : List ResourceKind := [.string, .plurals, .array]

/-- The word for a kind in an id table. -/
def typeName : ResourceKind → List Char
  | .string => "string".toList
  | .plurals => "plurals".toList
  | .array => "array".toList

/-- The tag of the elements that define resources of a kind. -/
def tag : ResourceKind → List Char
  | .string => "string".toList
  | .plurals => "plurals".toList
  | .array => "string-array".toList

/-- Whether a word of an id table names a kind of string resource. -/
def isTypeName (word : List Char) : Bool := all.any fun kind => kind.typeName == word

@[simp] theorem mem_all (kind : ResourceKind) : kind ∈ all := by cases kind <;> decide

/-- Different kinds have different tags. -/
theorem tag_injective {a b : ResourceKind} (h : a.tag = b.tag) : a = b := by
  revert h
  cases a <;> cases b <;> decide

end ResourceKind

end StringOrigins
