import StringOrigins.Xml.Lexeme

/-! # Content models

    What a document type says about the content of an element.  It is read
    for its form alone: no document is checked against it.  A group in
    parentheses joins its items with commas or with bars, but not both. -/

namespace StringOrigins.Xml.ContentModel

/-- How deep groups may lie. -/
def maxGroups : Nat := 256

/-- A model that is partly read: the connector of each open group, the
    innermost first, as far as one has been seen, and whether an item must
    come next. -/
structure Progress where
  connectors : List (Option Char)
  wantsItem : Bool
  deriving Repr

/-- The text behind a mark of repetition, if there is one. -/
def skipRepetition : List Char → List Char
  | [] => []
  | c :: text => if c = '?' ∨ c = '*' ∨ c = '+' then text else c :: text

/-- Reads an item: a name, or the start of a group. -/
def item (groups : List (Option Char)) (text : List Char) :
    Except Fault (Progress × List Char) :=
  match text with
  | '(' :: rest =>
    if groups.length < maxGroups then .ok (⟨none :: groups, true⟩, rest)
    else .error .nestedTooDeep
  | _ => (name text).map fun (_, rest) => (⟨groups, false⟩, skipRepetition rest)

/-- Reads what follows an item in a group: a connector, or the end of the group. -/
def afterItem (group : Option Char) (outer : List (Option Char)) (text : List Char) :
    Except Fault (Progress × List Char) :=
  match text with
  | ')' :: rest => .ok (⟨outer, false⟩, skipRepetition rest)
  | c :: rest =>
    if (c = ',' ∨ c = '|') ∧ group.getD c = c then .ok (⟨some c :: outer, true⟩, rest)
    else .error .faultyDoctype
  | [] => .error .faultyDoctype

/-- Reads on until every group has ended. -/
def groups (progress : Progress) (text : List Char) : Except Fault (List Char) :=
  match progress.connectors with
  | [] => .ok text
  | group :: outer =>
    let step :=
      if progress.wantsItem then item (group :: outer) (skipBlanks text)
      else afterItem group outer (skipBlanks text)
    match step with
    | .error fault => .error fault
    | .ok (progress, rest) =>
      if rest.length < text.length then groups progress rest else .error .faultyDoctype
  termination_by text.length

/-- Reads the names behind the mark of text in a group, up to its end. -/
def mixed (isFirst : Bool) (text : List Char) : Except Fault (List Char) :=
  match skipBlanks text with
  | ')' :: '*' :: rest => .ok rest
  | ')' :: rest => if isFirst then .ok rest else .error .faultyDoctype
  | '|' :: rest =>
    match name (skipBlanks rest) with
    | .error fault => .error fault
    | .ok (_, left) =>
      if left.length < text.length then mixed false left else .error .faultyDoctype
  | _ => .error .faultyDoctype
  termination_by text.length

/-- The text behind a content model. -/
def read (text : List Char) : Except Fault (List Char) :=
  match behind? "EMPTY".toList text, behind? "ANY".toList text, text with
  | some rest, _, _ => .ok rest
  | none, some rest, _ => .ok rest
  | none, none, '(' :: rest =>
    match behind? "#PCDATA".toList (skipBlanks rest) with
    | some rest => mixed true rest
    | none => groups ⟨[none], true⟩ rest
  | none, none, _ => .error .faultyDoctype

end StringOrigins.Xml.ContentModel
