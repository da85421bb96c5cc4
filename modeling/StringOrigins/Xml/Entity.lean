import StringOrigins.Text.Line
import StringOrigins.Xml.Reference

/-! # Entities

    An entity is a piece of text under a name.  Its replacement text is
    what its declaration gives, with references to characters replaced
    once.  A reference to the entity is replaced in turn: here in the
    values of attributes, elsewhere in content.  How deep entities may
    refer to each other and how long all replacements may be is bounded,
    so that loops end. -/

namespace StringOrigins.Xml

/-! ## Section 1: Declared entities -/

/-- What a name of an entity stands for. -/
inductive Entity where
  /-- A replacement text. -/
  | inner (text : List Char)
  /-- Something outside the document, which is never read. -/
  | outer
  deriving DecidableEq, Repr

/-- Entities by name. -/
abbrev Entities := List (List Char × Entity)

namespace Entities

/-- The replacement text of an entity. -/
def replacement (entities : Entities) (name : List Char) : Except Fault (List Char) :=
  match entities.lookup name with
  | some (.inner text) => .ok text
  | some .outer => .error .outerEntity
  | none => .error .undeclaredEntity

/-- The entities with one more.  The first declaration of a name counts. -/
def declare (entities : Entities) (name : List Char) (entity : Entity) : Entities :=
  if (entities.lookup name).isSome then entities else (name, entity) :: entities

@[simp] theorem lookup_declare_self (entities : Entities) (name : List Char) (entity : Entity) :
    (entities.declare name entity).lookup name = some ((entities.lookup name).getD entity) := by
  unfold declare
  split
  · rename_i h
    obtain ⟨found, hf⟩ := Option.isSome_iff_exists.1 h
    simp [hf]
  · rename_i h
    simp only [Bool.not_eq_true, Option.isSome_eq_false_iff, Option.isNone_iff_eq_none] at h
    simp [h]

end Entities

/-- The replacement text that a literal of a declaration gives, behind a
    part that is done and held in reverse.  References to entities are kept
    as they are, if they are well formed. -/
def replacementFrom (done text : List Char) : Except Fault (List Char) :=
  match text with
  | [] => .ok done.reverse
  | '%' :: _ => .error .outerEntity
  | '&' :: '#' :: rest =>
    match h : Reference.numbered rest with
    | .ok (.character c, left) =>
      have := Reference.length_of_numbered h
      replacementFrom (c :: done) left
    | .ok (.entity _, _) => .error .faultyReference
    | .error fault => .error fault
  | '&' :: rest =>
    match name rest with
    | .ok (_, ';' :: _) => replacementFrom ('&' :: done) rest
    | _ => .error .faultyReference
  | c :: rest => replacementFrom (c :: done) rest
  termination_by text.length

/-! ## Section 2: Bounds -/

/-- How deep entities may refer to each other. -/
def maxEntityDepth : Nat := 20

/-- How long all replacements together may be. -/
def maxExpansion : Nat := 1000000

/-- What a reference adds to the length of its replacement. -/
def referenceCost : Nat := 20

/-- The length of all replacements after one more. -/
def spend (spent : Nat) (text : List Char) : Except Fault Nat :=
  let spent := spent + text.length + referenceCost
  if spent ≤ maxExpansion then .ok spent else .error .expansionTooLong

/-! ## Section 3: Values of attributes -/

/-- Replaces the references in the value of an attribute and its blanks by
    spaces, behind a part that is done and held in reverse.  Gives the
    length of all replacements so far and the value, in reverse. -/
def expandFrom (entities : Entities) (depth spent : Nat) (done text : List Char) :
    Except Fault (Nat × List Char) :=
  match text with
  | [] => .ok (spent, done)
  | '<' :: _ => .error .markupInAttribute
  | '&' :: rest =>
    match h : Reference.read rest with
    | .error fault => .error fault
    | .ok (.character c, left) =>
      have := Reference.length_of_read h
      expandFrom entities depth spent (c :: done) left
    | .ok (.entity name, left) =>
      have := Reference.length_of_read h
      match depth with
      | 0 => .error .entityTooDeep
      | below + 1 =>
        match entities.replacement name with
        | .error fault => .error fault
        | .ok inner =>
          match spend spent inner with
          | .error fault => .error fault
          | .ok spent =>
            -- The replacement goes behind what is done, then comes the rest.
            match expandFrom entities below spent done inner with
            | .error fault => .error fault
            | .ok (spent, done) => expandFrom entities (below + 1) spent done left
  | c :: rest => expandFrom entities depth spent ((if isBlank c then ' ' else c) :: done) rest
  termination_by (depth, text.length)

/-- A text without spaces at its ends and with single spaces inside. -/
def squeeze : List Char → List Char
  | [] => []
  | [c] => if c = ' ' then [] else [c]
  | c :: d :: rest => if c = ' ' ∧ d = ' ' then squeeze (d :: rest) else c :: squeeze (d :: rest)

/-- The spaces of a value whose type is a list of words. -/
def collapse (value : List Char) : List Char := squeeze (value.dropWhile (· = ' '))

/-- The value that an attribute has by what stands between its quotes, and
    the length of all replacements so far. -/
def attributeValue (entities : Entities) (depth spent : Nat) (isWords : Bool)
    (written : List Char) : Except Fault (Nat × List Char) :=
  match expandFrom entities depth spent [] (Text.unifyLineEnds written) with
  | .error fault => .error fault
  | .ok (spent, value) =>
    .ok (spent, if isWords then collapse value.reverse else value.reverse)

end StringOrigins.Xml
