/-! # Paths

    POSIX paths in normal form.  A path has an anchor and parts.  Empty
    parts and single dots are dropped when a text is read, parent parts
    (two dots) are kept, and exactly two leading slashes are an anchor of
    their own.  The invariant on the parts is a field of the type, so a
    path is determined by what it prints. -/

namespace StringOrigins

/-! ## Section 1: The type -/

/-- Where a path starts. -/
inductive Anchor where
  /-- The path is relative. -/
  | here
  /-- One leading slash, or more than two. -/
  | root
  /-- Exactly two leading slashes. -/
  | doubleRoot
  deriving DecidableEq, Repr

/-- The slashes in front of the parts. -/
def Anchor.chars : Anchor → List Char
  | .here => []
  | .root => ['/']
  | .doubleRoot => ['/', '/']

/-- What a part of a path may be: some text without a slash, other than one dot. -/
def IsPart (s : List Char) : Prop := s ≠ [] ∧ s ≠ ['.'] ∧ '/' ∉ s

instance (s : List Char) : Decidable (IsPart s) :=
  inferInstanceAs (Decidable (_ ∧ _ ∧ _))

/-- A path in normal form. -/
@[ext] structure Path where
  anchor : Anchor
  parts : List (List Char)
  isPart_of_mem : ∀ s ∈ parts, IsPart s := by decide
  deriving DecidableEq

namespace Path

/-! ## Section 2: Reading -/

/-- The pieces of a text between its slashes.  There is always at least one. -/
def split : List Char → List (List Char)
  | [] => [[]]
  | c :: rest =>
    if c = '/' then [] :: split rest
    else match split rest with
      | [] => [[c]]
      | piece :: more => (c :: piece) :: more

/-- No piece holds a slash. -/
theorem slash_not_mem_of_mem_split {s piece : List Char} (h : piece ∈ split s) : '/' ∉ piece := by
  induction s generalizing piece with
  | nil => simp only [split, List.mem_singleton] at h; simp [h]
  | cons c rest ih =>
    simp only [split] at h
    split at h
    · rcases List.mem_cons.1 h with rfl | h
      · simp
      · exact ih h
    · rename_i hc
      split at h
      · simp only [List.mem_singleton] at h
        simpa [h] using fun e => hc e.symm
      · rename_i first more eq
        rcases List.mem_cons.1 h with rfl | h
        · have := @ih first (by simp [eq])
          simp only [List.mem_cons, not_or]
          exact ⟨fun e => hc e.symm, this⟩
        · exact ih (by simp [eq, h])

/-- The pieces of a text that are parts. -/
def partsOf (s : List Char) : List (List Char) :=
  (split s).filter fun piece => piece ≠ [] ∧ piece ≠ ['.']

theorem isPart_of_mem_partsOf {s piece : List Char} (h : piece ∈ partsOf s) : IsPart piece := by
  simp only [partsOf, List.mem_filter, decide_eq_true_eq] at h
  exact ⟨h.2.1, h.2.2, slash_not_mem_of_mem_split h.1⟩

/-- The anchor that a text starts with. -/
def anchorOf : List Char → Anchor
  | '/' :: '/' :: '/' :: _ => .root
  | '/' :: '/' :: _ => .doubleRoot
  | '/' :: _ => .root
  | _ => .here

/-- The path that a text stands for. -/
def ofChars (s : List Char) : Path :=
  ⟨anchorOf s, partsOf s, fun _ => isPart_of_mem_partsOf⟩

/-- The path that a text stands for. -/
def ofText (s : String) : Path := ofChars s.toList

/-! ## Section 3: Printing -/

/-- The text of a path.  A relative path without parts is a single dot. -/
def chars (p : Path) : List Char :=
  if p.anchor = .here ∧ p.parts = [] then ['.']
  else p.anchor.chars ++ ['/'].intercalate p.parts

/-- The text of a path. -/
def text (p : Path) : String := String.ofList p.chars

/-! ## Section 4: Joining -/

/-- Whether a path starts at a root. -/
def isAbsolute (p : Path) : Bool := p.anchor != .here

/-- The path `q` as seen from `p`.  An absolute path is seen from everywhere
    as it is. -/
def join (p q : Path) : Path :=
  if q.isAbsolute then q
  else ⟨p.anchor, p.parts ++ q.parts, fun s h =>
    (List.mem_append.1 h).elim (p.isPart_of_mem s) (q.isPart_of_mem s)⟩

/-- The relative path of one part. -/
def single (part : List Char) (h : IsPart part := by decide) : Path :=
  ⟨.here, [part], by simpa using h⟩

/-- The path of an entry of the directory `p`. -/
def child (p : Path) (part : List Char) (h : IsPart part := by decide) : Path :=
  p.join (single part h)

/-- A path as seen from an optional directory, and as it is from none. -/
def resolve (p : Path) : Option Path → Path
  | none => p
  | some directory => directory.join p

@[simp] theorem resolve_none (p : Path) : p.resolve none = p := rfl

@[simp] theorem join_of_isAbsolute {p q : Path} (h : q.isAbsolute = true) : p.join q = q := by
  simp [join, h]

@[simp] theorem child_anchor (p : Path) (part : List Char) (h : IsPart part) :
    (p.child part h).anchor = p.anchor := rfl

@[simp] theorem child_parts (p : Path) (part : List Char) (h : IsPart part) :
    (p.child part h).parts = p.parts ++ [part] := rfl

/-- The strings file of a resource directory. -/
def stringsFile (directory : Path) : Path :=
  (directory.child "values".toList).child "strings.xml".toList

end Path

end StringOrigins
