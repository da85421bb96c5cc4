import StringOrigins.Xml.Aside
import StringOrigins.Xml.Reference

/-! # Tokens

    The content of a document is a sequence of tokens: characters, sections
    of characters, references to entities, asides and tags.  Character data
    is read one character at a time, since nothing depends on where a run
    of it starts or ends. -/

namespace StringOrigins.Xml

/-! ## Section 1: Tags -/

/-- An attribute as it is written: its name, and what stands between its quotes. -/
structure Written where
  name : List Char
  value : List Char
  deriving DecidableEq, Repr

/-- A start tag as it is written. -/
structure Tag where
  name : List Char
  attributes : List Written
  /-- Whether the element ends with its start tag. -/
  isEmpty : Bool
  deriving DecidableEq, Repr

/-- Reads an attribute. -/
def Written.read (text : List Char) : Except Fault (Written × List Char) :=
  match Xml.name text with
  | .error fault => .error fault
  | .ok (found, rest) =>
    match skipBlanks rest with
    | '=' :: rest =>
      match literal (skipBlanks rest) with
      | .error fault => .error fault
      | .ok (value, rest) => .ok (⟨found, value⟩, rest)
    | _ => .error .markupExpected

theorem length_of_written {text rest : List Char} {written : Written}
    (h : Written.read text = .ok (written, rest)) : rest.length < text.length := by
  unfold Written.read at h
  split at h
  · cases h
  · rename_i found more heq
    have h1 := length_of_name heq
    split at h
    · rename_i behindSign hs
      have h2 := length_skipBlanks more
      rw [hs, List.length_cons] at h2
      split at h
      · cases h
      · rename_i value left hl
        have h3 := length_of_literal hl
        have h4 := length_skipBlanks behindSign
        simp only [Except.ok.injEq, Prod.mk.injEq] at h
        rw [← h.2]
        omega
    · cases h

/-- Reads the attributes of a start tag, each behind blanks, up to where
    the tag ends. -/
def writtenAll (text : List Char) : Except Fault (List Written × List Char) :=
  match hs : skipBlanks text with
  | '>' :: rest => .ok ([], '>' :: rest)
  | '/' :: rest => .ok ([], '/' :: rest)
  | ahead =>
    match blanks text with
    | .error fault => .error fault
    | .ok _ =>
      match h : Written.read ahead with
      | .error fault => .error fault
      | .ok (written, rest) =>
        have : rest.length < text.length := by
          have h1 := length_of_written h
          have h2 := length_skipBlanks text
          rw [hs] at h2
          omega
        match writtenAll rest with
        | .error fault => .error fault
        | .ok (more, left) => .ok (written :: more, left)
  termination_by text.length

theorem length_of_writtenAll {text rest : List Char} {all : List Written}
    (h : writtenAll text = .ok (all, rest)) : rest.length ≤ text.length := by
  fun_induction writtenAll text generalizing all rest with
  | case1 text left hs =>
    have := length_skipBlanks text
    rw [hs] at this
    simp only [Except.ok.injEq, Prod.mk.injEq] at h
    rw [← h.2]
    exact this
  | case2 text left hs =>
    have := length_skipBlanks text
    rw [hs] at this
    simp only [Except.ok.injEq, Prod.mk.injEq] at h
    rw [← h.2]
    exact this
  | case3 => cases h
  | case4 => cases h
  | case5 => cases h
  | case6 text _ _ _ _ _ left hm _ _ _ lt ih =>
    simp only [Except.ok.injEq, Prod.mk.injEq] at h
    rw [← h.2]
    have := ih hm
    omega

/-! ## Section 2: Tokens -/

/-- A piece of the content of a document. -/
inductive Token where
  /-- A blank that is written as such. -/
  | blank
  /-- Any other character, or a section of characters. -/
  | data
  /-- A reference to a declared entity. -/
  | entity (name : List Char)
  /-- A comment or an instruction. -/
  | aside
  /-- A start tag, and the text from its closing mark on. -/
  | opening (tag : Tag) (left : List Char)
  /-- An end tag. -/
  | closing (name : List Char)
  deriving DecidableEq, Repr

namespace Token

/-- Reads a start tag behind its first mark. -/
def start (text : List Char) : Except Fault (Token × List Char) :=
  match name text with
  | .error fault => .error fault
  | .ok (found, rest) =>
    match writtenAll rest with
    | .error fault => .error fault
    | .ok (attributes, '>' :: rest) => .ok (.opening ⟨found, attributes, false⟩ ('>' :: rest), rest)
    | .ok (attributes, '/' :: '>' :: rest) =>
      .ok (.opening ⟨found, attributes, true⟩ ('/' :: '>' :: rest), rest)
    | .ok _ => .error .markupExpected

/-- Reads an end tag behind its first mark. -/
def finish (text : List Char) : Except Fault (Token × List Char) :=
  match name text with
  | .error fault => .error fault
  | .ok (found, rest) =>
    match skipBlanks rest with
    | '>' :: rest => .ok (.closing found, rest)
    | _ => .error .markupExpected

/-- Reads what starts with a less-than sign, behind that sign. -/
def markup (text : List Char) : Except Fault (Token × List Char) :=
  match text with
  | '/' :: rest => finish rest
  | '?' :: rest => (instruction rest).map (.aside, ·)
  | '!' :: '-' :: '-' :: rest => (comment rest).map (.aside, ·)
  | '!' :: '[' :: 'C' :: 'D' :: 'A' :: 'T' :: 'A' :: '[' :: rest =>
    match beyond? [']', ']', '>'] rest with
    | some left => .ok (.data, left)
    | none => .error .unclosed
  | _ => start text

/-- Reads the token that a text starts with. -/
def next (c : Char) (text : List Char) : Except Fault (Token × List Char) :=
  if c = '<' then markup text
  else if c = '&' then
    match Reference.read text with
    | .error fault => .error fault
    | .ok (.character _, rest) => .ok (.data, rest)
    | .ok (.entity name, rest) => .ok (.entity name, rest)
  else if c = ']' then
    match text with
    | ']' :: '>' :: _ => .error .straySectionEnd
    | _ => .ok (.data, text)
  else .ok (if isBlank c then .blank else .data, text)

/-! ## Section 3: Progress -/

theorem length_of_start {text rest : List Char} {token : Token}
    (h : start text = .ok (token, rest)) : rest.length < text.length := by
  unfold start at h
  split at h
  · cases h
  · rename_i found more hn
    have h1 := length_of_name hn
    split at h
    · cases h
    · rename_i hw
      have h2 := length_of_writtenAll hw
      simp only [Except.ok.injEq, Prod.mk.injEq] at h
      rw [← h.2]
      simp only [List.length_cons] at h2
      omega
    · rename_i hw
      have h2 := length_of_writtenAll hw
      simp only [Except.ok.injEq, Prod.mk.injEq] at h
      rw [← h.2]
      simp only [List.length_cons] at h2
      omega
    · cases h

theorem length_of_finish {text rest : List Char} {token : Token}
    (h : finish text = .ok (token, rest)) : rest.length < text.length := by
  unfold finish at h
  split at h
  · cases h
  · rename_i found more hn
    have h1 := length_of_name hn
    split at h
    · rename_i hs
      have h2 := length_skipBlanks more
      rw [hs, List.length_cons] at h2
      simp only [Except.ok.injEq, Prod.mk.injEq] at h
      rw [← h.2]
      omega
    · cases h

theorem length_of_markup {text rest : List Char} {token : Token}
    (h : markup text = .ok (token, rest)) : rest.length < text.length := by
  unfold markup at h
  split at h
  · have := length_of_finish h
    simp only [List.length_cons]
    omega
  · rename_i more
    cases hi : instruction more with
    | error fault => rw [hi] at h; cases h
    | ok left =>
      rw [hi] at h
      simp only [Except.map, Except.ok.injEq, Prod.mk.injEq] at h
      have := length_of_instruction hi
      rw [← h.2, List.length_cons]
      omega
  · rename_i more
    cases hc : comment more with
    | error fault => rw [hc] at h; cases h
    | ok left =>
      rw [hc] at h
      simp only [Except.map, Except.ok.injEq, Prod.mk.injEq] at h
      have := length_of_comment hc
      rw [← h.2]
      simp only [List.length_cons]
      omega
  · split at h
    · rename_i hb
      have := length_of_beyond? hb
      simp only [Except.ok.injEq, Prod.mk.injEq] at h
      rw [← h.2]
      simp only [List.length_cons] at this ⊢
      omega
    · cases h
  · exact length_of_start h

/-- Reading a token makes progress. -/
theorem length_of_next {c : Char} {text rest : List Char} {token : Token}
    (h : next c text = .ok (token, rest)) : rest.length ≤ text.length := by
  unfold next at h
  split at h
  · exact Nat.le_of_lt (length_of_markup h)
  · split at h
    · split at h
      · cases h
      · rename_i hr
        simp only [Except.ok.injEq, Prod.mk.injEq] at h
        rw [← h.2]
        exact Nat.le_of_lt (Reference.length_of_read hr)
      · rename_i hr
        simp only [Except.ok.injEq, Prod.mk.injEq] at h
        rw [← h.2]
        exact Nat.le_of_lt (Reference.length_of_read hr)
    · split at h
      · split at h
        · cases h
        · simp only [Except.ok.injEq, Prod.mk.injEq] at h
          exact Nat.le_of_eq (congrArg List.length h.2.symm)
      · simp only [Except.ok.injEq, Prod.mk.injEq] at h
        exact Nat.le_of_eq (congrArg List.length h.2.symm)

end Token

end StringOrigins.Xml
