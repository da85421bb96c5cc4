import StringOrigins.Xml.Lexeme

/-! # Asides

    Comments and processing instructions say nothing about the content of a
    document.  Two hyphens end a comment, and the target of an instruction
    is a plain name other than `xml`. -/

namespace StringOrigins.Xml

/-- The text behind a comment, from the text behind its first mark. -/
def comment (text : List Char) : Except Fault (List Char) :=
  match beyond? ['-', '-'] text with
  | some ('>' :: rest) => .ok rest
  | some _ => .error .hyphensInComment
  | none => .error .unclosed

/-- Whether a target of instructions is reserved. -/
def isReserved (target : List Char) : Bool := target.map Char.toLower = "xml".toList

/-- The text behind an instruction, from the text behind its first mark. -/
def instruction (text : List Char) : Except Fault (List Char) :=
  match plainName text with
  | .error fault => .error fault
  | .ok (target, rest) =>
    if isReserved target then .error .reservedTarget
    else match rest with
      | '?' :: '>' :: left => .ok left
      | c :: more =>
        if isBlank c then
          match beyond? ['?', '>'] more with
          | some left => .ok left
          | none => .error .unclosed
        else .error .blankExpected
      | [] => .error .unclosed

theorem length_of_comment {text rest : List Char} (h : comment text = .ok rest) :
    rest.length < text.length := by
  unfold comment at h
  split at h
  · rename_i left heq
    have := length_of_beyond? heq
    simp only [Except.ok.injEq] at h
    subst h
    simp only [List.length_cons] at this
    omega
  · cases h
  · cases h

theorem length_of_plainName {text found rest : List Char}
    (h : plainName text = .ok (found, rest)) : rest.length < text.length := by
  unfold plainName at h
  split at h
  · cases h
  · rename_i heq
    have lt := length_of_name heq
    split at h
    · simp only [Except.ok.injEq, Prod.mk.injEq] at h
      rw [← h.2]
      exact lt
    · cases h

theorem length_of_instruction {text rest : List Char} (h : instruction text = .ok rest) :
    rest.length < text.length := by
  unfold instruction at h
  split at h
  · cases h
  · rename_i target more heq
    have lt := length_of_plainName heq
    split at h
    · cases h
    · split at h
      · simp only [Except.ok.injEq] at h
        subst h
        simp only [List.length_cons] at lt
        omega
      · rename_i c more _ _
        split at h
        · split at h
          · rename_i hb
            have := length_of_beyond? hb
            simp only [Except.ok.injEq] at h
            subst h
            simp only [List.length_cons] at lt
            omega
          · cases h
        · cases h
      · cases h

end StringOrigins.Xml
