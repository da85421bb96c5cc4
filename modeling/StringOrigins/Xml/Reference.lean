import StringOrigins.Text.Hex
import StringOrigins.Xml.Lexeme

/-! # References

    A reference stands for a character, by its code point in either base
    or by one of five fixed names, or for a declared entity. -/

namespace StringOrigins.Xml

/-- What a reference stands for. -/
inductive Reference where
  | character (c : Char)
  | entity (name : List Char)
  deriving DecidableEq, Repr

namespace Reference

/-- The characters that have names without any declaration. -/
def fixed : List (List Char × Char) :=
  [("lt".toList, '<'), ("gt".toList, '>'), ("amp".toList, '&'), ("apos".toList, '\''),
   ("quot".toList, '"')]

/-- The number that a non-empty run of decimal digits stands for. -/
def decimal? (s : List Char) : Option Nat :=
  if s.isEmpty || !s.all Char.isDigit then none
  else some (s.foldl (fun n c => n * 10 + (c.toNat - 48)) 0)

/-- The code point between the number sign and the semicolon. -/
def codePoint? : List Char → Option Nat
  | 'x' :: digits => Hex.value? digits
  | digits => decimal? digits

/-- Reads the reference to a character behind the number sign. -/
def numbered (text : List Char) : Except Fault (Reference × List Char) :=
  match text.dropWhile Char.isAlphanum with
  | ';' :: rest =>
    match codePoint? (text.takeWhile Char.isAlphanum) with
    | some n => if isAllowed n then .ok (.character (Char.ofNat n), rest) else .error .faultyReference
    | none => .error .faultyReference
  | _ => .error .faultyReference

/-- Reads the reference by name behind the ampersand. -/
def named (text : List Char) : Except Fault (Reference × List Char) :=
  match name text with
  | .ok (found, ';' :: rest) =>
    match fixed.lookup found with
    | some c => .ok (.character c, rest)
    | none => .ok (.entity found, rest)
  | .ok _ => .error .faultyReference
  | .error fault => .error fault

/-- Reads the reference behind the ampersand. -/
def read : List Char → Except Fault (Reference × List Char)
  | '#' :: text => numbered text
  | text => named text

theorem length_of_numbered {text rest : List Char} {reference : Reference}
    (h : numbered text = .ok (reference, rest)) : rest.length < text.length := by
  have le := (List.dropWhile_sublist Char.isAlphanum (l := text)).length_le
  simp only [numbered] at h
  split at h
  · rename_i tail heq
    rw [heq, List.length_cons] at le
    split at h
    · split at h
      · simp only [Except.ok.injEq, Prod.mk.injEq] at h
        rw [← h.2]
        omega
      · cases h
    · cases h
  · cases h

theorem length_of_named {text rest : List Char} {reference : Reference}
    (h : named text = .ok (reference, rest)) : rest.length < text.length := by
  simp only [named] at h
  split at h
  · rename_i found tail heq
    have lt := length_of_name heq
    rw [List.length_cons] at lt
    split at h <;>
    · simp only [Except.ok.injEq, Prod.mk.injEq] at h
      rw [← h.2]
      omega
  · cases h
  · cases h

/-- Reading a reference makes progress. -/
theorem length_of_read {text rest : List Char} {reference : Reference}
    (h : read text = .ok (reference, rest)) : rest.length < text.length := by
  unfold read at h
  split at h
  · have := length_of_numbered h
    simp only [List.length_cons]
    omega
  · exact length_of_named h

end Reference

end StringOrigins.Xml
