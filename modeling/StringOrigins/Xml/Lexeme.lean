import StringOrigins.Xml.Character
import StringOrigins.Xml.Fault

/-! # Lexemes

    The smallest parts of markup: marks, blanks, names and literals.  Each
    function takes the text ahead and gives, with what it has read, the
    text behind it. -/

namespace StringOrigins.Xml

/-! ## Section 1: Marks -/

/-- The text behind a mark that stands ahead. -/
def behind? : List Char → List Char → Option (List Char)
  | [], text => some text
  | _ :: _, [] => none
  | m :: mark, c :: text => if m = c then behind? mark text else none

/-- The text behind a mark that must stand ahead. -/
def behind (mark text : List Char) : Except Fault (List Char) :=
  match behind? mark text with
  | some rest => .ok rest
  | none => .error .markupExpected

/-- The text behind the first place where a mark stands. -/
def beyond? (mark : List Char) : List Char → Option (List Char)
  | [] => behind? mark []
  | c :: text =>
    match behind? mark (c :: text) with
    | some rest => some rest
    | none => beyond? mark text

theorem behind?_eq_some {mark text rest : List Char} :
    behind? mark text = some rest ↔ text = mark ++ rest := by
  induction mark generalizing text with
  | nil => simp [behind?]
  | cons m mark ih =>
    cases text with
    | nil => simp [behind?]
    | cons c text =>
      simp only [behind?, List.cons_append, List.cons.injEq]
      by_cases h : m = c
      · simp only [h, if_true, true_and]
        exact ih
      · simp [h, Ne.symm h]

theorem length_of_behind? {mark text rest : List Char} (h : behind? mark text = some rest) :
    text.length = mark.length + rest.length := by
  rw [behind?_eq_some.1 h, List.length_append]

theorem length_of_beyond? {mark text rest : List Char} (h : beyond? mark text = some rest) :
    mark.length + rest.length ≤ text.length := by
  induction text with
  | nil =>
    have := length_of_behind? h
    omega
  | cons c text ih =>
    rw [beyond?] at h
    split at h
    · rename_i heq
      have := length_of_behind? heq
      simp only [Option.some.injEq] at h
      subst h
      omega
    · have := ih h
      simp only [List.length_cons]
      omega

/-! ## Section 2: Blanks -/

/-- The text behind any blanks. -/
def skipBlanks (text : List Char) : List Char := text.dropWhile isBlank

/-- The text behind at least one blank. -/
def blanks : List Char → Except Fault (List Char)
  | [] => .error .blankExpected
  | c :: text => if isBlank c then .ok (skipBlanks text) else .error .blankExpected

theorem length_skipBlanks (text : List Char) : (skipBlanks text).length ≤ text.length :=
  (List.dropWhile_sublist isBlank).length_le

/-! ## Section 3: Names -/

/-- A name, which may hold colons, and the text behind it. -/
def name (text : List Char) : Except Fault (List Char × List Char) :=
  match text with
  | [] => .error .nameExpected
  | c :: rest =>
    if isNameStart c || c = ':' then
      .ok (c :: rest.takeWhile isNameChar, rest.dropWhile isNameChar)
    else .error .nameExpected

/-- A word of characters of names, and the text behind it. -/
def word (text : List Char) : Except Fault (List Char × List Char) :=
  match text.takeWhile isNameChar with
  | [] => .error .nameExpected
  | c :: more => .ok (c :: more, text.dropWhile isNameChar)

/-- A name without colons, and the text behind it. -/
def plainName (text : List Char) : Except Fault (List Char × List Char) :=
  match name text with
  | .error fault => .error fault
  | .ok (found, rest) =>
    if isPlainName found then .ok (found, rest) else .error .faultyQualifiedName

theorem length_of_name {text found rest : List Char} (h : name text = .ok (found, rest)) :
    rest.length < text.length := by
  cases text with
  | nil => cases h
  | cons c more =>
    simp only [name] at h
    split at h
    · simp only [Except.ok.injEq, Prod.mk.injEq] at h
      rw [← h.2, List.length_cons]
      exact Nat.lt_succ_of_le (List.dropWhile_sublist isNameChar).length_le
    · cases h

/-! ## Section 4: Literals -/

/-- The text between two equal quotes, and the text behind them. -/
def literal (text : List Char) : Except Fault (List Char × List Char) :=
  match text with
  | [] => .error .markupExpected
  | quote :: rest =>
    if quote = '"' ∨ quote = '\'' then
      match rest.dropWhile (· ≠ quote) with
      | [] => .error .unclosed
      | _ :: left => .ok (rest.takeWhile (· ≠ quote), left)
    else .error .markupExpected

theorem length_of_literal {text value rest : List Char} (h : literal text = .ok (value, rest)) :
    rest.length < text.length := by
  cases text with
  | nil => cases h
  | cons quote more =>
    simp only [literal] at h
    split at h
    · split at h
      · cases h
      · rename_i c left heq
        simp only [Except.ok.injEq, Prod.mk.injEq] at h
        have := (List.dropWhile_sublist (fun x => decide (x ≠ quote)) (l := more)).length_le
        rw [heq, List.length_cons] at this
        rw [← h.2, List.length_cons]
        omega
    · cases h

end StringOrigins.Xml
