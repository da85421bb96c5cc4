import StringOrigins.Xml.Lexeme

/-! # Reading lexemes back

    What each reader of `Xml/Lexeme` finds in front of an arbitrary rest: a
    plain name up to the first character that no name holds, a literal up to
    its closing quote, and the text behind the first place of a mark. -/

namespace StringOrigins.Xml

/-! ## Section 1: Marks -/

/-- A mark that stands ahead is taken. -/
theorem behind?_append (mark rest : List Char) : behind? mark (mark ++ rest) = some rest :=
  behind?_eq_some.2 rfl

/-- A mark is not ahead if its second character is not. -/
theorem behind?_of_ne_second {a b c : Char} {mark text : List Char} (ne : c ≠ b) :
    behind? (a :: b :: mark) (a :: c :: text) = none := by
  rw [behind?, if_pos rfl, behind?, if_neg ne.symm]

/-- The text behind the first place of a mark.  The mark may overlap itself,
    so it must not be in the text in front of it even if all but its own
    last character comes behind that text. -/
theorem beyond?_append {mark s : List Char} (rest : List Char)
    (absent : ¬ mark <:+: s ++ mark.dropLast) :
    beyond? mark (s ++ (mark ++ rest)) = some rest := by
  -- One character of the text after the other is passed.
  induction s with
  | nil =>
    cases mark with
    | nil => exact absurd ⟨[], [], rfl⟩ absent
    | cons m mark =>
      show beyond? (m :: mark) (m :: (mark ++ rest)) = some rest
      have taken : behind? (m :: mark) (m :: (mark ++ rest)) = some rest :=
        behind?_append (m :: mark) rest
      rw [beyond?, taken]
  | cons c s ih =>
    have missing : behind? mark (c :: s ++ (mark ++ rest)) = none := by
      refine Option.eq_none_iff_forall_not_mem.2 fun left found => absent ?_
      have inFront : mark <+: c :: s ++ (mark ++ rest) := ⟨left, (behind?_eq_some.1 found).symm⟩
      have enough : c :: s ++ mark.dropLast <+: c :: s ++ (mark ++ rest) :=
        (List.prefix_append_right_inj _).2 ((List.dropLast_prefix mark).trans ⟨rest, rfl⟩)
      have fits : mark.length ≤ (c :: s ++ mark.dropLast).length := by
        rw [List.length_append, List.length_cons, List.length_dropLast]
        omega
      exact (List.prefix_of_prefix_length_le inFront enough fits).isInfix
    have later : ¬ mark <:+: s ++ mark.dropLast :=
      fun inside => absent (inside.trans (List.suffix_cons c _).isInfix)
    rw [List.cons_append] at missing ⊢
    rw [beyond?, missing]
    exact ih later

/-- A mark that ends otherwise is not completed by one more character. -/
theorem not_infix_concat {mark s : List Char} {c : Char} (absent : ¬ mark <:+: s)
    (ends : mark.getLast? ≠ some c) : ¬ mark <:+: s ++ [c] := by
  intro inside
  rcases List.infix_concat_iff.1 inside with atEnd | earlier
  · rcases List.suffix_concat_iff.1 atEnd with rfl | ⟨front, rfl, -⟩
    · exact absent (List.nil_infix)
    · exact ends List.getLast?_concat
  · exact absent earlier

/-! ## Section 2: Names -/

/-- Two characters differ if only one of them can start a name. -/
theorem ne_of_isNameStart {c d : Char} (starts : isNameStart c = true)
    (other : isNameStart d = false) : c ≠ d := by
  rintro rfl
  rw [starts] at other
  cases other

theorem isNameChar_of_isNameStart {c : Char} (starts : isNameStart c = true) :
    isNameChar c = true := by
  rw [isNameChar, isNamePart, starts]
  rfl

/-- A plain name starts as names do. -/
theorem isPlainName_cons {n : List Char} (plain : isPlainName n = true) :
    ∃ c more, n = c :: more ∧ isNameStart c = true ∧ ∀ d ∈ more, isNamePart d = true := by
  cases n with
  | nil => cases plain
  | cons c more =>
    rw [isPlainName, Bool.and_eq_true, List.all_eq_true] at plain
    exact ⟨c, more, rfl, plain.1, plain.2⟩

/-- All characters of a plain name are those of names without a colon. -/
theorem isNamePart_of_mem {n : List Char} (plain : isPlainName n = true) {c : Char}
    (m : c ∈ n) : isNamePart c = true := by
  obtain ⟨first, more, rfl, starts, parts⟩ := isPlainName_cons plain
  rcases List.mem_cons.1 m with rfl | m
  · rw [isNamePart, starts]
    rfl
  · exact parts c m

theorem isNameChar_of_isNamePart {c : Char} (part : isNamePart c = true) :
    isNameChar c = true := by
  rw [isNameChar, part]
  rfl

/-- A plain name is read up to where no name goes on. -/
theorem name_append {n : List Char} (plain : isPlainName n = true) {d : Char}
    (ends : isNameChar d = false) (rest : List Char) :
    name (n ++ d :: rest) = .ok (n, d :: rest) := by
  obtain ⟨c, more, rfl, starts, parts⟩ := isPlainName_cons plain
  have chars : ∀ x ∈ more, isNameChar x = true :=
    fun x m => isNameChar_of_isNamePart (parts x m)
  have ends' : ¬ isNameChar d = true := by
    rw [ends]
    exact Bool.false_ne_true
  show name (c :: (more ++ d :: rest)) = _
  rw [name, starts, Bool.true_or, if_pos rfl, List.takeWhile_append_of_pos chars,
    List.dropWhile_append_of_pos chars, List.takeWhile_cons_of_neg ends',
    List.dropWhile_cons_of_neg ends', List.append_nil]

theorem plainName_append {n : List Char} (plain : isPlainName n = true) {d : Char}
    (ends : isNameChar d = false) (rest : List Char) :
    plainName (n ++ d :: rest) = .ok (n, d :: rest) := by
  rw [plainName, name_append plain ends]
  exact if_pos plain

/-! ## Section 3: Blanks -/

theorem skipBlanks_cons {c : Char} (solid : isBlank c = false) (rest : List Char) :
    skipBlanks (c :: rest) = c :: rest := by
  have solid' : ¬ isBlank c = true := by
    rw [solid]
    exact Bool.false_ne_true
  exact List.dropWhile_cons_of_neg solid'

/-- One space is skipped, and no more if none follows. -/
theorem skipBlanks_space {c : Char} (solid : isBlank c = false) (rest : List Char) :
    skipBlanks (' ' :: c :: rest) = c :: rest :=
  (List.dropWhile_cons_of_pos rfl).trans (skipBlanks_cons solid rest)

/-- What starts a name is no blank. -/
theorem isBlank_of_isNameStart {c : Char} (starts : isNameStart c = true) :
    isBlank c = false := by
  have char := isNameChar_of_isNameStart starts
  by_cases blank : isBlank c = true
  · rw [isNameChar_of_isBlank blank] at char
    cases char
  · exact Bool.eq_false_iff.2 blank

/-! ## Section 4: Literals -/

/-- A literal is read up to its closing quote. -/
theorem literal_append {value : List Char} (unquoted : '"' ∉ value) (rest : List Char) :
    literal ('"' :: (value ++ '"' :: rest)) = .ok (value, rest) := by
  have others : ∀ c ∈ value, decide (c ≠ '"') = true := by
    intro c m
    refine decide_eq_true ?_
    rintro rfl
    exact unquoted m
  have ends : ¬ decide ('"' ≠ '"') = true := by decide
  rw [literal, if_pos (Or.inl rfl), List.dropWhile_append_of_pos others,
    List.dropWhile_cons_of_neg (p := fun c => decide (c ≠ '"')) ends,
    List.takeWhile_append_of_pos others,
    List.takeWhile_cons_of_neg (p := fun c => decide (c ≠ '"')) ends, List.append_nil]

end StringOrigins.Xml
