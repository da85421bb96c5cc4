import StringOrigins.Proofs.Text.Line
import StringOrigins.Proofs.Xml.Lexeme
import StringOrigins.Proofs.Xml.Writing
import StringOrigins.Xml.Entity

/-! # Reading references and values back

    Each reference to a character is read as that character, and the value
    of an attribute is read back character for character, however it was
    written (`attributeValue_spells`).  What is written holds no mark by
    itself but the ampersand. -/

namespace StringOrigins.Xml

open Xml.Tree

/-! ## Section 1: Characters of references -/

/-- The fixed names are plain and differ from one another. -/
theorem fixed_all : (Reference.fixed.all fun p =>
    isPlainName p.1 && p.1.all Char.isAlphanum && Reference.fixed.lookup p.1 == some p.2) = true := by
  decide

theorem fixed_spec {name : List Char} {c : Char} (known : (name, c) ∈ Reference.fixed) :
    isPlainName name = true ∧ name.all Char.isAlphanum = true ∧
      Reference.fixed.lookup name = some c := by
  have each := List.all_eq_true.1 fixed_all _ known
  rw [Bool.and_eq_true, Bool.and_eq_true, beq_iff_eq] at each
  exact ⟨each.1.1, each.1.2, each.2⟩

theorem isAlphanum_of_all {digits : List Char} (all : digits.all Char.isDigit = true) :
    ∀ x ∈ digits, x.isAlphanum = true := by
  intro x m
  rw [Char.isAlphanum, List.all_eq_true.1 all x m, Bool.or_true]

/-- What a reference is made of besides the ampersand. -/
def isReferenceChar (c : Char) : Bool := c.isAlphanum || c = '#' || c = ';'

theorem isReferenceChar_of_mem {c d : Char} {body : List Char} (refers : Refers c body)
    (m : d ∈ body) : isReferenceChar d = true := by
  -- Between the sign and the semicolon there are letters and digits.
  have inside : ∀ {word : List Char}, (∀ x ∈ word, x.isAlphanum = true) → d ∈ word ++ [';'] →
      isReferenceChar d = true := by
    intro word all m
    rcases List.mem_append.1 m with m | m
    · rw [isReferenceChar, all d m]
      rfl
    · rw [List.mem_singleton.1 m]
      rfl
  cases refers with
  | named known => exact inside (List.all_eq_true.1 (fixed_spec known).2.1) m
  | decimal nonempty all value =>
    rcases List.mem_cons.1 m with rfl | m
    · rfl
    · exact inside (isAlphanum_of_all all) m
  | hexadecimal nonempty all value =>
    rcases List.mem_cons.1 m with rfl | m
    · rfl
    · rcases List.mem_cons.1 m with rfl | m
      · rfl
      · exact inside (fun x m => (all x m).isAlphanum) m

/-- Every character of a written text is one of the text that is no mark, or
    belongs to a reference. -/
theorem mem_of_spells {marks s written : List Char} {d : Char} (spells : Spells marks s written)
    (m : d ∈ written) : (d ∈ s ∧ d ∉ marks) ∨ d = '&' ∨ isReferenceChar d = true := by
  induction spells with
  | nil => cases m
  | plain free more ih =>
    rcases List.mem_cons.1 m with rfl | m
    · exact .inl ⟨List.mem_cons_self, free⟩
    · exact (ih m).imp_left fun at_ => ⟨List.mem_cons_of_mem _ at_.1, at_.2⟩
  | reference refers more ih =>
    rcases List.mem_cons.1 m with rfl | m
    · exact .inr (.inl rfl)
    · rcases List.mem_append.1 m with m | m
      · exact .inr (.inr (isReferenceChar_of_mem refers m))
      · exact (ih m).imp_left fun at_ => ⟨List.mem_cons_of_mem _ at_.1, at_.2⟩

/-- A mark is not in what is written, unless it makes references. -/
theorem not_mem_of_spells {marks s written : List Char} {d : Char}
    (spells : Spells marks s written) (mark : d ∈ marks) (other : d ≠ '&')
    (unused : isReferenceChar d = false) : d ∉ written := by
  intro m
  rcases mem_of_spells spells m with ⟨-, free⟩ | same | used
  · exact free mark
  · exact other same
  · rw [unused] at used
    cases used

/-! ## Section 2: One reference -/

namespace Reference

/-- Digits up to a semicolon are taken together. -/
theorem numbered_append {word : List Char} {c : Char} (all : ∀ x ∈ word, x.isAlphanum = true)
    (value : codePoint? word = some c.toNat) (allowed : isAllowed c.toNat = true)
    (rest : List Char) : numbered (word ++ ';' :: rest) = .ok (.character c, rest) := by
  have ends : ¬ (';').isAlphanum = true := by decide
  rw [numbered, List.dropWhile_append_of_pos all, List.dropWhile_cons_of_neg ends,
    List.takeWhile_append_of_pos all, List.takeWhile_cons_of_neg ends, List.append_nil]
  simp only [value, allowed, if_true, Char.ofNat_toNat]

theorem codePoint?_decimal {digits : List Char} {n : Nat} (nonempty : digits ≠ [])
    (all : digits.all Char.isDigit = true) (value : Nat.ofDigitChars 10 digits 0 = n) :
    codePoint? digits = some n := by
  have step : decimal? digits = some n := by
    have some' : ¬ (digits.isEmpty || !digits.all Char.isDigit) = true := by
      rw [all, Bool.not_true, Bool.or_false, List.isEmpty_iff]
      exact nonempty
    rw [decimal?, if_neg some', ← value, Nat.ofDigitChars]
    simp only [Nat.mul_comm]
    rfl
  rw [codePoint?]
  · exact step
  · -- A digit is no `x`.
    rintro more rfl
    have first := List.all_eq_true.1 all 'x' List.mem_cons_self
    exact absurd first (by decide)

/-- A reference to a character is read as that character. -/
theorem read_append {c : Char} {body : List Char} (refers : Refers c body)
    (allowed : isAllowed c.toNat = true) (rest : List Char) :
    read (body ++ rest) = .ok (.character c, rest) := by
  cases refers with
  | @named name known =>
    obtain ⟨plain, -, found⟩ := fixed_spec known
    have ends : isNameChar ';' = false := by decide
    have split : name ++ [';'] ++ rest = name ++ ';' :: rest := List.append_assoc ..
    obtain ⟨first, more, rfl, starts, -⟩ := isPlainName_cons plain
    have other : first ≠ '#' := ne_of_isNameStart starts (by decide)
    rw [split, read]
    · rw [named, name_append plain ends]
      simp only [found]
    · intro text same
      exact other (List.cons.inj same).1
  | @decimal digits nonempty all value =>
    show numbered (digits ++ [';'] ++ rest) = _
    rw [List.append_assoc]
    exact numbered_append (isAlphanum_of_all all) (codePoint?_decimal nonempty all value) allowed rest
  | @hexadecimal digits nonempty all value =>
    have alphanum : ∀ x ∈ 'x' :: digits, x.isAlphanum = true := by
      intro x m
      rcases List.mem_cons.1 m with rfl | m
      · rfl
      · exact (all x m).isAlphanum
    have found : codePoint? ('x' :: digits) = some c.toNat :=
      Hex.value?_eq_some_iff.2 ⟨nonempty, all, value.symm⟩
    show numbered ('x' :: (digits ++ [';'] ++ rest)) = _
    rw [List.append_assoc]
    exact numbered_append alphanum found allowed rest

end Reference

/-! ## Section 3: Values of attributes -/

section values

variable {entities : Entities} {depth spent : Nat} {done : List Char}

theorem expandFrom_plain {c : Char} (free : c ∉ valueMarks) (rest : List Char) :
    expandFrom entities depth spent done (c :: rest) =
      expandFrom entities depth spent (c :: done) rest := by
  have kept : (if isBlank c then ' ' else c) = c := by
    -- All blanks but the space are marks.
    by_cases blank : isBlank c = true
    · rw [if_pos blank]
      simp only [isBlank, Bool.or_eq_true, decide_eq_true_eq] at blank
      rcases blank with ((rfl | rfl) | rfl) | rfl
      · rfl
      all_goals exact absurd (by decide) free
    · exact if_neg blank
  rw [expandFrom, kept]
  · rintro rfl
    exact absurd (by decide) free
  · rintro rfl
    exact absurd (by decide) free

theorem expandFrom_reference {c : Char} {text rest : List Char}
    (found : Reference.read text = .ok (.character c, rest)) :
    expandFrom entities depth spent done ('&' :: text) =
      expandFrom entities depth spent (c :: done) rest := by
  rw [expandFrom]
  split
  · rename_i fault
    rw [found] at fault
    cases fault
  · rename_i same
    rw [found] at same
    cases same
    rfl
  · rename_i other
    rw [found] at other
    cases other

/-- The characters of a written value come out one by one. -/
theorem expandFrom_spells {s written : List Char} (spells : Spells valueMarks s written)
    (allowed : areAllowed s = true) :
    expandFrom entities depth spent done written = .ok (spent, s.reverse ++ done) := by
  induction spells generalizing done with
  | nil => rw [expandFrom]; rfl
  | plain free more ih =>
    rw [areAllowed, List.all_cons, Bool.and_eq_true] at allowed
    rw [expandFrom_plain free, ih allowed.2, List.reverse_cons, List.append_assoc]
    rfl
  | reference refers more ih =>
    rw [areAllowed, List.all_cons, Bool.and_eq_true] at allowed
    rw [expandFrom_reference (Reference.read_append refers allowed.1 _), ih allowed.2,
      List.reverse_cons, List.append_assoc]
    rfl

/-- A written value is read back character for character. -/
theorem attributeValue_spells {s written : List Char} (spells : Spells valueMarks s written)
    (allowed : areAllowed s = true) :
    attributeValue entities depth spent false written = .ok (spent, s) := by
  have noReturn : '\r' ∉ written :=
    not_mem_of_spells spells (by decide) (by decide) (by decide)
  rw [attributeValue, Text.unifyLineEnds_of_not_mem noReturn, expandFrom_spells spells allowed]
  show Except.ok (spent, (s.reverse ++ []).reverse) = _
  rw [List.append_nil, List.reverse_reverse]

end values

end StringOrigins.Xml
