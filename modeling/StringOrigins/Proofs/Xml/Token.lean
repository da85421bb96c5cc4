import StringOrigins.Proofs.Xml.Reference

/-! # Reading tokens back

    Each part of a written tree is read as its token, in front of an
    arbitrary rest: comments, instructions and sections up to their own
    ends, tags with the attributes that were written into them.  Plain
    characters need some care, since two brackets in front of a greater-than
    sign would end a section (`IsQuiet`). -/

namespace StringOrigins.Xml

open Xml.Tree

/-! ## Section 1: Asides and sections -/

/-- The mark that ends a section is not completed by its own beginning. -/
theorem section_absent (part : Section) : ¬ "]]>".toList <:+: part.text ++ "]]>".toList.dropLast := by
  show ¬ "]]>".toList <:+: part.text ++ ([']'] ++ [']'])
  rw [← List.append_assoc]
  exact not_infix_concat (not_infix_concat part.isUnended (by decide)) (by decide)

theorem instruction_absent (part : Instruction) :
    ¬ "?>".toList <:+: part.text ++ "?>".toList.dropLast :=
  not_infix_concat part.isUnended (by decide)

/-- Here it is the last character of the text that could complete the mark. -/
theorem comment_absent (part : Comment) : ¬ "--".toList <:+: part.text ++ "--".toList.dropLast := by
  intro inside
  rcases List.infix_concat_iff.1 inside with atEnd | earlier
  · rcases List.suffix_concat_iff.1 atEnd with empty | ⟨front, split, suffix⟩
    · cases empty
    · have single : front = ['-'] := (List.append_inj_left' split rfl).symm
      obtain ⟨before, whole⟩ := suffix
      refine part.endsOtherwise ?_
      rw [← whole, single]
      exact List.getLast?_concat
  · exact part.isUnended earlier

theorem comment_append (part : Comment) (rest : List Char) :
    comment (part.text ++ ("-->".toList ++ rest)) = .ok rest := by
  have found : beyond? ['-', '-'] (part.text ++ (['-', '-'] ++ '>' :: rest)) = some ('>' :: rest) :=
    beyond?_append ('>' :: rest) (comment_absent part)
  show comment (part.text ++ (['-', '-'] ++ '>' :: rest)) = .ok rest
  rw [comment, found]
  rfl

theorem instruction_append (part : Instruction) (rest : List Char) :
    instruction (part.target ++ ' ' :: (part.text ++ ("?>".toList ++ rest))) = .ok rest := by
  have found : beyond? ['?', '>'] (part.text ++ ("?>".toList ++ rest)) = some rest :=
    beyond?_append rest (instruction_absent part)
  rw [instruction, plainName_append part.isName (by decide)]
  dsimp only
  rw [if_neg (Bool.eq_false_iff.1 part.isUnreserved)]
  -- Behind the target comes a blank, and not the end.
  split
  · rename_i same
    cases same
  · rename_i same
    cases same
    rw [if_pos (by decide), found]
  · rename_i same
    cases same

theorem instruction_target_append (part : Instruction) (rest : List Char) :
    instruction (part.target ++ ("?>".toList ++ rest)) = .ok rest := by
  show instruction (part.target ++ '?' :: ('>' :: rest)) = .ok rest
  rw [instruction, plainName_append part.isName (by decide)]
  exact if_neg (Bool.eq_false_iff.1 part.isUnreserved)

namespace Token

theorem next_comment (part : Comment) (rest : List Char) :
    next '<' ('!' :: '-' :: '-' :: (part.text ++ ("-->".toList ++ rest))) = .ok (.aside, rest) := by
  show (comment (part.text ++ ("-->".toList ++ rest))).map (Token.aside, ·) = _
  rw [comment_append]
  rfl

theorem next_instruction (part : Instruction) (rest : List Char) :
    next '<' ('?' :: (part.target ++ ' ' :: (part.text ++ ("?>".toList ++ rest)))) =
      .ok (.aside, rest) := by
  show (instruction _).map (Token.aside, ·) = _
  rw [instruction_append]
  rfl

theorem next_instruction_target (part : Instruction) (rest : List Char) :
    next '<' ('?' :: (part.target ++ ("?>".toList ++ rest))) = .ok (.aside, rest) := by
  show (instruction _).map (Token.aside, ·) = _
  rw [instruction_target_append]
  rfl

theorem next_section (part : Section) (rest : List Char) :
    next '<' ("![CDATA[".toList ++ (part.text ++ ("]]>".toList ++ rest))) = .ok (.data, rest) := by
  have found : beyond? [']', ']', '>'] (part.text ++ ("]]>".toList ++ rest)) = some rest :=
    beyond?_append rest (section_absent part)
  show markup ('!' :: '[' :: 'C' :: 'D' :: 'A' :: 'T' :: 'A' :: '[' ::
    (part.text ++ ("]]>".toList ++ rest))) = _
  rw [markup, found]

/-! ## Section 2: Characters -/

/-- Whether a text goes on so that no characters in front of it make it the
    end of a section. -/
def IsQuiet (text : List Char) : Prop :=
  ∀ rest, text ≠ '>' :: rest ∧ text ≠ ']' :: '>' :: rest

theorem isQuiet_mark (text : List Char) : IsQuiet ('<' :: text) := by
  intro rest
  constructor
  · intro same
    cases same
  · intro same
    cases same

theorem isQuiet_cons {c : Char} {text : List Char} (other : c ≠ '>') (quiet : IsQuiet text) :
    IsQuiet (c :: text) := by
  intro rest
  constructor
  · intro same
    exact other (List.cons.inj same).1
  · intro same
    exact (quiet rest).1 (List.cons.inj same).2

theorem isQuiet_append {s text : List Char} (others : '>' ∉ s) (quiet : IsQuiet text) :
    IsQuiet (s ++ text) := by
  induction s with
  | nil => exact quiet
  | cons c s ih =>
    have ⟨other, later⟩ := not_or.1 (fun m => others (List.mem_cons.2 m))
    exact isQuiet_cons (Ne.symm other) (ih later)

/-- Written characters do not disturb those in front of them. -/
theorem isQuiet_of_spells {s written text : List Char} (spells : Spells textMarks s written)
    (quiet : IsQuiet text) : IsQuiet (written ++ text) := by
  have others : '>' ∉ written := not_mem_of_spells spells (by decide) (by decide) (by decide)
  exact isQuiet_append others quiet

/-- A character that is no mark stands for itself. -/
theorem next_plain {c : Char} {text : List Char} (free : c ∉ textMarks) (quiet : IsQuiet text) :
    next c text = .ok (if isBlank c then .blank else .data, text) := by
  have notLess : c ≠ '<' := by
    rintro rfl
    exact free (by decide)
  have notAmpersand : c ≠ '&' := by
    rintro rfl
    exact free (by decide)
  unfold next
  rw [if_neg notLess, if_neg notAmpersand]
  by_cases bracket : c = ']'
  · -- A bracket is no blank, and what follows does not end a section.
    rw [if_pos bracket, bracket]
    split
    · rename_i rest
      exact absurd rfl (quiet rest).2
    · rfl
  · exact if_neg bracket

theorem next_reference {c : Char} {body : List Char} (refers : Refers c body)
    (allowed : isAllowed c.toNat = true) (rest : List Char) :
    next '&' (body ++ rest) = .ok (.data, rest) := by
  have other : '&' ≠ '<' := by decide
  unfold next
  rw [if_neg other, if_pos rfl, Reference.read_append refers allowed]

end Token

/-! ## Section 3: Attributes of tags -/

theorem read_written {key spelled : List Char} (plain : isPlainName key = true)
    (unquoted : '"' ∉ spelled) (rest : List Char) :
    Written.read (key ++ ('=' :: '"' :: (spelled ++ ('"' :: rest)))) = .ok (⟨key, spelled⟩, rest) := by
  rw [Written.read, name_append plain (by decide)]
  simp only [skipBlanks_cons (show isBlank '=' = false by decide),
    skipBlanks_cons (show isBlank '"' = false by decide), literal_append unquoted]

/-- Where a tag ends, behind blanks or not, there are no more attributes. -/
theorem writtenAll_end {text rest : List Char} {c : Char} (skipped : skipBlanks text = c :: rest)
    (ends : c = '>' ∨ c = '/') : writtenAll text = .ok ([], c :: rest) := by
  rw [writtenAll]
  split
  · rename_i same
    rw [← same, skipped]
  · rename_i same
    rw [← same, skipped]
  · rename_i notClose notSlash
    rcases ends with rfl | rfl
    · exact absurd skipped (notClose rest)
    · exact absurd skipped (notSlash rest)

/-- Where it does not end behind blanks, there is one more attribute. -/
theorem writtenAll_step {text ahead rest left : List Char} {c : Char} {written : Written}
    {more : List Written} (spaced : blanks text = .ok (c :: ahead))
    (skipped : skipBlanks text = c :: ahead) (open_ : c ≠ '>' ∧ c ≠ '/')
    (first : Written.read (c :: ahead) = .ok (written, rest))
    (behind : writtenAll rest = .ok (more, left)) :
    writtenAll text = .ok (written :: more, left) := by
  rw [writtenAll]
  split
  · rename_i same
    exact absurd (List.cons.inj (skipped.symm.trans same)).1 open_.1
  · rename_i same
    exact absurd (List.cons.inj (skipped.symm.trans same)).1 open_.2
  · rw [spaced]
    dsimp only
    split
    · rename_i failed
      rw [skipped, first] at failed
      cases failed
    · rename_i found
      rw [skipped, first] at found
      cases found
      rw [behind]

/-- An attribute behind a space comes before those behind it. -/
theorem writtenAll_cons {key spelled rest left : List Char} {more : List Written}
    (plain : isPlainName key = true) (unquoted : '"' ∉ spelled)
    (behind : writtenAll rest = .ok (more, left)) :
    writtenAll (' ' :: (key ++ ('=' :: '"' :: (spelled ++ ('"' :: rest))))) =
      .ok (⟨key, spelled⟩ :: more, left) := by
  have first := read_written plain unquoted rest
  obtain ⟨c, name, rfl, starts, -⟩ := isPlainName_cons plain
  have skipped := skipBlanks_space (isBlank_of_isNameStart starts)
    (name ++ ('=' :: '"' :: (spelled ++ ('"' :: rest))))
  have spaced : blanks (' ' :: c :: (name ++ ('=' :: '"' :: (spelled ++ ('"' :: rest))))) =
      .ok (c :: (name ++ ('=' :: '"' :: (spelled ++ ('"' :: rest))))) := by
    show Except.ok (skipBlanks _) = _
    rw [skipBlanks_cons (isBlank_of_isNameStart starts)]
  have open_ : c ≠ '>' ∧ c ≠ '/' :=
    ⟨ne_of_isNameStart starts (by decide), ne_of_isNameStart starts (by decide)⟩
  exact writtenAll_step spaced skipped open_ first behind

end StringOrigins.Xml
