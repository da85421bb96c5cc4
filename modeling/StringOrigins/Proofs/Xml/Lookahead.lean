import Mathlib.Data.List.TakeWhile
import StringOrigins.Proofs.Xml.Element

/-! # Reading without looking further

    A reader that has found the end of what it reads does not look at what
    is behind it.  The text that it leaves is an end of the text that it was
    given, and with more text behind, it finds the same and leaves more.
    Only a bracket in content depends on what follows, since it may belong to
    the end of a section (`Token.next_settled`).

    So a token whose text is cut short is no token, whatever the cut leaves
    of it (`Token.fault_of_cut`). -/

namespace StringOrigins.Xml

variable {text rest : List Char}

/-! ## Section 1: Lexemes -/

theorem dropWhile_append_of_ne {p : Char → Bool} (left : text.dropWhile p ≠ [])
    (more : List Char) : (text ++ more).dropWhile p = text.dropWhile p ++ more := by
  have some' : ¬ (text.dropWhile p).isEmpty = true := by simp [left]
  rw [List.dropWhile_append, if_neg some']

theorem takeWhile_append_of_ne {p : Char → Bool} (left : text.dropWhile p ≠ [])
    (more : List Char) : (text ++ more).takeWhile p = text.takeWhile p := by
  have short : (text.takeWhile p).length ≠ text.length := by
    intro same
    have parts : (text.takeWhile p).length + (text.dropWhile p).length = text.length := by
      rw [← List.length_append, List.takeWhile_append_dropWhile]
    have : (text.dropWhile p).length = 0 := by omega
    exact left (List.length_eq_zero_iff.1 this)
  rw [List.takeWhile_append, if_neg short]

theorem skipBlanks_append (left : skipBlanks text ≠ []) (more : List Char) :
    skipBlanks (text ++ more) = skipBlanks text ++ more := dropWhile_append_of_ne left more

/-- Blanks that must be there are skipped as others are. -/
theorem skipBlanks_of_blanks (spaced : blanks text = .ok rest) : skipBlanks text = rest := by
  cases text with
  | nil => cases spaced
  | cons c text =>
    rw [blanks] at spaced
    split at spaced
    · rename_i blank
      cases spaced
      exact List.dropWhile_cons_of_pos blank
    · cases spaced

theorem blanks_append (spaced : blanks text = .ok rest) (left : rest ≠ []) (more : List Char) :
    blanks (text ++ more) = .ok (rest ++ more) := by
  cases text with
  | nil => cases spaced
  | cons c text =>
    rw [blanks] at spaced
    split at spaced
    · rename_i blank
      cases spaced
      rw [List.cons_append, blanks, if_pos blank, skipBlanks_append left]
    · cases spaced

/-- A name ends where something follows that no name holds. -/
theorem name_settled {found : List Char} (read : name text = .ok (found, rest)) (left : rest ≠ []) :
    rest <:+ text ∧ ∀ more, name (text ++ more) = .ok (found, rest ++ more) := by
  cases text with
  | nil => cases read
  | cons c text =>
    rw [name] at read
    split at read
    · rename_i starts
      cases read
      constructor
      · exact (List.dropWhile_suffix _).trans (List.suffix_cons c text)
      · intro more
        rw [List.cons_append, name, if_pos starts, dropWhile_append_of_ne left,
          takeWhile_append_of_ne left]
    · cases read

theorem plainName_settled {found : List Char} (read : plainName text = .ok (found, rest))
    (left : rest ≠ []) :
    rest <:+ text ∧ ∀ more, plainName (text ++ more) = .ok (found, rest ++ more) := by
  rw [plainName] at read
  split at read
  · cases read
  · rename_i found' rest' named
    split at read
    · rename_i plain
      cases read
      obtain ⟨ends, same⟩ := name_settled named left
      refine ⟨ends, ?_⟩
      intro more
      rw [plainName, same more]
      exact if_pos plain
    · cases read

/-- A literal ends with its closing quote. -/
theorem literal_settled {value : List Char} (read : literal text = .ok (value, rest)) :
    rest <:+ text ∧ ∀ more, literal (text ++ more) = .ok (value, rest ++ more) := by
  cases text with
  | nil => cases read
  | cons quote text =>
    rw [literal] at read
    split at read
    · rename_i isQuote
      split at read
      · cases read
      · rename_i c left behind
        simp only [Except.ok.injEq, Prod.mk.injEq] at read
        obtain ⟨rfl, rfl⟩ := read
        have some' : text.dropWhile (fun x => decide (x ≠ quote)) ≠ [] := by
          rw [behind]
          exact List.cons_ne_nil _ _
        constructor
        · have ends : c :: left <:+ text := by
            rw [← behind]
            exact List.dropWhile_suffix _
          exact ((List.suffix_cons c left).trans ends).trans (List.suffix_cons quote text)
        · intro more
          rw [List.cons_append, literal, if_pos isQuote, dropWhile_append_of_ne some', behind,
            takeWhile_append_of_ne some']
          rfl
    · cases read

/-! ## Section 2: Marks and asides -/

theorem behind?_settled {mark : List Char} (found : behind? mark text = some rest) :
    rest <:+ text ∧ ∀ more, behind? mark (text ++ more) = some (rest ++ more) := by
  have same := behind?_eq_some.1 found
  refine ⟨⟨mark, same.symm⟩, ?_⟩
  intro more
  rw [same, List.append_assoc]
  exact behind?_append mark (rest ++ more)

theorem beyond?_settled {mark : List Char} (found : beyond? mark text = some rest) :
    rest <:+ text ∧ ∀ more, beyond? mark (text ++ more) = some (rest ++ more) := by
  induction text with
  | nil =>
    rw [beyond?] at found
    obtain ⟨ends, same⟩ := behind?_settled found
    refine ⟨ends, ?_⟩
    intro more
    have here := same more
    rw [List.nil_append] at here ⊢
    cases more with
    | nil => exact here
    | cons c more => rw [beyond?, here]
  | cons c text ih =>
    rw [beyond?] at found
    split at found
    · rename_i left ahead
      cases found
      obtain ⟨ends, same⟩ := behind?_settled ahead
      refine ⟨ends, ?_⟩
      intro more
      have here := same more
      rw [List.cons_append] at here ⊢
      rw [beyond?, here]
    · rename_i missing
      obtain ⟨ends, same⟩ := ih found
      refine ⟨ends.trans (List.suffix_cons c text), ?_⟩
      intro more
      -- The mark comes later in the text itself, so it does not come earlier with more text.
      have still : behind? mark (c :: (text ++ more)) = none := by
        refine Option.eq_none_iff_forall_not_mem.2 fun left ahead => ?_
        have inFront : mark <+: c :: text ++ more := ⟨left, (behind?_eq_some.1 ahead).symm⟩
        have fits : mark.length ≤ (c :: text).length := by
          have := length_of_beyond? found
          rw [List.length_cons]
          omega
        obtain ⟨left', same'⟩ :=
          List.prefix_of_prefix_length_le inFront (List.prefix_append _ _) fits
        rw [behind?_eq_some.2 same'.symm] at missing
        cases missing
      rw [List.cons_append, beyond?, still]
      exact same more

theorem comment_settled (read : comment text = .ok rest) :
    rest <:+ text ∧ ∀ more, comment (text ++ more) = .ok (rest ++ more) := by
  rw [comment] at read
  split at read
  · rename_i left found
    cases read
    obtain ⟨ends, same⟩ := beyond?_settled found
    refine ⟨(List.suffix_cons '>' rest).trans ends, ?_⟩
    intro more
    rw [comment, same more]
    rfl
  · cases read
  · cases read

theorem instruction_settled (read : instruction text = .ok rest) :
    rest <:+ text ∧ ∀ more, instruction (text ++ more) = .ok (rest ++ more) := by
  rw [instruction] at read
  split at read
  · cases read
  · rename_i target left named
    split at read
    · cases read
    · rename_i unreserved
      split at read
      · cases read
        obtain ⟨ends, same⟩ := plainName_settled named (List.cons_ne_nil _ _)
        refine ⟨((List.suffix_cons '>' rest).trans (List.suffix_cons '?' _)).trans ends, ?_⟩
        intro more
        rw [instruction, same more]
        exact if_neg unreserved
      · rename_i c behind notEnd
        obtain ⟨ends, same⟩ := plainName_settled named (List.cons_ne_nil _ _)
        split at read
        · rename_i blank
          split at read
          · rename_i left' found
            cases read
            obtain ⟨ends', same'⟩ := beyond?_settled found
            refine ⟨(ends'.trans (List.suffix_cons c behind)).trans ends, ?_⟩
            intro more
            rw [instruction, same more, List.cons_append]
            dsimp only
            rw [if_neg unreserved]
            split
            · rename_i eq
              rw [(List.cons.inj eq).1] at blank
              cases blank
            · rename_i eq
              rw [← (List.cons.inj eq).1, ← (List.cons.inj eq).2, if_pos blank, same' more]
            · rename_i eq
              cases eq
          · cases read
        · cases read
      · cases read

/-! ## Section 3: References -/

namespace Reference

variable {reference : Reference}

theorem numbered_settled (read : numbered text = .ok (reference, rest)) :
    rest <:+ text ∧ ∀ more, numbered (text ++ more) = .ok (reference, rest ++ more) := by
  rw [numbered] at read
  split at read
  · rename_i left behind
    have some' : text.dropWhile Char.isAlphanum ≠ [] := by
      rw [behind]
      exact List.cons_ne_nil _ _
    split at read
    · rename_i n value
      split at read
      · rename_i allowed
        cases read
        constructor
        · have ends : ';' :: rest <:+ text := by
            rw [← behind]
            exact List.dropWhile_suffix _
          exact (List.suffix_cons ';' rest).trans ends
        · intro more
          rw [numbered, dropWhile_append_of_ne some', takeWhile_append_of_ne some', behind,
            List.cons_append]
          simp only [value, if_pos allowed]
      · cases read
    · cases read
  · cases read

theorem named_settled (read : named text = .ok (reference, rest)) :
    rest <:+ text ∧ ∀ more, named (text ++ more) = .ok (reference, rest ++ more) := by
  rw [named] at read
  split at read
  · rename_i found left held
    obtain ⟨ends, same⟩ := name_settled held (List.cons_ne_nil _ _)
    have ends' : left <:+ text := (List.suffix_cons ';' left).trans ends
    split at read
    · rename_i c known
      cases read
      refine ⟨ends', ?_⟩
      intro more
      rw [named, same more, List.cons_append]
      simp only [known]
    · rename_i unknown
      cases read
      refine ⟨ends', ?_⟩
      intro more
      rw [named, same more, List.cons_append]
      simp only [unknown]
  · cases read
  · cases read

theorem read_settled (found : read text = .ok (reference, rest)) :
    rest <:+ text ∧ ∀ more, read (text ++ more) = .ok (reference, rest ++ more) := by
  cases text with
  | nil =>
    have missing : read [] = .error .nameExpected := rfl
    rw [missing] at found
    cases found
  | cons c text =>
    by_cases sign : c = '#'
    · subst sign
      have number : numbered text = .ok (reference, rest) := found
      obtain ⟨ends, same⟩ := numbered_settled number
      exact ⟨ends.trans (List.suffix_cons '#' text), same⟩
    · have other : ∀ s, read (c :: s) = named (c :: s) := by
        intro s
        rw [read]
        intro digits eq
        exact sign (List.cons.inj eq).1
      rw [other] at found
      obtain ⟨ends, same⟩ := named_settled found
      refine ⟨ends, ?_⟩
      intro more
      exact (other (text ++ more)).trans (same more)

end Reference

/-! ## Section 4: Tags -/

theorem written_settled {written : Written} (read : Written.read text = .ok (written, rest)) :
    rest <:+ text ∧ ∀ more, Written.read (text ++ more) = .ok (written, rest ++ more) := by
  rw [Written.read] at read
  split at read
  · cases read
  · rename_i found left named
    split at read
    · rename_i behind spaced
      split at read
      · cases read
      · rename_i value left' quoted
        cases read
        -- All three readers have found their ends.
        have some' : skipBlanks left ≠ [] := by
          rw [spaced]
          exact List.cons_ne_nil _ _
        have some'' : left ≠ [] := by
          intro empty
          rw [empty] at spaced
          cases spaced
        have some''' : skipBlanks behind ≠ [] := by
          intro empty
          rw [empty] at quoted
          cases quoted
        obtain ⟨ends, same⟩ := name_settled named some''
        obtain ⟨ends', same'⟩ := literal_settled quoted
        constructor
        · have sign : '=' :: behind <:+ left := by
            rw [← spaced]
            exact List.dropWhile_suffix _
          have value : rest <:+ behind := ends'.trans (List.dropWhile_suffix _)
          exact ((value.trans (List.suffix_cons '=' behind)).trans sign).trans ends
        · intro more
          rw [Written.read, same more]
          simp only [skipBlanks_append some', spaced, List.cons_append,
            skipBlanks_append some''', same' more]
    · cases read

/-- Attributes end where their tag does, with one of two marks. -/
theorem writtenAll_settled {all : List Written} (read : writtenAll text = .ok (all, rest)) :
    rest <:+ text ∧ (∃ c left, rest = c :: left ∧ (c = '>' ∨ c = '/')) ∧
      ∀ more, writtenAll (text ++ more) = .ok (all, rest ++ more) := by
  -- Where the attributes end, only blanks have been passed.
  have ended : ∀ {text left : List Char} {c : Char}, skipBlanks text = c :: left →
      (c = '>' ∨ c = '/') → c :: left <:+ text ∧
        (∃ d left', c :: left = d :: left' ∧ (d = '>' ∨ d = '/')) ∧
        ∀ more, writtenAll (text ++ more) = .ok ([], c :: left ++ more) := by
    intro text left c skipped ends
    refine ⟨?_, ⟨c, left, rfl, ends⟩, ?_⟩
    · rw [← skipped]
      exact List.dropWhile_suffix _
    · intro more
      refine writtenAll_end ?_ ends
      rw [skipBlanks_append (by rw [skipped]; exact List.cons_ne_nil _ _), skipped]
      rfl
  fun_induction writtenAll text generalizing all rest with
  | case1 text left skipped =>
    cases read
    exact ended skipped (.inl rfl)
  | case2 text left skipped =>
    cases read
    exact ended skipped (.inr rfl)
  | case3 => cases read
  | case4 => cases read
  | case5 => cases read
  | case6 text ahead spaced written left others left' behind notClose notSlash first _ ih =>
    cases read
    obtain ⟨ends, mark, same⟩ := ih behind
    obtain ⟨ends', same'⟩ := written_settled first
    have skipped := skipBlanks_of_blanks spaced
    -- An attribute is there, so that the text does not end with the blanks.
    obtain ⟨c, more', split⟩ : ∃ c more', ahead = c :: more' := by
      cases ahead with
      | nil =>
        rw [skipped] at first
        cases first
      | cons c more' => exact ⟨c, more', rfl⟩
    subst split
    have open_ : c ≠ '>' ∧ c ≠ '/' := by
      constructor
      · rintro rfl
        exact notClose more' skipped
      · rintro rfl
        exact notSlash more' skipped
    rw [skipped] at ends' same'
    have inText : c :: more' <:+ text := by
      rw [← skipped]
      exact List.dropWhile_suffix _
    refine ⟨(ends.trans ends').trans inText, mark, ?_⟩
    intro more
    have skipped' : skipBlanks (text ++ more) = c :: (more' ++ more) := by
      rw [skipBlanks_append (by rw [skipped]; exact List.cons_ne_nil _ _), skipped]
      rfl
    exact writtenAll_step (blanks_append spaced (List.cons_ne_nil _ _) more) skipped' open_
      (same' more) (same more)

/-! ## Section 5: Tokens -/

namespace Token

/-- A start tag ends with its mark, also where it is noted. -/
theorem start_settled {token : Token} (read : start text = .ok (token, rest)) :
    ∃ found all isEmpty, token = .opening ⟨found, all, isEmpty⟩ (endMark isEmpty ++ rest) ∧
      endMark isEmpty ++ rest <:+ text ∧
      ∀ more, start (text ++ more) =
        .ok (.opening ⟨found, all, isEmpty⟩ (endMark isEmpty ++ (rest ++ more)), rest ++ more) := by
  rw [start] at read
  split at read
  · cases read
  · rename_i found behind named
    -- The two ways to end differ in the mark alone.
    have finished : ∀ {all : List Written} {isEmpty : Bool},
        writtenAll behind = .ok (all, endMark isEmpty ++ rest) →
        endMark isEmpty ++ rest <:+ text ∧ ∀ more, start (text ++ more) =
          .ok (.opening ⟨found, all, isEmpty⟩ (endMark isEmpty ++ (rest ++ more)), rest ++ more) := by
      intro all isEmpty taken
      have some' : behind ≠ [] := by
        rintro rfl
        have missing : writtenAll [] = .error .blankExpected := by
          rw [writtenAll]
          rfl
        rw [missing] at taken
        cases taken
      obtain ⟨ends, same⟩ := name_settled named some'
      obtain ⟨ends', -, same'⟩ := writtenAll_settled taken
      refine ⟨ends'.trans ends, ?_⟩
      intro more
      refine start_of_parts (same more) ?_
      rw [same' more, List.append_assoc]
    split at read
    · cases read
    · rename_i all left taken
      cases read
      exact ⟨found, all, false, rfl, finished taken⟩
    · rename_i all left taken
      cases read
      exact ⟨found, all, true, rfl, finished taken⟩
    · cases read

theorem finish_settled {token : Token} (read : finish text = .ok (token, rest)) :
    (∃ found, token = .closing found) ∧ rest <:+ text ∧
      ∀ more, finish (text ++ more) = .ok (token, rest ++ more) := by
  rw [finish] at read
  split at read
  · cases read
  · rename_i found behind named
    split at read
    · rename_i left spaced
      cases read
      have some' : skipBlanks behind ≠ [] := by
        rw [spaced]
        exact List.cons_ne_nil _ _
      have some'' : behind ≠ [] := by
        rintro rfl
        cases spaced
      obtain ⟨ends, same⟩ := name_settled named some''
      refine ⟨⟨found, rfl⟩, ?_, ?_⟩
      · have mark : '>' :: rest <:+ behind := by
          rw [← spaced]
          exact List.dropWhile_suffix _
        exact ((List.suffix_cons '>' rest).trans mark).trans ends
      · intro more
        rw [finish, same more]
        simp only [skipBlanks_append some', spaced, List.cons_append]
    · cases read

/-- A start tag starts with a name, and the name with a character of its own. -/
theorem starts_of_start {c : Char} {token : Token} (read : start (c :: text) = .ok (token, rest)) :
    isNameStart c = true ∨ c = ':' := by
  by_cases starts : (isNameStart c || c = ':') = true
  · rwa [Bool.or_eq_true, decide_eq_true_eq] at starts
  · rw [start, name, if_neg starts] at read
    cases read

theorem markup_settled {token : Token} (read : markup text = .ok (token, rest)) :
    rest <:+ text ∧ (∀ tag left, token = .opening tag left →
        left <:+ text ∧ left = endMark tag.isEmpty ++ rest) ∧
      ∀ more, ∃ token', markup (text ++ more) = .ok (token', rest ++ more) := by
  -- Asides go the same way, behind marks of their own.
  have aside : ∀ {reader : List Char → Except Fault (List Char)} {behind : List Char},
      (reader behind).map (Token.aside, ·) = .ok (token, rest) →
      token = .aside ∧ reader behind = .ok rest := by
    intro reader behind mapped
    cases found : reader behind with
    | error fault =>
      rw [found] at mapped
      cases mapped
    | ok left =>
      rw [found] at mapped
      cases mapped
      exact ⟨rfl, rfl⟩
  unfold markup at read
  split at read
  · rename_i behind
    obtain ⟨⟨found, rfl⟩, ends, same⟩ := finish_settled read
    refine ⟨ends.trans (List.suffix_cons '/' behind), fun _ _ => nofun, ?_⟩
    intro more
    exact ⟨_, same more⟩
  · rename_i behind
    obtain ⟨rfl, found⟩ := aside read
    obtain ⟨ends, same⟩ := instruction_settled found
    refine ⟨ends.trans (List.suffix_cons '?' behind), fun _ _ => nofun, ?_⟩
    intro more
    refine ⟨.aside, ?_⟩
    show (instruction (behind ++ more)).map (Token.aside, ·) = _
    rw [same more]
    rfl
  · rename_i behind
    obtain ⟨rfl, found⟩ := aside read
    obtain ⟨ends, same⟩ := comment_settled found
    refine ⟨ends.trans ⟨['!', '-', '-'], rfl⟩, fun _ _ => nofun, ?_⟩
    intro more
    refine ⟨.aside, ?_⟩
    show (comment (behind ++ more)).map (Token.aside, ·) = _
    rw [same more]
    rfl
  · rename_i behind
    split at read
    · rename_i left found
      cases read
      obtain ⟨ends, same⟩ := beyond?_settled found
      refine ⟨ends.trans ⟨['!', '[', 'C', 'D', 'A', 'T', 'A', '['], rfl⟩,
        fun _ _ => nofun, ?_⟩
      intro more
      refine ⟨.data, ?_⟩
      show markup ('!' :: '[' :: 'C' :: 'D' :: 'A' :: 'T' :: 'A' :: '[' :: (behind ++ more)) = _
      rw [markup, same more]
    · cases read
  · obtain ⟨found, all, isEmpty, rfl, ends, same⟩ := start_settled read
    refine ⟨(List.suffix_append (endMark isEmpty) rest).trans ends, ?_, ?_⟩
    · rintro tag left eq
      cases eq
      exact ⟨ends, rfl⟩
    · intro more
      refine ⟨_, Eq.trans ?_ (same more)⟩
      -- A name comes first, with and without more text.
      cases text with
      | nil => cases read
      | cons c text => exact markup_of_name (starts_of_start read) (text ++ more)

/-- A character that opens nothing is a token by itself, unless it is a
    bracket that ends a section. -/
theorem next_character {c : Char} (less : c ≠ '<') (ampersand : c ≠ '&') (text : List Char) :
    (∃ token, (token = .blank ∨ token = .data) ∧ next c text = .ok (token, text)) ∨
      (c = ']' ∧ ∃ fault, next c text = .error fault) := by
  unfold next
  rw [if_neg less, if_neg ampersand]
  by_cases bracket : c = ']'
  · rw [if_pos bracket]
    split
    · exact .inr ⟨bracket, _, rfl⟩
    · exact .inl ⟨.data, .inr rfl, rfl⟩
  · rw [if_neg bracket]
    by_cases blank : isBlank c = true
    · exact .inl ⟨.blank, .inl rfl, by rw [if_pos blank]⟩
    · exact .inl ⟨.data, .inr rfl, by rw [if_neg blank]⟩

/-- Reading a token leaves an end of the text.  The mark that ends a start
    tag is in front of it.  With more text behind, there is a token of the
    same length, unless a bracket is ahead. -/
theorem next_settled {c : Char} {token : Token} (read : next c text = .ok (token, rest)) :
    rest <:+ text ∧ (∀ tag left, token = .opening tag left →
        left <:+ text ∧ left = endMark tag.isEmpty ++ rest) ∧
      (c ≠ ']' → ∀ more, ∃ token', next c (text ++ more) = .ok (token', rest ++ more)) := by
  by_cases less : c = '<'
  · subst less
    have here : markup text = .ok (token, rest) := read
    obtain ⟨ends, mark, same⟩ := markup_settled here
    exact ⟨ends, mark, fun _ => same⟩
  by_cases ampersand : c = '&'
  · subst ampersand
    unfold next at read
    rw [if_neg (by decide), if_pos rfl] at read
    split at read
    · cases read
    · rename_i d left found
      cases read
      obtain ⟨ends, same⟩ := Reference.read_settled found
      refine ⟨ends, fun _ _ => nofun, ?_⟩
      intro _ more
      refine ⟨.data, ?_⟩
      unfold next
      rw [if_neg (by decide), if_pos rfl, same more]
    · rename_i name left found
      cases read
      obtain ⟨ends, same⟩ := Reference.read_settled found
      refine ⟨ends, fun _ _ => nofun, ?_⟩
      intro _ more
      refine ⟨.entity name, ?_⟩
      unfold next
      rw [if_neg (by decide), if_pos rfl, same more]
  -- Any other character is a token by itself.
  rcases next_character less ampersand text with ⟨token', kind, found⟩ | ⟨-, fault, failed⟩
  · rw [found] at read
    cases read
    refine ⟨List.suffix_refl _, ?_, ?_⟩
    · rintro tag left rfl
      rcases kind with eq | eq
      · cases eq
      · cases eq
    · intro other more
      rcases next_character less ampersand (text ++ more) with ⟨token'', -, again⟩ | ⟨bracket, -⟩
      · exact ⟨token'', again⟩
      · exact absurd bracket other
  · rw [failed] at read
    cases read

/-- A token that is cut short is no token: what comes behind the whole token
    is less than what has been cut off. -/
theorem fault_of_cut {c : Char} {cut left : List Char} {token : Token}
    (whole : next c (text ++ cut) = .ok (token, left)) (short : left.length < cut.length)
    (other : c ≠ ']') : ∃ fault, next c text = .error fault := by
  cases found : next c text with
  | error fault => exact ⟨fault, rfl⟩
  | ok result =>
    obtain ⟨token', rest⟩ := result
    obtain ⟨-, -, same⟩ := next_settled found
    obtain ⟨token'', again⟩ := same other cut
    rw [whole] at again
    cases again
    rw [List.length_append] at short
    omega

end Token

end StringOrigins.Xml
