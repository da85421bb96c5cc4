import StringOrigins.Text.Line
import StringOrigins.Text.Word

/-! # Lines and blanks, declaratively

    A text falls into lines in exactly one way (`fallsInto_iff`): a line
    holds no break, the pair CR LF is one break, and there is no empty line
    behind the last break.  Stripping takes the white space off both ends
    and nothing else (`isStripped_strip`).

    The lines of a text do not depend on how a line ends: they are the same
    once all line ends are (`lines_unifyLineEnds`), and lines that are put
    together are found again, but for empty ones (`ConsistsOf.filter_lines`). -/

namespace StringOrigins.Text

/-! ## Section 1: How a text falls into lines -/

/-- Whether a text holds no line break. -/
def IsWhole (line : List Char) : Prop := ∀ c ∈ line, isLineBreak c = false

instance (line : List Char) : Decidable (IsWhole line) :=
  List.decidableBAll (fun c => isLineBreak c = false) line

/-- Whether a mark in front of some text is one line break: the pair CR LF,
    or one character that is not the first half of that pair. -/
def IsMark (mark rest : List Char) : Prop :=
  mark = ['\r', '\n'] ∨
    ∃ c, mark = [c] ∧ isLineBreak c = true ∧ ¬ (c = '\r' ∧ rest.head? = some '\n')

/-- A text falls into lines. -/
inductive FallsInto : List Char → List (List Char) → Prop where
  /-- The empty text has no lines. -/
  | none : FallsInto [] []
  /-- A last line without a break behind it. -/
  | last {line : List Char} (nonempty : line ≠ []) (whole : IsWhole line) : FallsInto line [line]
  /-- A line, its break, and the lines behind it. -/
  | line {line mark rest : List Char} {more : List (List Char)} (whole : IsWhole line)
      (ends : IsMark mark rest) (others : FallsInto rest more) :
      FallsInto (line ++ mark ++ rest) (line :: more)

theorem isWhole_nil : IsWhole [] := fun _ m => absurd m List.not_mem_nil

theorem IsWhole.concat {line : List Char} (whole : IsWhole line) {c : Char}
    (other : isLineBreak c = false) : IsWhole (line ++ [c]) := by
  intro d m
  rcases List.mem_append.1 m with m | m
  · exact whole d m
  · rw [List.mem_singleton.1 m]
    exact other

/-- The lines behind the beginning of a line are those of the whole text. -/
theorem fallsInto_linesFrom (begun : List Char) (whole : IsWhole begun.reverse)
    (s : List Char) : FallsInto (begun.reverse ++ s) (linesFrom begun s) := by
  fun_induction linesFrom begun s with
  | case1 begun empty =>
    rw [List.isEmpty_iff.1 empty]
    exact .none
  | case2 begun nonempty =>
    rw [List.append_nil]
    refine .last ?_ whole
    intro eq
    rw [List.reverse_eq_nil_iff.1 eq] at nonempty
    exact nonempty rfl
  | case3 begun rest ih =>
    have split := FallsInto.line whole (Or.inl rfl) (ih isWhole_nil)
    rw [List.append_assoc] at split
    exact split
  | case4 begun c rest other breaks ih =>
    -- This is no pair, so the character is a break of its own.
    have mark : IsMark [c] rest := by
      refine Or.inr ⟨c, rfl, breaks, ?_⟩
      rintro ⟨rfl, feed⟩
      obtain ⟨more, rfl⟩ := List.head?_eq_some_iff.1 feed
      exact other more rfl rfl
    have split := FallsInto.line whole mark (ih isWhole_nil)
    rw [List.append_assoc] at split
    exact split
  | case5 begun c rest other stays ih =>
    rw [Bool.not_eq_true] at stays
    have longer : IsWhole (c :: begun).reverse := by
      rw [List.reverse_cons]
      exact whole.concat stays
    have split := ih longer
    rw [List.reverse_cons, List.append_assoc] at split
    exact split

/-- The characters of a line are all taken before its end is looked for. -/
theorem linesFrom_whole {line : List Char} (whole : IsWhole line) (begun rest : List Char) :
    linesFrom begun (line ++ rest) = linesFrom (line.reverse ++ begun) rest := by
  induction line generalizing begun with
  | nil => rfl
  | cons c line ih =>
    have stays : isLineBreak c = false := whole c List.mem_cons_self
    have other : c ≠ '\r' := by
      rintro rfl
      exact absurd stays (by decide)
    rw [List.cons_append, linesFrom]
    · rw [stays]
      rw [List.reverse_cons, List.append_assoc]
      exact ih (fun d m => whole d (List.mem_cons_of_mem c m)) (c :: begun)
    · intro more eq
      exact absurd eq other

/-- A break ends the line that has begun. -/
theorem linesFrom_mark {mark rest : List Char} (ends : IsMark mark rest) (begun : List Char) :
    linesFrom begun (mark ++ rest) = begun.reverse :: linesFrom [] rest := by
  rcases ends with rfl | ⟨c, rfl, breaks, single⟩
  · rfl
  · rw [List.singleton_append, linesFrom]
    · rw [if_pos breaks]
    · rintro more rfl rfl
      exact single ⟨rfl, rfl⟩

/-- A text falls into its lines, and into no others. -/
theorem fallsInto_iff {s : List Char} {all : List (List Char)} :
    FallsInto s all ↔ all = lines s := by
  constructor
  · intro falls
    unfold lines
    induction falls with
    | none => rfl
    | last nonempty whole =>
      rename_i line
      have taken := linesFrom_whole whole [] []
      rw [List.append_nil, List.append_nil] at taken
      rw [taken, linesFrom, List.isEmpty_reverse]
      rw [if_neg (fun empty => nonempty (List.isEmpty_iff.1 empty)), List.reverse_reverse]
    | line whole ends others ih =>
      rw [List.append_assoc, linesFrom_whole whole, linesFrom_mark ends, List.append_nil,
        List.reverse_reverse, ih]
  · rintro rfl
    exact fallsInto_linesFrom [] isWhole_nil s

/-! ## Section 2: Stripping -/

/-- Whether a text is what is left of a line without the white space at its ends. -/
structure IsStripped (line s : List Char) : Prop where
  split : ∃ before after, line = before ++ s ++ after ∧ (∀ c ∈ before, isBlank c = true) ∧
    ∀ c ∈ after, isBlank c = true
  front : ∀ c, s.head? = some c → isBlank c = false
  back : ∀ c, s.getLast? = some c → isBlank c = false

/-- What is left of a text starts with no blank. -/
theorem head?_dropWhile {s : List Char} {c : Char}
    (first : (s.dropWhile isBlank).head? = some c) : isBlank c = false := by
  have dark := List.head?_dropWhile_not isBlank s
  rw [first] at dark
  exact dark

/-- All that is taken off is blank. -/
theorem isBlank_of_mem_takeWhile {s : List Char} {c : Char} (m : c ∈ s.takeWhile isBlank) :
    isBlank c = true :=
  List.all_eq_true.1 List.all_takeWhile c m

theorem isStripped_strip (line : List Char) : IsStripped line (strip line) := by
  -- Blanks are taken off the front, then off the reverse of what is left.
  have back : strip line ++ ((line.dropWhile isBlank).reverse.takeWhile isBlank).reverse =
      line.dropWhile isBlank := by
    unfold strip
    rw [← List.reverse_append, List.takeWhile_append_dropWhile, List.reverse_reverse]
  constructor
  · refine ⟨line.takeWhile isBlank,
      ((line.dropWhile isBlank).reverse.takeWhile isBlank).reverse, ?_, ?_, ?_⟩
    · rw [List.append_assoc, back, List.takeWhile_append_dropWhile]
    · intro c m
      exact isBlank_of_mem_takeWhile m
    · intro c m
      exact isBlank_of_mem_takeWhile (List.mem_reverse.1 m)
  · intro c first
    have left : (line.dropWhile isBlank).head? = some c := by
      rw [← back, List.head?_append, first]
      rfl
    exact head?_dropWhile left
  · intro c last
    unfold strip at last
    rw [List.getLast?_reverse] at last
    exact head?_dropWhile last

@[simp] theorem strip_nil : strip [] = [] := rfl

/-- Nothing is left of a line of blanks. -/
theorem strip_of_blank {line : List Char} (blank : ∀ c ∈ line, isBlank c = true) :
    strip line = [] := by
  have nothing : line.dropWhile isBlank = [] := by
    rw [← List.append_nil line, List.dropWhile_append_of_pos blank]
    rfl
  unfold strip
  rw [nothing]
  rfl

/-- A text without white space at its ends is not changed. -/
theorem strip_of_ends {s : List Char} (front : ∀ c, s.head? = some c → isBlank c = false)
    (back : ∀ c, s.getLast? = some c → isBlank c = false) : strip s = s := by
  have stays : ∀ t : List Char, (∀ c, t.head? = some c → isBlank c = false) →
      t.dropWhile isBlank = t := by
    intro t first
    cases t with
    | nil => rfl
    | cons c t => simp [first c rfl]
  unfold strip
  rw [stays s front, stays s.reverse, List.reverse_reverse]
  intro c last
  rw [List.head?_reverse] at last
  exact back c last

/-! ## Section 3: Words and white space -/

/-- The code points of white space. -/
def blanks : List Nat :=
  [0x09, 0x0A, 0x0B, 0x0C, 0x0D, 0x1C, 0x1D, 0x1E, 0x1F, 0x20, 0x85, 0xA0, 0x1680, 0x2000, 0x2001,
   0x2002, 0x2003, 0x2004, 0x2005, 0x2006, 0x2007, 0x2008, 0x2009, 0x200A, 0x2028, 0x2029, 0x202F,
   0x205F, 0x3000]

theorem mem_blanks {c : Char} (blank : isBlank c = true) : c.toNat ∈ blanks := by
  simp only [isBlank, Bool.or_eq_true, Bool.and_eq_true, decide_eq_true_eq, beq_iff_eq] at blank
  simp only [blanks, List.mem_cons, List.not_mem_nil, or_false]
  omega

theorem not_isWord_blanks : ∀ n ∈ blanks, isWord (Char.ofNat n) = false := by
  decide +kernel

/-- No word character is white space. -/
theorem isBlank_of_isWord {c : Char} (word : isWord c = true) : isBlank c = false := by
  apply Bool.eq_false_iff.2
  intro blank
  have other := not_isWord_blanks c.toNat (mem_blanks blank)
  rw [Char.ofNat_toNat, word] at other
  cases other

/-- Nothing is stripped from word characters. -/
theorem strip_of_isWord {s : List Char} (words : ∀ c ∈ s, isWord c = true) : strip s = s := by
  apply strip_of_ends
  · intro c first
    exact isBlank_of_isWord (words c (List.mem_of_head? first))
  · intro c last
    exact isBlank_of_isWord (words c (List.mem_of_getLast? last))

/-- No word character ends a line. -/
theorem isLineBreak_of_isWord {c : Char} (word : isWord c = true) : isLineBreak c = false := by
  apply Bool.eq_false_iff.2
  intro breaks
  have bare := isBlank_of_isWord word
  rw [isBlank_of_isLineBreak breaks] at bare
  cases bare

/-! ## Section 4: Line ends -/

/-- What is done stands in front of what comes of the rest. -/
theorem unifyFrom_eq (done s : List Char) :
    unifyFrom done s = done.reverse ++ unifyLineEnds s := by
  -- The induction is along the rest, for any text that is done.
  suffices all : ∀ d, unifyFrom d s = d.reverse ++ unifyLineEnds s from all done
  induction done, s using unifyFrom.induct with
  | case1 done => simp [unifyLineEnds, unifyFrom]
  | case2 done rest ih =>
    intro d
    show unifyFrom ('\n' :: d) rest = d.reverse ++ unifyFrom ['\n'] rest
    rw [ih, ih]
    simp
  | case3 done rest single ih =>
    intro d
    have step : ∀ d, unifyFrom d ('\r' :: rest) = unifyFrom ('\n' :: d) rest := by
      intro d
      rw [unifyFrom]
      exact single
    rw [unifyLineEnds, step, step, ih, ih]
    simp
  | case4 done c rest pair lone ih =>
    intro d
    have step : ∀ d, unifyFrom d (c :: rest) = unifyFrom (c :: d) rest := by
      intro d
      rw [unifyFrom]
      · exact pair
      · exact lone
    rw [unifyLineEnds, step, step, ih, ih]
    simp

/-- A pair becomes one line feed. -/
theorem unifyLineEnds_pair (rest : List Char) :
    unifyLineEnds ('\r' :: '\n' :: rest) = '\n' :: unifyLineEnds rest := by
  rw [unifyLineEnds, unifyFrom, unifyFrom_eq]
  rfl

/-- So does a carriage return that is no half of a pair. -/
theorem unifyLineEnds_return {rest : List Char} (single : ∀ more, rest ≠ '\n' :: more) :
    unifyLineEnds ('\r' :: rest) = '\n' :: unifyLineEnds rest := by
  rw [unifyLineEnds, unifyFrom, unifyFrom_eq]
  · rfl
  · exact single

/-- Other characters stay. -/
theorem unifyLineEnds_other {c : Char} (other : c ≠ '\r') (rest : List Char) :
    unifyLineEnds (c :: rest) = c :: unifyLineEnds rest := by
  rw [unifyLineEnds, unifyFrom, unifyFrom_eq]
  · rfl
  · exact fun _ same _ => other same
  · exact fun same => other same

/-- A text without carriage returns keeps its line ends. -/
theorem unifyLineEnds_of_not_mem {s : List Char} (absent : '\r' ∉ s) : unifyLineEnds s = s := by
  induction s with
  | nil => rfl
  | cons c s ih =>
    rw [List.mem_cons, not_or] at absent
    rw [unifyLineEnds_other (fun same => absent.1 same.symm), ih absent.2]

/-- A break that is no carriage return is one whatever follows. -/
theorem isMark_of_ne {c : Char} (breaks : isLineBreak c = true) (other : c ≠ '\r')
    (rest : List Char) : IsMark [c] rest :=
  Or.inr ⟨c, rfl, breaks, fun both => other both.1⟩

theorem linesFrom_unifyLineEnds (begun s : List Char) :
    linesFrom begun (unifyLineEnds s) = linesFrom begun s := by
  have feed : ∀ (begun rest : List Char),
      linesFrom begun ('\n' :: rest) = begun.reverse :: linesFrom [] rest := by
    intro begun rest
    exact linesFrom_mark (isMark_of_ne (by decide) (by decide) rest) begun
  fun_induction linesFrom begun s with
  | case1 begun empty =>
    show linesFrom begun [] = []
    rw [linesFrom, if_pos empty]
  | case2 begun nonempty =>
    show linesFrom begun [] = [begun.reverse]
    rw [linesFrom, if_neg nonempty]
  | case3 begun rest ih => rw [unifyLineEnds_pair, feed, ih]
  | case4 begun c rest pair breaks ih =>
    by_cases lone : c = '\r'
    · subst lone
      have single : ∀ more, rest ≠ '\n' :: more := fun more eq => pair more rfl eq
      rw [unifyLineEnds_return single, feed, ih]
    · rw [unifyLineEnds_other lone, ← List.singleton_append,
        linesFrom_mark (isMark_of_ne breaks lone _), ih]
  | case5 begun c rest pair stays ih =>
    have other : c ≠ '\r' := by
      intro same
      rw [same] at stays
      exact stays (by decide)
    have whole : IsWhole [c] := by
      intro d m
      rw [List.mem_singleton.1 m]
      exact Bool.eq_false_iff.2 stays
    rw [unifyLineEnds_other other, ← List.singleton_append, linesFrom_whole whole]
    exact ih

/-- A text falls into the same lines, whichever line ends are made the same. -/
theorem lines_unifyLineEnds (s : List Char) : lines (unifyLineEnds s) = lines s :=
  linesFrom_unifyLineEnds [] s

/-! ## Section 5: Lines that are put together -/

/-- Whether a mark may end a line: the pair CR LF, or any line break. -/
def IsTerminator (mark : List Char) : Prop :=
  mark = ['\r', '\n'] ∨ ∃ c, mark = [c] ∧ isLineBreak c = true

/-- A text consists of lines with a mark behind each.  Behind the last line
    there may be none. -/
inductive ConsistsOf : List (List Char) → List Char → Prop where
  | none : ConsistsOf [] []
  | last {line : List Char} (whole : IsWhole line) : ConsistsOf [line] line
  | line {line mark rest : List Char} {more : List (List Char)} (whole : IsWhole line)
      (ends : IsTerminator mark) (others : ConsistsOf more rest) :
      ConsistsOf (line :: more) (line ++ mark ++ rest)

/-- A mark is a break of its own, or the first half of a pair. -/
theorem IsTerminator.cases_mark {mark : List Char} (ends : IsTerminator mark) (rest : List Char) :
    IsMark mark rest ∨ mark = ['\r'] ∧ ∃ more, rest = '\n' :: more := by
  obtain pair | ⟨c, single, breaks⟩ := ends
  · exact Or.inl (Or.inl pair)
  · by_cases half : c = '\r' ∧ rest.head? = some '\n'
    · obtain ⟨rfl, feed⟩ := half
      exact Or.inr ⟨single, List.head?_eq_some_iff.1 feed⟩
    · exact Or.inl (Or.inr ⟨c, single, breaks, half⟩)

/-- A line is followed by the others, but for an empty one whose mark goes
    together with the mark of the line. -/
theorem filter_lines_line {line mark : List Char} (whole : IsWhole line) (ends : IsTerminator mark)
    (rest : List Char) :
    (lines (line ++ mark ++ rest)).filter (· ≠ []) =
      (line :: lines rest).filter (· ≠ []) := by
  have front : ∀ after : List Char, lines (line ++ after) = linesFrom line.reverse after := by
    intro after
    unfold lines
    rw [linesFrom_whole whole, List.append_nil]
  rw [List.append_assoc, front]
  obtain single | ⟨rfl, more, rfl⟩ := ends.cases_mark rest
  · rw [linesFrom_mark single, List.reverse_reverse]
    rfl
  · have feed : lines ('\n' :: more) = [] :: lines more :=
      linesFrom_mark (isMark_of_ne (by decide) (by decide) more) []
    have pair : linesFrom line.reverse ('\r' :: '\n' :: more) = line :: lines more := by
      rw [linesFrom, List.reverse_reverse]
      rfl
    rw [feed, List.singleton_append, pair]
    simp [List.filter_cons]

/-- Of the lines that are put together, all but empty ones are found again. -/
theorem ConsistsOf.filter_lines {all : List (List Char)} {s : List Char}
    (made : ConsistsOf all s) : (lines s).filter (· ≠ []) = all.filter (· ≠ []) := by
  induction made with
  | none => rfl
  | @last line whole =>
    have alone : lines line = if line.reverse.isEmpty then [] else [line] := by
      have taken := linesFrom_whole whole [] []
      rw [List.append_nil, List.append_nil, linesFrom, List.reverse_reverse] at taken
      exact taken
    rw [alone]
    cases line with
    | nil => rfl
    | cons c line => simp
  | line whole ends others ih =>
    rw [filter_lines_line whole ends, List.filter_cons, List.filter_cons, ih]

end StringOrigins.Text
