import StringOrigins.CommandLine.Argument

/-! # Spellings and abbreviations

    The start of a long spelling stands for the spelling as long as no other
    long spelling starts like it.  Alone or in front of an equals sign and a
    value, it is told to be a choice of its setting (`classify_of_abbreviates`,
    `classify_carrying`).  A text that does not start with a hyphen is always
    a value (`classify_of_free`). -/

namespace StringOrigins.CommandLine

/-! ## Section 1: Spellings -/

namespace Setting

theorem mem_spelled_iff {spelling : String} {setting : Setting} :
    (spelling, setting) ∈ spelled ↔ spelling ∈ setting.spellings := by
  have listed : setting ∈ all := by cases setting <;> decide
  unfold spelled
  rw [List.mem_flatMap]
  constructor
  · rintro ⟨other, -, m⟩
    obtain ⟨spelling', inside, same⟩ := List.mem_map.1 m
    obtain ⟨rfl, rfl⟩ := Prod.mk.inj same
    exact inside
  · intro inside
    exact ⟨setting, listed, List.mem_map_of_mem inside⟩

/-- A spelling belongs to one setting. -/
theorem ofSpelling?_eq_some_iff {spelling : String} {setting : Setting} :
    ofSpelling? spelling = some setting ↔ spelling ∈ setting.spellings := by
  have distinct : ∀ entry ∈ spelled, ofSpelling? entry.1 = some entry.2 := by decide
  constructor
  · intro found
    obtain ⟨before, after, split, -⟩ := List.lookup_eq_some_iff.1 found
    apply mem_spelled_iff.1
    rw [split]
    exact List.mem_append_right before List.mem_cons_self
  · intro inside
    exact distinct _ (mem_spelled_iff.2 inside)

/-- What holds of the spellings of all settings. -/
theorem forall_spelling {p : String → Prop} (all : ∀ entry ∈ spelled, p entry.1)
    {spelling : String} {setting : Setting} (spells : spelling ∈ setting.spellings) :
    p spelling :=
  all _ (mem_spelled_iff.2 spells)

theorem equals_not_mem_spelling {spelling : String} {setting : Setting}
    (spells : spelling ∈ setting.spellings) : '=' ∉ spelling.toList :=
  forall_spelling (p := fun spelling => '=' ∉ spelling.toList) (by decide) spells

end Setting

/-! ## Section 2: Abbreviations -/

/-- Whether a spelling starts with two hyphens. -/
def IsLong (spelling : String) : Prop := ['-', '-'] <+: spelling.toList

instance (spelling : String) : Decidable (IsLong spelling) :=
  inferInstanceAs (Decidable (['-', '-'] <+: spelling.toList))

/-- A text is the start of a long spelling of a setting, and of no other long
    spelling. -/
structure Abbreviates (start : List Char) (setting : Setting) (spelling : String) : Prop where
  spells : spelling ∈ setting.spellings
  isLong : IsLong spelling
  starts : start <+: spelling.toList
  alone : ∀ other : Setting, ∀ spelling' ∈ other.spellings, IsLong spelling' →
    start <+: spelling'.toList → spelling' = spelling

/-- The other spellings may be looked at one by one. -/
theorem abbreviates_of_spelled {start : List Char} {setting : Setting} {spelling : String}
    (spells : spelling ∈ setting.spellings) (isLong : IsLong spelling)
    (starts : start <+: spelling.toList)
    (alone : ∀ entry ∈ Setting.spelled, IsLong entry.1 → start <+: entry.1.toList →
      entry.1 = spelling) : Abbreviates start setting spelling :=
  ⟨spells, isLong, starts, fun other spelling' spells' =>
    alone (spelling', other) (Setting.mem_spelled_iff.2 spells')⟩

/-- No long spelling starts with another one, so each of them may be written in full. -/
theorem abbreviates_self {setting : Setting} {spelling : String}
    (spells : spelling ∈ setting.spellings) (isLong : IsLong spelling) :
    Abbreviates spelling.toList setting spelling := by
  have apart : ∀ entry ∈ Setting.spelled, IsLong entry.1 → ∀ entry' ∈ Setting.spelled,
      IsLong entry'.1 → entry.1.toList <+: entry'.1.toList → entry'.1 = entry.1 := by
    decide
  exact abbreviates_of_spelled spells isLong List.prefix_rfl
    (apart (spelling, setting) (Setting.mem_spelled_iff.2 spells) isLong)

namespace Abbreviates

variable {start : List Char} {setting : Setting} {spelling : String}
  (abbreviates : Abbreviates start setting spelling)

include abbreviates

/-- Two hyphens alone start several long spellings. -/
theorem not_prefix_hyphens : ¬ start <+: ['-', '-'] := by
  intro short
  have shared : ∀ other : Setting, ∀ spelling' ∈ other.spellings, IsLong spelling' →
      spelling' = spelling :=
    fun other spelling' spells isLong =>
      abbreviates.alone other spelling' spells isLong (short.trans isLong)
  have output := shared .output "--out" (by decide) (by decide)
  have root := shared .root "--project-root" (by decide) (by decide)
  rw [← output] at root
  exact absurd root (by decide)

/-- So at least one more character stands behind them. -/
theorem exists_cons : ∃ c rest, start = '-' :: '-' :: c :: rest := by
  rcases List.prefix_or_prefix_of_prefix abbreviates.starts abbreviates.isLong with short | long
  · exact absurd short abbreviates.not_prefix_hyphens
  · obtain ⟨behind, rfl⟩ := long
    cases behind with
    | nil => exact absurd List.prefix_rfl abbreviates.not_prefix_hyphens
    | cons c rest => exact ⟨c, rest, rfl⟩

theorem equals_not_mem : '=' ∉ start :=
  fun m => Setting.equals_not_mem_spelling abbreviates.spells (abbreviates.starts.subset m)

/-- A spelling that the text starts is the one that it abbreviates. -/
theorem eq_of_mem_spelled {entry : String × Setting} (m : entry ∈ Setting.spelled)
    (starts : start <+: entry.1.toList) : entry = (spelling, setting) := by
  obtain ⟨c, rest, text⟩ := abbreviates.exists_cons
  have isLong : IsLong entry.1 := by
    refine List.IsPrefix.trans ?_ starts
    rw [text]
    exact List.prefix_append ['-', '-'] (c :: rest)
  have spells := Setting.mem_spelled_iff.1 m
  have same := abbreviates.alone entry.2 entry.1 spells isLong starts
  rw [same] at spells
  have setting' := (Setting.ofSpelling?_eq_some_iff.2 spells).symm.trans
    (Setting.ofSpelling?_eq_some_iff.2 abbreviates.spells)
  exact Prod.ext same (Option.some.inj setting')

end Abbreviates

/-! ## Section 3: Choices of settings -/

namespace Argument

/-- Characters other than an equals sign are passed. -/
theorem passed_of_not_mem {s : List Char} (absent : '=' ∉ s) :
    ∀ c ∈ s, decide (c ≠ '=') = true := by
  intro c m
  rw [decide_eq_true_eq]
  rintro rfl
  exact absent m

theorem splitEquals_of_not_mem {s : List Char} (absent : '=' ∉ s) : splitEquals s = (s, none) := by
  have all : s.dropWhile (· ≠ '=') = [] := by
    rw [← List.append_nil s, List.dropWhile_append_of_pos (passed_of_not_mem absent)]
    rfl
  unfold splitEquals
  rw [all]

theorem splitEquals_append {s : List Char} (absent : '=' ∉ s) (value : List Char) :
    splitEquals (s ++ '=' :: value) = (s, some value) := by
  unfold splitEquals
  rw [List.dropWhile_append_of_pos (passed_of_not_mem absent),
    List.takeWhile_append_of_pos (passed_of_not_mem absent)]
  simp

section hyphen

variable {c : Char} {rest start value : List Char} {carried : Option (List Char)}
  {setting : Setting}

/-- A whole spelling is a choice of its setting. -/
theorem classify_of_spelling
    (found : Setting.ofSpelling? (String.ofList ('-' :: c :: rest)) = some setting) :
    classify (String.ofList ('-' :: c :: rest)) =
      .ok (.choice setting (String.ofList ('-' :: c :: rest)) none) := by
  unfold classify
  rw [String.toList_ofList, found]
  rfl

variable (unknown : Setting.ofSpelling? (String.ofList ('-' :: c :: rest)) = none)

include unknown

/-- So is a whole spelling in front of an equals sign and a value. -/
theorem classify_of_spelling_value (parts : splitEquals ('-' :: c :: rest) = (start, some value))
    (found : Setting.ofSpelling? (String.ofList start) = some setting) :
    classify (String.ofList ('-' :: c :: rest)) =
      .ok (.choice setting (String.ofList start) (some (String.ofList value))) := by
  unfold classify
  rw [String.toList_ofList, unknown]
  dsimp only
  rw [parts]
  dsimp only
  rw [found]
  rfl

/-- Any other text that starts with a hyphen has to be told by its candidates. -/
theorem classify_of_start (parts : splitEquals ('-' :: c :: rest) = (start, carried))
    (other : carried = none ∨ Setting.ofSpelling? (String.ofList start) = none) :
    classify (String.ofList ('-' :: c :: rest)) =
      unspelled (String.ofList ('-' :: c :: rest)) := by
  unfold classify
  rw [String.toList_ofList, unknown]
  dsimp only
  rw [parts]
  dsimp only
  rcases other with rfl | none
  · rfl
  · rw [none]
    cases carried <;> rfl

end hyphen

variable {start : List Char} {setting : Setting} {spelling : String}

section abbreviated

variable (abbreviates : Abbreviates start setting spelling)

include abbreviates

/-- An abbreviation has one candidate, whatever is carried behind it. -/
theorem candidates_of_abbreviates {behind : List Char} {carried : Option (List Char)}
    (parts : splitEquals (start ++ behind) = (start, carried)) :
    candidates (start ++ behind) = [(setting, spelling, carried.map String.ofList)] := by
  have one : Setting.spelled.filter (fun entry => start.isPrefixOf entry.1.toList) =
      [(spelling, setting)] := by
    have same : Setting.spelled.filter (fun entry => start.isPrefixOf entry.1.toList) =
        Setting.spelled.filter (· == (spelling, setting)) := by
      refine List.filter_congr fun entry m => ?_
      rw [Bool.eq_iff_iff, List.isPrefixOf_iff_prefix, beq_iff_eq]
      constructor
      · exact abbreviates.eq_of_mem_spelled m
      · rintro rfl
        exact abbreviates.starts
    have once : ∀ entry ∈ Setting.spelled, Setting.spelled.count entry = 1 := by decide
    rw [same, List.filter_beq, once _ (Setting.mem_spelled_iff.2 abbreviates.spells)]
    rfl
  obtain ⟨c, rest, rfl⟩ := abbreviates.exists_cons
  rw [List.cons_append, List.cons_append] at parts ⊢
  unfold candidates
  rw [parts]
  exact congrArg (List.map _) one

/-- So it is a choice of its setting, unless it is a spelling as a whole. -/
theorem unspelled_of_abbreviates {behind : List Char} {carried : Option (List Char)}
    (parts : splitEquals (start ++ behind) = (start, carried)) :
    unspelled (String.ofList (start ++ behind)) =
      .ok (.choice setting spelling (carried.map String.ofList)) := by
  unfold unspelled
  rw [String.toList_ofList, candidates_of_abbreviates abbreviates parts]

/-- A spelling that the text starts is told by it. -/
theorem eq_of_ofSpelling? {s : List Char} {other : Setting} (starts : start <+: s)
    (found : Setting.ofSpelling? (String.ofList s) = some other) :
    String.ofList s = spelling ∧ other = setting := by
  have m := Setting.mem_spelled_iff.2 (Setting.ofSpelling?_eq_some_iff.1 found)
  have starts' : start <+: (String.ofList s).toList := by
    rw [String.toList_ofList]
    exact starts
  exact Prod.mk.inj (abbreviates.eq_of_mem_spelled m starts')

/-- An abbreviation alone is a choice of its setting. -/
theorem classify_of_abbreviates :
    classify (String.ofList start) = .ok (.choice setting spelling none) := by
  have parts : splitEquals (start ++ []) = (start, none) := by
    rw [List.append_nil]
    exact splitEquals_of_not_mem abbreviates.equals_not_mem
  have candidate := unspelled_of_abbreviates abbreviates parts
  rw [List.append_nil] at parts candidate
  obtain ⟨c, rest, rfl⟩ := abbreviates.exists_cons
  -- The whole spelling is found as such, and any other start as a candidate.
  cases found : Setting.ofSpelling? (String.ofList ('-' :: '-' :: c :: rest)) with
  | none => exact (classify_of_start found parts (Or.inl rfl)).trans candidate
  | some other =>
    obtain ⟨whole, rfl⟩ := eq_of_ofSpelling? abbreviates List.prefix_rfl found
    rw [classify_of_spelling found, whole]

/-- An abbreviation, an equals sign and a value are a choice that carries the value. -/
theorem classify_carrying (value : List Char) :
    classify (String.ofList (start ++ '=' :: value)) =
      .ok (.choice setting spelling (some (String.ofList value))) := by
  have parts := splitEquals_append abbreviates.equals_not_mem value
  have candidate := unspelled_of_abbreviates abbreviates parts
  have unknown : Setting.ofSpelling? (String.ofList (start ++ '=' :: value)) = none := by
    rw [Option.eq_none_iff_forall_ne_some]
    intro other found
    have absent := Setting.equals_not_mem_spelling (Setting.ofSpelling?_eq_some_iff.1 found)
    rw [String.toList_ofList] at absent
    exact absent (List.mem_append_right start List.mem_cons_self)
  obtain ⟨c, rest, rfl⟩ := abbreviates.exists_cons
  rw [List.cons_append, List.cons_append] at parts candidate unknown ⊢
  cases found : Setting.ofSpelling? (String.ofList ('-' :: '-' :: c :: rest)) with
  | none => exact (classify_of_start unknown parts (Or.inr found)).trans candidate
  | some other =>
    obtain ⟨whole, rfl⟩ := eq_of_ofSpelling? abbreviates List.prefix_rfl found
    rw [classify_of_spelling_value unknown parts found, whole]

end abbreviated

/-- A hyphen and several letters `v` are a choice that carries all but the first. -/
theorem classify_letters (n : Nat) :
    classify (String.ofList ('-' :: 'v' :: 'v' :: List.replicate n 'v')) =
      .ok (.choice .verbose "-v" (some (String.ofList ('v' :: List.replicate n 'v')))) := by
  have absent : '=' ∉ '-' :: 'v' :: 'v' :: List.replicate n 'v' := by simp
  have unknown : Setting.ofSpelling?
      (String.ofList ('-' :: 'v' :: 'v' :: List.replicate n 'v')) = none := by
    rw [Option.eq_none_iff_forall_ne_some]
    intro other found
    -- Short spellings are shorter, and in long ones a hyphen is second.
    have form := Setting.forall_spelling
      (p := fun spelling => spelling.toList.length = 2 ∨ spelling.toList[1]? = some '-')
      (by decide) (Setting.ofSpelling?_eq_some_iff.1 found)
    rw [String.toList_ofList] at form
    simp at form
  rw [classify_of_start unknown (splitEquals_of_not_mem absent) (Or.inl rfl)]
  unfold unspelled
  rw [String.toList_ofList]
  rfl

/-- A text that does not start with a hyphen is a value. -/
theorem classify_of_free {value : String} (free : value.toList.head? ≠ some '-') :
    classify value = .ok (.plain value) := by
  unfold classify
  split
  · rename_i starts _
    rw [starts] at free
    exact absurd rfl free
  · rename_i starts _
    rw [starts] at free
    exact absurd rfl free
  · rfl

/-! ## Section 4: All arguments -/

/-- An argument other than the separator is told by itself. -/
theorem classifyAll_cons {argument : String} {rest : List String} {first : Argument}
    {more : List Argument} (other : argument ≠ "--") (told : classify argument = .ok first)
    (told' : classifyAll rest = .ok more) :
    classifyAll (argument :: rest) = .ok (first :: more) := by
  rw [classifyAll, told, told']
  · rfl
  · exact other

/-- Values are told to be values. -/
theorem classifyAll_values {values rest : List String} {more : List Argument}
    (free : ∀ value ∈ values, value.toList.head? ≠ some '-')
    (told : classifyAll rest = .ok more) :
    classifyAll (values ++ rest) = .ok (values.map .plain ++ more) := by
  induction values with
  | nil => exact told
  | cons value values ih =>
    obtain ⟨first, others⟩ := List.forall_mem_cons.1 free
    have other : value ≠ "--" := by
      rintro rfl
      exact first rfl
    exact classifyAll_cons other (classify_of_free first) (ih others)

end Argument

end StringOrigins.CommandLine
