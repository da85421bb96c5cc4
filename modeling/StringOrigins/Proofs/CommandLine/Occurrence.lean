import StringOrigins.CommandLine.Choices
import StringOrigins.Proofs.CommandLine.Spelling

/-! # Occurrences of settings

    A command line is a row of occurrences, each a setting with the values
    that it is given there.  There are several ways to write an occurrence:
    with its values behind it, with one value attached, or as a run of
    letters.  Whichever is chosen, it is taken as the same choice, and no
    value goes to another setting (`exists_taken_of_writes`). -/

namespace StringOrigins.CommandLine

/-! ## Section 1: Writing occurrences -/

/-- Whether so many values are as many as a setting takes. -/
def Arity.Admits : Arity → List String → Prop
  | .none, values => values = []
  | .one, values => ∃ value, values = [value]
  | .several, values => values ≠ []

/-- A setting with the values that it is given in one place. -/
structure Occurrence where
  setting : Setting
  values : List String
  deriving DecidableEq, Repr

/-- The ways to write an occurrence.  Help is never asked for. -/
inductive Writes : Occurrence → List String → Prop where
  /-- The values stand behind the setting as arguments of their own, and
      none of them starts with a hyphen. -/
  | apart {start : List Char} {setting : Setting} {spelling : String}
      (abbreviates : Abbreviates start setting spelling) (other : setting ≠ .help)
      {values : List String} (admitted : setting.arity.Admits values)
      (free : ∀ value ∈ values, value.toList.head? ≠ some '-') :
      Writes ⟨setting, values⟩ (String.ofList start :: values)
  /-- One value, whatever it is, is attached to the setting. -/
  | attached {start : List Char} {setting : Setting} {spelling : String}
      (abbreviates : Abbreviates start setting spelling) (takes : setting.arity ≠ .none)
      (value : String) :
      Writes ⟨setting, [value]⟩ [String.ofList (start ++ '=' :: value.toList)]
  /-- A hyphen and one or more letters ask for all reports. -/
  | letters (n : Nat) :
      Writes ⟨.verbose, []⟩ [String.ofList ('-' :: List.replicate (n + 1) 'v')]

/-- Arguments write occurrences, one after another. -/
inductive WritesAll : List Occurrence → List String → Prop where
  | none : WritesAll [] []
  | more {occurrence : Occurrence} {part : List String} {occurrences : List Occurrence}
      {arguments : List String} (first : Writes occurrence part)
      (rest : WritesAll occurrences arguments) :
      WritesAll (occurrence :: occurrences) (part ++ arguments)

theorem Writes.admitted {occurrence : Occurrence} {part : List String}
    (written : Writes occurrence part) :
    occurrence.setting.arity.Admits occurrence.values := by
  cases written with
  | apart _ _ admitted _ => exact admitted
  | @attached _ setting _ _ takes value =>
    cases arity : setting.arity with
    | none => exact absurd arity takes
    | one => exact ⟨value, rfl⟩
    | several => exact List.cons_ne_nil value []
  | letters n => rfl

theorem WritesAll.admitted {occurrences : List Occurrence} {arguments : List String}
    (written : WritesAll occurrences arguments) :
    ∀ occurrence ∈ occurrences, occurrence.setting.arity.Admits occurrence.values := by
  induction written with
  | none => exact fun occurrence m => absurd m List.not_mem_nil
  | more first _ ih => exact List.forall_mem_cons.2 ⟨first.admitted, ih⟩

/-! ## Section 2: Taking occurrences -/

/-- The values that count: a separator is none. -/
def Occurrence.kept (occurrence : Occurrence) : List String :=
  occurrence.values.filter (· ≠ "--")

/-- The choices after an occurrence. -/
def Choices.after (choices : Choices) (occurrence : Occurrence) : Choices :=
  choices.set occurrence.setting occurrence.kept

section taking

variable {setting : Setting} {spelling : String} {more : List Argument} (choices : Choices)
  (extras : List String)

theorem leadingValues_append (values : List String) (ends : leadingValues more = []) :
    leadingValues (values.map .plain ++ more) = values := by
  induction values with
  | nil => exact ends
  | cons value values ih =>
    show value :: leadingValues (values.map .plain ++ more) = value :: values
    rw [ih]

/-- Values behind a setting are taken as far as they go. -/
theorem take_apart (other : setting ≠ .help) {values : List String}
    (admitted : setting.arity.Admits values) (ends : leadingValues more = []) :
    take choices extras (.choice setting spelling none :: (values.map .plain ++ more)) =
      take (choices.set setting values) extras more := by
  have taken : valuesOf setting none (values.map .plain ++ more) = .ok (values, values.length) := by
    unfold valuesOf
    rw [leadingValues_append values ends]
    cases arity : setting.arity with
    | none =>
      rw [arity] at admitted
      obtain rfl : values = [] := admitted
      rfl
    | one =>
      rw [arity] at admitted
      obtain ⟨value, rfl⟩ := admitted
      rfl
    | several =>
      rw [arity] at admitted
      cases values with
      | nil => exact absurd rfl admitted
      | cons value values => rfl
  have behind : (values.map Argument.plain ++ more).drop values.length = more := by
    rw [List.drop_append_of_le_length (by simp), List.drop_of_length_le (by simp),
      List.nil_append]
  rw [take, settingsOf]
  dsimp only
  rw [taken]
  dsimp only
  rw [behind, if_neg]
  · rfl
  · simp [other]

/-- An attached value is taken alone, and dropped if it is the separator. -/
theorem take_attached (takes : setting.arity ≠ .none) (value : String) :
    take choices extras (.choice setting spelling (some value) :: more) =
      take (choices.set setting (if value = "--" then [] else [value])) extras more := by
  have whole : settingsOf setting spelling (some value) = .ok ([], setting, some value) := by
    rw [settingsOf]
    cases text : value.toList with
    | nil =>
      obtain rfl : value = "" := String.toList_eq_nil_iff.1 text
      exact if_neg takes
    | cons c rest =>
      rw [unfold.eq_def]
      dsimp only
      rw [if_pos takes, ← text, String.ofList_toList]
  have alone : valuesOf setting (some value) more =
      .ok (if value = "--" then [] else [value], 0) := rfl
  have other : setting ≠ .help := by
    rintro rfl
    exact takes rfl
  rw [take, whole]
  dsimp only
  rw [alone]
  dsimp only
  rw [List.drop_zero, if_neg]
  · rfl
  · simp [other]

/-- One letter more in front stands for the setting once more. -/
theorem unfold_letter {letters : List Char} {settings : List Setting} {last : Setting}
    {carried : Option String} (other : letters ≠ [])
    (unfolded : unfold .verbose "-v" letters = .ok (settings, last, carried)) :
    unfold .verbose "-v" ('v' :: letters) = .ok (.verbose :: settings, last, carried) := by
  have spelled : Setting.ofSpelling? (String.ofList ['-', 'v']) = some .verbose := by decide
  have short : isShort "-v" = true := by decide
  rw [unfold, if_neg (by decide)]
  dsimp only
  rw [short, spelled]
  dsimp only
  rw [if_neg other, unfolded]

theorem unfold_letters (n : Nat) :
    unfold .verbose "-v" ('v' :: List.replicate n 'v') =
      .ok (List.replicate (n + 1) .verbose, .verbose, none) := by
  induction n with
  | zero => rfl
  | succ n ih => exact unfold_letter (List.cons_ne_nil _ _) ih

/-- To ask for all reports again changes nothing. -/
theorem foldl_set_verbose (n : Nat) :
    ((List.replicate n Setting.verbose).foldl (fun choices setting => choices.set setting [])
      choices).set .verbose [] = choices.set .verbose [] := by
  induction n generalizing choices with
  | zero => rfl
  | succ n ih =>
    rw [List.replicate_succ, List.foldl_cons, ih]
    rfl

/-- A run of letters is taken as one. -/
theorem take_letters (n : Nat) :
    take choices extras (.choice .verbose "-v" (some (String.ofList ('v' :: List.replicate n 'v')))
      :: more) = take (choices.set .verbose []) extras more := by
  rw [take, settingsOf, String.toList_ofList, unfold_letters]
  dsimp only
  have none : valuesOf .verbose none more = .ok ([], 0) := rfl
  rw [none]
  dsimp only
  rw [if_neg (by simp), List.drop_zero, foldl_set_verbose]

end taking

/-! ## Section 3: Taking command lines -/

/-- An abbreviation is not the separator, whatever stands behind it. -/
theorem Abbreviates.append_ne_separator {start : List Char} {setting : Setting}
    {spelling : String} (abbreviates : Abbreviates start setting spelling) (behind : List Char) :
    String.ofList (start ++ behind) ≠ "--" := by
  obtain ⟨c, rest, rfl⟩ := abbreviates.exists_cons
  intro same
  have text := congrArg String.toList same
  rw [String.toList_ofList] at text
  simp at text

/-- What an occurrence is written as is taken as the choice that it is. -/
theorem exists_taken_of_writes {occurrence : Occurrence} {part rest : List String}
    {more : List Argument} (written : Writes occurrence part)
    (told : Argument.classifyAll rest = .ok more) (ends : leadingValues more = []) :
    ∃ found, Argument.classifyAll (part ++ rest) = .ok found ∧ leadingValues found = [] ∧
      ∀ choices extras,
        take choices extras found = take (choices.after occurrence) extras more := by
  cases written with
  | @apart start setting spelling abbreviates other values admitted free =>
    have separate : String.ofList start ≠ "--" := by
      have bare := abbreviates.append_ne_separator []
      rwa [List.append_nil] at bare
    have kept : Occurrence.kept ⟨setting, values⟩ = values := by
      refine List.filter_eq_self.2 fun value m => decide_eq_true ?_
      rintro rfl
      exact free "--" m rfl
    refine ⟨_, Argument.classifyAll_cons separate
      (Argument.classify_of_abbreviates abbreviates) (Argument.classifyAll_values free told),
      rfl, fun choices extras => ?_⟩
    rw [take_apart choices extras other admitted ends, Choices.after, kept]
  | @attached start setting spelling abbreviates takes value =>
    refine ⟨_, Argument.classifyAll_cons (abbreviates.append_ne_separator _)
      (Argument.classify_carrying abbreviates value.toList) told, rfl, fun choices extras => ?_⟩
    rw [String.ofList_toList, take_attached choices extras takes value, Choices.after,
      Occurrence.kept]
    by_cases separator : value = "--" <;> simp [separator]
  | letters n =>
    -- One letter is the spelling itself; further ones are carried by it.
    cases n with
    | zero =>
      have one : Argument.classify "-v" = .ok (.choice .verbose "-v" none) := rfl
      refine ⟨_, Argument.classifyAll_cons (by decide) one told, rfl, fun choices extras => ?_⟩
      have admitted : Setting.verbose.arity.Admits [] := rfl
      exact take_apart choices extras (by decide) admitted ends
    | succ n =>
      have other : String.ofList ('-' :: List.replicate (n + 1 + 1) 'v') ≠ "--" := by
        intro same
        have text := congrArg (List.length ∘ String.toList) same
        simp at text
      refine ⟨_, Argument.classifyAll_cons other (Argument.classify_letters n) told, rfl,
        fun choices extras => ?_⟩
      exact take_letters choices extras n

/-- A command line is taken occurrence by occurrence, and nothing is left of it. -/
theorem exists_taken_of_writesAll {occurrences : List Occurrence} {arguments : List String}
    (written : WritesAll occurrences arguments) :
    ∃ found, Argument.classifyAll arguments = .ok found ∧ leadingValues found = [] ∧
      ∀ choices extras,
        take choices extras found = .ok (occurrences.foldl Choices.after choices, extras) := by
  induction written with
  | none => exact ⟨[], rfl, rfl, fun choices extras => by rw [take]; rfl⟩
  | more first _ ih =>
    obtain ⟨more, told, ends, taken⟩ := ih
    obtain ⟨found, told', ends', step⟩ := exists_taken_of_writes first told ends
    refine ⟨found, told', ends', fun choices extras => ?_⟩
    rw [step, taken, List.foldl_cons]

/-- What a command line chooses is what its occurrences choose. -/
theorem choose_of_writes {occurrences : List Occurrence} {arguments : List String}
    (written : WritesAll occurrences arguments) :
    choose arguments =
      match (occurrences.foldl Choices.after .initial).chosen with
      | .error error => .error (.usage error)
      | .ok chosen => .ok (chosen, (occurrences.foldl Choices.after .initial).isVerbose) := by
  obtain ⟨found, told, -, taken⟩ := exists_taken_of_writesAll written
  unfold choose
  rw [told]
  dsimp only
  rw [taken]
  rfl

end StringOrigins.CommandLine
