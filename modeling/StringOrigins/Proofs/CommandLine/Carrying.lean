import StringOrigins.CommandLine.Run
import StringOrigins.Proofs.CommandLine.Occurrence
import StringOrigins.Proofs.Step.Outcome

/-! # Command lines that carry a configuration

    The last occurrence of a setting of one value counts, and the values of
    the resource directories add up in their order.  So a command line that
    gives every value of a configuration runs the step with this
    configuration, however it is written, and one that leaves a required
    setting out is refused (`run_of_writes`).

    A text that is the separator cannot be carried.  It can be attached to
    a setting, but it is dropped there: a resource directory is lost that
    way, and a setting of one value is left without a text
    (`separator_not_carried`).  A step that has no text for its output
    directory does not succeed (`Chosen.run_of_not_hasPath`). -/

namespace StringOrigins.CommandLine

/-! ## Section 1: What is given -/

/-- The values that a setting is given in all its occurrences. -/
def valuesFor (setting : Setting) (occurrences : List Occurrence) : List String :=
  (occurrences.filter (·.setting = setting)).flatMap Occurrence.values

theorem valuesFor_cons (setting : Setting) (occurrence : Occurrence)
    (occurrences : List Occurrence) :
    valuesFor setting (occurrence :: occurrences) =
      (if occurrence.setting = setting then occurrence.values else []) ++
        valuesFor setting occurrences := by
  unfold valuesFor
  rw [List.filter_cons]
  split
  · next same => rw [if_pos (of_decide_eq_true same), List.flatMap_cons]
  · next other => rw [if_neg fun same => other (decide_eq_true same), List.nil_append]

/-- A setting with values occurs. -/
theorem any_of_valuesFor_ne_nil {setting : Setting} {occurrences : List Occurrence}
    (given : valuesFor setting occurrences ≠ []) :
    occurrences.any (·.setting = setting) = true := by
  obtain ⟨value, m⟩ := List.exists_mem_of_ne_nil _ given
  obtain ⟨occurrence, among, -⟩ := List.mem_flatMap.1 m
  obtain ⟨there, same⟩ := List.mem_filter.1 among
  exact List.any_eq_true.2 ⟨occurrence, there, same⟩

/-- Occurrences give the values of a configuration, and ask for all reports
    or do not. -/
structure Carries (occurrences : List Occurrence) (configuration : Configuration)
    (isVerbose : Bool) : Prop where
  /-- The last occurrence counts. -/
  tableDirectory : (valuesFor .tableDirectory occurrences).getLast? =
    some configuration.tableDirectory
  /-- All occurrences count, in their order. -/
  resourceDirectories : valuesFor .resourceDirectories occurrences =
    configuration.resourceDirectories
  anyResourceDirectory : configuration.resourceDirectories ≠ []
  outputDirectory : (valuesFor .output occurrences).getLast? =
    some configuration.outputDirectory
  /-- The root may be left out. -/
  root : (valuesFor .root occurrences).getLast? = configuration.root
  verbose : isVerbose = occurrences.any (·.setting = .verbose)

/-- The texts of a configuration. -/
def texts (configuration : Configuration) : List String :=
  configuration.tableDirectory :: configuration.outputDirectory ::
    configuration.root.toList ++ configuration.resourceDirectories

/-! ## Section 2: What is chosen -/

/-- What a setting of one value is set to by a text that is written for it. -/
def Value.ofWritten (text : String) : Value := if text = "--" then .empty else .text text

theorem Value.ofWritten_eq_text_iff {text : String} :
    ofWritten text = .text text ↔ text ≠ "--" := by
  unfold ofWritten
  by_cases separator : text = "--" <;> simp [separator]

/-- The values that count of one value are itself, or none. -/
theorem Value.ofValues_kept {occurrence : Occurrence} {text : String}
    (only : occurrence.values = [text]) : ofValues occurrence.kept = ofWritten text := by
  rw [Occurrence.kept, only, ofWritten]
  by_cases separator : text = "--" <;> simp [separator, ofValues]

namespace Choices

/-- What is chosen for a setting of one value. -/
def value? (choices : Choices) : Setting → Option Value
  | .tableDirectory => choices.tableDirectory
  | .output => choices.output
  | .root => choices.root
  | _ => none

variable {setting other : Setting} (choices : Choices)

theorem value?_set (one : setting.arity = .one) (values : List String) :
    (choices.set setting values).value? setting = some (.ofValues values) := by
  cases setting with
  | tableDirectory => rfl
  | output => rfl
  | root => rfl
  | help => cases one
  | resourceDirectories => cases one
  | verbose => cases one

/-- A setting changes nothing but itself. -/
theorem value?_set_of_ne (ne : other ≠ setting) (values : List String) :
    (choices.set other values).value? setting = choices.value? setting := by
  cases other <;> cases setting <;> first | rfl | exact absurd rfl ne

theorem resourceDirectories_set_of_ne (ne : other ≠ .resourceDirectories)
    (values : List String) :
    (choices.set other values).resourceDirectories = choices.resourceDirectories := by
  cases other <;> first | rfl | exact absurd rfl ne

/-- Whatever its values are, a setting is among the choices from then on. -/
theorem has_set (lasting : setting ≠ .help) (values : List String) :
    (choices.set other values).has setting = (decide (other = setting) || choices.has setting) := by
  cases setting <;> cases other <;> first | rfl | exact absurd rfl lasting

end Choices

/-- The values of a setting of one value: the last of them is chosen. -/
theorem value?_foldl_after {setting : Setting} (one : setting.arity = .one)
    {occurrences : List Occurrence}
    (admitted : ∀ o ∈ occurrences, o.setting.arity.Admits o.values) (choices : Choices) :
    (occurrences.foldl Choices.after choices).value? setting =
      ((valuesFor setting occurrences).getLast?.map .ofWritten).or (choices.value? setting) := by
  induction occurrences generalizing choices with
  | nil => rfl
  | cons occurrence occurrences ih =>
    obtain ⟨first, others⟩ := List.forall_mem_cons.1 admitted
    rw [List.foldl_cons, ih others, valuesFor_cons, Choices.after]
    by_cases same : occurrence.setting = setting
    · obtain rfl := same
      -- It has a value, so what was chosen before does not count.
      rw [one] at first
      obtain ⟨text, only⟩ := first
      rw [Choices.value?_set choices one, Value.ofValues_kept only, if_pos rfl, only,
        List.getLast?_append]
      cases (valuesFor occurrence.setting occurrences).getLast? with
      | none => rfl
      | some last => rfl
    · rw [Choices.value?_set_of_ne choices same, if_neg same, List.nil_append]

/-- Resource directories add up, as far as they count. -/
theorem resourceDirectories_foldl_after (occurrences : List Occurrence) (choices : Choices) :
    (occurrences.foldl Choices.after choices).resourceDirectories.getD [] =
      choices.resourceDirectories.getD [] ++
        (valuesFor .resourceDirectories occurrences).filter (· ≠ "--") := by
  induction occurrences generalizing choices with
  | nil => exact (List.append_nil _).symm
  | cons occurrence occurrences ih =>
    rw [List.foldl_cons, ih, valuesFor_cons, Choices.after]
    by_cases same : occurrence.setting = .resourceDirectories
    · rw [if_pos same, same, List.filter_append, ← List.append_assoc]
      rfl
    · rw [Choices.resourceDirectories_set_of_ne choices same, if_neg same, List.nil_append]

/-- A setting is among the choices exactly if it occurs. -/
theorem has_foldl_after {setting : Setting} (lasting : setting ≠ .help)
    (occurrences : List Occurrence) (choices : Choices) :
    (occurrences.foldl Choices.after choices).has setting =
      (choices.has setting || occurrences.any (·.setting = setting)) := by
  induction occurrences generalizing choices with
  | nil => exact (Bool.or_false _).symm
  | cons occurrence occurrences ih =>
    rw [List.foldl_cons, ih, Choices.after, Choices.has_set choices lasting, List.any_cons,
      Bool.or_comm (decide _), Bool.or_assoc]

/-! ## Section 3: The configuration -/

namespace Chosen

/-- What is chosen where the texts of a configuration are written. -/
def ofWritten (configuration : Configuration) : Chosen :=
  ⟨.ofWritten configuration.tableDirectory, configuration.resourceDirectories.filter (· ≠ "--"),
    .ofWritten configuration.outputDirectory, configuration.root.map .ofWritten⟩

/-- That is the configuration exactly if none of its texts is the separator. -/
theorem ofWritten_eq_iff {configuration : Configuration} :
    ofWritten configuration = ofConfiguration configuration ↔ "--" ∉ texts configuration := by
  obtain ⟨tableDirectory, resourceDirectories, outputDirectory, root⟩ := configuration
  have directories : resourceDirectories.filter (· ≠ "--") = resourceDirectories ↔
      "--" ∉ resourceDirectories := by
    simp [List.filter_eq_self]
    grind
  have roots : root.map Value.ofWritten = root.map Value.text ↔ "--" ∉ root.toList := by
    cases root with
    | none => simp
    | some text => simp [Value.ofWritten_eq_text_iff, eq_comm]
  simp only [ofWritten, ofConfiguration, mk.injEq, Value.ofWritten_eq_text_iff, directories, roots,
    texts, List.mem_cons, List.mem_append, not_or, List.cons_append]
  grind

end Chosen

/-- What is written of a configuration is chosen. -/
theorem chosen_of_carries {occurrences : List Occurrence} {configuration : Configuration}
    {isVerbose : Bool} (admitted : ∀ o ∈ occurrences, o.setting.arity.Admits o.values)
    (carries : Carries occurrences configuration isVerbose) :
    (occurrences.foldl Choices.after .initial).chosen = .ok (.ofWritten configuration) := by
  have single : ∀ setting : Setting, setting.arity = .one →
      (occurrences.foldl Choices.after .initial).value? setting =
        (valuesFor setting occurrences).getLast?.map .ofWritten := by
    intro setting one
    rw [value?_foldl_after one admitted]
    cases setting <;> exact Option.or_none
  have tableDirectory := single .tableDirectory rfl
  have output := single .output rfl
  have root := single .root rfl
  rw [carries.tableDirectory] at tableDirectory
  rw [carries.outputDirectory] at output
  rw [carries.root] at root
  simp only [Choices.value?] at tableDirectory output root
  have directories := resourceDirectories_foldl_after occurrences .initial
  rw [carries.resourceDirectories] at directories
  -- Also where all of them are dropped, the setting is among the choices.
  have there : (occurrences.foldl Choices.after .initial).has .resourceDirectories = true := by
    rw [has_foldl_after (by decide), any_of_valuesFor_ne_nil, Bool.or_true]
    rw [carries.resourceDirectories]
    exact carries.anyResourceDirectory
  obtain ⟨found, given⟩ := Option.isSome_iff_exists.1 there
  rw [given] at directories
  unfold Choices.chosen
  rw [tableDirectory, given, output, root]
  exact congrArg (fun kept => Except.ok (Chosen.mk _ kept _ _)) directories

theorem choose_of_carries {occurrences : List Occurrence} {arguments : List String}
    {configuration : Configuration} {isVerbose : Bool}
    (written : WritesAll occurrences arguments)
    (carries : Carries occurrences configuration isVerbose) :
    choose arguments = .ok (.ofWritten configuration, isVerbose) := by
  have lasting : Setting.verbose ≠ .help := by decide
  have verbose : (occurrences.foldl Choices.after .initial).isVerbose = isVerbose := by
    rw [carries.verbose]
    exact has_foldl_after lasting occurrences .initial
  rw [choose_of_writes written, chosen_of_carries written.admitted carries, verbose]

/-- Without a setting that is required nothing is chosen. -/
theorem chosen_of_not_has {choices : Choices} {setting : Setting}
    (required : setting ∈ Setting.required) (absent : choices.has setting = false) :
    ∃ error, choices.chosen = .error error := by
  cases found : choices.chosen with
  | error error => exact ⟨error, rfl⟩
  | ok chosen =>
    unfold Choices.chosen at found
    split at found
    · next tableDirectory resourceDirectories output =>
      have all : ∀ setting ∈ Setting.required, choices.has setting = true := by
        simp [Setting.required, Choices.has, tableDirectory, resourceDirectories, output]
      rw [all setting required] at absent
      cases absent
    · cases found

/-! ## Section 4: Runs -/

/-- Where texts are chosen for everything, the step runs with them. -/
theorem Chosen.run_ofConfiguration (fs : FileSystem) (configuration : Configuration) :
    (ofConfiguration configuration).run fs = Step.run fs configuration := by
  have same : (ofConfiguration configuration).configuration = configuration := by
    obtain ⟨tableDirectory, resourceDirectories, outputDirectory, root⟩ := configuration
    cases root <;> rfl
  have paths : ∀ text, (ofConfiguration configuration).hasPath (.text text) = true := by
    intro text
    unfold hasPath
    cases root : configuration.root <;> simp [ofConfiguration, root]
  have all : ∀ directories : List String, (directories.takeWhile fun text =>
      (ofConfiguration configuration).hasPath (.text text)) = directories := by
    intro directories
    induction directories with
    | nil => rfl
    | cons first rest ih => rw [List.takeWhile_cons, if_pos (paths first), ih]
  have table : (ofConfiguration configuration).hasPath
      (ofConfiguration configuration).tableDirectory = true := paths _
  have output : (ofConfiguration configuration).hasPath
      (ofConfiguration configuration).outputDirectory = true := paths _
  unfold run
  rw [same]
  dsimp only
  rw [all, if_pos table]
  cases IdTable.load fs configuration.tableFile with
  | error error => rfl
  | ok ids => exact if_pos ⟨rfl, output⟩

/-- A command line that writes the texts of a configuration chooses the
    configuration exactly if none of the texts is the separator, and then it
    runs the step with it.  One that leaves a required setting out is
    refused. -/
theorem run_of_writes (fs : FileSystem) {occurrences : List Occurrence}
    {arguments : List String} (written : WritesAll occurrences arguments) :
    (∀ configuration isVerbose, Carries occurrences configuration isVerbose →
      (choose arguments = .ok (.ofConfiguration configuration, isVerbose) ↔
        "--" ∉ texts configuration) ∧
      ("--" ∉ texts configuration → run fs arguments =
        ⟨(Step.run fs configuration).1, announcement (.ofConfiguration configuration),
          report isVerbose (Step.run fs configuration).2.1, (Step.run fs configuration).2.2⟩)) ∧
    (∀ setting ∈ Setting.required, (∀ o ∈ occurrences, o.setting ≠ setting) →
      (run fs arguments).outcome = .finished 2 ∧ (run fs arguments).files = fs) := by
  constructor
  · intro configuration isVerbose carries
    have chosen := choose_of_carries written carries
    refine ⟨?_, fun separate => ?_⟩
    · rw [chosen, Except.ok.injEq, Prod.mk.injEq, and_iff_left rfl, Chosen.ofWritten_eq_iff]
    · unfold run
      rw [chosen, Chosen.ofWritten_eq_iff.2 separate]
      dsimp only
      rw [Chosen.run_ofConfiguration]
  · intro setting required absent
    have missing : (occurrences.foldl Choices.after .initial).has setting = false := by
      have lasting : setting ≠ .help := by
        rintro rfl
        exact absurd required (by decide)
      rw [has_foldl_after lasting, List.any_eq_false.2 (by simpa using absent), Bool.or_false]
      cases setting <;> rfl
    obtain ⟨error, refused⟩ := chosen_of_not_has required missing
    have chosen : choose arguments = .error (.usage error) := by
      rw [choose_of_writes written, refused]
    unfold run
    rw [chosen]
    exact ⟨rfl, rfl⟩

/-- A row of occurrences with two output directories and an empty root. -/
def mixedOccurrences : List Occurrence :=
  [⟨.verbose, []⟩, ⟨.resourceDirectories, ["a", "b"]⟩, ⟨.output, ["x"]⟩,
    ⟨.tableDirectory, ["gen"]⟩, ⟨.resourceDirectories, ["-c"]⟩, ⟨.verbose, []⟩,
    ⟨.output, ["out"]⟩, ⟨.root, [""]⟩]

/-- It is written with abbreviations, attached values and a run of letters. -/
def mixedArguments : List String :=
  ["-vv", "--res", "a", "b", "--out=x", "--r-dot", "gen", "--res-dir=-c", "--verb",
    "--o", "out", "--project-root="]

theorem writesAll_mixed : WritesAll mixedOccurrences mixedArguments := by
  have table : Abbreviates "--r-dot".toList .tableDirectory "--r-dot-java-dir" :=
    abbreviates_of_spelled (by decide) (by decide) (by decide) (by decide)
  have directories : Abbreviates "--res".toList .resourceDirectories "--res-dir" :=
    abbreviates_of_spelled (by decide) (by decide) (by decide) (by decide)
  have output : Abbreviates "--o".toList .output "--out" :=
    abbreviates_of_spelled (by decide) (by decide) (by decide) (by decide)
  have verbose : Abbreviates "--verb".toList .verbose "--verbose" :=
    abbreviates_of_spelled (by decide) (by decide) (by decide) (by decide)
  have whole : ∀ entry ∈ Setting.spelled, IsLong entry.1 →
      Abbreviates entry.1.toList entry.2 entry.1 :=
    fun entry m => abbreviates_self (Setting.mem_spelled_iff.1 m)
  exact .more (.letters 1) <|
    .more (.apart directories (by decide) (List.cons_ne_nil _ _) (by decide)) <|
    .more (.attached (whole ("--out", .output) (by decide) (by decide)) (by decide) "x") <|
    .more (.apart table (by decide) ⟨"gen", rfl⟩ (by decide)) <|
    .more (.attached (whole ("--res-dir", .resourceDirectories) (by decide) (by decide))
      (by decide) "-c") <|
    .more (.apart verbose (by decide) rfl (by decide)) <|
    .more (.apart output (by decide) ⟨"out", rfl⟩ (by decide)) <|
    .more (.attached (whole ("--project-root", .root) (by decide) (by decide)) (by decide) "")
      .none

/-- A configuration that is carried in pieces, and a command line without its table. -/
theorem run_of_writes_mixed :
    (choose mixedArguments =
        .ok (.ofConfiguration ⟨"gen", ["a", "b", "-c"], "out", some ""⟩, true) ∧
      (run ⟨∅, []⟩ mixedArguments).outcome =
        (Step.run ⟨∅, []⟩ ⟨"gen", ["a", "b", "-c"], "out", some ""⟩).1) ∧
    (run ⟨∅, []⟩ ["-v"]).outcome = .finished 2 := by
  have carries : Carries mixedOccurrences ⟨"gen", ["a", "b", "-c"], "out", some ""⟩ true :=
    ⟨rfl, rfl, List.cons_ne_nil _ _, rfl, rfl, rfl⟩
  have separate : "--" ∉ texts ⟨"gen", ["a", "b", "-c"], "out", some ""⟩ := by decide
  obtain ⟨chosen, ran⟩ := (run_of_writes ⟨∅, []⟩ writesAll_mixed).1 _ _ carries
  have alone : WritesAll [⟨.verbose, []⟩] ["-v"] := .more (.letters 0) .none
  have refused := (run_of_writes ⟨∅, []⟩ alone).2 .tableDirectory (by decide) (by decide)
  refine ⟨⟨chosen.2 separate, ?_⟩, refused.1⟩
  rw [ran separate]

/-! ## Section 5: Separators as values -/

/-- Without a path for its output, a step changes nothing and does not succeed. -/
theorem Chosen.run_of_not_hasPath (fs : FileSystem) {chosen : Chosen}
    (without : chosen.hasPath chosen.outputDirectory = false) :
    (chosen.run fs).1 ≠ .finished 0 ∧ (chosen.run fs).2.2 = fs := by
  have other : Outcome.noPath ≠ .finished 0 := by decide
  unfold run
  dsimp only
  by_cases table : chosen.hasPath chosen.tableDirectory = true
  · rw [if_pos table]
    cases loaded : IdTable.load fs chosen.configuration.tableFile with
    | error error =>
      rw [Step.run_of_load_error loaded]
      exact ⟨by cases error <;> simp [Step.withoutTable, Step.failure], rfl⟩
    | ok ids =>
      dsimp only
      rw [if_neg (by simp [without])]
      exact ⟨other, rfl⟩
  · rw [if_neg table]
    exact ⟨other, rfl⟩

/-- A setting in full with a value attached to it. -/
def attached (spelling value : String) : String := spelling ++ "=" ++ value

/-- Four texts, each of them for a setting of its own. -/
def fourOccurrences (table directory output root : String) : List Occurrence :=
  [⟨.tableDirectory, [table]⟩, ⟨.resourceDirectories, [directory]⟩, ⟨.output, [output]⟩,
    ⟨.root, [root]⟩]

def fourArguments (table directory output root : String) : List String :=
  [attached "--r-dot-java-dir" table, attached "--res-dir" directory, attached "--out" output,
    attached "--project-root" root]

theorem writesAll_four (table directory output root : String) :
    WritesAll (fourOccurrences table directory output root)
      (fourArguments table directory output root) := by
  have each : ∀ entry ∈ Setting.spelled, IsLong entry.1 → entry.2.arity ≠ .none →
      ∀ value, Writes ⟨entry.2, [value]⟩ [attached entry.1 value] := by
    intro entry m long takes value
    have text : attached entry.1 value = String.ofList (entry.1.toList ++ '=' :: value.toList) := by
      rw [← String.toList_inj]
      simp [attached]
    rw [text]
    exact .attached (abbreviates_self (Setting.mem_spelled_iff.1 m) long) takes value
  have first := each ("--r-dot-java-dir", .tableDirectory) (by decide) (by decide) (by decide)
  have second := each ("--res-dir", .resourceDirectories) (by decide) (by decide) (by decide)
  have third := each ("--out", .output) (by decide) (by decide) (by decide)
  have last := each ("--project-root", .root) (by decide) (by decide) (by decide)
  exact .more (first table) (.more (second directory) (.more (third output)
    (.more (last root) .none)))

/-- A command line writes the four texts as a configuration, and something
    else is chosen. -/
def IsMistakenFor (table directory output root : String) (chosen : Chosen) : Prop :=
  WritesAll (fourOccurrences table directory output root)
      (fourArguments table directory output root) ∧
    Carries (fourOccurrences table directory output root)
      ⟨table, [directory], output, some root⟩ false ∧
    choose (fourArguments table directory output root) = .ok (chosen, false) ∧
    chosen ≠ .ofConfiguration ⟨table, [directory], output, some root⟩

/-- A separator that is attached to any setting is lost: there is one resource
    directory less, and the other settings are left without a text. -/
theorem separator_not_carried :
    IsMistakenFor "gen" "--" "out" "root"
        ⟨.text "gen", [], .text "out", some (.text "root")⟩ ∧
      IsMistakenFor "--" "a" "out" "root"
        ⟨.empty, ["a"], .text "out", some (.text "root")⟩ ∧
      IsMistakenFor "gen" "a" "--" "root"
        ⟨.text "gen", ["a"], .empty, some (.text "root")⟩ ∧
      IsMistakenFor "gen" "a" "out" "--"
        ⟨.text "gen", ["a"], .text "out", some .empty⟩ := by
  have mistaken : ∀ table directory output root chosen,
      Chosen.ofWritten ⟨table, [directory], output, some root⟩ = chosen →
      chosen ≠ .ofConfiguration ⟨table, [directory], output, some root⟩ →
      IsMistakenFor table directory output root chosen := by
    rintro table directory output root chosen rfl other
    have written := writesAll_four table directory output root
    have carries : Carries (fourOccurrences table directory output root)
        ⟨table, [directory], output, some root⟩ false :=
      ⟨rfl, rfl, List.cons_ne_nil _ _, rfl, rfl, rfl⟩
    exact ⟨written, carries, choose_of_carries written carries, other⟩
  exact ⟨mistaken _ _ _ _ _ (by decide) (by decide), mistaken _ _ _ _ _ (by decide) (by decide),
    mistaken _ _ _ _ _ (by decide) (by decide), mistaken _ _ _ _ _ (by decide) (by decide)⟩

end StringOrigins.CommandLine
