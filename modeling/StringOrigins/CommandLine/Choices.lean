import StringOrigins.CommandLine.Argument

/-! # Choices

    What the arguments of a command line choose.  Settings are taken one
    after another.  Of several values for one setting the last counts,
    except that resource directories add up.  A separator that is attached
    to a setting is no value, and leaves the setting without one.  Asking
    for help stops the taking at once. -/

namespace StringOrigins.CommandLine

/-! ## Section 1: Choices -/

/-- What a setting of one value is set to. -/
inductive Value where
  | text (s : String)
  /-- No text, since only a separator was given. -/
  | empty
  deriving DecidableEq, Repr

/-- What the values that are left for a setting of one value set it to. -/
def Value.ofValues : List String → Value
  | value :: _ => .text value
  | [] => .empty

/-- The text of a value, if it has one. -/
def Value.text? : Value → Option String
  | .text s => some s
  | .empty => none

/-- What is chosen for the build step. -/
structure Chosen where
  tableDirectory : Value
  resourceDirectories : List String
  outputDirectory : Value
  root : Option Value
  deriving DecidableEq, Repr

/-- What is chosen so far. -/
structure Choices where
  tableDirectory : Option Value
  resourceDirectories : Option (List String)
  output : Option Value
  root : Option Value
  isVerbose : Bool
  deriving DecidableEq, Repr

namespace Choices

/-- Nothing is chosen. -/
def initial : Choices := ⟨none, none, none, none, false⟩

/-- The choices after a setting with values. -/
def set (choices : Choices) (setting : Setting) (values : List String) : Choices :=
  match setting with
  | .help => choices
  | .tableDirectory => { choices with tableDirectory := some (.ofValues values) }
  | .resourceDirectories =>
    { choices with resourceDirectories := some (choices.resourceDirectories.getD [] ++ values) }
  | .output => { choices with output := some (.ofValues values) }
  | .root => { choices with root := some (.ofValues values) }
  | .verbose => { choices with isVerbose := true }

/-- Whether a setting is among the choices. -/
def has (choices : Choices) : Setting → Bool
  | .help => false
  | .tableDirectory => choices.tableDirectory.isSome
  | .resourceDirectories => choices.resourceDirectories.isSome
  | .output => choices.output.isSome
  | .root => choices.root.isSome
  | .verbose => choices.isVerbose

/-- All that is chosen, or the settings that are missing. -/
def chosen (choices : Choices) : Except UsageError Chosen :=
  match choices.tableDirectory, choices.resourceDirectories, choices.output with
  | some tableDirectory, some resourceDirectories, some outputDirectory =>
    .ok ⟨tableDirectory, resourceDirectories, outputDirectory, choices.root⟩
  | _, _, _ => .error (.missing (Setting.required.filter fun setting => !choices.has setting))

end Choices

/-! ## Section 2: Taking settings -/

/-- Why the taking of arguments stops early. -/
inductive Stop where
  /-- Help is asked for. -/
  | help
  | usage (error : UsageError)
  deriving DecidableEq, Repr

/-- Whether a spelling is a hyphen and one more character, so that other
    such settings may follow in the same argument. -/
def isShort (spelling : String) : Bool := spelling.length = 2

/-- The settings that an argument stands for if it carries a value: those
    without a value, and the last one with the value that is left for it. -/
def unfold (setting : Setting) (spelling : String) :
    List Char → Except UsageError (List Setting × Setting × Option String)
  | [] =>
    if setting.arity = .none then .error (.valueIgnored setting "")
    else .ok ([], setting, some "")
  | c :: rest =>
    if setting.arity ≠ .none then .ok ([], setting, some (String.ofList (c :: rest)))
    else
      let next := String.ofList ['-', c]
      match isShort spelling, Setting.ofSpelling? next with
      | true, some other =>
        if rest = [] then .ok ([setting], other, none)
        else
          match unfold other next rest with
          | .error error => .error error
          | .ok (settings, last, carried) => .ok (setting :: settings, last, carried)
      | _, _ => .error (.valueIgnored setting (String.ofList (c :: rest)))

/-- The values that arguments start with. -/
def leadingValues : List Argument → List String
  | .plain text :: rest => text :: leadingValues rest
  | _ => []

/-- The values of a setting, from the value it carries or from the arguments
    behind it, and how many of these arguments they are. -/
def valuesOf (setting : Setting) (carried : Option String) (rest : List Argument) :
    Except UsageError (List String × Nat) :=
  match carried, setting.arity, leadingValues rest with
  | some value, _, _ => .ok (if value = "--" then [] else [value], 0)
  | none, .none, _ => .ok ([], 0)
  | none, .one, value :: _ => .ok ([value], 1)
  | none, .several, value :: more => .ok (value :: more, more.length + 1)
  | none, _, [] => .error (.valueExpected setting)

/-- The settings without a value that an argument stands for, its last
    setting, and the value that this one carries. -/
def settingsOf (setting : Setting) (spelling : String) :
    Option String → Except UsageError (List Setting × Setting × Option String)
  | none => .ok ([], setting, none)
  | some value => unfold setting spelling value.toList

/-- Takes arguments, and gives also those that belong to no setting. -/
def take (choices : Choices) (extras : List String) (arguments : List Argument) :
    Except Stop (Choices × List String) :=
  match arguments with
  | [] => .ok (choices, extras)
  | .plain text :: rest => take choices (extras ++ [text]) rest
  | .separator :: rest => take choices (extras ++ ["--"]) rest
  | .unknown text :: rest => take choices (extras ++ [text]) rest
  | .choice setting spelling carried :: rest =>
    match settingsOf setting spelling carried with
    | .error error => .error (.usage error)
    | .ok (settings, last, carried) =>
      match valuesOf last carried rest with
      | .error error => .error (.usage error)
      | .ok (values, count) =>
        -- Help comes before all that is behind it, also before its errors.
        if settings.contains .help || last = .help then .error .help
        else
          let choices := settings.foldl (fun choices setting => choices.set setting []) choices
          take (choices.set last values) extras (rest.drop count)
  termination_by arguments.length
  decreasing_by all_goals (simp only [List.length_cons, List.length_drop]; omega)

/-! ## Section 3: Command lines -/

/-- What a command line chooses for the build step, and whether everything is
    to be reported. -/
def choose (arguments : List String) : Except Stop (Chosen × Bool) :=
  match Argument.classifyAll arguments with
  | .error error => .error (.usage error)
  | .ok arguments =>
    match take .initial [] arguments with
    | .error stop => .error stop
    | .ok (choices, extras) =>
      match choices.chosen with
      | .error error => .error (.usage error)
      | .ok chosen =>
        -- Settings that are missing are reported before arguments too many.
        if extras.isEmpty then .ok (chosen, choices.isVerbose)
        else .error (.usage (.unrecognized extras))

end StringOrigins.CommandLine
