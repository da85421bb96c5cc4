import StringOrigins.CommandLine.Usage
import StringOrigins.Text.Digit

/-! # Arguments

    Every argument is a value, a spelling of a setting, or the separator
    behind which all arguments are values.  An argument that starts with a
    hyphen is a value if it is a single hyphen, a negative number, or holds
    a blank.  Settings may be abbreviated, and may carry a value of their
    own. -/

namespace StringOrigins.CommandLine

/-- What an argument is. -/
inductive Argument where
  | plain (text : String)
  | separator
  /-- A setting in one of its spellings, and the value that it carries. -/
  | choice (setting : Setting) (spelling : String) (carried : Option String)
  /-- A spelling of no setting. -/
  | unknown (text : String)
  deriving DecidableEq, Repr

namespace Argument

/-! ## Section 1: Abbreviations -/

/-- A text before and behind its first equals sign, if it has one. -/
def splitEquals (s : List Char) : List Char × Option (List Char) :=
  match s.dropWhile (· ≠ '=') with
  | [] => (s, none)
  | _ :: value => (s.takeWhile (· ≠ '='), some value)

/-- The settings that an argument may abbreviate, with their spellings and
    the value that the argument carries for each. -/
def candidates (argument : List Char) : List (Setting × String × Option String) :=
  match argument with
  | '-' :: '-' :: _ =>
    let (start, carried) := splitEquals argument
    (Setting.spelled.filter fun (spelling, _) => start.isPrefixOf spelling.toList).map
      fun (spelling, setting) => (setting, spelling, carried.map String.ofList)
  | _ =>
    Setting.spelled.filterMap fun (spelling, setting) =>
      if spelling.toList = argument.take 2 then
        some (setting, spelling, some (String.ofList (argument.drop 2)))
      else if argument.isPrefixOf spelling.toList then some (setting, spelling, none)
      else none

/-! ## Section 2: Negative numbers -/

/-- Whether a text is a run of digits, followed by at most one line feed. -/
def isDigits (s : List Char) : Bool :=
  match s.takeWhile Text.isDigit, s.dropWhile Text.isDigit with
  | [], _ => false
  | _ :: _, rest => rest = [] || rest = ['\n']

/-- Whether a text is a negative number, as a whole number or with a point. -/
def isNegativeNumber : List Char → Bool
  | '-' :: rest =>
    isDigits rest ||
      match rest.dropWhile Text.isDigit with
      | '.' :: decimals => isDigits decimals
      | _ => false
  | _ => false

/-! ## Section 3: What an argument is -/

/-- What an argument that starts with a hyphen is, if it is no spelling. -/
def unspelled (argument : String) : Except UsageError Argument :=
  match candidates argument.toList with
  | [(setting, spelling, carried)] => .ok (.choice setting spelling carried)
  | [] =>
    if isNegativeNumber argument.toList || argument.toList.contains ' ' then
      .ok (.plain argument)
    else .ok (.unknown argument)
  | several => .error (.ambiguous argument (several.map fun candidate => candidate.2.1))

/-- What an argument in front of any separator is. -/
def classify (argument : String) : Except UsageError Argument :=
  match argument.toList, Setting.ofSpelling? argument with
  | '-' :: _ :: _, none =>
    -- A whole spelling with a value is preferred to any abbreviation.
    let (start, carried) := splitEquals argument.toList
    match carried, Setting.ofSpelling? (String.ofList start) with
    | some value, some setting =>
      .ok (.choice setting (String.ofList start) (some (String.ofList value)))
    | _, _ => unspelled argument
  | '-' :: _ :: _, some setting => .ok (.choice setting argument none)
  | _, _ => .ok (.plain argument)

/-- What the arguments are. -/
def classifyAll : List String → Except UsageError (List Argument)
  | [] => .ok []
  | "--" :: rest => .ok (.separator :: rest.map .plain)
  | argument :: rest => do
    let first ← classify argument
    let more ← classifyAll rest
    .ok (first :: more)

end Argument

end StringOrigins.CommandLine
