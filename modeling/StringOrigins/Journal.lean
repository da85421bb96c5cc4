/-! # Journal

    What a program reports while it works: events, each of a level. -/

namespace StringOrigins

/-- How much an event matters. -/
inductive Level where
  | debug
  | info
  | warning
  | error
  deriving DecidableEq, Repr

/-- The name of a level. -/
def Level.name : Level → String
  | .debug => "DEBUG"
  | .info => "INFO"
  | .warning => "WARNING"
  | .error => "ERROR"

/-- A report. -/
structure Event where
  level : Level
  text : String
  deriving DecidableEq, Repr

namespace Event

/-- An event as a line of its own. -/
def line (event : Event) : String := "[" ++ event.level.name ++ "] " ++ event.text ++ "\n"

/-- Whether an event is shown, also where only what matters is. -/
def isShown (isVerbose : Bool) (event : Event) : Bool := isVerbose || event.level != .debug

end Event

end StringOrigins
