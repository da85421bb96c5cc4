import StringOrigins.Xml.Lexeme

/-! # The XML declaration

    A document may start with a declaration of its version, its encoding
    and whether it stands alone, in this order.  Every version that starts
    with `1.` is accepted. -/

namespace StringOrigins.Xml.Declaration

/-- Whether a text is a version number that is accepted. -/
def isVersion : List Char → Bool
  | '1' :: '.' :: digits => digits.all Char.isDigit
  | _ => false

/-- Whether a text may be the name of an encoding. -/
def isEncodingName : List Char → Bool
  | [] => false
  | c :: rest => c.isAlpha && rest.all fun d => d.isAlphanum || d = '.' || d = '_' || d = '-'

/-- Whether a text says if the document stands alone. -/
def isStandalone (s : List Char) : Bool := s = "yes".toList || s = "no".toList

/-- A setting behind blanks, if it is the one ahead, and the text behind it. -/
def setting (keyword : List Char) (isValue : List Char → Bool) (text : List Char) :
    Except Fault (Option (List Char) × List Char) :=
  match behind? keyword (skipBlanks text) with
  | none => .ok (none, text)
  | some rest => do
    let _ ← blanks text
    let rest ← behind ['='] (skipBlanks rest)
    let (value, rest) ← literal (skipBlanks rest)
    if isValue value then .ok (some value, rest) else .error .faultyDeclaration

/-- The settings of a declaration: the encoding, if it is named, and the
    text behind the declaration. -/
def settings (text : List Char) : Except Fault (Option (List Char) × List Char) := do
  let (version, text) ← setting "version".toList isVersion text
  if version.isNone then .error .faultyDeclaration
  else
    let (encoding, text) ← setting "encoding".toList isEncodingName text
    let (_, text) ← setting "standalone".toList isStandalone text
    let text ← behind ['?', '>'] (skipBlanks text)
    .ok (encoding, text)

/-- Reads the declaration, if there is one: the encoding, if it is named,
    and the text behind the declaration. -/
def read (text : List Char) : Except Fault (Option (List Char) × List Char) :=
  match behind? "<?xml".toList text with
  | some (c :: rest) => if isBlank c then settings (c :: rest) else .ok (none, text)
  | _ => .ok (none, text)

end StringOrigins.Xml.Declaration
