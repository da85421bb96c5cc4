import StringOrigins.Text.Hex

/-! # References to resources

    Which texts are references to resources in the generic form: a scheme,
    an authority, a path, a query and a fragment, all but the path
    optional, in ASCII characters with percent escapes.  The name of a
    namespace has to be one. -/

namespace StringOrigins.Xml.Uri

/-! ## Section 1: Characters -/

/-- Characters that stand for themselves anywhere. -/
def isUnreserved (c : Char) : Bool := c.isAlphanum || c = '-' || c = '.' || c = '_' || c = '~'

/-- Characters that may separate parts of a part. -/
def isSubDelimiter (c : Char) : Bool := "!$&'()*+,;=".toList.contains c

/-- Characters of hosts by name. -/
def isHostChar (c : Char) : Bool := isUnreserved c || isSubDelimiter c

/-- Characters of the segments of paths. -/
def isSegmentChar (c : Char) : Bool := isHostChar c || c = ':' || c = '@'

/-- The text behind any allowed characters and percent escapes. -/
def skip (isAllowed : Char → Bool) : List Char → List Char
  | '%' :: a :: b :: rest =>
    if (Hex.digit? a).isSome && (Hex.digit? b).isSome then skip isAllowed rest
    else '%' :: a :: b :: rest
  | c :: rest => if isAllowed c then skip isAllowed rest else c :: rest
  | [] => []

/-! ## Section 2: Parts -/

/-- Whether a text is nothing or a fragment. -/
def isFragmentPart : List Char → Bool
  | [] => true
  | '#' :: rest =>
    (skip (fun c => isSegmentChar c || c = '/' || c = '?' || c = '[' || c = ']') rest).isEmpty
  | _ => false

/-- Whether a text is a query and a fragment, both optional. -/
def isQueryPart : List Char → Bool
  | '?' :: rest => isFragmentPart (skip (fun c => isSegmentChar c || c = '/' || c = '?') rest)
  | text => isFragmentPart text

/-- Whether a text is the rest of a path and what may follow it. -/
def isPathPart (text : List Char) : Bool :=
  isQueryPart (skip (fun c => isSegmentChar c || c = '/') text)

/-- The text behind a host, by name or in brackets. -/
def host? : List Char → Option (List Char)
  | '[' :: rest =>
    match rest.dropWhile (· ≠ ']') with
    | [] => none
    | _ :: left => some left
  | text => some (skip isHostChar text)

/-- The text behind an authority: an optional user, a host, and an optional number
    behind a colon. -/
def authority? (text : List Char) : Option (List Char) :=
  let start :=
    match skip (fun c => isHostChar c || c = ':') text with
    | '@' :: rest => rest
    | _ => text
  match host? start with
  | some (':' :: c :: rest) => if c.isDigit then some (rest.dropWhile Char.isDigit) else none
  | some [':'] => none
  | left => left

/-- Whether a text is an authority with a path behind it. -/
def isAuthorityPart (text : List Char) : Bool :=
  match authority? text with
  | none => false
  | some ('/' :: rest) => isPathPart ('/' :: rest)
  | some rest => isQueryPart rest

/-! ## Section 3: References -/

/-- Whether a text is a reference without a scheme.  The first segment of
    its path holds no colon. -/
def isRelative : List Char → Bool
  | '/' :: '/' :: rest => isAuthorityPart rest
  | '/' :: rest => isPathPart rest
  | text =>
    match skip (fun c => isHostChar c || c = '@') text with
    | '/' :: rest => isPathPart rest
    | rest => isQueryPart rest

/-- Whether a text is a reference with a scheme. -/
def isAbsolute : List Char → Bool
  | [] => false
  | c :: rest =>
    c.isAlpha &&
      match rest.dropWhile fun d => d.isAlphanum || d = '+' || d = '-' || d = '.' with
      | ':' :: '/' :: '/' :: left => isAuthorityPart left
      | ':' :: left => isPathPart left
      | _ => false

/-- Whether a text is a reference to a resource. -/
def isReference (text : List Char) : Bool := isAbsolute text || isRelative text

end StringOrigins.Xml.Uri
