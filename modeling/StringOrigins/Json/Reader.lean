import StringOrigins.Json.Basic
import StringOrigins.Text.Hex

/-! # Reading JSON

    A reader of the whole grammar: nested arrays and objects, texts with
    all escapes, numbers and the three literals, with blanks between any
    two tokens.  It takes one token after another and keeps the arrays and
    objects that are not finished, innermost first.

    A number is kept as it is written.  The members of an object are kept
    in their order, and none is dropped if names repeat.  An escaped half
    of a surrogate pair is no character, so a text with one that stands
    alone is refused. -/

namespace StringOrigins.Json

/-- Any JSON value. -/
inductive Value where
  | null
  | boolean (b : Bool)
  | number (literal : List Char)
  | text (s : List Char)
  | array (items : List Value)
  | object (members : List (List Char × Value))
  deriving Repr

/-! ## Section 1: Texts -/

/-- Four hexadecimal digits, and what follows them. -/
def unit? : List Char → Option (Nat × List Char)
  | a :: b :: c :: d :: rest => (Hex.value? [a, b, c, d]).map (·, rest)
  | _ => none

theorem length_of_unit? {s rest : List Char} {n : Nat} (h : unit? s = some (n, rest)) :
    rest.length < s.length := by
  unfold unit? at h
  split at h
  · obtain ⟨_, -, eq⟩ := Option.map_eq_some_iff.1 h
    cases eq
    simp only [List.length_cons]
    omega
  · cases h

/-- The second half of a surrogate pair behind the first one, and what
    follows the pair. -/
def pair? (high : Nat) : List Char → Option (Char × List Char)
  | '\\' :: 'u' :: s =>
    (unit? s).bind fun (low, rest) =>
      if 0xDC00 ≤ low ∧ low ≤ 0xDFFF then
        some (Char.ofNat (0x10000 + (high - 0xD800) * 0x400 + (low - 0xDC00)), rest)
      else none
  | _ => none

theorem length_of_pair? {s rest : List Char} {high : Nat} {c : Char}
    (h : pair? high s = some (c, rest)) : rest.length < s.length := by
  unfold pair? at h
  split at h
  · obtain ⟨⟨low, after⟩, read, eq⟩ := Option.bind_eq_some_iff.1 h
    have shorter := length_of_unit? read
    dsimp only at eq
    split at eq
    · have last : after = rest := congrArg Prod.snd (Option.some.inj eq)
      subst last
      simp only [List.length_cons]
      omega
    · cases eq
  · cases h

/-- The character that a backslash escapes, and what follows it. -/
def escaped? : List Char → Option (Char × List Char)
  | '"' :: rest => some ('"', rest)
  | '\\' :: rest => some ('\\', rest)
  | '/' :: rest => some ('/', rest)
  | 'b' :: rest => some ('\x08', rest)
  | 'f' :: rest => some ('\x0C', rest)
  | 'n' :: rest => some ('\n', rest)
  | 'r' :: rest => some ('\r', rest)
  | 't' :: rest => some ('\t', rest)
  | 'u' :: s =>
    (unit? s).bind fun (n, rest) =>
      if 0xD800 ≤ n ∧ n ≤ 0xDBFF then pair? n rest
      else if 0xDC00 ≤ n ∧ n ≤ 0xDFFF then none
      else some (Char.ofNat n, rest)
  | _ => none

theorem length_of_escaped? {s rest : List Char} {c : Char} (h : escaped? s = some (c, rest)) :
    rest.length < s.length := by
  unfold escaped? at h
  split at h
  case h_9 =>
    obtain ⟨⟨n, after⟩, read, eq⟩ := Option.bind_eq_some_iff.1 h
    have shorter := length_of_unit? read
    simp only [List.length_cons]
    dsimp only at eq
    split at eq
    · have shorter' := length_of_pair? eq
      omega
    · split at eq
      · cases eq
      · cases eq
        omega
  case h_10 => cases h
  all_goals
    cases h
    simp

/-- One character of a text, and what follows it. -/
def character? : List Char → Option (Char × List Char)
  | [] => none
  | c :: rest =>
    if c = '\\' then escaped? rest else if c.toNat < 0x20 then none else some (c, rest)

theorem length_of_character? {s rest : List Char} {c : Char}
    (h : character? s = some (c, rest)) : rest.length < s.length := by
  unfold character? at h
  split at h
  · cases h
  · simp only [List.length_cons]
    split at h
    · have shorter := length_of_escaped? h
      omega
    · split at h
      · cases h
      · cases h
        omega

/-- A text behind its opening quote, and what follows its closing quote. -/
def text? (s : List Char) : Option (List Char × List Char) :=
  if s.head? = some '"' then some ([], s.tail)
  else match h : character? s with
    | none => none
    | some (c, rest) =>
      have := length_of_character? h
      (text? rest).map fun (more, after) => (c :: more, after)
  termination_by s.length

theorem length_of_text? {s text rest : List Char} (h : text? s = some (text, rest)) :
    rest.length ≤ s.length := by
  induction s using text?.induct generalizing text with
  | case1 s quote =>
    rw [text?, if_pos quote] at h
    cases h
    simp
  | case2 s quote none =>
    rw [text?, if_neg quote] at h
    split at h
    · cases h
    · rename_i read
      rw [none] at read
      cases read
  | case3 s quote c after read shorter ih =>
    rw [text?, if_neg quote] at h
    split at h
    · cases h
    · rename_i c' after' read'
      rw [read] at read'
      cases read'
      obtain ⟨⟨more, last⟩, read'', eq⟩ := Option.map_eq_some_iff.1 h
      cases eq
      have le := ih read''
      omega

/-! ## Section 2: Numbers and literals -/

/-- Digits, at least one of them.  Gives what follows them. -/
def digits? : List Char → Option (List Char)
  | [] => none
  | c :: rest => if c.isDigit then some (rest.dropWhile Char.isDigit) else none

/-- The whole part of a number: zero, or digits that do not start with one. -/
def whole? : List Char → Option (List Char)
  | '0' :: rest => some rest
  | s => digits? s

/-- The fraction of a number, if it has one. -/
def fraction? : List Char → Option (List Char)
  | '.' :: rest => digits? rest
  | s => some s

/-- The exponent of a number, if it has one. -/
def exponent? : List Char → Option (List Char)
  | [] => some []
  | c :: rest =>
    if c = 'e' ∨ c = 'E' then
      digits? (if rest.head? = some '+' ∨ rest.head? = some '-' then rest.tail else rest)
    else some (c :: rest)

/-- Whether a word is a number. -/
def isNumber (word : List Char) : Bool :=
  ((whole? (if word.head? = some '-' then word.tail else word)).bind fraction?).bind exponent?
    = some []

/-- The value that a word stands for: a literal or a number. -/
def scalar? (word : List Char) : Option Value :=
  if word = "null".toList then some .null
  else if word = "true".toList then some (.boolean true)
  else if word = "false".toList then some (.boolean false)
  else if isNumber word then some (.number word)
  else none

/-! ## Section 3: Tokens -/

/-- What a JSON text is made of. -/
inductive Token where
  /-- A brace, a bracket, a comma or a colon. -/
  | mark (c : Char)
  | text (s : List Char)
  | scalar (value : Value)

/-- The blanks that may stand between tokens. -/
def isBlank (c : Char) : Bool := c ∈ [' ', '\t', '\n', '\r']

/-- The tokens that consist of one character. -/
def isMark (c : Char) : Bool := c ∈ ['\x7b', '\x7d', '[', ']', ',', ':']

/-- Whether a character can stand in a literal or a number. -/
def isInWord (c : Char) : Bool := !(isBlank c || isMark c || c = '"')

/-- One token, and what follows it. -/
def token? : List Char → Option (Token × List Char)
  | [] => none
  | c :: rest =>
    if c = '"' then (text? rest).map fun (s, after) => (.text s, after)
    else if isMark c then some (.mark c, rest)
    else
      (scalar? ((c :: rest).takeWhile isInWord)).map fun value =>
        (.scalar value, rest.dropWhile isInWord)

theorem length_of_token? {s rest : List Char} {token : Token}
    (h : token? s = some (token, rest)) : rest.length < s.length := by
  unfold token? at h
  split at h
  · cases h
  · rename_i c more
    simp only [List.length_cons]
    split at h
    · obtain ⟨⟨text, after⟩, read, eq⟩ := Option.map_eq_some_iff.1 h
      cases eq
      have le := length_of_text? read
      omega
    · split at h
      · cases h
        omega
      · obtain ⟨value, -, eq⟩ := Option.map_eq_some_iff.1 h
        cases eq
        have le := (List.dropWhile_sublist isInWord (l := more)).length_le
        omega

/-! ## Section 4: Values -/

/-- An array or an object that is not finished, with what it holds so far,
    last first.  An object is waiting for the value of a member. -/
inductive Frame where
  | array (items : List Value)
  | object (members : List (List Char × Value)) (name : List Char)

/-- What may come next, inside of the unfinished arrays and objects. -/
inductive Place where
  /-- A value. -/
  | value (frames : List Frame)
  /-- The first item of an array, or its end. -/
  | firstItem (frames : List Frame)
  /-- The first name of an object, or its end. -/
  | firstName (frames : List Frame)
  /-- A name, behind other members. -/
  | name (members : List (List Char × Value)) (frames : List Frame)
  /-- A colon, behind the name of a member. -/
  | colon (members : List (List Char × Value)) (name : List Char) (frames : List Frame)
  /-- What follows a finished value. -/
  | behind (value : Value) (frames : List Frame)

namespace Place

/-- The place behind the token that a value starts with. -/
def start (frames : List Frame) : Token → Option Place
  | .text s => some (.behind (.text s) frames)
  | .scalar found => some (.behind found frames)
  | .mark c =>
    if c = '[' then some (.firstItem frames)
    else if c = '\x7b' then some (.firstName frames)
    else none

/-- The place behind a finished value and one more mark. -/
def proceed (done : Value) (c : Char) : List Frame → Option Place
  | [] => none
  | .array items :: frames =>
    if c = ',' then some (.value (.array (done :: items) :: frames))
    else if c = ']' then some (.behind (.array (done :: items).reverse) frames)
    else none
  | .object members label :: frames =>
    if c = ',' then some (.name ((label, done) :: members) frames)
    else if c = '\x7d' then some (.behind (.object ((label, done) :: members).reverse) frames)
    else none

/-- The place behind one more token. -/
def step : Place → Token → Option Place
  | .value frames, token => start frames token
  | .firstItem frames, .mark ']' => some (.behind (.array []) frames)
  | .firstItem frames, token => start (.array [] :: frames) token
  | .firstName frames, .mark '\x7d' => some (.behind (.object []) frames)
  | .firstName frames, .text label => some (.colon [] label frames)
  | .name members frames, .text label => some (.colon members label frames)
  | .colon members label frames, .mark ':' => some (.value (.object members label :: frames))
  | .behind done frames, .mark c => proceed done c frames
  | _, _ => none

/-- The place behind a text. -/
def run (place : Place) (s : List Char) : Option Place :=
  match s with
  | [] => some place
  | c :: rest =>
    if isBlank c then run place rest
    else match h : token? (c :: rest) with
      | none => none
      | some (token, after) =>
        have := length_of_token? h
        match place.step token with
        | none => none
        | some next => run next after
  termination_by s.length
  decreasing_by
    · exact Nat.lt_succ_self rest.length
    · exact this

end Place

/-- The value that a text stands for. -/
def read? (s : List Char) : Option Value :=
  match Place.run (.value []) s with
  | some (.behind value []) => some value
  | _ => none

end StringOrigins.Json
