import StringOrigins.Json.Printer
import StringOrigins.Json.Reader
import StringOrigins.Proofs.Text.Hex

/-! # Reading printed JSON back

    What is printed is read as the value that was printed.  This holds one
    level down for each kind of token, inside of any arrays and objects
    and in front of any text, and so by induction for nested objects
    (`read?_print`). -/

namespace StringOrigins.Json

/-! ## Section 1: The values that can be printed -/

mutual

/-- The JSON value that a text or an object is. -/
def value : Json → Value
  | .text s => .text s
  | .object members => .object (memberValues members)

/-- The members of the value of an object. -/
def memberValues : List (List Char × Json) → List (List Char × Value)
  | [] => []
  | (name, member) :: more => (name, value member) :: memberValues more

end

theorem memberValues_eq_map (members : List (List Char × Json)) :
    memberValues members = members.map fun (name, member) => (name, member.value) := by
  induction members with
  | nil => rfl
  | cons member more ih =>
    rw [memberValues, ih]
    rfl

/-! ## Section 2: Texts -/

/-- Four digits are read behind the mark of an escape. -/
theorem unit?_lowerPadded {n : Nat} (small : n < 0x10000) (rest : List Char) :
    unit? (Hex.lowerPadded 4 n ++ rest) = some (n, rest) := by
  have bound : n < Nat.pow 16 (3 + 1) := small
  have four := Hex.length_lowerPadded bound
  have reads := Hex.value?_lowerPadded 4 n
  match eq : Hex.lowerPadded 4 n, four with
  | [a, b, c, d], _ =>
    rw [eq] at reads
    show (Hex.value? [a, b, c, d]).map (·, rest) = some (n, rest)
    rw [reads]
    rfl

/-- A number that is no half of a surrogate pair stands for a character. -/
theorem escaped?_number {n : Nat} {s rest : List Char} (read : unit? s = some (n, rest))
    (whole : n < 0xD800) : escaped? ('u' :: s) = some (Char.ofNat n, rest) := by
  have low : ¬ (0xD800 ≤ n ∧ n ≤ 0xDBFF) := by omega
  have high : ¬ (0xDC00 ≤ n ∧ n ≤ 0xDFFF) := by omega
  rw [escaped?, read, Option.bind_some]
  dsimp only
  rw [if_neg low, if_neg high]

/-- The characters with an escape of one letter. -/
def lettered : List Char := ['"', '\\', '\x08', '\x0C', '\n', '\r', '\t']

/-- All other characters are escaped by their number or not at all. -/
theorem escape_of_not_mem {c : Char} (other : c ∉ lettered) :
    escape c = if c.toNat < 0x20 then ['\\', 'u'] ++ Hex.lowerPadded 4 c.toNat else [c] := by
  simp only [lettered, List.mem_cons, List.not_mem_nil, or_false, not_or] at other
  obtain ⟨quote, backslash, backspace, feed, line, return_, tab⟩ := other
  unfold escape
  rw [if_neg quote, if_neg backslash, if_neg backspace, if_neg feed, if_neg line, if_neg return_,
    if_neg tab]

/-- A character is read back, whether it is escaped or not. -/
theorem character?_escape (c : Char) (rest : List Char) :
    character? (escape c ++ rest) = some (c, rest) := by
  by_cases letter : c ∈ lettered
  · simp only [lettered, List.mem_cons, List.not_mem_nil, or_false] at letter
    rcases letter with rfl | rfl | rfl | rfl | rfl | rfl | rfl <;> rfl
  · rw [escape_of_not_mem letter]
    split
    · rename_i control
      -- A control character is no half of a surrogate pair.
      have digits : unit? (Hex.lowerPadded 4 c.toNat ++ rest) = some (c.toNat, rest) :=
        unit?_lowerPadded (by omega) rest
      show escaped? ('u' :: (Hex.lowerPadded 4 c.toNat ++ rest)) = some (c, rest)
      rw [escaped?_number digits (by omega), Char.ofNat_toNat]
    · rename_i printable
      have backslash : c ≠ '\\' := by
        intro eq
        exact letter (by rw [eq]; decide)
      rw [List.singleton_append, character?, if_neg backslash, if_neg printable]

/-- No character is written with a quote in front. -/
theorem head?_escape (c : Char) (rest : List Char) : (escape c ++ rest).head? ≠ some '"' := by
  by_cases letter : c ∈ lettered
  · simp only [lettered, List.mem_cons, List.not_mem_nil, or_false] at letter
    have other : '\\' ≠ '"' := by decide
    rcases letter with rfl | rfl | rfl | rfl | rfl | rfl | rfl <;>
      exact fun eq => other (Option.some.inj eq)
  · rw [escape_of_not_mem letter]
    split
    · exact fun eq => nomatch eq
    · intro eq
      have quote : c = '"' := Option.some.inj eq
      exact letter (by rw [quote]; decide)

/-- A text is read back up to its closing quote. -/
theorem text?_escaped (s rest : List Char) :
    text? (s.flatMap escape ++ '"' :: rest) = some (s, rest) := by
  -- No character looks like the end of the text, and each is read as a whole.
  induction s with
  | nil =>
    rw [text?]
    rfl
  | cons c s ih =>
    rw [List.flatMap_cons, List.append_assoc, text?, if_neg (head?_escape c _)]
    split
    · rename_i read
      rw [character?_escape] at read
      cases read
    · rename_i read
      rw [character?_escape] at read
      cases read
      rw [ih]
      rfl

/-! ## Section 3: Tokens -/

namespace Place

variable (place : Place) (rest : List Char)

theorem run_nil : run place [] = some place := by rw [run]

/-- A blank is passed over. -/
theorem run_blank {c : Char} (blank : isBlank c = true) :
    run place (c :: rest) = run place rest := by
  rw [run, if_pos blank]

/-- A new line is passed over, with all the blanks that it starts with. -/
theorem run_newLine (depth : Nat) : run place (newLine depth ++ rest) = run place rest := by
  have blanks : ∀ k, run place (List.replicate k ' ' ++ rest) = run place rest := by
    intro k
    induction k with
    | zero => rfl
    | succ k ih =>
      rw [List.replicate_succ, List.cons_append, run_blank _ _ (by decide)]
      exact ih
  unfold newLine
  rw [List.cons_append, run_blank _ _ (by decide)]
  exact blanks (2 * depth)

/-- A token that is no blank makes one step. -/
theorem run_token {c : Char} {s after : List Char} {token : Token} (dark : isBlank c = false)
    (read : token? (c :: s) = some (token, after)) :
    run place (c :: s) = (place.step token).bind fun next => run next after := by
  rw [run, if_neg (by rw [dark]; exact Bool.false_ne_true)]
  split
  · rename_i none
    rw [read] at none
    cases none
  · rename_i again
    rw [read] at again
    cases again
    cases place.step token <;> rfl

/-- A mark makes one step. -/
theorem run_mark {c : Char} (mark : isMark c = true) :
    run place (c :: rest) = (place.step (.mark c)).bind fun next => run next rest := by
  have other : isBlank c = false ∧ c ≠ '"' := by
    simp only [isMark, List.mem_cons, List.not_mem_nil, or_false, decide_eq_true_eq] at mark
    rcases mark with rfl | rfl | rfl | rfl | rfl | rfl <;> decide
  refine run_token place other.1 ?_
  rw [token?, if_neg other.2, if_pos mark]

/-- A text between quotes makes one step. -/
theorem run_quote (s : List Char) :
    run place (quote s ++ rest) = (place.step (.text s)).bind fun next => run next rest := by
  have read : token? ('"' :: (s.flatMap escape ++ '"' :: rest)) = some (.text s, rest) := by
    rw [token?, if_pos rfl, text?_escaped]
    rfl
  have shape : quote s ++ rest = '"' :: (s.flatMap escape ++ '"' :: rest) := by
    simp [quote]
  rw [shape]
  exact run_token place (by decide) read

end Place

/-! ## Section 4: Values -/

theorem printAt_object (depth : Nat) (member : List Char × Json)
    (more : List (List Char × Json)) (rest : List Char) :
    printAt depth (.object (member :: more)) ++ rest =
      '\x7b' :: (printMembers (depth + 1) (member :: more) ++
        (newLine depth ++ '\x7d' :: rest)) := by
  rw [printAt]
  simp

theorem printMembers_single (depth : Nat) (name : List Char) (member : Json)
    (rest : List Char) :
    printMembers depth [(name, member)] ++ rest =
      newLine depth ++ (quote name ++ (':' :: ' ' :: (printAt depth member ++ rest))) := by
  rw [printMembers]
  simp

theorem printMembers_cons (depth : Nat) (name : List Char) (member : Json)
    (next : List Char × Json) (more : List (List Char × Json)) (rest : List Char) :
    printMembers depth ((name, member) :: next :: more) ++ rest =
      newLine depth ++ (quote name ++ (':' :: ' ' ::
        (printAt depth member ++ (',' :: (printMembers depth (next :: more) ++ rest))))) := by
  rw [printMembers]
  · simp
  · exact List.cons_ne_nil next more

/-- An object is printed between braces, whether it has members or not. -/
theorem exists_inside (members : List (List Char × Json)) :
    ∃ inside, print (.object members) = '\x7b' :: inside ++ ['\x7d'] := by
  unfold print
  rcases members with _ | ⟨member, more⟩
  · exact ⟨[], rfl⟩
  · refine ⟨printMembers 1 (member :: more) ++ newLine 0, ?_⟩
    rw [printAt]
    rfl

namespace Place

/-- The name of a member is read up to the place of its value. -/
theorem run_name {place : Place} {frames : List Frame} {done : List (List Char × Value)}
    (opens : ∀ label, place.step (.text label) = some (.colon done label frames)) (depth : Nat)
    (name rest : List Char) :
    run place (newLine depth ++ (quote name ++ (':' :: ' ' :: rest))) =
      run (.value (.object done name :: frames)) rest := by
  -- A new line, the name, a colon and a blank.
  rw [run_newLine, run_quote, opens]
  show run (.colon done name frames) (':' :: ' ' :: rest) = _
  rw [run_mark _ _ (by decide)]
  show run (.value (.object done name :: frames)) (' ' :: rest) = _
  rw [run_blank _ _ (by decide)]

mutual

/-- A printed value is read as the value that it is, inside of any frames
    and in front of any text. -/
theorem run_printAt (depth : Nat) (frames : List Frame) (rest : List Char) :
    ∀ v : Json, run (.value frames) (printAt depth v ++ rest) = run (.behind v.value frames) rest
  | .text s => by
    rw [printAt, run_quote]
    rfl
  | .object [] => by
    rw [printAt]
    show run (.value frames) ('\x7b' :: '\x7d' :: rest) = _
    rw [run_mark _ _ (by decide)]
    show run (.firstName frames) ('\x7d' :: rest) = _
    rw [run_mark _ _ (by decide)]
    rfl
  | .object (member :: more) => by
    rw [printAt_object, run_mark _ _ (by decide)]
    exact run_printMembers (depth + 1) depth frames rest (member :: more) (List.cons_ne_nil _ _)
      (.firstName frames) [] (fun _ => rfl)

/-- Printed members are read one after another, behind those that are done. -/
theorem run_printMembers (depth outer : Nat) (frames : List Frame) (rest : List Char) :
    ∀ members : List (List Char × Json), members ≠ [] →
      ∀ (place : Place) (done : List (List Char × Value)),
      (∀ label, place.step (.text label) = some (.colon done label frames)) →
      run place (printMembers depth members ++ (newLine outer ++ '\x7d' :: rest)) =
        run (.behind (.object (done.reverse ++ memberValues members)) frames) rest
  | [], ne, _, _, _ => absurd rfl ne
  | [(label, v)], _, place, done, opens => by
    rw [printMembers_single, run_name opens, run_printAt depth _ _ v, run_newLine,
      run_mark _ _ (by decide)]
    show run (.behind (.object ((label, v.value) :: done).reverse) frames) rest = _
    rw [List.reverse_cons]
    rfl
  | (label, v) :: next :: more, _, place, done, opens => by
    rw [printMembers_cons, run_name opens, run_printAt depth _ _ v, run_mark _ _ (by decide)]
    show run (.name ((label, v.value) :: done) frames)
      (printMembers depth (next :: more) ++ (newLine outer ++ '\x7d' :: rest)) = _
    rw [run_printMembers depth outer frames rest (next :: more) (List.cons_ne_nil _ _) _
      ((label, v.value) :: done) (fun _ => rfl), List.reverse_cons, List.append_assoc]
    rfl

end

end Place

/-- A printed value is read back, with blanks behind it or none. -/
theorem read?_print (v : Json) (rest : List Char) (blank : ∀ c ∈ rest, isBlank c = true) :
    read? (print v ++ rest) = some v.value := by
  -- Behind the value there are only blanks to pass over.
  have quiet : Place.run (.behind v.value []) rest = some (.behind v.value []) := by
    induction rest with
    | nil => exact Place.run_nil _
    | cons c rest ih =>
      rw [Place.run_blank _ _ (blank c List.mem_cons_self)]
      exact ih (fun c m => blank c (List.mem_cons_of_mem _ m))
  unfold read? print
  rw [Place.run_printAt, quiet]

end StringOrigins.Json
