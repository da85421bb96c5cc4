import StringOrigins.Proofs.FileSystem.Operations
import StringOrigins.Proofs.IdTable.Grammar
import StringOrigins.Proofs.Text.Decoding

/-! # Loading an id table

    An id table that is loaded comes from the octets of a file, and loading
    fails for the sake of the path alone only if that holds U+0000.

    A file is loaded as its text is parsed, although the line ends of the
    file are made the same first.  What cannot be opened is missing or
    unreadable, and what is no text is reported by the place up to which it
    is one (`load_agrees`). -/

namespace StringOrigins.IdTable

/-! ## Section 1: Octets -/

/-- The octets of a file fail with an encoding fault or a faulty line. -/
theorem fault_of_ofOctets {path : Path} {octets : Utf8.Octets} {error : TableError}
    (failed : ofOctets path octets = .error error) :
    (∃ fault, error = .undecodable path fault) ∨
      ∃ source number fault, error = .faultyLine source number fault := by
  unfold ofOctets at failed
  cases decoded : Utf8.decode octets with
  | error fault =>
    rw [decoded] at failed
    exact Or.inl ⟨fault, (Except.error.inj failed).symm⟩
  | ok text =>
    rw [decoded] at failed
    obtain ⟨before, row, after, fault, -, -, -, eq⟩ := faultyLine_of_parse failed
    exact Or.inr ⟨_, _, fault, eq⟩

/-- No octets hold the empty table. -/
theorem ofOctets_nil (path : Path) : ofOctets path [] = .ok ∅ := by
  simp [ofOctets, Utf8.decode, Utf8.decodeFrom, Text.unifyLineEnds, Text.unifyFrom, parse,
    Text.lines, Text.linesFrom, enterAll]

/-! ## Section 2: Files -/

section files

variable {fs : FileSystem} {path : Path}

/-- A file that can be read is loaded from its octets. -/
theorem load_of_read {octets : Utf8.Octets} (done : fs.read path.text = .ok octets) :
    load fs path = ofOctets path octets := by
  unfold load
  rw [done]

/-- A table is loaded if the file can be read and its octets hold one. -/
theorem load_eq_ok_iff {table : IdTable} :
    load fs path = .ok table ↔
      ∃ octets, fs.read path.text = .ok octets ∧ ofOctets path octets = .ok table := by
  constructor
  · intro done
    cases result : fs.read path.text with
    | ok octets =>
      rw [load_of_read result] at done
      exact ⟨octets, rfl, done⟩
    | error error =>
      unfold load at done
      rw [result] at done
      cases error with
      | nullCharacter => cases done
      | notMoved cause source target => cases done
      | refused cause text => cases cause <;> cases done
  · rintro ⟨octets, result, done⟩
    rw [load_of_read result]
    exact done

/-- Only a path with U+0000 keeps the file from being asked for. -/
theorem holdsNull_of_load (failed : load fs path = .error .nullCharacter) : path.HoldsNull := by
  cases null : FileSystem.holdsNull path.text with
  | true => exact (FileSystem.holdsNull_text_iff path).1 null
  | false =>
    exfalso
    cases result : fs.read path.text with
    | ok octets =>
      rw [load_of_read result] at failed
      obtain ⟨fault, eq⟩ | ⟨source, number, fault, eq⟩ := fault_of_ofOctets failed
      · cases eq
      · cases eq
    | error error =>
      obtain ⟨cause, rfl⟩ := FileSystem.refused_of_read null result
      unfold load at failed
      rw [result] at failed
      cases cause <;> cases failed

/-- A file is missing if its path leads to nothing. -/
theorem load_eq_missing_iff (clean : FileSystem.holdsNull path.text = false) {other : Path} :
    load fs path = .error (.missing other) ↔
      other = path ∧ fs.read path.text = .error (.refused .notFound path.text) := by
  constructor
  · intro missing
    cases result : fs.read path.text with
    | ok octets =>
      rw [load_of_read result] at missing
      obtain ⟨fault, eq⟩ | ⟨source, number, fault, eq⟩ := fault_of_ofOctets missing
      · cases eq
      · cases eq
    | error error =>
      obtain ⟨cause, rfl⟩ := FileSystem.refused_of_read clean result
      unfold load at missing
      rw [result] at missing
      cases cause with
      | notFound =>
        cases missing
        exact ⟨rfl, rfl⟩
      | _ => cases missing
  · intro ⟨same, failed⟩
    unfold load
    rw [failed, same]

/-- Any other error of the file system makes it unreadable. -/
theorem load_of_error (clean : FileSystem.holdsNull path.text = false) {error : FileError}
    (failed : fs.read path.text = .error error)
    (other : error ≠ .refused .notFound path.text) :
    load fs path = .error (.unreadable path error) := by
  obtain ⟨cause, rfl⟩ := FileSystem.refused_of_read clean failed
  unfold load
  rw [failed]
  cases cause with
  | notFound => exact absurd rfl other
  | _ => rfl

end files

/-! ## Section 3: Loading and parsing -/

/-- A text is parsed as it is, whichever line ends it has. -/
theorem parse_unifyLineEnds (source : Option String) (text : List Char) :
    parse source (Text.unifyLineEnds text) = parse source text := by
  unfold parse
  rw [Text.lines_unifyLineEnds]

/-- The octets of a text hold the table of the text. -/
theorem ofOctets_encode (path : Path) (text : List Char) :
    ofOctets path (Utf8.encode text) = parse (some path.text) text := by
  unfold ofOctets
  rw [Utf8.decode_encode]
  exact parse_unifyLineEnds (some path.text) text

/-- Octets of no text are refused where they stop to be one. -/
theorem undecodable_of_not_encoding (path : Path) {octets : Utf8.Octets}
    (other : ¬ Utf8.IsEncoding octets) :
    ∃ fault part, ofOctets path octets = .error (.undecodable path fault) ∧
      Utf8.IsLongest part octets ∧ fault.offset = part.length ∧
      octets[fault.offset]? = some fault.first := by
  cases decoded : Utf8.decode octets with
  | ok text => exact absurd ⟨text, Utf8.decode_eq_ok_iff.1 decoded⟩ other
  | error fault =>
    obtain ⟨part, longest, place, first⟩ := Utf8.longest_of_decode decoded
    refine ⟨fault, part, ?_, longest, place, first⟩
    unfold ofOctets
    rw [decoded]

/-- A file without U+0000 in its path is missing exactly if the path leads to
    nothing.  Any other error of the file system makes it unreadable.  If
    its octets encode no text, the fault is reported that stands behind the
    longest beginning that encodes one.  And if they encode a text, the file
    is loaded exactly as the text is parsed, with the same table or the same
    error.  No other error occurs. -/
theorem load_agrees (fs : FileSystem) (path : Path) (clean : ¬ path.HoldsNull) :
    (∀ other, load fs path = .error (.missing other) ↔
      other = path ∧ fs.read path.text = .error (.refused .notFound path.text)) ∧
    (∀ error, fs.read path.text = .error error → error ≠ .refused .notFound path.text →
      load fs path = .error (.unreadable path error)) ∧
    (∀ octets, fs.read path.text = .ok octets → ¬ Utf8.IsEncoding octets →
      ∃ fault part, load fs path = .error (.undecodable path fault) ∧
        Utf8.IsLongest part octets ∧ fault.offset = part.length ∧
        octets[fault.offset]? = some fault.first) ∧
    (∀ text, fs.read path.text = .ok (Utf8.encode text) →
      load fs path = parse (some path.text) text) ∧
    load fs path ≠ .error .nullCharacter := by
  have noNull : FileSystem.holdsNull path.text = false := by
    rw [Bool.eq_false_iff]
    intro held
    exact clean ((FileSystem.holdsNull_text_iff path).1 held)
  refine ⟨fun other => load_eq_missing_iff noNull, fun error => load_of_error noNull, ?_, ?_, ?_⟩
  · intro octets done other
    rw [load_of_read done]
    exact undecodable_of_not_encoding path other
  · intro text done
    rw [load_of_read done]
    exact ofOctets_encode path text
  · intro failed
    exact clean (holdsNull_of_load failed)

/-- Records whose lines end in three ways.  The last line is no record. -/
def mixedText : List Char :=
  "int string a 0x1\r\nint string b 0x2\r\rint string c".toList

/-- A tree with the text as its only file. -/
def mixedTree : FileSystem :=
  (⟨∅, []⟩ : FileSystem).put ["R.txt"] (.file (Utf8.encode mixedText))

theorem read_mixedTree :
    mixedTree.read (Path.ofText "R.txt").text = .ok (Utf8.encode mixedText) := by
  apply FileSystem.read_eq_ok_iff.2
  refine ⟨by decide, ["R.txt"], ?_⟩
  rw [FileSystem.locate_text, if_neg (by decide)]
  rfl

/-- The line that is no record has the number that it has in the text. -/
theorem load_agrees_mixedTree :
    ¬ (Path.ofText "R.txt").HoldsNull ∧
      load mixedTree (Path.ofText "R.txt") =
        .error (.faultyLine (some "R.txt") 4 (.notARecord "int string c".toList)) := by
  have clean : ¬ (Path.ofText "R.txt").HoldsNull := by
    intro held
    exact absurd ((FileSystem.holdsNull_text_iff _).2 held) (by decide)
  obtain ⟨-, -, -, parsed, -⟩ := load_agrees mixedTree (Path.ofText "R.txt") clean
  refine ⟨clean, ?_⟩
  rw [parsed mixedText read_mixedTree]
  rfl

end StringOrigins.IdTable
