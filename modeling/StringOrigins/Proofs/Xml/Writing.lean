import StringOrigins.Proofs.Text.Hex
import StringOrigins.Proofs.Xml.Tree
import StringOrigins.Xml.Reference

/-! # Writing trees

    The texts that a tree may be written as.  Characters that mean something
    in the place where they stand are written as references, any others may
    be; a reference names its character or gives its code point in either
    base; an element without content may end with its start tag.  `print` is
    one way to write a tree, so that there is one for each of them. -/

namespace StringOrigins.Xml.Tree

/-! ## Section 1: Characters -/

/-- The references to a character, behind the ampersand. -/
inductive Refers (c : Char) : List Char → Prop where
  /-- By a name that needs no declaration. -/
  | named {name : List Char} (known : (name, c) ∈ Reference.fixed) : Refers c (name ++ [';'])
  /-- By its code point in decimal digits. -/
  | decimal {digits : List Char} (nonempty : digits ≠ []) (all : digits.all Char.isDigit = true)
      (value : Nat.ofDigitChars 10 digits 0 = c.toNat) : Refers c ('#' :: (digits ++ [';']))
  /-- By its code point in hexadecimal digits of either case. -/
  | hexadecimal {digits : List Char} (nonempty : digits ≠ []) (all : ∀ d ∈ digits, Hex.IsDigit d)
      (value : Hex.numberOf digits = c.toNat) : Refers c ('#' :: 'x' :: (digits ++ [';']))

/-- The characters that cannot stand for themselves in the value of an
    attribute, or would not be kept as they are. -/
def valueMarks : List Char := ['&', '<', '>', '"', '\t', '\n', '\r']

/-- The characters that cannot stand for themselves in text. -/
def textMarks : List Char := ['&', '<', '>']

/-- How a text may be written where some characters are marks. -/
inductive Spells (marks : List Char) : List Char → List Char → Prop where
  | nil : Spells marks [] []
  | plain {c : Char} {s written : List Char} (free : c ∉ marks) (more : Spells marks s written) :
      Spells marks (c :: s) (c :: written)
  | reference {c : Char} {s body written : List Char} (refers : Refers c body)
      (more : Spells marks s written) : Spells marks (c :: s) ('&' :: (body ++ written))

/-! ## Section 2: Tags and content -/

/-- How attributes may be written, each behind a space. -/
inductive WritesAttributes : List (List Char × List Char) → List Char → Prop where
  | nil : WritesAttributes [] []
  | cons {key value spelled written : List Char} {more : List (List Char × List Char)}
      (spells : Spells valueMarks value spelled) (rest : WritesAttributes more written) :
      WritesAttributes ((key, value) :: more)
        (' ' :: (key ++ ('=' :: '"' :: (spelled ++ ('"' :: written)))))

/-- How content may be written. -/
inductive Writes : Content → List Char → Prop where
  | none : Writes .none []
  /-- Between a start tag and an end tag. -/
  | element {label : Label} {inside rest : Content} {attributes inner outer : List Char}
      (tag : WritesAttributes label.attributes attributes) (content : Writes inside inner)
      (more : Writes rest outer) :
      Writes (.element label inside rest)
        ('<' :: (label.name ++ (attributes ++ ('>' :: (inner ++
          ('<' :: '/' :: (label.name ++ ('>' :: outer))))))))
  /-- Without an end tag. -/
  | empty {label : Label} {rest : Content} {attributes outer : List Char}
      (tag : WritesAttributes label.attributes attributes) (more : Writes rest outer) :
      Writes (.element label .none rest)
        ('<' :: (label.name ++ (attributes ++ ('/' :: '>' :: outer))))
  | text {part : Run} {rest : Content} {spelled outer : List Char}
      (spells : Spells textMarks part.text spelled) (more : Writes rest outer) :
      Writes (.text part rest) (spelled ++ outer)
  | characters {part : Section} {rest : Content} {outer : List Char} (more : Writes rest outer) :
      Writes (.characters part rest) ("<![CDATA[".toList ++ (part.text ++ ("]]>".toList ++ outer)))
  | comment {part : Comment} {rest : Content} {outer : List Char} (more : Writes rest outer) :
      Writes (.comment part rest) ("<!--".toList ++ (part.text ++ ("-->".toList ++ outer)))
  | instruction {part : Instruction} {rest : Content} {outer : List Char}
      (more : Writes rest outer) :
      Writes (.instruction part rest)
        ('<' :: '?' :: (part.target ++ (' ' :: (part.text ++ ("?>".toList ++ outer)))))
  /-- Without a text behind its target. -/
  | target {part : Instruction} {rest : Content} {outer : List Char} (empty : part.text = [])
      (more : Writes rest outer) :
      Writes (.instruction part rest) ('<' :: '?' :: (part.target ++ ("?>".toList ++ outer)))

/-! ## Section 3: One way to write -/

/-- The reference to a character by its code point. -/
def reference (c : Char) : List Char := '&' :: '#' :: 'x' :: (Hex.lowerPadded 0 c.toNat ++ [';'])

/-- A text with references to the marks in it. -/
def spell (marks s : List Char) : List Char :=
  s.flatMap fun c => if marks.contains c then reference c else [c]

/-- Attributes of a start tag. -/
def printAttributes (attributes : List (List Char × List Char)) : List Char :=
  attributes.flatMap fun a => ' ' :: (a.1 ++ ('=' :: '"' :: (spell valueMarks a.2 ++ ['"'])))

/-- Content with all tags and no more references than needed. -/
def Content.print : Content → List Char
  | none => []
  | element label inside rest =>
    '<' :: (label.name ++ (printAttributes label.attributes ++ ('>' :: (inside.print ++
      ('<' :: '/' :: (label.name ++ ('>' :: rest.print)))))))
  | text part rest => spell textMarks part.text ++ rest.print
  | characters part rest => "<![CDATA[".toList ++ (part.text ++ ("]]>".toList ++ rest.print))
  | comment part rest => "<!--".toList ++ (part.text ++ ("-->".toList ++ rest.print))
  | instruction part rest =>
    '<' :: '?' :: (part.target ++ (' ' :: (part.text ++ ("?>".toList ++ rest.print))))

theorem refers_lowerPadded (c : Char) :
    Refers c ('#' :: 'x' :: (Hex.lowerPadded 0 c.toNat ++ [';'])) := by
  obtain ⟨nonempty, all, value⟩ := Hex.value?_eq_some_iff.1 (Hex.value?_lowerPadded 0 c.toNat)
  exact .hexadecimal nonempty all value.symm

theorem spells_spell (marks s : List Char) : Spells marks s (spell marks s) := by
  induction s with
  | nil => exact .nil
  | cons c s ih =>
    rw [spell, List.flatMap_cons]
    by_cases mark : marks.contains c = true
    · rw [if_pos mark]
      exact .reference (refers_lowerPadded c) ih
    · rw [if_neg mark]
      exact .plain (fun m => mark (List.contains_iff_mem.2 m)) ih

theorem writes_printAttributes (attributes : List (List Char × List Char)) :
    WritesAttributes attributes (printAttributes attributes) := by
  induction attributes with
  | nil => exact .nil
  | cons a more ih =>
    obtain ⟨key, value⟩ := a
    have first : printAttributes ((key, value) :: more) =
        ' ' :: (key ++ ('=' :: '"' :: (spell valueMarks value ++ ('"' :: printAttributes more)))) := by
      rw [printAttributes, List.flatMap_cons]
      simp only [List.cons_append, List.append_assoc, List.nil_append, printAttributes]
    rw [first]
    exact .cons (spells_spell valueMarks value) ih

/-- Every tree can be written. -/
theorem writes_print (content : Content) : Writes content content.print := by
  induction content with
  | none => exact .none
  | element label inside rest inner outer =>
    exact .element (writes_printAttributes label.attributes) inner outer
  | text part rest ih => exact .text (spells_spell textMarks part.text) ih
  | characters part rest ih => exact .characters ih
  | comment part rest ih => exact .comment ih
  | instruction part rest ih => exact .instruction ih

end StringOrigins.Xml.Tree
