import StringOrigins.Proofs.Xml.Document

/-! # The order of elements

    A document that is accepted gives one element for each of its start
    tags, in the order of the tags, and in the place of a reference to an
    entity those of the replacement text (`enumerates_of_elements`).  Every
    element keeps the place where its start tag ends, in the text that holds
    the tag. -/

namespace StringOrigins.Xml

/-! ## Section 1: The tags of a text -/

/-- The elements that a text ahead gives, in order.  The whole text is that of
    the document or entity that is read. -/
inductive Enumerates (entities : Entities) : List Char → List Char → List Element → Prop where
  /-- At the end there are no more of them. -/
  | nil {whole : List Char} : Enumerates entities whole [] []
  /-- A start tag gives one, in the place of the mark that ends the tag. -/
  | tag {whole ahead rest : List Char} {c : Char} {tag : Tag} {element : Element}
      {more : List Element}
      (read : Token.next c ahead = .ok (.opening tag (endMark tag.isEmpty ++ rest), rest))
      (starts : element.Starts tag ⟨whole, endMark tag.isEmpty ++ rest⟩)
      (onward : Enumerates entities whole rest more) :
      Enumerates entities whole (c :: ahead) (element :: more)
  /-- A reference to an entity gives those of the replacement text. -/
  | entity {whole ahead rest name inner : List Char} {c : Char} {found more : List Element}
      (read : Token.next c ahead = .ok (.entity name, rest))
      (declared : entities.replacement name = .ok inner)
      (inside : Enumerates entities inner inner found)
      (onward : Enumerates entities whole rest more) :
      Enumerates entities whole (c :: ahead) (found ++ more)
  /-- Any other token gives none. -/
  | other {whole ahead rest : List Char} {c : Char} {token : Token} {more : List Element}
      (read : Token.next c ahead = .ok (token, rest)) (noTag : ∀ tag left, token ≠ .opening tag left)
      (noEntity : ∀ name, token ≠ .entity name) (onward : Enumerates entities whole rest more) :
      Enumerates entities whole (c :: ahead) more

/-! ## Section 2: Reading them -/

namespace Builder

variable {builder later : Builder}

/-- Characters start no element. -/
theorem elements_of_data (taken : builder.data = .ok later) :
    later.elements = builder.elements := by
  rw [data] at taken
  split at taken
  · cases taken
  · cases taken
    rfl

/-- Nor do end tags. -/
theorem elements_of_finish {floor : Nat} {name : List Char}
    (taken : builder.finish floor name = .ok later) : later.elements = builder.elements := by
  rw [finish] at taken
  split at taken
  · cases taken
  · split at taken
    · cases taken
    · split at taken
      · cases taken
        rfl
      · cases taken

end Builder

/-- Reading content adds its elements in their order, whatever has been read
    before. -/
theorem enumerates_of_content {doctype : Doctype} {depth floor : Nat} {whole text : List Char}
    {builder later : Builder} (read : content doctype depth floor whole text builder = .ok later) :
    ∃ found, later.elements = found.reverse ++ builder.elements ∧
      Enumerates doctype.entities whole text found := by
  fun_induction content doctype depth floor whole text builder generalizing later with
  | case1 =>
    cases read
    exact ⟨[], rfl, .nil⟩
  | case4 depth floor whole builder c ahead rest _ next _ ih
  | case5 depth floor whole builder c ahead rest _ next _ ih =>
    obtain ⟨found, elements, onward⟩ := ih read
    exact ⟨found, elements, .other next nofun nofun onward⟩
  | case7 depth floor whole builder c ahead rest _ builder' taken next _ ih =>
    obtain ⟨found, elements, onward⟩ := ih read
    rw [Builder.elements_of_data taken] at elements
    exact ⟨found, elements, .other next nofun nofun onward⟩
  | case9 depth floor whole builder c ahead rest tag left _ builder' taken next _ ih =>
    obtain ⟨found, elements, onward⟩ := ih read
    obtain ⟨-, ⟨element, started, starts⟩, -⟩ := Builder.of_start taken
    obtain ⟨-, mark, -⟩ := Token.next_settled next
    obtain ⟨-, rfl⟩ := mark tag left rfl
    refine ⟨element :: found, ?_, .tag next starts onward⟩
    rw [elements, started, List.reverse_cons, List.append_assoc]
    rfl
  | case11 depth floor whole builder c ahead rest name _ builder' taken next _ ih =>
    obtain ⟨found, elements, onward⟩ := ih read
    rw [Builder.elements_of_finish taken] at elements
    exact ⟨found, elements, .other next nofun nofun onward⟩
  | case17 floor whole builder c ahead rest name _ builder' below taken inner declared spent _
      between entity next _ ihInside ih =>
    obtain ⟨within, elements', inside⟩ := ihInside entity
    obtain ⟨found, elements, onward⟩ := ih read
    refine ⟨within ++ found, ?_, .entity next declared inside onward⟩
    rw [elements, elements', Builder.elements_of_data taken, List.reverse_append, List.append_assoc]
  | _ => cases read

/-- The elements of a document are those of the text behind its prolog. -/
theorem enumerates_of_elements {octets : Utf8.Octets} {found : List Element}
    (parsed : elements octets = .ok found) :
    ∃ text encoding front doctype body, Encoding.decode octets = .ok text ∧
      Declaration.read text = .ok (encoding, front) ∧ prolog front = .ok (doctype, body) ∧
      Enumerates doctype.entities text body found := by
  rw [elements] at parsed
  cases decoded : Encoding.decode octets with
  | error fault =>
    rw [decoded] at parsed
    cases parsed
  | ok text =>
    rw [decoded] at parsed
    dsimp only at parsed
    unfold elementsOfText at parsed
    obtain ⟨⟨encoding, front⟩, declared, parsed⟩ := exists_of_bind parsed
    obtain ⟨⟨doctype, body⟩, opened, parsed⟩ := exists_of_bind parsed
    obtain ⟨builder, read, parsed⟩ := exists_of_bind parsed
    obtain ⟨found', elements, order⟩ := enumerates_of_content read
    split at parsed
    · cases parsed
    · cases parsed
      refine ⟨text, encoding, front, doctype, body, rfl, declared, opened, ?_⟩
      rw [elements]
      show Enumerates _ _ _ (found'.reverse ++ []).reverse
      rw [List.append_nil, List.reverse_reverse]
      exact order

end StringOrigins.Xml
