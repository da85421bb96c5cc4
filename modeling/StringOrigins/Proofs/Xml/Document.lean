import StringOrigins.Proofs.Xml.Content
import StringOrigins.Proofs.Xml.Lookahead

/-! # Reading documents back

    A document that was written from its root element alone has neither a
    declaration nor a document type, and is read as the elements of its tree
    (`elementsOfText_of_writes`). -/

namespace StringOrigins.Xml

open Xml.Tree

/-! ## Section 1: In front of the root element -/

/-- A written element starts with its name. -/
theorem starts_of_writes {label : Label} {inside rest : Content} {text : List Char}
    (writes : Writes (.element label inside rest) text) :
    ∃ c more, text = '<' :: c :: more ∧ isNameStart c = true := by
  obtain ⟨c, name, same, starts, -⟩ := isPlainName_cons label.isName
  cases writes with
  | element tag content more => exact ⟨c, _, by rw [same]; rfl, starts⟩
  | empty tag more => exact ⟨c, _, by rw [same]; rfl, starts⟩

/-- What is no instruction is no declaration either. -/
theorem Declaration.read_of_ne {c : Char} (other : c ≠ '?') (text : List Char) :
    Declaration.read ('<' :: c :: text) = .ok (none, '<' :: c :: text) := by
  have missing : behind? "<?xml".toList ('<' :: c :: text) = none := behind?_of_ne_second other
  rw [Declaration.read, missing]

/-- A start tag, whole or not, is content, so that nothing is in front of it. -/
theorem prolog_of_isNameStart {c : Char} (starts : isNameStart c = true) (ahead : List Char) :
    prolog ('<' :: c :: ahead) = .ok (.empty, '<' :: c :: ahead) := by
  have missing : behind? "<!DOCTYPE".toList ('<' :: c :: ahead) = none :=
    behind?_of_ne_second (ne_of_isNameStart starts (by decide))
  -- What is read here can be a start tag only.
  have isTag : ∀ {token rest}, Token.next '<' (c :: ahead) = .ok (token, rest) →
      ∃ tag left, token = .opening tag left := by
    intro token rest read
    have here : Token.start (c :: ahead) = .ok (token, rest) :=
      (Token.markup_of_name (.inl starts) ahead).symm.trans read
    obtain ⟨found, all, isEmpty, rfl, -⟩ := Token.start_settled here
    exact ⟨_, _, rfl⟩
  rw [prolog, missing]
  dsimp only
  split
  · rename_i blank
    obtain ⟨tag, left, eq⟩ := isTag blank
    cases eq
  · rename_i aside
    obtain ⟨tag, left, eq⟩ := isTag aside
    cases eq
  · rfl

/-- The start tag of a written element comes first. -/
theorem prolog_of_writes {label : Label} {inside rest : Content} {text : List Char}
    (writes : Writes (.element label inside rest) text) : prolog text = .ok (.empty, text) := by
  obtain ⟨c, more, rfl, starts⟩ := starts_of_writes writes
  exact prolog_of_isNameStart starts more

/-! ## Section 2: The root element -/

/-- The root element adds its elements to those of an empty document. -/
theorem content_of_root (whole : List Char) {text : List Char} {root : Label} {inside : Content}
    (writes : Writes (.element root inside .none) text)
    (room : inside.depth + 1 ≤ Builder.maxElementDepth) :
    ∃ found : List Element,
      found.map Element.outline = root.outline none :: inside.outlines (root.space none) ∧
      contentOf whole text .initial = contentOf whole [] (Builder.initial.after found) := by
  have outside : Builder.initial.scope.default? = none := rfl
  have room' : Builder.initial.unfinished.length + (inside.depth + 1) ≤ Builder.maxElementDepth := by
    show 0 + (inside.depth + 1) ≤ _
    omega
  cases writes with
  | element tag content more =>
    cases more with
    | none =>
      exact content_element tag (builds_of_writes content (root.space none)) (fun _ => rfl)
        outside room' []
  | empty tag more =>
    cases more with
    | none => exact content_empty tag (fun _ => rfl) outside room' []

/-- A written document is read as the elements of its tree. -/
theorem elementsOfText_of_writes (document : Document) {text : List Char}
    (writes : Writes document.content text) :
    ∃ found : List Element, elementsOfText text = .ok found ∧
      found.map Element.outline = document.outlines := by
  obtain ⟨root, inside, isShallow⟩ := document
  have room : inside.depth + 1 ≤ Builder.maxElementDepth :=
    (Nat.le_max_left (inside.depth + 1) 0).trans isShallow
  obtain ⟨found, same, read⟩ := content_of_root text writes room
  obtain ⟨c, more, split, starts⟩ := starts_of_writes writes
  have undeclared : Declaration.read text = .ok (none, text) := by
    rw [split]
    exact Declaration.read_of_ne (ne_of_isNameStart starts (by decide)) more
  have ended : contentOf text [] (Builder.initial.after found) = .ok (Builder.initial.after found) := by
    rw [contentOf, content]
    exact if_pos rfl
  have given : ¬ (Builder.initial.after found).elements.isEmpty = true := by
    show ¬ (found.reverse ++ []).isEmpty = true
    rw [List.append_nil, List.isEmpty_reverse, List.isEmpty_iff]
    rintro rfl
    cases same
  refine ⟨found, ?_, ?_⟩
  · rw [contentOf] at read
    unfold elementsOfText
    simp only [bind, Except.bind, undeclared, prolog_of_writes writes, read, ended, if_neg given]
    show Except.ok (found.reverse ++ []).reverse = _
    rw [List.append_nil, List.reverse_reverse]
  · rw [same]
    show _ = root.outline none :: (inside.outlines (root.space none) ++ [])
    rw [List.append_nil]

end StringOrigins.Xml
