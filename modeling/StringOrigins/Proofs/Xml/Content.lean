import StringOrigins.Proofs.Xml.Element
import StringOrigins.Xml.Document

/-! # Reading content back

    Reading content is a run of steps, one for each token, on the elements
    that are open and those that have started (`content_of_next`).  A written
    tree adds its elements to the latter and leaves the former as they were
    (`builds_of_writes`), so that a written document is read as the elements
    of its tree (`elementsOfText_of_writes`). -/

namespace StringOrigins.Xml

open Xml.Tree

/-! ## Section 1: One token -/

namespace Builder

/-- What a token does to a builder.  A reference to an entity stands for
    more than one token, and without declarations for none. -/
def take (doctype : Doctype) (depth floor : Nat) (whole : List Char) (builder : Builder) :
    Token → Except Fault Builder
  | .blank => .ok builder
  | .aside => .ok builder
  | .data => builder.data
  | .opening tag left => builder.start doctype depth tag ⟨whole, left⟩
  | .closing name => builder.finish floor name
  | .entity _ => .error .undeclaredEntity

/-- The builder with elements that have started and ended since. -/
def after (builder : Builder) (found : List Element) : Builder :=
  { builder with elements := found.reverse ++ builder.elements }

@[simp] theorem unfinished_after (builder : Builder) (found : List Element) :
    (builder.after found).unfinished = builder.unfinished := rfl

theorem after_after (builder : Builder) (found more : List Element) :
    (builder.after found).after more = builder.after (found ++ more) := by
  unfold after
  rw [List.reverse_append, List.append_assoc]

/-- What a start tag that is accepted does: it starts one element, which is
    the root or lies in another one, and which ends with its tag or is to be
    ended. -/
theorem of_start {doctype : Doctype} {depth : Nat} {tag : Tag} {place : Place}
    {builder later : Builder} (started : builder.start doctype depth tag place = .ok later) :
    (builder.unfinished = [] → builder.elements = []) ∧
      (∃ element, later.elements = element :: builder.elements ∧ element.Starts tag place) ∧
      later.unfinished.length = builder.unfinished.length + if tag.isEmpty then 0 else 1 := by
  rw [start] at started
  split at started
  · cases started
  · rename_i oneRoot
    split at started
    · cases started
    · obtain ⟨⟨spent, values⟩, -, started⟩ := exists_of_bind started
      obtain ⟨⟨element, scope⟩, resolved, started⟩ := exists_of_bind started
      -- Whether identities are taken does not matter here.
      obtain ⟨identities, rfl⟩ : ∃ identities, later = ⟨if tag.isEmpty then builder.unfinished
          else ⟨tag.name, scope⟩ :: builder.unfinished, element :: builder.elements, identities,
          spent⟩ := by
        dsimp only at started
        split at started
        · obtain ⟨identities, -, started⟩ := exists_of_bind started
          exact ⟨identities, (Except.ok.inj started).symm⟩
        · exact ⟨_, (Except.ok.inj started).symm⟩
      refine ⟨?_, ⟨element, rfl, Tag.starts_of_resolve resolved⟩, ?_⟩
      · intro outside
        rw [outside, List.isEmpty_nil, Bool.true_and] at oneRoot
        simpa using oneRoot
      · cases tag.isEmpty with
        | true => rfl
        | false => rfl

/-- Inside an element there may be characters. -/
theorem data_of_inside {builder : Builder} (inside : builder.unfinished ≠ []) :
    builder.data = .ok builder := by
  rw [data, if_neg]
  intro empty
  exact inside (List.isEmpty_iff.1 empty)

/-- A written start tag starts the element of its label. -/
theorem start_label {builder : Builder} (label : Label) {all : List Written}
    (values : ∀ element depth spent,
      Tag.values .empty element depth spent all = .ok (spent, label.attributes))
    (fresh : builder.unfinished = [] → builder.elements = [])
    (room : builder.unfinished.length < maxElementDepth) (isEmpty : Bool) (place : Place) :
    ∃ element scope, builder.start .empty maxEntityDepth ⟨label.name, all, isEmpty⟩ place =
        .ok ⟨if isEmpty then builder.unfinished else ⟨label.name, scope⟩ :: builder.unfinished,
          element :: builder.elements, builder.identities, builder.spent⟩ ∧
      element.outline = label.outline builder.scope.default? ∧
      Scope.default? scope = label.space builder.scope.default? := by
  have oneRoot : ¬ (builder.unfinished.isEmpty && !builder.elements.isEmpty) = true := by
    intro both
    rw [Bool.and_eq_true, List.isEmpty_iff] at both
    rw [fresh both.1] at both
    exact absurd both.2 (by decide)
  refine ⟨_, _, ?_, outline_attributesOf label builder.scope.default? place,
    default?_declarations label builder.scope⟩
  rw [start, if_neg oneRoot, if_neg (Nat.not_le.2 room)]
  simp only [bind, Except.bind, values, Tag.resolve_label, if_true,
    Tag.identify_plain _ _ label.areNames]

/-- The end tag of the innermost element ends it. -/
theorem finish_innermost {name : List Char} {scope : Scope} {outer : List Unfinished}
    {elements : List Element} {identities : List (List Char)} {spent : Nat} :
    finish ⟨⟨name, scope⟩ :: outer, elements, identities, spent⟩ 0 name =
      .ok ⟨outer, elements, identities, spent⟩ := by
  rw [finish]
  exact if_pos rfl

end Builder

section steps

variable {doctype : Doctype} {depth floor : Nat} {whole : List Char} {builder later : Builder}

/-- One step: the token that is ahead is taken. -/
theorem content_of_next {c : Char} {ahead rest : List Char} {token : Token}
    (read : Token.next c ahead = .ok (token, rest))
    (taken : builder.take doctype depth floor whole token = .ok later) :
    content doctype depth floor whole (c :: ahead) builder =
      content doctype depth floor whole rest later := by
  rw [content]
  split
  · rename_i failed
    rw [read] at failed
    cases failed
  · rename_i found
    rw [read] at found
    cases found
    cases token with
    | blank => cases taken; rfl
    | aside => cases taken; rfl
    | data =>
      rw [Builder.take] at taken
      simp only [taken]
    | opening tag left =>
      rw [Builder.take] at taken
      simp only [taken]
    | closing name =>
      rw [Builder.take] at taken
      simp only [taken]
    | entity name => cases taken

/-- Written characters change nothing. -/
theorem content_of_spells {s spelled tail : List Char} (spells : Spells textMarks s spelled)
    (allowed : areAllowed s = true) (inside : builder.unfinished ≠ [])
    (quiet : Token.IsQuiet tail) :
    content doctype depth floor whole (spelled ++ tail) builder =
      content doctype depth floor whole tail builder := by
  induction spells with
  | nil => rfl
  | @plain c s written free more ih =>
    rw [areAllowed, List.all_cons, Bool.and_eq_true] at allowed
    have read := Token.next_plain free (Token.isQuiet_of_spells more quiet)
    refine (content_of_next read ?_).trans (ih allowed.2)
    -- A blank is taken as such, any other character as data.
    by_cases blank : isBlank c = true
    · rw [if_pos blank]
      rfl
    · rw [if_neg blank]
      exact Builder.data_of_inside inside
  | @reference c s body written refers more ih =>
    rw [areAllowed, List.all_cons, Bool.and_eq_true] at allowed
    have read := Token.next_reference refers allowed.1 (written ++ tail)
    have step : content doctype depth floor whole ('&' :: (body ++ (written ++ tail))) builder =
        content doctype depth floor whole (written ++ tail) builder :=
      content_of_next read (Builder.data_of_inside inside)
    rw [List.cons_append, List.append_assoc, step]
    exact ih allowed.2

end steps

/-! ## Section 2: Trees -/

/-- The greatest depth of entities, which only the document itself has, and no
    document type. -/
abbrev contentOf (whole text : List Char) (builder : Builder) : Except Fault Builder :=
  content .empty maxEntityDepth 0 whole text builder

/-- What a text does inside an element in a default namespace, whatever
    stands behind it: it adds elements that look as they should, if there is
    room for them. -/
def Builds (whole : List Char) (outer : Option (List Char)) (depth : Nat) (written : List Char)
    (outlines : List Outline) : Prop :=
  ∀ (builder : Builder) (tail : List Char), builder.unfinished ≠ [] →
    builder.scope.default? = outer →
    builder.unfinished.length + depth ≤ Builder.maxElementDepth → Token.IsQuiet tail →
    ∃ found : List Element, found.map Element.outline = outlines ∧
      contentOf whole (written ++ tail) builder = contentOf whole tail (builder.after found)

section trees

variable {whole : List Char} {label : Label} {attributes : List Char}

/-- An element with both tags, also the root, which no other element surrounds. -/
theorem content_element {outer : Option (List Char)} {depth : Nat} {inner : List Char}
    {outlines : List Outline} (tag : WritesAttributes label.attributes attributes)
    (inside : Builds whole (label.space outer) depth inner outlines) {builder : Builder}
    (fresh : builder.unfinished = [] → builder.elements = [])
    (scope : builder.scope.default? = outer)
    (room : builder.unfinished.length + (depth + 1) ≤ Builder.maxElementDepth) (rest : List Char) :
    ∃ found : List Element, found.map Element.outline = label.outline outer :: outlines ∧
      contentOf whole ('<' :: (label.name ++ (attributes ++ ('>' :: (inner ++
        ('<' :: '/' :: (label.name ++ ('>' :: rest)))))))) builder =
      contentOf whole rest (builder.after found) := by
  subst scope
  obtain ⟨all, opened, values⟩ := Token.next_label label tag false
    (inner ++ ('<' :: '/' :: (label.name ++ ('>' :: rest))))
  obtain ⟨element, scope, started, outline, space⟩ := Builder.start_label label values fresh
    (by omega) false ⟨whole, _⟩
  -- Inside, there is one more element to be ended.
  obtain ⟨found, same, content⟩ := inside
    ⟨⟨label.name, scope⟩ :: builder.unfinished, element :: builder.elements, builder.identities,
      builder.spent⟩
    ('<' :: '/' :: (label.name ++ ('>' :: rest))) (List.cons_ne_nil _ _) space
    (by rw [List.length_cons]; omega) (Token.isQuiet_mark _)
  refine ⟨element :: found, ?_, ?_⟩
  · rw [List.map_cons, same, outline]
  · have ended : builder.after (element :: found) =
        ⟨builder.unfinished, found.reverse ++ element :: builder.elements, builder.identities,
          builder.spent⟩ := by
      rw [Builder.after, List.reverse_cons, List.append_assoc]
      rfl
    rw [ended]
    refine (content_of_next opened started).trans (content.trans ?_)
    exact content_of_next (Token.next_finish label.isName rest) Builder.finish_innermost

/-- An element without an end tag, also the root. -/
theorem content_empty {outer : Option (List Char)}
    (tag : WritesAttributes label.attributes attributes) {builder : Builder}
    (fresh : builder.unfinished = [] → builder.elements = [])
    (scope : builder.scope.default? = outer)
    (room : builder.unfinished.length + 1 ≤ Builder.maxElementDepth) (rest : List Char) :
    ∃ found : List Element, found.map Element.outline = [label.outline outer] ∧
      contentOf whole ('<' :: (label.name ++ (attributes ++ ('/' :: '>' :: rest)))) builder =
      contentOf whole rest (builder.after found) := by
  subst scope
  obtain ⟨all, opened, values⟩ := Token.next_label label tag true rest
  obtain ⟨element, scope, started, outline, -⟩ := Builder.start_label label values fresh
    (by omega) true ⟨whole, _⟩
  refine ⟨[element], ?_, content_of_next opened started⟩
  rw [List.map_singleton, outline]

/-- What is written does not disturb the characters in front of it. -/
theorem isQuiet_of_writes {content : Content} {written tail : List Char}
    (writes : Writes content written) (quiet : Token.IsQuiet tail) :
    Token.IsQuiet (written ++ tail) := by
  induction writes with
  | none => exact quiet
  | @text part rest spelled outer spells more ih =>
    rw [List.append_assoc]
    exact Token.isQuiet_of_spells spells ih
  | element | empty | characters | comment | instruction | target => exact Token.isQuiet_mark _

/-- Parts one behind the other: what the first one leaves is built on. -/
theorem Builds.of_first {outer : Option (List Char)} {depth depth' depth'' : Nat}
    {all behind : List Char} {first rest : List Outline}
    (part : ∀ (builder : Builder) (tail : List Char), builder.unfinished ≠ [] →
      builder.scope.default? = outer →
      builder.unfinished.length + depth ≤ Builder.maxElementDepth → Token.IsQuiet tail →
      ∃ found : List Element, found.map Element.outline = first ∧
        contentOf whole (all ++ tail) builder = contentOf whole (behind ++ tail) (builder.after found))
    (others : Builds whole outer depth' behind rest) (fits : depth ≤ depth'')
    (fits' : depth' ≤ depth'') : Builds whole outer depth'' all (first ++ rest) := by
  intro builder tail inside scope room quiet
  obtain ⟨found, same, now⟩ := part builder tail inside scope (by omega) quiet
  obtain ⟨found', same', later⟩ := others (builder.after found) tail inside scope
    (by rw [Builder.unfinished_after]; omega) quiet
  refine ⟨found ++ found', ?_, ?_⟩
  · rw [List.map_append, same, same']
  · rw [Builder.after_after] at later
    exact now.trans later

/-- A part without elements comes in front of others. -/
theorem Builds.of_step {outer : Option (List Char)} {depth : Nat} {all behind : List Char}
    {outlines : List Outline}
    (step : ∀ (builder : Builder) (tail : List Char), builder.unfinished ≠ [] →
      Token.IsQuiet tail → contentOf whole (all ++ tail) builder =
        contentOf whole (behind ++ tail) builder)
    (others : Builds whole outer depth behind outlines) : Builds whole outer depth all outlines :=
  .of_first (fun builder tail inside _ _ quiet => ⟨[], rfl, step builder tail inside quiet⟩)
    others (Nat.zero_le _) (Nat.le_refl _)

/-- A written tree adds its elements, in the order of their start tags. -/
theorem builds_of_writes {content : Content} {written : List Char}
    (writes : Writes content written) (outer : Option (List Char)) :
    Builds whole outer content.depth written (content.outlines outer) := by
  -- Every part comes in front of those behind it, and what is inside of an
  -- element is in the scope of its declaration.
  induction writes generalizing outer with
  | none => exact fun builder tail _ _ _ _ => ⟨[], rfl, rfl⟩
  | @element label inside rest attributes inner outer' tag _ more ihInside ihRest =>
    show Builds whole outer (max (inside.depth + 1) rest.depth) _
      ((label.outline outer :: inside.outlines (label.space outer)) ++ rest.outlines outer)
    refine .of_first ?_ (ihRest outer) (Nat.le_max_left _ _) (Nat.le_max_right _ _)
    intro builder tail open' scope room quiet
    simp only [List.cons_append, List.append_assoc]
    exact content_element tag (ihInside (label.space outer)) (fun empty => absurd empty open')
      scope room (outer' ++ tail)
  | @empty label rest attributes outer' tag more ihRest =>
    show Builds whole outer (max 1 rest.depth) _ ([label.outline outer] ++ rest.outlines outer)
    refine .of_first ?_ (ihRest outer) (Nat.le_max_left _ _) (Nat.le_max_right _ _)
    intro builder tail open' scope room quiet
    simp only [List.cons_append, List.append_assoc]
    exact content_empty tag (fun empty => absurd empty open') scope room (outer' ++ tail)
  | @text part rest spelled outer' spells more ih =>
    refine .of_step ?_ (ih outer)
    intro builder tail inside quiet
    rw [List.append_assoc]
    exact content_of_spells spells part.isAllowed inside (isQuiet_of_writes more quiet)
  | @characters part rest outer' more ih =>
    refine .of_step ?_ (ih outer)
    intro builder tail inside quiet
    simp only [List.append_assoc]
    exact content_of_next (Token.next_section part (outer' ++ tail)) (Builder.data_of_inside inside)
  | @comment part rest outer' more ih =>
    refine .of_step ?_ (ih outer)
    intro builder tail inside quiet
    simp only [List.append_assoc]
    exact content_of_next (Token.next_comment part (outer' ++ tail)) rfl
  | @instruction part rest outer' more ih =>
    refine .of_step ?_ (ih outer)
    intro builder tail inside quiet
    simp only [List.cons_append, List.append_assoc]
    exact content_of_next (Token.next_instruction part (outer' ++ tail)) rfl
  | @target part rest outer' empty more ih =>
    refine .of_step ?_ (ih outer)
    intro builder tail inside quiet
    simp only [List.cons_append, List.append_assoc]
    exact content_of_next (Token.next_instruction_target part (outer' ++ tail)) rfl

end trees

end StringOrigins.Xml
