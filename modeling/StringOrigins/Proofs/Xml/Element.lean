import Mathlib.Data.List.TakeWhile
import StringOrigins.Proofs.Xml.Token

/-! # Reading start tags back

    A start tag that was written from a label is read as the element of the
    label: with the same attributes, in the namespace that its own
    declaration or the scope around it gives (`Tag.resolve_label`).  There is
    no document type, so that all values are text and nothing is assumed. -/

namespace StringOrigins.Xml

open Xml.Tree

/-! ## Section 1: Tags -/

/-- Written attributes are taken one by one, and their values are those that
    were written. -/
theorem writtenAll_append {attributes : List (List Char × List Char)} {written : List Char}
    (writes : WritesAttributes attributes written)
    (names : (attributes.all fun a => isPlainName a.1) = true)
    (allowed : (attributes.all fun a => areAllowed a.2) = true) {c : Char}
    (ends : c = '>' ∨ c = '/') (rest : List Char) :
    ∃ all, writtenAll (written ++ c :: rest) = .ok (all, c :: rest) ∧
      ∀ element depth spent, Tag.values .empty element depth spent all = .ok (spent, attributes) := by
  induction writes with
  | nil =>
    have solid : isBlank c = false := by
      rcases ends with rfl | rfl
      · decide
      · decide
    exact ⟨[], writtenAll_end (skipBlanks_cons solid rest) ends, fun _ _ _ => rfl⟩
  | @cons key value spelled written more spells _ ih =>
    rw [List.all_cons, Bool.and_eq_true] at names allowed
    obtain ⟨all, taken, values⟩ := ih names.2 allowed.2
    have unquoted : '"' ∉ spelled :=
      not_mem_of_spells spells (by decide) (by decide) (by decide)
    refine ⟨⟨key, spelled⟩ :: all, ?_, ?_⟩
    · have first := writtenAll_cons names.1 unquoted taken
      simpa only [List.cons_append, List.append_assoc] using first
    · intro element depth spent
      have text : (Doctype.empty.typeOf element key != .text) = false := rfl
      rw [Tag.values]
      simp only [text, attributeValue_spells spells allowed.1, values]

/-- No name goes on into the attributes behind it or the end of the tag. -/
theorem ends_name {attributes : List (List Char × List Char)} {written : List Char}
    (writes : WritesAttributes attributes written) {c : Char} (ends : c = '>' ∨ c = '/')
    (rest : List Char) :
    ∃ d more, written ++ c :: rest = d :: more ∧ isNameChar d = false := by
  cases writes with
  | nil =>
    refine ⟨c, rest, rfl, ?_⟩
    rcases ends with rfl | rfl
    · decide
    · decide
  | cons spells more => exact ⟨' ', _, rfl, by decide⟩

/-- The mark that ends a start tag, and its element with it or not. -/
def endMark (isEmpty : Bool) : List Char := if isEmpty then ['/', '>'] else ['>']

namespace Token

/-- What starts with a name is a start tag. -/
theorem markup_of_name {c : Char} (starts : isNameStart c = true ∨ c = ':') (text : List Char) :
    markup (c :: text) = start (c :: text) := by
  -- No other markup starts with a name.
  have other : ∀ {mark : Char}, (isNameStart mark || mark = ':') = false → c ≠ mark := by
    rintro mark absent rfl
    rw [← decide_eq_true_eq (p := c = ':'), ← Bool.or_eq_true, absent] at starts
    cases starts
  rw [markup]
  all_goals
    intro rest same
    exact other (by decide) (List.cons.inj same).1

/-- A start tag is its name, its attributes and one of the two marks. -/
theorem start_of_parts {text found behind left : List Char} {all : List Written} {isEmpty : Bool}
    (named : name text = .ok (found, behind))
    (taken : writtenAll behind = .ok (all, endMark isEmpty ++ left)) :
    start text = .ok (.opening ⟨found, all, isEmpty⟩ (endMark isEmpty ++ left), left) := by
  rw [start, named]
  dsimp only
  rw [taken]
  cases isEmpty with
  | true => rfl
  | false => rfl

/-- A written start tag is read with its attributes. -/
theorem next_label (label : Label) {written : List Char}
    (writes : WritesAttributes label.attributes written) (isEmpty : Bool) (rest : List Char) :
    ∃ all, next '<' (label.name ++ (written ++ (endMark isEmpty ++ rest))) =
        .ok (.opening ⟨label.name, all, isEmpty⟩ (endMark isEmpty ++ rest), rest) ∧
      ∀ element depth spent,
        Tag.values .empty element depth spent all = .ok (spent, label.attributes) := by
  -- Both marks start with a character that ends the attributes.
  obtain ⟨c, more, split, ends⟩ : ∃ c more, endMark isEmpty ++ rest = c :: more ∧
      (c = '>' ∨ c = '/') := by
    cases isEmpty with
    | true => exact ⟨'/', '>' :: rest, rfl, .inr rfl⟩
    | false => exact ⟨'>', rest, rfl, .inl rfl⟩
  obtain ⟨all, taken, values⟩ :=
    writtenAll_append writes label.areNames label.areAllowed ends more
  obtain ⟨d, behind, same, stops⟩ := ends_name writes ends more
  obtain ⟨first, others, whole, starts, -⟩ := isPlainName_cons label.isName
  refine ⟨all, ?_, values⟩
  rw [← split] at taken same
  have named := name_append label.isName stops behind
  rw [← same] at named
  have read := start_of_parts named taken
  rw [whole] at read ⊢
  exact (markup_of_name (.inl starts) _).trans read

/-- A written end tag. -/
theorem next_finish {name : List Char} (plain : isPlainName name = true) (rest : List Char) :
    next '<' ('/' :: (name ++ '>' :: rest)) = .ok (.closing name, rest) := by
  show finish (name ++ '>' :: rest) = _
  rw [finish, name_append plain (by decide)]
  dsimp only
  rw [skipBlanks_cons (by decide)]
  rfl

end Token

/-! ## Section 2: Names and scopes -/

/-- A plain name has no qualifier. -/
theorem ofName_plain {name : List Char} (plain : isPlainName name = true) :
    QualifiedName.ofName name = .ok ⟨none, name⟩ := by
  have others : ∀ c ∈ name, decide (c ≠ ':') = true := by
    intro c m
    refine decide_eq_true ?_
    rintro rfl
    exact absurd (isNamePart_of_mem plain m) (by decide)
  have whole : name.takeWhile (fun c => decide (c ≠ ':')) = name := List.takeWhile_eq_self_iff.2 others
  have none' : name.dropWhile (fun c => decide (c ≠ ':')) = [] := List.dropWhile_eq_nil_iff.2 others
  rw [QualifiedName.ofName, whole, none']
  exact if_pos plain

/-- Attributes with their names split, if these are plain. -/
def unqualified (attributes : List (List Char × List Char)) : List (QualifiedName × List Char) :=
  attributes.map fun a => (⟨none, a.1⟩, a.2)

theorem mapM_qualify {attributes : List (List Char × List Char)}
    (names : (attributes.all fun a => isPlainName a.1) = true) :
    attributes.mapM qualify = .ok (unqualified attributes) := by
  induction attributes with
  | nil => rfl
  | cons a more ih =>
    rw [List.all_cons, Bool.and_eq_true] at names
    rw [List.mapM_cons, ih names.2, qualify, ofName_plain names.1]
    rfl

/-- Without a qualifier, only `xmlns` declares, and it declares the default. -/
theorem declaredQualifier?_plain (key : List Char) :
    declaredQualifier? ⟨none, key⟩ = if key = defaultKey then some [] else none := by
  by_cases same : key = defaultKey
  · rw [if_pos same, same]
    rfl
  · rw [if_neg same, declaredQualifier?, if_neg (by simp)]
    exact if_neg fun both => same both.2

theorem declarations_cons (key value : List Char) (more : List (List Char × List Char)) :
    declarations (unqualified ((key, value) :: more)) =
      if key = defaultKey then ([], value) :: declarations (unqualified more)
      else declarations (unqualified more) := by
  have declared : (declaredQualifier? ⟨none, key⟩).map (·, value) =
      if key = defaultKey then some ([], value) else none := by
    rw [declaredQualifier?_plain]
    split
    · rfl
    · rfl
  by_cases same : key = defaultKey
  · rw [if_pos same] at declared ⊢
    exact List.filterMap_cons_some declared
  · rw [if_neg same] at declared ⊢
    exact List.filterMap_cons_none declared

/-- The default namespace that is declared is the value of `xmlns`. -/
theorem lookup_declarations (attributes : List (List Char × List Char)) :
    (declarations (unqualified attributes)).lookup [] = attributes.lookup defaultKey := by
  -- An attribute by any other name is passed on both sides.
  induction attributes with
  | nil => rfl
  | cons a more ih =>
    obtain ⟨key, value⟩ := a
    rw [declarations_cons]
    by_cases same : key = defaultKey
    · rw [if_pos same, same, List.lookup_cons_self, List.lookup_cons_self]
    · have other : (defaultKey == key) = false := beq_eq_false_iff_ne.2 (Ne.symm same)
      rw [if_neg same, List.lookup_cons, other]
      exact ih

theorem default?_declarations (label : Label) (scope : Scope) :
    Scope.default? (declarations (unqualified label.attributes) ++ scope) =
      label.space scope.default? := by
  rw [Scope.default?, List.lookup_append, lookup_declarations, Label.space]
  cases label.attributes.lookup defaultKey with
  | none => rfl
  | some space =>
    by_cases empty : space = []
    · simp [empty]
    · simp [empty]

/-- The attributes of an element of a label. -/
def attributesOf (label : Label) : List Attribute :=
  (label.attributes.filter fun a => a.1 ≠ defaultKey).map fun a => ⟨none, a.1, a.2⟩

theorem placed_unqualified (scope : Scope) (label : Label) :
    placed scope (unqualified label.attributes) = .ok (attributesOf label) := by
  unfold placed attributesOf unqualified
  induction label.attributes with
  | nil => rfl
  | cons a more ih =>
    obtain ⟨key, value⟩ := a
    rw [List.map_cons, List.filter_cons, List.filter_cons]
    simp only [declaredQualifier?_plain]
    by_cases same : key = defaultKey
    · simp only [same, if_true, Option.isNone_some, Bool.false_eq_true, if_false, ne_eq,
        not_true_eq_false, decide_false]
      exact ih
    · simp only [same, if_false, Option.isNone_none, if_true, ne_eq, not_false_eq_true,
        decide_true, List.mapM_cons, List.map_cons]
      rw [ih]
      rfl

/-- An element of a label looks like it. -/
theorem outline_attributesOf (label : Label) (outer : Option (List Char)) (place : Place) :
    Element.outline ⟨label.space outer, label.name, attributesOf label, place⟩ =
      label.outline outer := by
  have kept : (attributesOf label).filter (fun a => decide (a.space = none)) = attributesOf label := by
    refine List.filter_eq_self.2 fun a m => ?_
    obtain ⟨given, -, rfl⟩ := List.mem_map.1 m
    rfl
  unfold Element.outline Label.outline
  dsimp only
  rw [kept, attributesOf, List.map_map]
  exact congrArg _ (List.map_id _)

/-! ## Section 3: Elements -/

/-- What is declared may be declared. -/
theorem mayDeclare_declarations (label : Label) :
    ((declarations (unqualified label.attributes)).any fun (qualifier, space) =>
      !mayDeclare qualifier space) = false := by
  have each := label.mayDeclare
  generalize label.attributes = attributes at each
  induction attributes with
  | nil => rfl
  | cons a more ih =>
    obtain ⟨key, value⟩ := a
    rw [List.all_cons, Bool.and_eq_true] at each
    rw [declarations_cons]
    by_cases same : key = defaultKey
    · have allowed : mayDeclare [] value = true := by
        simpa [same] using each.1
      rw [if_pos same, List.any_cons, ih each.2, Bool.or_false]
      exact congrArg not allowed
    · rw [if_neg same]
      exact ih each.2

/-- The attributes of a label are distinct also as attributes of an element. -/
theorem nodup_attributesOf (label : Label) :
    ((attributesOf label).map fun a => (a.space, a.base)).Nodup := by
  have distinct : label.attributes.Pairwise fun a b => a.1 ≠ b.1 :=
    List.pairwise_map.1 label.areDistinct
  rw [attributesOf, List.map_map]
  refine List.pairwise_map.2 ((distinct.filter _).imp ?_)
  intro a b other same
  exact other (Prod.mk.inj same).2

/-- The element of a written start tag, and the scope inside. -/
theorem Tag.resolve_label (label : Label) (scope : Scope) (place : Place) :
    Tag.resolve .empty scope label.name label.attributes place =
      .ok (⟨label.space scope.default?, label.name, attributesOf label, place⟩,
        declarations (unqualified label.attributes) ++ scope) := by
  have noDefaults : Doctype.empty.defaultsOf label.name = [] := rfl
  have undeclared : declarations [] = [] := rfl
  have noAttributes : ∀ scope, placed scope [] = .ok [] := fun _ => rfl
  have inNamespace : ∀ scope : Scope, scope.ofElement ⟨none, label.name⟩ = .ok scope.default? :=
    fun _ => rfl
  unfold Tag.resolve
  rw [if_neg (not_not_intro label.areDistinct), mapM_qualify label.areNames]
  simp only [bind, Except.bind, noDefaults, List.filter_nil, List.filterMap_nil,
    mayDeclare_declarations, Bool.false_eq_true, if_false, undeclared, List.append_nil,
    ofName_plain label.isName, inNamespace, placed_unqualified, noAttributes,
    nodup_attributesOf, not_true_eq_false, default?_declarations]

/-- What is computed from a first result needs that result. -/
theorem exists_of_bind {α β : Type} {first : Except Fault α} {next : α → Except Fault β} {last : β}
    (done : (first >>= next) = .ok last) : ∃ found, first = .ok found ∧ next found = .ok last := by
  cases first with
  | error fault => cases done
  | ok found => exact ⟨found, rfl, done⟩

/-- An element as a start tag in a place gives it. -/
def Element.Starts (element : Element) (tag : Tag) (place : Place) : Prop :=
  element.place = place ∧
    ∃ name, QualifiedName.ofName tag.name = .ok name ∧ element.base = name.base

/-- The element of a tag has its place, and its name without the qualifier. -/
theorem Tag.starts_of_resolve {doctype : Doctype} {scope inner : Scope} {tag : Tag}
    {values : List (List Char × List Char)} {place : Place} {element : Element}
    (resolved : Tag.resolve doctype scope tag.name values place = .ok (element, inner)) :
    element.Starts tag place := by
  unfold Tag.resolve at resolved
  dsimp only at resolved
  split at resolved
  · cases resolved
  · obtain ⟨given, -, resolved⟩ := exists_of_bind resolved
    split at resolved
    · cases resolved
    · obtain ⟨qualified, split', resolved⟩ := exists_of_bind resolved
      obtain ⟨space, -, resolved⟩ := exists_of_bind resolved
      obtain ⟨attributes, -, resolved⟩ := exists_of_bind resolved
      obtain ⟨unused, -, resolved⟩ := exists_of_bind resolved
      split at resolved
      · cases resolved
      · cases resolved
        exact ⟨rfl, qualified, split', rfl⟩

/-- Plain names give no identities. -/
theorem Tag.identify_plain {attributes : List (List Char × List Char)} (element : List Char)
    (taken : List (List Char)) (names : (attributes.all fun a => isPlainName a.1) = true) :
    Tag.identify .empty element taken attributes = .ok taken := by
  induction attributes with
  | nil => rfl
  | cons a more ih =>
    obtain ⟨key, value⟩ := a
    rw [List.all_cons, Bool.and_eq_true] at names
    have qualified : isPlainName "xml:id".toList = false := by decide
    have other : key ≠ "xml:id".toList := by
      rintro rfl
      exact Bool.eq_false_iff.1 qualified names.1
    have text : Doctype.empty.typeOf element key ≠ .identity := by
      intro same
      cases same
    rw [Tag.identify, if_neg (fun both => other both.1), if_neg (not_or.2 ⟨other, text⟩)]
    exact ih names.2

end StringOrigins.Xml
