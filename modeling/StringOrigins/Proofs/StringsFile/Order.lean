import StringOrigins.Proofs.StringsFile.Written
import StringOrigins.Proofs.Xml.Order

/-! # The order of names

    A strings file is read once for every kind of resource.  All these
    readings together find each definition once and keep the document order
    within a kind (`perm_inKindOrder`).  So either all definitions have
    names, and the names come out in that order, or what is reported is the
    first nameless definition, by its kind and then by its place
    (`scrape_inKindOrder`). -/

namespace StringOrigins.StringsFile

open Xml (Element)

/-! ## Section 1: Definitions by kind -/

/-- Whether an element defines a resource of a kind. -/
def IsOf (kind : ResourceKind) (element : Element) : Prop :=
  element.space = none ∧ element.base = kind.tag

instance (kind : ResourceKind) (element : Element) : Decidable (IsOf kind element) :=
  inferInstanceAs (Decidable (_ ∧ _))

/-- Whether an element defines a resource. -/
def IsDefinition (element : Element) : Prop := ∃ kind ∈ ResourceKind.all, IsOf kind element

instance (element : Element) : Decidable (IsDefinition element) :=
  inferInstanceAs (Decidable (∃ kind ∈ ResourceKind.all, IsOf kind element))

/-- The definitions among elements, in the order in which their names come. -/
def inKindOrder (elements : List Element) : List Element := (definitions elements).map (·.2)

theorem mem_ofKind {kind : ResourceKind} {elements : List Element} {element : Element} :
    element ∈ ofKind kind elements ↔ element ∈ elements ∧ IsOf kind element := by
  unfold ofKind
  rw [List.mem_filter, decide_eq_true_eq]
  rfl

/-- An element defines resources of one kind at most. -/
theorem IsOf.unique {kind other : ResourceKind} {element : Element} (here : IsOf kind element)
    (there : IsOf other element) : kind = other :=
  ResourceKind.tag_injective (here.2.symm.trans there.2)

/-- Elements of some kinds, one kind after another, are those that are of any
    of the kinds. -/
theorem perm_ofKinds (elements : List Element) {kinds : List ResourceKind}
    (distinct : kinds.Nodup) :
    (kinds.flatMap (ofKind · elements)).Perm
      (elements.filter fun element => ∃ kind ∈ kinds, IsOf kind element) := by
  induction kinds with
  | nil => simp
  | cons first rest ih =>
    obtain ⟨fresh, distinct⟩ := List.nodup_cons.1 distinct
    -- Those of the first kind, and of the others those of the other kinds.
    have first' : ofKind first elements =
        (elements.filter fun e => ∃ kind ∈ first :: rest, IsOf kind e).filter fun e =>
          IsOf first e := by
      rw [List.filter_filter]
      refine List.filter_congr fun e _ => ?_
      rw [← Bool.decide_and, decide_eq_decide]
      constructor
      · intro here
        exact ⟨here, first, List.mem_cons_self, here⟩
      · exact And.left
    have rest' : (elements.filter fun e => ∃ kind ∈ rest, IsOf kind e) =
        (elements.filter fun e => ∃ kind ∈ first :: rest, IsOf kind e).filter fun e =>
          !decide (IsOf first e) := by
      rw [List.filter_filter]
      refine List.filter_congr fun e _ => ?_
      rw [← decide_not, ← Bool.decide_and, decide_eq_decide]
      constructor
      · rintro ⟨kind, m, here⟩
        refine ⟨?_, kind, List.mem_cons_of_mem first m, here⟩
        intro there
        exact fresh (there.unique here ▸ m)
      · rintro ⟨other, kind, m, here⟩
        rcases List.mem_cons.1 m with rfl | m
        · exact absurd here other
        · exact ⟨kind, m, here⟩
    rw [List.flatMap_cons, first']
    refine (List.Perm.append_left _ (ih distinct)).trans ?_
    rw [rest']
    exact List.filter_append_perm _ _

theorem inKindOrder_eq (elements : List Element) :
    inKindOrder elements = ResourceKind.all.flatMap (ofKind · elements) := by
  unfold inKindOrder definitions
  rw [List.map_flatMap]
  refine congrArg (List.flatMap · ResourceKind.all) (funext fun kind => ?_)
  rw [List.map_map]
  exact List.map_id _

/-- All definitions come once. -/
theorem perm_inKindOrder (elements : List Element) :
    (inKindOrder elements).Perm (elements.filter fun e => IsDefinition e) := by
  rw [inKindOrder_eq]
  exact perm_ofKinds elements (by decide)

/-- Those of a kind come in document order. -/
theorem filter_inKindOrder (elements : List Element) (kind : ResourceKind) :
    (inKindOrder elements).filter (fun e => IsOf kind e) =
      elements.filter fun e => IsOf kind e := by
  have keeps : ∀ other, (ofKind other elements).filter (fun e => IsOf kind e) =
      if other = kind then elements.filter fun e => IsOf kind e else [] := by
    intro other
    by_cases same : other = kind
    · subst same
      rw [if_pos rfl, ofKind, List.filter_filter]
      refine List.filter_congr fun e _ => ?_
      exact Bool.and_self _
    · rw [if_neg same, List.filter_eq_nil_iff]
      intro e m here
      exact same ((mem_ofKind.1 m).2.unique (of_decide_eq_true here))
  rw [inKindOrder_eq, List.filter_flatMap]
  simp only [keeps]
  cases kind <;> simp [ResourceKind.all]

/-! ## Section 2: The first nameless definition -/

/-- An element is the first definition without a name: all definitions of the
    kinds before have names, and so have those of its own kind that come
    before in the document. -/
structure IsFirstNameless (elements : List Element) (kind : ResourceKind) (element : Element) :
    Prop where
  isOf : IsOf kind element
  nameless : name? element = none
  inDocument : ∃ before after, elements = before ++ element :: after ∧
    ∀ e ∈ before, IsOf kind e → name? e ≠ none
  inKinds : ∃ before after, ResourceKind.all = before ++ kind :: after ∧
    ∀ earlier ∈ before, ∀ e ∈ elements, IsOf earlier e → name? e ≠ none

/-- What is in front of a definition are those of the kinds before, and of
    its own kind those that come before. -/
theorem split_definitions {elements : List Element} {kinds : List ResourceKind}
    {kind : ResourceKind} {element : Element} {before after : List (ResourceKind × Element)}
    (split : kinds.flatMap (fun kind => (ofKind kind elements).map (kind, ·)) =
      before ++ (kind, element) :: after) :
    ∃ earlier later first last, kinds = earlier ++ kind :: later ∧
      ofKind kind elements = first ++ element :: last ∧
      before = earlier.flatMap (fun kind => (ofKind kind elements).map (kind, ·)) ++
        first.map (kind, ·) := by
  induction kinds generalizing before with
  | nil => simp at split
  | cons first rest ih =>
    -- It is one of the first kind, or one behind them.
    have further : ∀ {between}, before = (ofKind first elements).map (first, ·) ++ between →
        rest.flatMap (fun kind => (ofKind kind elements).map (kind, ·)) =
          between ++ (kind, element) :: after →
        ∃ earlier later first' last, first :: rest = earlier ++ kind :: later ∧
          ofKind kind elements = first' ++ element :: last ∧
          before = earlier.flatMap (fun kind => (ofKind kind elements).map (kind, ·)) ++
            first'.map (kind, ·) := by
      intro between same split
      obtain ⟨earlier, later, first', last, rfl, own, rfl⟩ := ih split
      refine ⟨first :: earlier, later, first', last, rfl, own, ?_⟩
      rw [same, List.flatMap_cons, List.append_assoc]
    rw [List.flatMap_cons] at split
    rcases List.append_eq_append_iff.1 split with ⟨between, same, split⟩ | ⟨between, own, split⟩
    · exact further same split
    · cases between with
      | nil =>
        rw [List.append_nil] at own
        exact further (own.symm.trans (List.append_nil _).symm) split.symm
      | cons d between =>
        obtain ⟨rfl, -⟩ := List.cons.inj split
        obtain ⟨first', others, parts, rfl, same⟩ := List.map_eq_append_iff.1 own
        obtain ⟨element', last, rfl, same, -⟩ := List.map_eq_cons_iff.1 same
        obtain ⟨rfl, rfl⟩ := Prod.mk.inj same
        exact ⟨[], rest, first', last, rfl, parts, rfl⟩

/-- A definition without a name behind others that have one is the first
    nameless one. -/
theorem isFirstNameless_of_split {elements : List Element} {kind : ResourceKind}
    {element : Element} {before after : List (ResourceKind × Element)}
    (split : definitions elements = before ++ (kind, element) :: after)
    (named : ∀ d ∈ before, name? d.2 ≠ none) (missing : name? element = none) :
    IsFirstNameless elements kind element := by
  obtain ⟨earlier, later, first, last, kinds, own, rfl⟩ := split_definitions split
  have isOf : IsOf kind element :=
    (mem_ofKind.1 (own ▸ List.mem_append_right first List.mem_cons_self)).2
  -- Among all elements there are others in front of it and behind it.
  obtain ⟨front, back, whole, same, rest⟩ := List.filter_eq_append_iff.1 own
  obtain ⟨between, behind, rfl, none', -, -⟩ := List.filter_eq_cons_iff.1 rest
  refine ⟨isOf, missing, ⟨front ++ between, behind, ?_, ?_⟩, earlier, later, kinds, ?_⟩
  · rw [whole, List.append_assoc]
  · intro e m here
    rcases List.mem_append.1 m with m | m
    · have listed : e ∈ first := by
        rw [← same]
        exact List.mem_filter.2 ⟨m, decide_eq_true here⟩
      exact named (kind, e) (List.mem_append_right _ (List.mem_map_of_mem listed))
    · exact absurd (decide_eq_true here) (none' e m)
  · intro other m e inside here
    refine named (other, e) (List.mem_append_left _ (List.mem_flatMap.2 ⟨other, m, ?_⟩))
    exact List.mem_map_of_mem (mem_ofKind.2 ⟨inside, here⟩)

/-! ## Section 3: All names or none -/

/-- Names come out in the order of the definitions, if all of these have one. -/
theorem exists_names {elements : List Element} (path : String)
    (named : ∀ e ∈ elements, IsDefinition e → name? e ≠ none) :
    ∃ found, names path elements = .ok found ∧
      found.map some = (inKindOrder elements).map name? := by
  have way := naming_namesOf path (definitions elements)
  rw [names]
  generalize namesOf path (definitions elements) = result at way
  cases way with
  | named found all =>
    refine ⟨found, rfl, ?_⟩
    unfold inKindOrder
    rw [← all, List.map_map]
    rfl
  | nameless before after kind element split earlier missing =>
    have first := isFirstNameless_of_split split earlier missing
    obtain ⟨front, back, whole, -⟩ := first.inDocument
    have inside : element ∈ elements := whole ▸ List.mem_append_right front List.mem_cons_self
    exact absurd missing (named element inside ⟨kind, ResourceKind.mem_all kind, first.isOf⟩)

/-- The first nameless definition is reported, if there is any. -/
theorem exists_nameless {elements : List Element} (path : String)
    (some' : ∃ e ∈ elements, IsDefinition e ∧ name? e = none) :
    ∃ kind element, IsFirstNameless elements kind element ∧
      names path elements = .error (.nameless path kind element.place.line) := by
  have way := naming_namesOf path (definitions elements)
  rw [names]
  generalize namesOf path (definitions elements) = result at way
  cases way with
  | named found all =>
    -- Among the definitions is the nameless one.
    obtain ⟨e, inside, isDefinition, missing⟩ := some'
    have listed : e ∈ inKindOrder elements :=
      (perm_inKindOrder elements).mem_iff.2 (List.mem_filter.2 ⟨inside, decide_eq_true isDefinition⟩)
    have there : none ∈ found.map some := by
      rw [← all, ← missing]
      obtain ⟨d, m, rfl⟩ := List.mem_map.1 listed
      exact List.mem_map_of_mem m
    simp at there
  | nameless before after kind element split earlier missing =>
    exact ⟨kind, element, isFirstNameless_of_split split earlier missing, rfl⟩

/-- A document that is accepted gives one element for each start tag, in the
    order of the tags.  If every definition among them has a name, these
    names come out, each as often as it is there, and in document order
    within a kind.  Otherwise the file is refused, and what is reported is
    the first nameless definition, by its kind and then in the document. -/
theorem scrape_inKindOrder {fs : FileSystem} {path : String} {octets : Utf8.Octets}
    {elements : List Element} (file : fs.read path = .ok octets)
    (parsed : Xml.elements octets = .ok elements) :
    (∃ text encoding front doctype body, Xml.Encoding.decode octets = .ok text ∧
      Xml.Declaration.read text = .ok (encoding, front) ∧
      Xml.prolog front = .ok (doctype, body) ∧
      Xml.Enumerates doctype.entities text body elements) ∧
    ((∀ e ∈ elements, IsDefinition e → name? e ≠ none) →
      ∃ (found : List String) (order : List Element), scrape fs path = .ok found ∧
        found.map some = order.map name? ∧
        order.Perm (elements.filter fun e => IsDefinition e) ∧
        ∀ kind, order.filter (fun e => IsOf kind e) = elements.filter fun e => IsOf kind e) ∧
    ((∃ e ∈ elements, IsDefinition e ∧ name? e = none) →
      ∃ kind element, IsFirstNameless elements kind element ∧
        scrape fs path = .error (.nameless path kind element.place.line) ∧
        (ScrapeError.nameless path kind element.place.line).message =
          "<" ++ String.ofList kind.tag ++ "> without a name attribute at line " ++
            toString element.place.line ++ " of '" ++ path ++ "'") := by
  have scraped : scrape fs path = names path elements := by
    rw [scrape, file]
    dsimp only
    rw [ofOctets, parsed]
  refine ⟨Xml.enumerates_of_elements parsed, ?_, ?_⟩
  · intro named
    obtain ⟨found, done, same⟩ := exists_names path named
    exact ⟨found, inKindOrder elements, scraped.trans done, same, perm_inKindOrder elements,
      filter_inKindOrder elements⟩
  · intro some'
    obtain ⟨kind, element, first, failed⟩ := exists_nameless path some'
    exact ⟨kind, element, first, scraped.trans failed, rfl⟩

/-! ## Section 4: A sample -/

open Xml.Tree in
/-- A document with two nameless definitions.  The one of the kind that comes
    first is the later one in the document. -/
def namelessDocument : Document where
  root := rootLabel
  inside :=
    .element (namelessLabel .plurals) .none
    (.element (namedLabel .string "a".toList (by decide))
      (.element (namelessLabel .string) .none .none)
      .none)
  isShallow := by decide

/-- That later one is reported. -/
theorem scrape_namelessDocument :
    ∃ elements element,
      (singleFile (Utf8.encode namelessDocument.content.print)).read "strings.xml" =
        .ok (Utf8.encode namelessDocument.content.print) ∧
      Xml.elements (Utf8.encode namelessDocument.content.print) = .ok elements ∧
      elements.map Element.outline = [⟨none, "resources".toList, []⟩, ⟨none, "plurals".toList, []⟩,
        ⟨none, "string".toList, [("name".toList, "a".toList)]⟩, ⟨none, "string".toList, []⟩] ∧
      IsFirstNameless elements .string element ∧
      scrape (singleFile (Utf8.encode namelessDocument.content.print)) "strings.xml" =
        .error (.nameless "strings.xml" .string element.place.line) := by
  have file := read_singleFile (Utf8.encode namelessDocument.content.print)
  obtain ⟨elements, parsed, outlines⟩ := Xml.elements_of_stores namelessDocument
    (Xml.Tree.writes_print namelessDocument.content) .utf8
  have outlines' : elements.map Element.outline = [⟨none, "resources".toList, []⟩,
      ⟨none, "plurals".toList, []⟩, ⟨none, "string".toList, [("name".toList, "a".toList)]⟩,
      ⟨none, "string".toList, []⟩] := outlines
  -- The last element is nameless.
  obtain ⟨last, inside, same⟩ : ∃ e ∈ elements, e.outline = ⟨none, "string".toList, []⟩ := by
    apply List.mem_map.1
    rw [outlines']
    decide
  have isOf : IsOf .string last := ⟨congrArg Xml.Outline.space same, congrArg Xml.Outline.name same⟩
  have missing : name? last = none := by
    rw [name?_eq, same]
    rfl
  obtain ⟨-, -, reported⟩ := scrape_inKindOrder file parsed
  obtain ⟨kind, element, first, failed, -⟩ :=
    reported ⟨last, inside, ⟨.string, ResourceKind.mem_all _, isOf⟩, missing⟩
  have kind' : kind = .string := by
    obtain ⟨before, after, kinds, named⟩ := first.inKinds
    cases before with
    | nil => exact (List.cons.inj kinds).1.symm
    | cons earlier before =>
      have isFirst : earlier = .string := (List.cons.inj kinds).1.symm
      exact absurd missing (named earlier List.mem_cons_self last inside (isFirst ▸ isOf))
  subst kind'
  exact ⟨elements, element, file, parsed, outlines', first, failed⟩

end StringOrigins.StringsFile
