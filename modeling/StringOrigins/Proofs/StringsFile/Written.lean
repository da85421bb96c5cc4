import StringOrigins.Proofs.StringsFile.Names
import StringOrigins.Proofs.Xml.Encoding

/-! # The names of written documents

    A document that was written and stored as a strings file gives back the
    names of its tree: it is scraped if every element that defines a string
    resource has a name, and then the names are the values of these
    attributes, tag by tag and in document order (`scrape_of_stores`). -/

namespace StringOrigins.StringsFile

open Xml (Outline Element)
open Xml.Tree

/-! ## Section 1: The names of a tree -/

/-- The tags of the elements that define string resources, in the order in
    which their names come. -/
def tags : List (List Char) := ["string".toList, "plurals".toList, "string-array".toList]

/-- Whether an element defines a string resource under a tag. -/
def Defines (tag : List Char) (outline : Outline) : Prop :=
  outline.space = none ∧ outline.name = tag

instance (tag : List Char) (outline : Outline) : Decidable (Defines tag outline) :=
  inferInstanceAs (Decidable (_ ∧ _))

/-- The name of the resource that an element defines, if it has one. -/
def nameOf (outline : Outline) : Option (List Char) := outline.attributes.lookup "name".toList

/-- The names that elements define, tag by tag. -/
def listed (outlines : List Outline) : List (Option (List Char)) :=
  tags.flatMap fun tag => (outlines.filter fun o => Defines tag o).map nameOf

theorem mem_listed {outlines : List Outline} {name : Option (List Char)} :
    name ∈ listed outlines ↔
      ∃ outline ∈ outlines, (∃ tag ∈ tags, Defines tag outline) ∧ nameOf outline = name := by
  unfold listed
  constructor
  · intro m
    obtain ⟨tag, isTag, m⟩ := List.mem_flatMap.1 m
    obtain ⟨outline, kept, same⟩ := List.mem_map.1 m
    obtain ⟨inside, defines⟩ := List.mem_filter.1 kept
    exact ⟨outline, inside, ⟨tag, isTag, of_decide_eq_true defines⟩, same⟩
  · rintro ⟨outline, inside, ⟨tag, isTag, defines⟩, same⟩
    refine List.mem_flatMap.2 ⟨tag, isTag, List.mem_map.2 ⟨outline, ?_, same⟩⟩
    exact List.mem_filter.2 ⟨inside, decide_eq_true defines⟩

/-- An element is named as its outline is. -/
theorem name?_eq (element : Element) : name? element = (nameOf element.outline).map String.ofList := by
  rw [name?, Element.value?_eq_lookup]
  rfl

/-- The names of definitions are those that the outlines list. -/
theorem map_name?_definitions (elements : List Element) :
    (definitions elements).map (fun d => name? d.2) =
      (listed (elements.map Element.outline)).map (Option.map String.ofList) := by
  have kinds : tags = ResourceKind.all.map ResourceKind.tag := rfl
  unfold definitions listed
  rw [kinds, List.flatMap_map, List.map_flatMap, List.map_flatMap]
  refine congrArg (List.flatMap · ResourceKind.all) (funext fun kind => ?_)
  -- For one kind, the same elements are kept on both sides.
  rw [List.filter_map, List.map_map, List.map_map, List.map_map]
  unfold ofKind
  exact List.map_congr_left fun element _ => name?_eq element

/-! ## Section 2: Scraping -/

variable {path : String}

/-- Names come out if all that are listed are there. -/
theorem names_eq_ok_iff {elements : List Element} {found : List String} :
    names path elements = .ok found ↔
      found.map (fun name => some name.toList) = listed (elements.map Element.outline) := by
  have texts : found.map some =
      (found.map fun name => some name.toList).map (Option.map String.ofList) := by
    rw [List.map_map]
    exact List.map_congr_left fun name _ => congrArg some String.ofList_toList.symm
  have same : ∀ a b : Option (List Char), a.map String.ofList = b.map String.ofList → a = b := by
    intro a b eq
    have back := congrArg (Option.map String.toList) eq
    have inverse : String.toList ∘ String.ofList = id := funext fun s => String.toList_ofList
    rw [Option.map_map, Option.map_map, inverse, Option.map_id] at back
    exact back
  rw [names, namesOf_eq_ok_iff, map_name?_definitions, texts, List.map_inj_right same]
  exact eq_comm

/-- Elements are refused only for want of a name. -/
theorem nameless_of_names {elements : List Element} {error : ScrapeError}
    (failed : names path elements = .error error) :
    ∃ kind line, error = .nameless path kind line := by
  have way := naming_namesOf path (definitions elements)
  rw [names] at failed
  rw [failed] at way
  cases way with
  | nameless before after kind element split earlier missing => exact ⟨kind, _, rfl⟩

/-- All that are listed are there exactly if every definition has a name. -/
theorem exists_map_iff {listed : List (Option (List Char))} :
    (∃ found : List String, found.map (fun name => some name.toList) = listed) ↔
      none ∉ listed := by
  constructor
  · rintro ⟨found, rfl⟩ m
    obtain ⟨name, -, eq⟩ := List.mem_map.1 m
    cases eq
  · intro present
    induction listed with
    | nil => exact ⟨[], rfl⟩
    | cons first rest ih =>
      have ⟨some', rest'⟩ := not_or.1 (fun m => present (List.mem_cons.2 m))
      obtain ⟨found, same⟩ := ih rest'
      obtain ⟨name, rfl⟩ := Option.ne_none_iff_exists'.1 (Ne.symm some')
      refine ⟨String.ofList name :: found, ?_⟩
      rw [List.map_cons, same, String.toList_ofList]

/-- A written and stored document gives back its names: if every element that
    defines a string resource has one, these are the names in their order,
    and otherwise it is refused for want of a name. -/
theorem scrape_of_stores {fs : FileSystem} (document : Document) {text : List Char}
    {octets : Utf8.Octets} (writes : Writes document.content text)
    (stores : Xml.Stores text octets) (file : fs.read path = .ok octets) :
    ((∃ found, scrape fs path = .ok found) ↔
      ∀ outline ∈ document.outlines, (∃ tag ∈ tags, Defines tag outline) → nameOf outline ≠ none) ∧
    (∀ found, scrape fs path = .ok found ↔
      found.map (fun name => some name.toList) = listed document.outlines) ∧
    (∀ error, scrape fs path = .error error → ∃ kind line, error = .nameless path kind line) := by
  obtain ⟨elements, read, same⟩ := Xml.elements_of_stores document writes stores
  have scraped : scrape fs path = names path elements := by
    rw [scrape, file]
    dsimp only
    rw [ofOctets, read]
  have listing : ∀ found, scrape fs path = .ok found ↔
      found.map (fun name => some name.toList) = listed document.outlines := by
    intro found
    rw [scraped, names_eq_ok_iff, same]
  refine ⟨?_, listing, ?_⟩
  · rw [exists_congr listing, exists_map_iff, mem_listed]
    exact ⟨fun present outline inside defines missing => present ⟨outline, inside, defines, missing⟩,
      fun named ⟨outline, inside, defines, missing⟩ => named outline inside defines missing⟩
  · intro error failed
    rw [scraped] at failed
    exact nameless_of_names failed

/-! ## Section 3: A sample -/

/-- The root of a strings file. -/
def rootLabel : Label :=
  ⟨"resources".toList, [], by decide, by decide, by decide, by decide, by decide⟩

theorem isPlainName_tag (kind : ResourceKind) : Xml.isPlainName kind.tag = true := by
  cases kind <;> decide

/-- A definition without a name. -/
def namelessLabel (kind : ResourceKind) : Label :=
  ⟨kind.tag, [], isPlainName_tag kind, rfl, List.nodup_nil, rfl, rfl⟩

/-- A definition with a name. -/
def namedLabel (kind : ResourceKind) (name : List Char)
    (allowed : Xml.areAllowed name = true) : Label where
  name := kind.tag
  attributes := [("name".toList, name)]
  isName := isPlainName_tag kind
  areNames := rfl
  areDistinct := by simp
  areAllowed := by simp [allowed]
  mayDeclare := rfl

/-- A document with marks in a value, an array without a namespace inside an
    element of one, and what looks like elements but is none. -/
def sampleDocument : Document where
  root := rootLabel
  inside :=
    .element
      ⟨"string".toList, [("name".toList, "a&\t\"é".toList)], by decide, by decide, by decide,
        by decide, by decide⟩
      (.text ⟨"1 < 2".toList, by decide⟩ .none)
    (.element
      ⟨"plurals".toList, [("xmlns".toList, "urn:x".toList)], by decide, by decide, by decide,
        by decide, by decide +kernel⟩
      (.element
        ⟨"string-array".toList, [("name".toList, "b".toList), ("xmlns".toList, [])], by decide,
          by decide, by decide, by decide, by decide⟩
        (.characters ⟨⟨"<string/>".toList, by decide⟩, by decide +kernel⟩ .none)
        .none)
    (.comment ⟨⟨"-<plurals>".toList, by decide⟩, by decide +kernel, by decide⟩
    (.instruction ⟨⟨"?".toList, by decide⟩, "p".toList, by decide, by decide, by decide +kernel⟩ .none)))
  isShallow := by decide

/-- A tree with one strings file. -/
def singleFile (octets : Utf8.Octets) : FileSystem :=
  (⟨∅, []⟩ : FileSystem).put ["strings.xml"] (.file octets)

theorem read_singleFile (octets : Utf8.Octets) :
    (singleFile octets).read "strings.xml" = .ok octets := by
  have clean : ¬ FileSystem.holdsNull "strings.xml" = true := by decide
  have there : (singleFile octets).at? ["strings.xml"] = some (.file octets) :=
    FileSystem.at?_put_self _ _ (by decide)
  have names : FileSystem.names "strings.xml".toList = ["strings.xml"] := by decide +kernel
  have reached : (singleFile octets).locate "strings.xml" =
      .ok (.found ["strings.xml"] (.file octets)) := by
    rw [FileSystem.locate, if_neg (by decide), if_neg (by decide), names]
    show (if some Item.directory = some Item.directory then
      (singleFile octets).walk [] ["strings.xml"] else _) = _
    unfold FileSystem.walk
    rw [if_pos rfl, if_neg (by decide), if_neg (by decide), if_neg (by decide), List.nil_append,
      there]
  rw [FileSystem.read, if_neg clean, reached]

/-- In UTF-16, the sample gives its two names.  The element in the other
    namespace needs none. -/
theorem scrape_sampleDocument :
    scrape (singleFile (0xFF :: 0xFE :: Xml.encodeUtf16 false sampleDocument.content.print))
      "strings.xml" = .ok ["a&\t\"é", "b"] := by
  obtain ⟨-, listing, -⟩ := scrape_of_stores sampleDocument (writes_print sampleDocument.content)
    .littleEndian (read_singleFile _)
  exact (listing _).2 (by decide)

end StringOrigins.StringsFile
