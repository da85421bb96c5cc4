import Mathlib.Logic.Equiv.Defs
import Mathlib.Order.Fin.Basic
import StringOrigins.Proofs.SourceMap.Canonical
import StringOrigins.Proofs.SourceMap.Damage

/-! # Reordered directories

    Of two directories, the order matters only if their strings files share a
    name with an id, and of a strings file, only which names it defines.  As
    long as those orders and these sets stay, a source map has the same
    entries, though in another order, and its file is the same
    (`sources_of_reordered`).  Any other order may only change the strings
    files that are recorded. -/

namespace StringOrigins

/-! ## Section 1: Positions -/

namespace Survey

/-- A way to put directories into another order.  Any two of them whose strings
    files share a name with an id stay in their order. -/
structure IsReordering (fs : FileSystem) (ids : IdTable) (root : Option Path)
    (directories others : List String) (position : Fin directories.length ≃ Fin others.length) :
    Prop where
  same : ∀ i, others.get (position i) = directories.get i
  keeps : ∀ i j, i < j →
    (∃ name ∈ ids, Lists fs root (directories.get i) name ∧
      Lists fs root (directories.get j) name) →
    position i < position j

variable {fs other : FileSystem} {ids : IdTable} {root : Option Path}
  {directories others : List String}

/-- The provider of a name stands in front of all others that list it. -/
theorem provider?_eq_some_iff_position {directory name : String} :
    provider? fs root directories name = some directory ↔
      ∃ i : Fin directories.length, directories.get i = directory ∧
        Lists fs root directory name ∧ ∀ j < i, ¬ Lists fs root (directories.get j) name := by
  unfold provider?
  rw [List.find?_eq_some_iff_getElem]
  simp only [decide_eq_true_eq, mem_contribution_iff, Bool.not_eq_eq_eq_not, Bool.not_true,
    decide_eq_false_iff_not]
  constructor
  · rintro ⟨lists, i, bound, same, first⟩
    exact ⟨⟨i, bound⟩, same, lists, fun j before => first j before⟩
  · rintro ⟨i, same, lists, first⟩
    exact ⟨lists, i, i.isLt, same, fun j before => first ⟨j, Nat.lt_trans before i.isLt⟩ before⟩

/-- A name has a provider if any directory lists it. -/
theorem provider?_eq_none_iff {name : String} :
    provider? fs root directories name = none ↔
      ∀ directory ∈ directories, ¬ Lists fs root directory name := by
  rw [← Option.not_isSome_iff_eq_none, isSome_provider?_iff]
  simp only [not_exists, not_and]

/-- A name with an id keeps its provider. -/
theorem provider?_of_reordered {position : Fin directories.length ≃ Fin others.length}
    (reordered : IsReordering fs ids root directories others position)
    (agree : ∀ directory ∈ directories, ∀ name,
      Lists fs root directory name ↔ Lists other root directory name)
    {name : String} (given : name ∈ ids) :
    provider? other root others name = provider? fs root directories name := by
  cases found : provider? fs root directories name with
  | none =>
    rw [provider?_eq_none_iff] at found ⊢
    intro directory m lists
    obtain ⟨k, rfl⟩ := List.get_of_mem m
    -- It has come from another position.
    obtain ⟨i, rfl⟩ := position.surjective k
    rw [reordered.same i] at lists
    exact found _ (List.get_mem _ i) ((agree _ (List.get_mem _ i) name).2 lists)
  | some directory =>
    obtain ⟨i, rfl, lists, first⟩ := provider?_eq_some_iff_position.1 found
    have agree' : ∀ j : Fin directories.length,
        Lists fs root (directories.get j) name ↔ Lists other root (directories.get j) name :=
      fun j => agree _ (List.get_mem _ j) name
    refine provider?_eq_some_iff_position.2 ⟨position i, reordered.same i, (agree' i).1 lists, ?_⟩
    intro k before lists'
    obtain ⟨j, rfl⟩ := position.surjective k
    rw [reordered.same j] at lists'
    -- One that was behind is still behind, and one that was before lists nothing.
    rcases lt_trichotomy i j with behind | same | ahead
    · have kept := reordered.keeps i j behind ⟨name, given, lists, (agree' j).2 lists'⟩
      exact absurd before (not_lt.2 kept.le)
    · subst same
      exact absurd before (lt_irrefl _)
    · exact first j ahead ((agree' j).2 lists')

/-- Any order of the directories has a provider for the same names. -/
theorem isSome_provider?_of_perm (perm : others.Perm directories) (name : String) :
    (provider? fs root others name).isSome = (provider? fs root directories name).isSome := by
  rw [Bool.eq_iff_iff, isSome_provider?_iff, isSome_provider?_iff]
  simp only [perm.mem_iff]

/-! ## Section 2: The law of reordering -/

/-- Reordered directories give the same entries. -/
theorem getElem?_sources_of_reordered {position : Fin directories.length ≃ Fin others.length}
    (reordered : IsReordering fs ids root directories others position)
    (agree : ∀ directory ∈ directories, ∀ name,
      Lists fs root directory name ↔ Lists other root directory name) (name : String) :
    (of other ids root others).sources[name]? = (of fs ids root directories).sources[name]? := by
  rw [getElem?_sources_of, getElem?_sources_of]
  by_cases given : name ∈ ids
  · rw [provider?_of_reordered reordered agree given]
  · rw [Std.TreeMap.getElem?_eq_none given]
    simp

/-- In any order of the directories, there is the same id for a name. -/
theorem id_sources_of_perm (perm : others.Perm directories) (name : String) :
    (of fs ids root others).sources[name]?.map Entry.id =
      (of fs ids root directories).sources[name]?.map Entry.id := by
  have ids' : ∀ among : List String, (of fs ids root among).sources[name]?.map Entry.id =
      if (provider? fs root among name).isSome then ids[name]? else none := by
    intro among
    rw [getElem?_sources_of]
    cases provider? fs root among name with
    | none => rfl
    | some directory =>
      cases given : ids[name]? with
      | none => simp
      | some id => simp [entryOf]
  rw [ids', ids', isSome_provider?_of_perm perm]

section law

variable (fs ids root directories)

/-- Directories may be put into another order, and their strings files into
    another form, as long as those that share a name with an id keep their
    order, and every strings file its set of names: the source map and its
    file are the same.  In any order whatever, the names and their ids are. -/
theorem sources_of_reordered :
    (∀ (other : FileSystem) (others : List String)
        (position : Fin directories.length ≃ Fin others.length),
      IsReordering fs ids root directories others position →
      (∀ directory ∈ directories, ∀ name,
        Lists fs root directory name ↔ Lists other root directory name) →
      (∀ name : String, (of other ids root others).sources[name]? =
          (of fs ids root directories).sources[name]?) ∧
        (of other ids root others).sources.toList.Perm
          (of fs ids root directories).sources.toList ∧
        (of other ids root others).sources.serialize =
          (of fs ids root directories).sources.serialize) ∧
    ∀ others : List String, others.Perm directories → ∀ name : String,
      (of fs ids root others).sources[name]?.map Entry.id =
        (of fs ids root directories).sources[name]?.map Entry.id := by
  refine ⟨?_, fun others perm => id_sources_of_perm perm⟩
  intro other others position reordered agree
  have same := getElem?_sources_of_reordered reordered agree
  exact ⟨same, SourceMap.toList_perm same, SourceMap.serialize_congr same⟩

end law

/-! ## Section 3: A sample -/

open Xml.Tree

/-- What is stored in UTF-8 of a document is scraped as its names. -/
theorem scrape_of_document {directory : String} {names : List String} (document : Document)
    (file : fs.read (fileOf root directory).text = .ok (Utf8.encode document.content.print))
    (listing : names.map (fun name => some name.toList) = StringsFile.listed document.outlines) :
    StringsFile.scrape fs (fileOf root directory).text = .ok names := by
  obtain ⟨elements, parsed, outlines⟩ :=
    Xml.elements_of_stores document (writes_print document.content) .utf8
  have done : StringsFile.names (fileOf root directory).text elements = .ok names := by
    rw [StringsFile.names_eq_ok_iff, outlines, listing]
  rw [StringsFile.scrape, file]
  dsimp only
  rw [StringsFile.ofOctets, parsed]
  exact done

theorem lists_iff_of_document {directory : String} {names : List String} (document : Document)
    (file : fs.read (fileOf root directory).text = .ok (Utf8.encode document.content.print))
    (listing : names.map (fun name => some name.toList) = StringsFile.listed document.outlines)
    (name : String) : Lists fs root directory name ↔ name ∈ names := by
  rw [← mem_contribution_iff, contribution, scrape_of_document document file listing]

theorem accepted?_of_document {directory : String} {names : List String} (document : Document)
    (file : fs.read (fileOf root directory).text = .ok (Utf8.encode document.content.print))
    (listing : names.map (fun name => some name.toList) = StringsFile.listed document.outlines) :
    accepted? fs root directory = some names := by
  rw [accepted?, scrape_of_document document file listing, FileSystem.exists?_of_read file]

/-- A document of definitions beside one another. -/
def rowDocument (labels : List Label)
    (isShallow : (labels.foldr (fun label rest => Content.element label .none rest) .none).depth
      + 1 ≤ 256) : Document where
  root := StringsFile.rootLabel
  inside := labels.foldr (fun label rest => Content.element label .none rest) .none
  isShallow := Nat.max_le.2 ⟨isShallow, Nat.zero_le _⟩

/-- A string, an array, and both under another name that they share. -/
def ownString : Label := StringsFile.namedLabel .string "own".toList (by decide)

def ownArray : Label := StringsFile.namedLabel .array "other".toList (by decide)

def sharedString : Label := StringsFile.namedLabel .string "shared".toList (by decide)

def sharedArray : Label := StringsFile.namedLabel .array "shared".toList (by decide)

/-- The strings files of two directories, and the same definitions in other
    places, as other kinds, and repeated. -/
def formerTree : FileSystem :=
  twoFiles (Utf8.encode (rowDocument [ownString, sharedString] (by decide)).content.print)
    (Utf8.encode (rowDocument [ownArray, sharedArray] (by decide)).content.print)

def laterTree : FileSystem :=
  twoFiles (Utf8.encode (rowDocument [sharedArray, sharedString, ownString] (by decide)).content.print)
    (Utf8.encode (rowDocument [sharedString, ownArray, ownArray] (by decide)).content.print)

theorem lists_formerTree (name : String) :
    (Lists formerTree none "a" name ↔ name ∈ ["own", "shared"]) ∧
      (Lists formerTree none "b" name ↔ name ∈ ["other", "shared"]) :=
  ⟨lists_iff_of_document _ (read_twoFiles _ _).1 (by decide) name,
    lists_iff_of_document _ (read_twoFiles _ _).2 (by decide) name⟩

theorem lists_laterTree (name : String) :
    (Lists laterTree none "a" name ↔ name ∈ ["shared", "own", "shared"]) ∧
      (Lists laterTree none "b" name ↔ name ∈ ["shared", "other", "other"]) :=
  ⟨lists_iff_of_document _ (read_twoFiles _ _).1 (by decide) name,
    lists_iff_of_document _ (read_twoFiles _ _).2 (by decide) name⟩

/-- The ids of all names but the shared one. -/
def ownIds : IdTable := ((∅ : IdTable).insert "own" 1).insert "other" 2

/-- The names are added in another order. -/
theorem names_sources_of_laterTree :
    (of formerTree ownIds none ["a", "b"]).sources.names = ["own", "other"] ∧
      (of laterTree ownIds none ["b", "a"]).sources.names = ["other", "own"] := by
  have former : accepted formerTree none ["a", "b"] =
      [("a", ["own", "shared"]), ("b", ["other", "shared"])] := by
    have first : accepted? formerTree none "a" = some ["own", "shared"] :=
      accepted?_of_document _ (read_twoFiles _ _).1 (by decide)
    have second : accepted? formerTree none "b" = some ["other", "shared"] :=
      accepted?_of_document _ (read_twoFiles _ _).2 (by decide)
    simp [accepted, first, second]
  have later : accepted laterTree none ["b", "a"] =
      [("b", ["shared", "other", "other"]), ("a", ["shared", "own", "shared"])] := by
    have first : accepted? laterTree none "a" = some ["shared", "own", "shared"] :=
      accepted?_of_document _ (read_twoFiles _ _).1 (by decide)
    have second : accepted? laterTree none "b" = some ["shared", "other", "other"] :=
      accepted?_of_document _ (read_twoFiles _ _).2 (by decide)
    simp [accepted, first, second]
  rw [sources_of, sources_of, former, later]
  decide +kernel

/-- The shared name has no id, so the two directories may change places.  The
    names are added in another order then, and the file is the same. -/
theorem sources_of_reordered_laterTree :
    IsReordering formerTree ownIds none ["a", "b"] ["b", "a"]
      ⟨Fin.rev, Fin.rev, Fin.rev_rev, Fin.rev_rev⟩ ∧
    (∀ directory ∈ ["a", "b"], ∀ name,
      Lists formerTree none directory name ↔ Lists laterTree none directory name) ∧
    ((of formerTree ownIds none ["a", "b"]).sources.names = ["own", "other"] ∧
      (of laterTree ownIds none ["b", "a"]).sources.names = ["other", "own"]) ∧
    (of laterTree ownIds none ["b", "a"]).sources.serialize =
      (of formerTree ownIds none ["a", "b"]).sources.serialize ∧
    ∀ name : String, (of formerTree ownIds none ["b", "a"]).sources[name]?.map Entry.id =
      (of formerTree ownIds none ["a", "b"]).sources[name]?.map Entry.id := by
  have reordered : IsReordering formerTree ownIds none ["a", "b"] ["b", "a"]
      ⟨Fin.rev, Fin.rev, Fin.rev_rev, Fin.rev_rev⟩ := by
    refine ⟨by decide, ?_⟩
    rintro i j before ⟨name, given, lists, lists'⟩
    -- The first is the one directory, and the second the other one.
    have ends : ∀ i j : Fin 2, i < j → i = 0 ∧ j = 1 := by decide
    obtain ⟨rfl, rfl⟩ := ends i j before
    have first : name ∈ ["own", "shared"] := (lists_formerTree name).1.1 lists
    have second : name ∈ ["other", "shared"] := (lists_formerTree name).2.1 lists'
    have shared : name = "shared" := by
      simp only [List.mem_cons, List.not_mem_nil, or_false] at first second
      grind
    subst shared
    exact absurd given (by decide +kernel)
  have agree : ∀ directory ∈ ["a", "b"], ∀ name,
      Lists formerTree none directory name ↔ Lists laterTree none directory name := by
    intro directory m name
    simp only [List.mem_cons, List.not_mem_nil, or_false] at m
    rcases m with rfl | rfl
    · rw [(lists_formerTree name).1, (lists_laterTree name).1]
      simp only [List.mem_cons, List.not_mem_nil, or_false]
      tauto
    · rw [(lists_formerTree name).2, (lists_laterTree name).2]
      simp [or_comm]
  obtain ⟨law, anyhow⟩ := sources_of_reordered formerTree ownIds none ["a", "b"]
  exact ⟨reordered, agree, names_sources_of_laterTree,
    (law laterTree ["b", "a"] _ reordered agree).2.2, anyhow ["b", "a"] (by decide)⟩

end Survey

end StringOrigins
