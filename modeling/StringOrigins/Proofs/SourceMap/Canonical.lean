import Mathlib.Data.List.Dedup
import Mathlib.Data.List.Induction
import StringOrigins.Proofs.SourceMap.Serialization

/-! # One file for one source map

    A source map is filled by insertions, and of all insertions for a name
    the last one counts.  The map keeps its names in the order of the
    insertions (`names_ofInsertions`), but its members are put in order before
    they are printed.
    So the file of the map depends on what counts and on nothing else:
    neither on the order of the insertions nor on those that were replaced
    later.

    In the file the names stand in the order of their code points, as they
    are before any character is escaped.  Both is `serialize_insertions`. -/

namespace StringOrigins

namespace SourceMap

/-! ## Section 1: Insertions -/

/-- The source map that some insertions leave, one after another. -/
def ofInsertions (insertions : List (String × Entry)) : SourceMap :=
  insertions.foldl (fun sources (name, entry) => sources.insert name entry) ∅

/-- The entry of the last insertion for a name. -/
def lastOf (insertions : List (String × Entry)) (name : String) : Option Entry :=
  insertions.reverse.lookup name

theorem ofInsertions_concat (earlier : List (String × Entry)) (name : String) (entry : Entry) :
    ofInsertions (earlier ++ [(name, entry)]) = (ofInsertions earlier).insert name entry := by
  simp [ofInsertions]

/-- The last insertion for a name counts. -/
theorem getElem?_ofInsertions (insertions : List (String × Entry)) (name : String) :
    (ofInsertions insertions)[name]? = lastOf insertions name := by
  -- The last of all insertions is looked at first.
  induction insertions using List.reverseRecOn with
  | nil => simp [ofInsertions, lastOf]
  | append_singleton earlier last ih =>
    obtain ⟨other, entry⟩ := last
    have look : lastOf (earlier ++ [(other, entry)]) name =
        if name = other then some entry else lastOf earlier name := by
      unfold lastOf
      rw [List.reverse_append, List.reverse_singleton, List.singleton_append, List.lookup_cons]
      by_cases same : name = other
      · simp [same]
      · simp [same, beq_eq_false_iff_ne.2 same]
    rw [ofInsertions_concat, look, Dictionary.getElem?_insert, ih]

/-- The names stand in the order in which each of them has come first. -/
theorem names_ofInsertions (insertions : List (String × Entry)) :
    (ofInsertions insertions).names = (insertions.map Prod.fst).reverse.dedup.reverse := by
  induction insertions using List.reverseRecOn with
  | nil => rfl
  | append_singleton earlier last ih =>
    obtain ⟨name, entry⟩ := last
    have known : name ∈ ofInsertions earlier ↔ name ∈ (earlier.map Prod.fst).reverse := by
      show name ∈ (ofInsertions earlier).names ↔ _
      rw [ih, List.mem_reverse, List.mem_dedup]
    rw [ofInsertions_concat, Dictionary.names_insert, ih, List.map_append, List.reverse_append]
    by_cases again : name ∈ ofInsertions earlier
    · rw [if_pos again]
      simp [List.dedup_cons_of_mem (known.1 again)]
    · rw [if_neg again]
      simp [List.dedup_cons_of_notMem (mt known.2 again)]

/-! ## Section 2: Files -/

/-- The members of a file are in the order of their names. -/
theorem members_inOrder (sources : SourceMap) :
    (sources.members.map Prod.fst).Pairwise Precedes := by
  rw [map_fst_members]
  exact Json.ordered_names (nodup_map_toJson sources)

-- The escape of a quote would come behind `#`, and surrogates in front of U+FFFF.
example : Precedes ['"'] ['#'] ∧ Precedes ['\uffff'] ['😀'] := by decide

/-- Source maps with the same entries have the same members, in some order. -/
theorem toList_perm {sources others : SourceMap}
    (same : ∀ name : String, others[name]? = sources[name]?) :
    others.toList.Perm sources.toList := by
  refine (List.perm_ext_iff_of_nodup others.distinct.of_map sources.distinct.of_map).2 ?_
  rintro ⟨name, entry⟩
  rw [Dictionary.mem_toList_iff, Dictionary.mem_toList_iff, same]

/-- They are written as the same file. -/
theorem serialize_congr {sources others : SourceMap}
    (same : ∀ name : String, others[name]? = sources[name]?) :
    others.serialize = sources.serialize := by
  have ordered : others.toJson.sorted = sources.toJson.sorted := by
    refine Json.sorted_of_perm ((toList_perm same).map _) ?_
    exact nodup_map_toJson others
  unfold serialize chars
  rw [ordered]

/-- Two sequences of insertions give the same octets exactly if they leave
    the same entry for every name.  And the file of any source map is read
    as an object with the entries of the map as members, whose names are in
    strictly increasing order of their code points. -/
theorem serialize_insertions :
    (∀ first second : List (String × Entry),
      (ofInsertions first).serialize = (ofInsertions second).serialize ↔
        ∀ name, lastOf first name = lastOf second name) ∧
    ∀ sources : SourceMap, ∃ text members, Utf8.decode sources.serialize = .ok text ∧
      Json.read? text = some (.object members) ∧
      (∀ (name : String) (value : Json.Value), (name.toList, value) ∈ members ↔
        ∃ entry, sources[name]? = some entry ∧ value = entry.value) ∧
      (members.map Prod.fst).Pairwise Precedes := by
  constructor
  · intro first second
    constructor
    · intro octets name
      rw [← getElem?_ofInsertions, ← getElem?_ofInsertions]
      exact getElem?_of_serialize_eq octets name
    · intro same
      apply serialize_congr
      intro name
      rw [getElem?_ofInsertions, getElem?_ofInsertions]
      exact same name
  · intro sources
    exact ⟨sources.chars, sources.members, decode_serialize sources, read?_chars sources,
      fun name value => mem_members_iff, members_inOrder sources⟩

end SourceMap

end StringOrigins
