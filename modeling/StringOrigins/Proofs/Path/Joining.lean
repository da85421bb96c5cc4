import StringOrigins.Proofs.Path.Printing

/-! # Joined paths

    An entry of a directory may be named before or after the directory is
    resolved.  The components of a resolved path are those of its text,
    behind those of the root if the text is relative (`resolve_components`). -/

namespace StringOrigins.Path

/-! ## Section 1: Entries of resolved directories -/

/-- The entry of a relative directory is seen from where the directory is. -/
theorem join_child (p q : Path) (part : List Char) (h : IsPart part) :
    p.join (q.child part h) = (p.join q).child part h := by
  have sameAnchor : (q.child part h).isAbsolute = q.isAbsolute := rfl
  by_cases absolute : q.isAbsolute = true
  · rw [join_of_isAbsolute absolute, join_of_isAbsolute (sameAnchor.trans absolute)]
  · have relative : (q.child part h).isAbsolute ≠ true := fun e => absolute (sameAnchor ▸ e)
    unfold join
    simp only [if_neg absolute, if_neg relative]
    ext1
    · rfl
    · simp [child, single, join, isAbsolute]

/-- Resolving an entry is taking the entry of the resolved directory. -/
theorem resolve_child (p : Path) (root : Option Path) (part : List Char) (h : IsPart part) :
    (p.child part h).resolve root = (p.resolve root).child part h := by
  cases root with
  | none => rfl
  | some directory => exact join_child directory p part h

/-- The strings file of a resolved directory is the resolved strings file. -/
theorem resolve_stringsFile (p : Path) (root : Option Path) :
    p.stringsFile.resolve root = (p.resolve root).stringsFile := by
  unfold stringsFile
  rw [resolve_child, resolve_child]

/-- A part of a resolved path is one of the path or of its root. -/
theorem mem_parts_resolve {p : Path} {root : Option Path} {part : List Char}
    (m : part ∈ (p.resolve root).parts) :
    part ∈ p.parts ∨ ∃ directory, root = some directory ∧ part ∈ directory.parts := by
  cases root with
  | none => exact Or.inl m
  | some directory =>
    simp only [resolve, join] at m
    split at m
    · exact Or.inl m
    · rcases List.mem_append.1 m with m | m
      · exact Or.inr ⟨directory, rfl, m⟩
      · exact Or.inl m

/-! ## Section 2: Texts as paths -/

/-- The components of a text: what stands between its slashes, without empty
    components and single dots. -/
def components (text : String) : List (List Char) :=
  (text.toList.splitOn '/').filter fun component => component ∉ [[], ['.']]

/-- How many slashes a text starts with. -/
def leadingSlashes (text : String) : Nat := (text.toList.takeWhile (· = '/')).length

/-- The anchor behind so many slashes.  Two of them are an anchor of their own. -/
def anchorOfSlashes : Nat → Anchor
  | 0 => .here
  | 2 => .doubleRoot
  | _ => .root

/-- The pieces of a text are what stands between its slashes. -/
theorem split_eq_splitOn (s : List Char) : split s = s.splitOn '/' := by
  induction s with
  | nil => rfl
  | cons c rest ih =>
    rw [split, List.splitOn_cons_eq_if_modifyHead, ih]
    by_cases slash : c = '/'
    · rw [if_pos slash, if_pos (beq_iff_eq.2 slash)]
    · rw [if_neg slash, if_neg (fun eq => slash (beq_iff_eq.1 eq))]
      obtain ⟨piece, more, pieces⟩ := List.exists_cons_of_ne_nil (List.splitOn_ne_nil '/' rest)
      rw [pieces]
      rfl

theorem parts_ofText (text : String) : (ofText text).parts = components text := by
  show partsOf text.toList = _
  unfold partsOf components
  rw [split_eq_splitOn]
  refine List.filter_congr fun component _ => ?_
  simp

/-- The number of leading slashes decides on the anchor. -/
theorem anchorOf_eq (s : List Char) :
    anchorOf s = anchorOfSlashes (s.takeWhile (· = '/')).length := by
  have whole : s.takeWhile (· = '/') ++ s.dropWhile (· = '/') = s :=
    List.takeWhile_append_dropWhile
  have slashes : s.takeWhile (· = '/') =
      List.replicate (s.takeWhile (· = '/')).length '/' := by
    refine List.eq_replicate_of_mem fun c m => ?_
    simpa using List.all_eq_true.1 List.all_takeWhile c m
  have other : (s.dropWhile (· = '/')).head? ≠ some '/' := by
    intro first
    have found := List.head?_dropWhile_not (· = '/') s
    rw [first] at found
    simp at found
  rw [slashes] at whole
  generalize (s.takeWhile (· = '/')).length = count at whole ⊢
  rw [← whole]
  -- Up to two slashes are an anchor, and any more of them are like one.
  match count with
  | 0 => exact anchorOf_append .here other
  | 1 => exact anchorOf_append .root other
  | 2 => exact anchorOf_append .doubleRoot other
  | _ + 3 => rfl

theorem anchor_ofText (text : String) :
    (ofText text).anchor = anchorOfSlashes (leadingSlashes text) :=
  anchorOf_eq text.toList

/-- A text is an absolute path if it starts with a slash. -/
theorem isAbsolute_ofText_iff (text : String) :
    (ofText text).isAbsolute = true ↔ 0 < leadingSlashes text := by
  unfold isAbsolute
  rw [anchor_ofText]
  match leadingSlashes text with
  | 0 => decide
  | 1 => decide
  | 2 => decide
  | n + 3 => exact iff_of_true rfl (Nat.succ_pos (n + 2))

/-! ## Section 3: Resolved paths -/

/-- A relative path has the parts of the root in front of its own. -/
theorem parts_resolve (p : Path) (root : Option Path) :
    (p.resolve root).parts =
      (if p.isAbsolute = true then [] else root.elim [] parts) ++ p.parts := by
  cases root with
  | none => simp
  | some directory =>
    rw [resolve, join]
    by_cases absolute : p.isAbsolute = true
    · rw [if_pos absolute, if_pos absolute, List.nil_append]
    · rw [if_neg absolute, if_neg absolute, Option.elim_some]

/-- And it has the anchor of the root. -/
theorem anchor_resolve (p : Path) (root : Option Path) :
    (p.resolve root).anchor =
      if p.isAbsolute = true then p.anchor else root.elim .here anchor := by
  cases root with
  | none =>
    cases anchored : p.anchor <;> simp [isAbsolute, anchored]
  | some directory =>
    rw [resolve, join]
    by_cases absolute : p.isAbsolute = true
    · rw [if_pos absolute, if_pos absolute]
    · rw [if_neg absolute, if_neg absolute, Option.elim_some]

/-- An absolute path is seen from everywhere as it is. -/
theorem resolve_of_isAbsolute {p : Path} (absolute : p.isAbsolute = true) (root : Option Path) :
    p.resolve root = p := by
  cases root with
  | none => rfl
  | some directory => exact join_of_isAbsolute absolute

/-- What is seen from an absolute path is absolute. -/
theorem isAbsolute_join {directory : Path} (absolute : directory.isAbsolute = true) (p : Path) :
    (directory.join p).isAbsolute = true := by
  unfold join
  by_cases own : p.isAbsolute = true
  · rw [if_pos own]
    exact own
  · rw [if_neg own]
    exact absolute

/-! ## Section 4: The laws of resolving -/

/-- Any text and any root, each taken as a path: the strings file may be
    named before or after the path is resolved.  All that is made of them is
    read back from its text.  A resolved path has the components of the
    text, behind those of the root if the text is relative, and the anchor
    of the text, or else of the root.  And what has been resolved against an
    absolute root is seen from everywhere as it is. -/
theorem resolve_components (text : String) (root : Option String) :
    (ofText text).stringsFile.resolve (root.map ofText) =
      ((ofText text).resolve (root.map ofText)).stringsFile ∧
    (∀ made ∈ [(ofText text).stringsFile, (ofText text).resolve (root.map ofText),
        (ofText text).stringsFile.resolve (root.map ofText)], ofText made.text = made) ∧
    ((ofText text).resolve (root.map ofText)).parts =
      (if 0 < leadingSlashes text then [] else root.elim [] components) ++ components text ∧
    ((ofText text).resolve (root.map ofText)).anchor =
      anchorOfSlashes (if 0 < leadingSlashes text then leadingSlashes text
        else root.elim 0 leadingSlashes) ∧
    ∀ directory, root = some directory → 0 < leadingSlashes directory → ∀ other : Option Path,
      ((ofText text).resolve (root.map ofText)).resolve other =
        (ofText text).resolve (root.map ofText) := by
  refine ⟨resolve_stringsFile _ _, fun made _ => ofText_text made, ?_, ?_, ?_⟩
  · rw [parts_resolve, parts_ofText]
    simp only [isAbsolute_ofText_iff]
    cases root with
    | none => rfl
    | some directory =>
      rw [Option.map_some, Option.elim_some, Option.elim_some, parts_ofText]
  · rw [anchor_resolve, anchor_ofText]
    simp only [isAbsolute_ofText_iff]
    by_cases absolute : 0 < leadingSlashes text
    · rw [if_pos absolute, if_pos absolute]
    · rw [if_neg absolute, if_neg absolute]
      cases root with
      | none => rfl
      | some directory =>
        rw [Option.map_some, Option.elim_some, Option.elim_some, anchor_ofText]
  · rintro directory rfl slashes other
    have absolute := (isAbsolute_ofText_iff directory).2 slashes
    exact resolve_of_isAbsolute (isAbsolute_join absolute _) other

/-- A relative text with empty parts, dots and two dots, seen from two slashes. -/
theorem resolve_components_doubleRoot :
    0 < leadingSlashes "//r/./s" ∧
    ((ofText "./a//../b/.").resolve (some (ofText "//r/./s"))).parts =
      ["r".toList, "s".toList, "a".toList, "..".toList, "b".toList] ∧
    ((ofText "./a//../b/.").resolve (some (ofText "//r/./s"))).resolve (some (ofText "/t")) =
      (ofText "./a//../b/.").resolve (some (ofText "//r/./s")) := by
  have slashes : 0 < leadingSlashes "//r/./s" := by decide
  obtain ⟨-, -, parts, -, again⟩ := resolve_components "./a//../b/." (some "//r/./s")
  exact ⟨slashes, parts.trans (by decide), again "//r/./s" rfl slashes _⟩

end StringOrigins.Path
