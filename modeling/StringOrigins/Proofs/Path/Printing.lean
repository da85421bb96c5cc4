import StringOrigins.Path.Basic

/-! # Printed paths

    What the text of a path falls into at its slashes, and how the text of
    an entry is made of the text of its directory.

    The main statements are `pieces_chars` (the pieces of a printed path are
    its parts), `chars_child` (the text of an entry ends with its name,
    behind `front` of the directory) and `ofText_text` (the text of a path
    is read as the path). -/

namespace StringOrigins.Path

/-! ## Section 1: Splitting what has been joined -/

/-- A text without a slash is one piece. -/
theorem split_of_slash_not_mem {s : List Char} (h : '/' ∉ s) : split s = [s] := by
  induction s with
  | nil => rfl
  | cons c rest ih =>
    have hc : c ≠ '/' := fun e => h (by simp [e])
    have hrest : '/' ∉ rest := fun m => h (List.mem_cons_of_mem _ m)
    simp only [split, if_neg hc, ih hrest]

/-- What stands before the first slash is the first piece. -/
theorem split_append_slash {piece : List Char} (h : '/' ∉ piece) (rest : List Char) :
    split (piece ++ '/' :: rest) = piece :: split rest := by
  -- Only the characters in front of the slash are taken off one by one.
  induction piece with
  | nil => simp [split]
  | cons c more ih =>
    have hc : c ≠ '/' := fun e => h (by simp [e])
    have hmore : '/' ∉ more := fun m => h (List.mem_cons_of_mem _ m)
    simp only [List.cons_append, split, if_neg hc, ih hmore]

/-- Pieces that have been joined are found again. -/
theorem split_intercalate {parts : List (List Char)} (ne : parts ≠ [])
    (h : ∀ part ∈ parts, '/' ∉ part) : split (['/'].intercalate parts) = parts := by
  induction parts with
  | nil => exact absurd rfl ne
  | cons first more ih =>
    have hfirst : '/' ∉ first := h first (by simp)
    cases more with
    | nil =>
      rw [List.intercalate_singleton]
      exact split_of_slash_not_mem hfirst
    | cons second rest =>
      have hmore := ih (by simp) (fun part m => h part (List.mem_cons_of_mem _ m))
      rw [List.intercalate_cons_cons, List.append_assoc, List.singleton_append,
        split_append_slash hfirst, hmore]

/-- Joined pieces end with the last one. -/
theorem intercalate_concat (parts : List (List Char)) (part : List Char) :
    ['/'].intercalate (parts ++ [part]) =
      (if parts = [] then [] else ['/'].intercalate parts ++ ['/']) ++ part := by
  induction parts with
  | nil => simp
  | cons first more ih =>
    cases more with
    | nil => simp
    | cons second rest =>
      simp only [List.cons_append, List.intercalate_cons_cons] at ih ⊢
      simp [ih]

/-- Splitting loses no characters but slashes. -/
theorem exists_mem_split_iff {c : Char} (hc : c ≠ '/') {s : List Char} :
    (∃ piece ∈ split s, c ∈ piece) ↔ c ∈ s := by
  -- A slash begins a new piece, any other character goes to the first one.
  induction s with
  | nil => simp [split]
  | cons d rest ih =>
    by_cases hd : d = '/'
    · have ne : c ≠ d := fun e => hc (e.trans hd)
      simp [split, hd, ih, hc]
    · cases eq : split rest with
      | nil => simp_all [split]
      | cons first more =>
        simp only [eq] at ih
        simp only [split, if_neg hd, eq, List.mem_cons, exists_eq_or_imp] at ih ⊢
        rw [or_assoc, ih]

/-! ## Section 2: The pieces of a printed path -/

/-- The slashes of an anchor are followed by nothing but further pieces. -/
theorem pieces_anchor_append (anchor : Anchor) (s : List Char) :
    (split (anchor.chars ++ s)).filter (· ≠ []) = (split s).filter (· ≠ []) := by
  cases anchor <;> simp [Anchor.chars, split]

/-- The pieces of a printed path are its parts.  Only the path without
    anchor and parts has a piece of its own, the single dot. -/
theorem pieces_chars (p : Path) :
    (split p.chars).filter (· ≠ []) =
      if p.anchor = .here ∧ p.parts = [] then [['.']] else p.parts := by
  unfold chars
  split
  · simp [split]
  · rw [pieces_anchor_append]
    by_cases ne : p.parts = []
    · simp [ne, split]
    · rw [split_intercalate ne (fun part m => (p.isPart_of_mem part m).2.2)]
      exact List.filter_eq_self.2 (fun part m => by simpa using (p.isPart_of_mem part m).1)

/-- The characters of a printed path, other than slashes and dots, are
    those of its parts. -/
theorem mem_chars_iff (p : Path) {c : Char} (slash : c ≠ '/') (dot : c ≠ '.') :
    c ∈ p.chars ↔ ∃ part ∈ p.parts, c ∈ part := by
  -- The pieces that are left out are empty, so they hold no character.
  have kept : (∃ piece ∈ split p.chars, c ∈ piece) ↔
      ∃ piece ∈ (split p.chars).filter (· ≠ []), c ∈ piece := by
    constructor
    · rintro ⟨piece, m, hc⟩
      exact ⟨piece, List.mem_filter.2 ⟨m, by simpa using List.ne_nil_of_mem hc⟩, hc⟩
    · rintro ⟨piece, m, hc⟩
      exact ⟨piece, (List.mem_filter.1 m).1, hc⟩
  rw [← exists_mem_split_iff slash, kept, pieces_chars]
  split
  · rename_i single
    simp [single.2, dot]
  · rfl

/-- No slash stands in front of joined parts. -/
theorem head?_intercalate {parts : List (List Char)} (h : ∀ part ∈ parts, IsPart part) :
    (['/'].intercalate parts).head? ≠ some '/' := by
  cases parts with
  | nil => simp
  | cons first more =>
    obtain ⟨nonempty, -, noSlash⟩ := h first (by simp)
    -- The first part holds no slash, so its first character is none.
    cases first with
    | nil => exact absurd rfl nonempty
    | cons c rest =>
      have hc : c ≠ '/' := fun e => noSlash (by simp [e])
      cases more <;> simp [hc]

/-- A printed path starts with a slash if it is absolute. -/
theorem head?_chars (p : Path) : p.chars.head? = some '/' ↔ p.isAbsolute = true := by
  unfold chars isAbsolute
  cases anchor : p.anchor with
  | root => simp [Anchor.chars]
  | doubleRoot => simp [Anchor.chars]
  | here =>
    have other := head?_intercalate p.isPart_of_mem
    cases parts : p.parts with
    | nil => simp
    | cons first more =>
      rw [parts] at other
      simpa [Anchor.chars] using other

/-- A printed path with a part does not end with a slash. -/
theorem getLast?_chars (p : Path) (ne : p.parts ≠ []) : p.chars.getLast? ≠ some '/' := by
  have hlast := p.isPart_of_mem (p.parts.getLast ne) (List.getLast_mem ne)
  unfold chars
  rw [if_neg (fun both => ne both.2), ← List.dropLast_concat_getLast ne, intercalate_concat,
    ← List.append_assoc, List.getLast?_append, List.getLast?_eq_some_getLast hlast.1]
  intro eq
  exact hlast.2.2 (Option.some.inj eq ▸ List.getLast_mem hlast.1)

/-! ## Section 3: The text of an entry -/

/-- What stands before the name of an entry in its text. -/
def front (p : Path) : List Char :=
  if p.parts = [] then p.anchor.chars else p.chars ++ ['/']

/-- The text of an entry is the front of its directory and its name. -/
theorem chars_child (p : Path) (part : List Char) (h : IsPart part) :
    (p.child part h).chars = p.front ++ part := by
  have ne : (p.child part h).parts ≠ [] := by simp
  unfold chars front
  rw [if_neg (fun both => ne both.2), child_anchor, child_parts, intercalate_concat]
  by_cases empty : p.parts = []
  · simp [empty]
  · simp [empty, chars]

/-- No text of a path is empty. -/
theorem chars_ne_nil (p : Path) : p.chars ≠ [] := by
  intro empty
  have pieces := pieces_chars p
  rw [empty] at pieces
  split at pieces
  · simp [split] at pieces
  · rename_i ne
    have none : p.parts = [] := by simpa [split] using pieces.symm
    cases anchor : p.anchor with
    | here => exact ne ⟨anchor, none⟩
    | root => simp [chars, anchor, Anchor.chars] at empty
    | doubleRoot => simp [chars, anchor, Anchor.chars] at empty

/-! ## Section 4: Reading a printed path -/

/-- The slashes of an anchor are read as the anchor, unless one more follows. -/
theorem anchorOf_append (anchor : Anchor) {s : List Char} (other : s.head? ≠ some '/') :
    anchorOf (anchor.chars ++ s) = anchor := by
  cases s with
  | nil => cases anchor <;> rfl
  | cons c rest =>
    have hc : c ≠ '/' := by simpa using other
    cases anchor <;> simp [Anchor.chars, anchorOf, hc]

theorem anchorOf_chars (p : Path) : anchorOf p.chars = p.anchor := by
  unfold chars
  split
  · rename_i dot
    rw [dot.1]
    rfl
  · exact anchorOf_append p.anchor (head?_intercalate p.isPart_of_mem)

/-- The parts of a printed path are read again, and a single dot is none. -/
theorem partsOf_chars (p : Path) : partsOf p.chars = p.parts := by
  have twice : partsOf p.chars = ((split p.chars).filter (· ≠ [])).filter (· ≠ ['.']) := by
    unfold partsOf
    rw [List.filter_filter]
    simp only [Bool.decide_and, Bool.and_comm]
  rw [twice, pieces_chars]
  split
  · rename_i dot
    rw [dot.2]
    rfl
  · apply List.filter_eq_self.2
    intro part m
    simpa using (p.isPart_of_mem part m).2.1

/-- A path is read back from its text. -/
theorem ofText_text (p : Path) : ofText p.text = p := by
  unfold ofText text
  rw [String.toList_ofList]
  ext1
  · exact anchorOf_chars p
  · exact partsOf_chars p

end StringOrigins.Path
