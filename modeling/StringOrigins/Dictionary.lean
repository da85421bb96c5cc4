/-! # Dictionaries

    A dictionary has a value for each of its names.  It keeps the names in
    the order in which they have come.  A name that comes again keeps its
    place and gets the new value. -/

namespace StringOrigins

/-- Values by name, in the order in which the names have come. -/
structure Dictionary (α : Type) where
  /-- The members, in their order. -/
  toList : List (String × α)
  /-- No name has two values. -/
  distinct : (toList.map Prod.fst).Nodup

namespace Dictionary

variable {α : Type}

/-! ## Section 1: Members -/

/-- The names of a dictionary, in their order. -/
def names (dictionary : Dictionary α) : List String := dictionary.toList.map Prod.fst

/-- How many names a dictionary has. -/
def size (dictionary : Dictionary α) : Nat := dictionary.toList.length

instance : EmptyCollection (Dictionary α) := ⟨⟨[], List.nodup_nil⟩⟩

instance : Membership String (Dictionary α) := ⟨fun dictionary name => name ∈ dictionary.names⟩

instance (name : String) (dictionary : Dictionary α) : Decidable (name ∈ dictionary) :=
  inferInstanceAs (Decidable (name ∈ dictionary.names))

theorem isSome_lookup_iff {name : String} {members : List (String × α)} :
    (members.lookup name).isSome = true ↔ name ∈ members.map Prod.fst := by
  rw [List.lookup_isSome_iff, List.mem_map]
  constructor
  · rintro ⟨member, m, eq⟩
    exact ⟨member, m, (eq_of_beq eq).symm⟩
  · rintro ⟨member, m, rfl⟩
    exact ⟨member, m, BEq.rfl⟩

instance : GetElem? (Dictionary α) String α (fun dictionary name => name ∈ dictionary) where
  getElem dictionary name there :=
    (dictionary.toList.lookup name).get (isSome_lookup_iff.2 there)
  getElem? dictionary name := dictionary.toList.lookup name

theorem mem_iff_isSome_getElem? {name : String} {dictionary : Dictionary α} :
    name ∈ dictionary ↔ dictionary[name]?.isSome = true :=
  isSome_lookup_iff.symm

/-- A member is a name with the value that is found under it. -/
theorem mem_toList_iff {name : String} {value : α} {dictionary : Dictionary α} :
    (name, value) ∈ dictionary.toList ↔ dictionary[name]? = some value := by
  have distinct := dictionary.distinct
  show _ ↔ dictionary.toList.lookup name = some value
  generalize dictionary.toList = members at distinct
  induction members with
  | nil => simp
  | cons first rest ih =>
    obtain ⟨other, old⟩ := first
    rw [List.map_cons, List.nodup_cons] at distinct
    rw [List.mem_cons, List.lookup_cons]
    by_cases same : name = other
    · -- Behind the first member, no other has its name.
      subst same
      have once : (name, value) ∉ rest := fun m => distinct.1 (List.mem_map.2 ⟨_, m, rfl⟩)
      simp [once, eq_comm]
    · simp [same, beq_eq_false_iff_ne.2 same, ih distinct.2]

@[simp] theorem getElem?_empty (name : String) : (∅ : Dictionary α)[name]? = none := rfl

/-! ## Section 2: Insertions -/

/-- Members with a value for a name, in the place of the value that it has,
    or behind all of them. -/
def put (name : String) (value : α) : List (String × α) → List (String × α)
  | [] => [(name, value)]
  | (other, old) :: rest =>
    if other = name then (other, value) :: rest else (other, old) :: put name value rest

theorem map_fst_put (name : String) (value : α) (members : List (String × α)) :
    (put name value members).map Prod.fst =
      if name ∈ members.map Prod.fst then members.map Prod.fst
      else members.map Prod.fst ++ [name] := by
  induction members with
  | nil => rfl
  | cons first rest ih =>
    obtain ⟨other, old⟩ := first
    unfold put
    by_cases same : other = name
    · simp [same]
    · rw [if_neg same, List.map_cons, ih, List.map_cons]
      by_cases m : name ∈ rest.map Prod.fst
      · rw [if_pos m, if_pos (List.mem_cons_of_mem other m)]
      · rw [if_neg m, if_neg (by simpa [Ne.symm same] using m), List.cons_append]

theorem nodup_put {name : String} {value : α} {members : List (String × α)}
    (distinct : (members.map Prod.fst).Nodup) :
    ((put name value members).map Prod.fst).Nodup := by
  rw [map_fst_put]
  by_cases m : name ∈ members.map Prod.fst
  · rw [if_pos m]
    exact distinct
  · rw [if_neg m]
    refine List.nodup_append.2 ⟨distinct, List.nodup_cons.2 ⟨List.not_mem_nil, List.nodup_nil⟩, ?_⟩
    rintro other there last behind rfl
    exact m (List.mem_singleton.1 behind ▸ there)

theorem lookup_put (name other : String) (value : α) (members : List (String × α)) :
    (put name value members).lookup other =
      if other = name then some value else members.lookup other := by
  induction members with
  | nil => by_cases same : other = name <;> simp [put, same]
  | cons first rest ih =>
    obtain ⟨third, old⟩ := first
    unfold put
    by_cases replaced : third = name
    · subst replaced
      rw [if_pos rfl, List.lookup_cons, List.lookup_cons]
      by_cases same : other = third
      · simp [same]
      · simp [same, beq_eq_false_iff_ne.2 same]
    · rw [if_neg replaced, List.lookup_cons, List.lookup_cons, ih]
      by_cases same : other = third
      · simp [same, replaced]
      · simp [beq_eq_false_iff_ne.2 same]

/-- The dictionary with a value for a name. -/
def insert (dictionary : Dictionary α) (name : String) (value : α) : Dictionary α :=
  ⟨put name value dictionary.toList, nodup_put dictionary.distinct⟩

theorem getElem?_insert (dictionary : Dictionary α) (name other : String) (value : α) :
    (dictionary.insert name value)[other]? =
      if other = name then some value else dictionary[other]? :=
  lookup_put name other value dictionary.toList

/-- A name that is not there goes behind all others. -/
theorem names_insert (dictionary : Dictionary α) (name : String) (value : α) :
    (dictionary.insert name value).names =
      if name ∈ dictionary then dictionary.names else dictionary.names ++ [name] :=
  map_fst_put name value dictionary.toList

/-- It makes the dictionary one longer. -/
theorem size_insert_of_not_mem {dictionary : Dictionary α} {name : String} (value : α)
    (new : name ∉ dictionary) : (dictionary.insert name value).size = dictionary.size + 1 := by
  have length := congrArg List.length (dictionary.names_insert name value)
  rw [if_neg new] at length
  simpa [names, size] using length

end Dictionary

end StringOrigins
