import Mathlib.Data.List.Nodup
import StringOrigins.Json.Basic

/-! # Members in order

    Putting a value in order moves the members of its objects and changes
    nothing else.  The names of an object stand in strict order afterwards
    if they are distinct (`ordered_names`).  So it makes no difference in
    which order the members have been before (`sorted_of_perm`). -/

namespace StringOrigins

/-! ## Section 1: The order of texts -/

namespace Precedes

variable {first second third : List Char}

theorem trans (one : Precedes first second) (two : Precedes second third) :
    Precedes first third :=
  List.lex_trans Nat.lt_trans one two

theorem asymm (one : Precedes first second) : ¬ Precedes second first :=
  List.lex_asymm Nat.lt_asymm one

/-- Of two different texts, one comes before the other. -/
theorem eq_of_not (one : ¬ Precedes first second) (other : ¬ Precedes second first) :
    first = second := by
  have same : ∀ c d : Char, ¬ c.toNat < d.toNat → ¬ d.toNat < c.toNat → c = d :=
    fun c d up down => Char.toNat_inj.1 (Nat.le_antisymm (Nat.not_lt.1 down) (Nat.not_lt.1 up))
  exact List.lex_trichotomous same other one

end Precedes

namespace Json

theorem inOrder_iff {first second : List Char × Json} :
    inOrder first second = true ↔ ¬ Precedes second.1 first.1 := by
  simp [inOrder]

theorem inOrder_trans (first second third : List Char × Json)
    (one : inOrder first second = true) (two : inOrder second third = true) :
    inOrder first third = true := by
  rw [inOrder_iff] at one two ⊢
  intro back
  by_cases ahead : Precedes second.1 third.1
  · exact one (ahead.trans back)
  · exact one (Precedes.eq_of_not ahead two ▸ back)

theorem inOrder_total (first second : List Char × Json) :
    (inOrder first second || inOrder second first) = true := by
  rw [Bool.or_eq_true, inOrder_iff, inOrder_iff]
  by_cases ahead : Precedes first.1 second.1
  · exact .inl ahead.asymm
  · exact .inr ahead

/-! ## Section 2: The members of an object in order -/

theorem sortedValues_eq_map (members : List (List Char × Json)) :
    sortedValues members = members.map fun (name, value) => (name, value.sorted) := by
  induction members with
  | nil => rfl
  | cons first rest ih =>
    rw [sortedValues, ih]
    rfl

theorem ordered_perm (members : List (List Char × Json)) :
    (members.mergeSort inOrder).Perm members := List.mergeSort_perm members inOrder

/-- Distinct names stand in strict order. -/
theorem ordered_names {members : List (List Char × Json)}
    (distinct : (members.map Prod.fst).Nodup) :
    ((members.mergeSort inOrder).map Prod.fst).Pairwise Precedes := by
  have ordered := List.pairwise_mergeSort inOrder_trans inOrder_total members
  have apart : ((members.mergeSort inOrder).map Prod.fst).Nodup :=
    ((ordered_perm members).map Prod.fst).nodup_iff.2 distinct
  refine List.pairwise_map.2 (ordered.imp₂ (fun first second before differ => ?_)
    (List.pairwise_map.1 apart))
  rw [inOrder_iff] at before
  exact Classical.byContradiction fun back => differ (Precedes.eq_of_not back before)

/-- The order of members with distinct names does not depend on where they
    have been before. -/
theorem mergeSort_of_perm {members others : List (List Char × Json)} (perm : members.Perm others)
    (distinct : (members.map Prod.fst).Nodup) :
    members.mergeSort inOrder = others.mergeSort inOrder := by
  have moved : (members.mergeSort inOrder).Perm (others.mergeSort inOrder) :=
    (ordered_perm members).trans (perm.trans (ordered_perm others).symm)
  refine moved.eq_of_pairwise (fun first second m n before back => ?_)
    (List.pairwise_mergeSort inOrder_trans inOrder_total members)
    (List.pairwise_mergeSort inOrder_trans inOrder_total others)
  -- Two members with one name are the same member.
  have name : first.1 = second.1 :=
    Precedes.eq_of_not (inOrder_iff.1 back) (inOrder_iff.1 before)
  have among : first ∈ members := (ordered_perm members).mem_iff.1 m
  have among' : second ∈ members := perm.mem_iff.2 ((ordered_perm others).mem_iff.1 n)
  exact List.inj_on_of_nodup_map distinct among among' name

/-- Objects with the same members have the same form in order. -/
theorem sorted_of_perm {members others : List (List Char × Json)} (perm : members.Perm others)
    (distinct : (members.map Prod.fst).Nodup) :
    (object members).sorted = (object others).sorted := by
  have names : (sortedValues members).map Prod.fst = members.map Prod.fst := by
    rw [sortedValues_eq_map, List.map_map]
    rfl
  have moved : (sortedValues members).Perm (sortedValues others) := by
    rw [sortedValues_eq_map, sortedValues_eq_map]
    exact perm.map _
  rw [sorted, sorted, mergeSort_of_perm moved (names ▸ distinct)]

end Json

end StringOrigins
