import Mathlib.Data.List.Nodup

/-!
# Selecting from a list

A partial function selects values from a list. If no value is selected twice, a selected value has
one source, and selecting that value alone leaves a single value.
-/

namespace ApiTrace.Selection

universe u v

variable {α : Type u} {β : Type v}

/-- A value that is selected once has one source. -/
theorem eq_of_nodup_filterMap {select : α → Option β} {items : List α}
    (nodup : (items.filterMap select).Nodup) {first second : α} (firstMem : first ∈ items)
    (secondMem : second ∈ items) {value : β} (firstSelected : select first = some value)
    (secondSelected : select second = some value) : first = second := by
  induction items with
  | nil => contradiction
  | cons head items ih =>
      have rest : (items.filterMap select).Nodup :=
        nodup.sublist ((List.sublist_cons_self head items).filterMap select)
      have absent : select head = some value → ∀ other ∈ items, select other ≠ some value := by
        intro headSelected other otherMem otherSelected
        rw [List.filterMap_cons_some headSelected, List.nodup_cons] at nodup
        exact nodup.1 (List.mem_filterMap.mpr ⟨other, otherMem, otherSelected⟩)
      rcases List.mem_cons.mp firstMem with firstEq | firstRest
      · subst firstEq
        rcases List.mem_cons.mp secondMem with secondEq | secondRest
        · exact secondEq.symm
        · exact absurd secondSelected (absent firstSelected second secondRest)
      · rcases List.mem_cons.mp secondMem with secondEq | secondRest
        · subst secondEq
          exact absurd firstSelected (absent secondSelected first firstRest)
        · exact ih rest firstRest secondRest

/-- Selecting what only one item gives leaves that item's value. -/
theorem filterMap_eq_singleton {select : α → Option β} {items : List α} (nodup : items.Nodup)
    {item : α} (member : item ∈ items) {value : β} (selected : select item = some value)
    (alone : ∀ other ∈ items, (select other).isSome → other = item) :
    items.filterMap select = [value] := by
  induction items with
  | nil => contradiction
  | cons head items ih =>
      obtain ⟨headAbsent, rest⟩ := List.nodup_cons.mp nodup
      rcases List.mem_cons.mp member with rfl | member
      · rw [List.filterMap_cons_some selected]
        congr 1
        rw [List.filterMap_eq_nil_iff]
        intro other otherMem
        by_contra kept
        have same := alone other (List.mem_cons_of_mem item otherMem)
          (Option.isSome_iff_ne_none.mpr kept)
        exact headAbsent (same ▸ otherMem)
      · have different : head ≠ item := fun same => headAbsent (same ▸ member)
        have dropped : select head = none := by
          by_contra kept
          exact different (alone head List.mem_cons_self (Option.isSome_iff_ne_none.mpr kept))
        rw [List.filterMap_cons_none dropped]
        exact ih rest member fun other otherMem => alone other (List.mem_cons_of_mem head otherMem)

/-- Keeping what only one item satisfies leaves that item. -/
theorem filter_eq_singleton {keep : α → Bool} {items : List α} (nodup : items.Nodup) {item : α}
    (member : item ∈ items) (kept : keep item)
    (alone : ∀ other ∈ items, keep other → other = item) :
    items.filter keep = [item] := by
  rw [← List.filterMap_eq_filter]
  apply filterMap_eq_singleton nodup member
  · exact Option.guard_eq_some_iff.mpr ⟨rfl, kept⟩
  · intro other otherMem guarded
    exact alone other otherMem (by simpa using guarded)

/-- Keeping what no two items satisfy leaves the first item that does. -/
theorem filter_eq_toList_find? {keep : α → Bool} {items : List α}
    (alone : items.Pairwise fun first second => keep first = true → keep second = false) :
    items.filter keep = (items.find? keep).toList := by
  induction items with
  | nil => rfl
  | cons item items ih =>
      obtain ⟨itemAlone, rest⟩ := List.pairwise_cons.mp alone
      cases kept : keep item with
      | false =>
          rw [List.filter_cons_of_neg (by simp [kept]), List.find?_cons_of_neg (by simp [kept]),
            ih rest]
      | true =>
          have dropped : items.filter keep = [] := by
            rw [List.filter_eq_nil_iff]
            intro other member
            simp [itemAlone other member kept]
          rw [List.filter_cons_of_pos kept, List.find?_cons_of_pos kept, dropped]
          rfl

/-- Of the values of all items, those to keep are the values of one item. -/
theorem filter_flatMap_eq {values : α → List β} {keep : β → Bool} {items : List α}
    (nodup : items.Nodup) {item : α} (member : item ∈ items)
    (alone : ∀ other ∈ items, ∀ value ∈ values other, keep value → other = item) :
    (items.flatMap values).filter keep = (values item).filter keep := by
  obtain ⟨before, after, rfl⟩ := List.append_of_mem member
  have absent : item ∉ before ++ after := (List.nodup_cons.mp (List.nodup_middle.mp nodup)).1
  have dropped (others : List α) (among : others ⊆ before ++ after) :
      (others.flatMap values).filter keep = [] := by
    rw [List.filter_eq_nil_iff]
    intro value valueMem kept
    obtain ⟨other, otherMem, inValues⟩ := List.mem_flatMap.mp valueMem
    have inItems : other ∈ before ++ item :: after :=
      ((List.sublist_cons_self item after).append_left before).subset (among otherMem)
    exact absent (alone other inItems value inValues kept ▸ among otherMem)
  rw [List.flatMap_append, List.flatMap_cons, List.filter_append, List.filter_append,
    dropped before (List.subset_append_left _ _), dropped after (List.subset_append_right _ _),
    List.nil_append, List.append_nil]

/-- If at most one item has any values, these do not depend on the order of the items. -/
theorem flatMap_eq_of_perm {values : α → List β} {items others : List α}
    (reordered : items.Perm others)
    (alone : items.Pairwise fun first second => values first = [] ∨ values second = []) :
    items.flatMap values = others.flatMap values := by
  induction reordered with
  | nil => rfl
  | cons item _ ih =>
      rw [List.flatMap_cons, List.flatMap_cons, ih (List.pairwise_cons.mp alone).2]
  | swap second first items =>
      obtain ⟨apart, _⟩ := List.pairwise_cons.mp alone
      rw [List.flatMap_cons, List.flatMap_cons, List.flatMap_cons, List.flatMap_cons]
      rcases apart second List.mem_cons_self with none | none <;>
        rw [none, List.nil_append, List.nil_append]
  | trans first _ ihFirst ihSecond =>
      rw [ihFirst alone]
      exact ihSecond ((first.pairwise_iff Or.symm).mp alone)

end ApiTrace.Selection
