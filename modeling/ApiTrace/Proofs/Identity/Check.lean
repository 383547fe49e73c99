import ApiTrace.Proofs.Identity.Plan

/-!
# The two checks of an assignment

The check before a numbering passes exactly on well-declared entries, and the check after it exactly
on records that are pairwise distinct in number and in name.
-/

namespace ApiTrace

/-- Two entries that may stand in one header. -/
def Entry.Compatible (left right : Entry) : Prop :=
  left.name ≠ right.name ∧ ∀ number, left.declared = some number → right.declared ≠ some number

/-- Two records that may stand in one assignment. -/
def Record.Distinct (left right : Record) : Prop :=
  left.number ≠ right.number ∧ left.name ≠ right.name

instance : DecidableRel Record.Distinct := fun _ _ => inferInstanceAs (Decidable (_ ∧ _))

theorem Record.Distinct.symm {left right : Record} (distinct : left.Distinct right) :
    right.Distinct left :=
  ⟨distinct.1.symm, distinct.2.symm⟩

theorem Record.Distinct.ne {left right : Record} (distinct : left.Distinct right) : left ≠ right :=
  fun same => distinct.1 (congrArg Record.number same)

/-- What is checked against all items before it, itself among them for the next one. -/
private theorem forall_and_pairwise_iff {α : Type} {related : α → α → Prop} {earlier later : List α}
    {item : α} :
    ((∀ other ∈ earlier, related other item) ∧ later.Pairwise related ∧
        ∀ next ∈ later, ∀ other ∈ item :: earlier, related other next) ↔
      (item :: later).Pairwise related ∧
        ∀ next ∈ item :: later, ∀ other ∈ earlier, related other next := by
  simp only [List.forall_mem_cons, List.pairwise_cons]
  constructor
  · rintro ⟨first, pairwise, rest⟩
    exact ⟨⟨fun next member => (rest next member).1, pairwise⟩, first,
      fun next member => (rest next member).2⟩
  · rintro ⟨⟨next, pairwise⟩, first, rest⟩
    exact ⟨first, pairwise, fun other member => ⟨next other member, rest other member⟩⟩

private theorem forall_compatible_iff {earlier : List Entry} {entry : Entry} :
    (∀ other ∈ earlier, other.Compatible entry) ↔
      (∀ other ∈ earlier, other.name ≠ entry.name) ∧
        ∀ number, entry.declared = some number → declarer? earlier number = none := by
  simp only [declarer?_eq_none_iff]
  constructor
  · intro compatible
    constructor
    · exact fun other member => (compatible other member).1
    · intro number declares other member otherDeclares
      exact (compatible other member).2 number otherDeclares declares
  · rintro ⟨names, numbers⟩ other member
    constructor
    · exact names other member
    · exact fun number otherDeclares declares => numbers number declares other member otherDeclares

private theorem checkEntries_cons_eq_ok_iff {scope : String} {earlier later : List Entry}
    {entry : Entry} :
    checkEntries scope earlier (entry :: later) = .ok () ↔
      entry.declared ≠ some 0 ∧ (∀ other ∈ earlier, other.Compatible entry) ∧
        checkEntries scope (entry :: earlier) later = .ok () := by
  rw [forall_compatible_iff, checkEntries]
  by_cases named : earlier.any fun other => other.name = entry.name
  · have taken : ¬∀ other ∈ earlier, other.name ≠ entry.name := by simpa using named
    rw [if_pos named]
    constructor
    · intro ended
      contradiction
    · exact fun passed => absurd passed.2.1.1 taken
  · have unnamed : ∀ other ∈ earlier, other.name ≠ entry.name := by simpa using named
    rw [if_neg named, and_iff_right unnamed]
    split
    · rename_i undeclared
      simp [undeclared]
    · rename_i zero
      simp [zero]
    · rename_i number nonzero declares
      have positive : number ≠ 0 := nonzero
      split
      · rename_i first taken
        simp [declares, taken]
      · rename_i free
        simp [declares, free, positive]

private theorem checkEntries_eq_ok_iff {scope : String} {earlier later : List Entry} :
    checkEntries scope earlier later = .ok () ↔
      (∀ entry ∈ later, entry.declared ≠ some 0) ∧ later.Pairwise Entry.Compatible ∧
        ∀ entry ∈ later, ∀ other ∈ earlier, other.Compatible entry := by
  induction later generalizing earlier with
  | nil => simp [checkEntries]
  | cons entry later ih =>
      rw [checkEntries_cons_eq_ok_iff, ih, ← forall_and_pairwise_iff, List.forall_mem_cons]
      constructor
      · rintro ⟨nonzero, compatible, restNonzero, rest⟩
        exact ⟨⟨nonzero, restNonzero⟩, compatible, rest⟩
      · rintro ⟨⟨nonzero, restNonzero⟩, compatible, rest⟩
        exact ⟨nonzero, compatible, restNonzero, rest⟩

/-- The check of the entries passes exactly on well-declared ones. -/
theorem checkEntries_nil_eq_ok_iff {scope : String} {entries : List Entry} :
    checkEntries scope [] entries = .ok () ↔ WellDeclared entries := by
  rw [checkEntries_eq_ok_iff]
  constructor
  · rintro ⟨nonzero, compatible, _⟩
    constructor
    · exact List.pairwise_map.mpr (compatible.imp And.left)
    · exact nonzero
    · apply List.pairwise_filterMap.mpr
      apply compatible.imp
      rintro left right ⟨_, apart⟩ number leftDeclares _ rightDeclares rfl
      exact apart number leftDeclares rightDeclares
  · intro valid
    have names := List.pairwise_map.mp valid.names
    have numbers := List.pairwise_filterMap.mp valid.numbers
    have compatible : entries.Pairwise Entry.Compatible := by
      apply (names.and numbers).imp
      rintro left right ⟨different, apart⟩
      exact ⟨different, fun number leftDeclares rightDeclares =>
        apart number leftDeclares number rightDeclares rfl⟩
    exact ⟨valid.nonzero, compatible, fun _ _ _ member => (List.not_mem_nil member).elim⟩

private theorem checkRecords_cons_eq_ok_iff {scope : String} {earlier later : List Record}
    {record : Record} :
    checkRecords scope earlier (record :: later) = .ok () ↔
      (∀ other ∈ earlier, other.Distinct record) ∧
        checkRecords scope (record :: earlier) later = .ok () := by
  rw [checkRecords]
  split
  · rename_i first found
    have same : first.number = record.number := by simpa using List.find?_some found
    constructor
    · intro ended
      contradiction
    · rintro ⟨distinct, _⟩
      exact absurd same (distinct first (List.mem_of_find?_eq_some found)).1
  · rename_i unnumbered
    have numbers : ∀ other ∈ earlier, other.number ≠ record.number := by
      simpa using List.find?_eq_none.mp unnumbered
    by_cases named : earlier.any fun other => other.name = record.name
    · obtain ⟨other, member, same⟩ := List.any_eq_true.mp named
      rw [if_pos named]
      constructor
      · intro ended
        contradiction
      · rintro ⟨distinct, _⟩
        exact absurd (of_decide_eq_true same) (distinct other member).2
    · have names : ∀ other ∈ earlier, other.name ≠ record.name := by simpa using named
      rw [if_neg named]
      constructor
      · exact fun ended => ⟨fun other member => ⟨numbers other member, names other member⟩, ended⟩
      · exact And.right

private theorem checkRecords_eq_ok_iff {scope : String} {earlier later : List Record} :
    checkRecords scope earlier later = .ok () ↔
      later.Pairwise Record.Distinct ∧
        ∀ record ∈ later, ∀ other ∈ earlier, other.Distinct record := by
  induction later generalizing earlier with
  | nil => simp [checkRecords]
  | cons record later ih => rw [checkRecords_cons_eq_ok_iff, ih, forall_and_pairwise_iff]

/-- The check of the records passes exactly on records that are pairwise distinct in number and in
name. -/
theorem checkRecords_nil_eq_ok_iff {scope : String} {records : List Record} :
    checkRecords scope [] records = .ok () ↔ records.Pairwise Record.Distinct := by
  rw [checkRecords_eq_ok_iff]
  constructor
  · exact And.left
  · exact fun pairwise => ⟨pairwise, fun _ _ _ member => (List.not_mem_nil member).elim⟩

end ApiTrace
