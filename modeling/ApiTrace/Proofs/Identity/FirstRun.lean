import ApiTrace.Proofs.Identity.Conservation
import ApiTrace.Proofs.Identity.Stability

/-!
# Numbering from nothing

When nothing was shipped and no number is declared, every function is shipped under its own name.
The second run reads these names back as versions of functions. A function whose name looks
versioned is then not found under its name, so the second run gives the pairs of the first exactly
if no name looks versioned. If one does, the second run numbers a function anew under a name that is
shipped, and fails unless the shipped name is rewritten because its tag has leading zeros.
-/

namespace ApiTrace

/-! ## Names that look versioned -/

/-- If every name is the base of some name in the list, none has a tag: the name of which the
longest tagged name is the base would be longer. -/
theorem ofName_eq_of_onto {names : List String}
    (onto : ∀ name ∈ names, ∃ other ∈ names, (VersionedName.ofName other).base = name)
    {name : String} (member : name ∈ names) : VersionedName.ofName name = ⟨name, none⟩ := by
  by_contra nameTagged
  let tagged := (names.filter fun name => VersionedName.ofName name ≠ ⟨name, none⟩).toFinset
  have mem_tagged : ∀ {other : String},
      other ∈ tagged ↔ other ∈ names ∧ VersionedName.ofName other ≠ ⟨other, none⟩ := by
    simp [tagged]
  obtain ⟨longest, longestMem, longestLe⟩ :=
    tagged.exists_max_image String.length ⟨name, mem_tagged.mpr ⟨member, nameTagged⟩⟩
  obtain ⟨longestListed, longestTagged⟩ := mem_tagged.mp longestMem
  obtain ⟨other, otherMem, baseEq⟩ := onto longest longestListed
  rcases VersionedName.ofName_cases other with untagged | ⟨base, version, _, _, _, read⟩
  · rw [untagged] at baseEq
    subst baseEq
    exact longestTagged untagged
  · have otherTagged : VersionedName.ofName other ≠ ⟨other, none⟩ := by
      rw [read]
      simp
    have atMost := longestLe other (mem_tagged.mpr ⟨otherMem, otherTagged⟩)
    have shorter := VersionedName.length_base_lt read
    rw [read] at baseEq
    subst baseEq
    exact Nat.not_le_of_lt shorter atMost

/-! ## The first run -/

/-- A deed that numbers a function for the first time, under its own name. -/
structure Deed.Introduces (map : IdMap) (deed : Deed) (entry : Entry) : Prop where
  current : deed.move.current? = some entry.name
  name_eq : deed.record.name = entry.name
  fresh : ∀ pair ∈ map.entries, pair.2 ≠ deed.record.number

section Undeclared

variable {category : Category} {entries : List Entry} {map shipped : IdMap} {deeds : List Deed}
  {assignment : Assignment}

/-- Where no number is declared, a function that was not shipped is introduced. -/
theorem Executed.exists_introduces (executed : Executed category entries map deeds)
    (undeclared : ∀ entry ∈ entries, entry.declared = none) {deed : Deed} (member : deed ∈ deeds)
    (unshipped : map.versionsOf deed.record.function = []) :
    ∃ entry ∈ entries, deed.Introduces map entry := by
  have nothing : ∀ {prior : Prior}, prior ∉ map.versionsOf deed.record.function := by
    intro prior version
    rw [unshipped] at version
    contradiction
  cases executed.justified member with
  | adopt declares _ =>
      have declared := undeclared _ declares
      contradiction
  | mint entryMem _ fresh =>
      refine ⟨_, entryMem, rfl, rfl, ?_⟩
      rintro pair pairMem rfl
      exact fresh.untaken (mem_taken_spaceOf_iff.mpr (.inl (List.mem_map_of_mem pairMem)))
  | keep version _ _ => exact absurd version nothing
  | evict version _ _ _ _ => exact absurd version nothing
  | reversion _ continues _ _ => exact absurd (IdMap.prior?_mem continues) nothing

/-- The first run ships exactly the names of the functions. -/
theorem Assigned.shipped_names_iff (assigned : Assigned category entries ∅ deeds assignment)
    (undeclared : ∀ entry ∈ entries, entry.declared = none) (read : assignment.toMap = .ok shipped)
    {name : String} :
    (∃ number, (name, number) ∈ shipped.entries) ↔ ∃ entry ∈ entries, entry.name = name := by
  have introduces : ∀ deed ∈ deeds, ∃ entry ∈ entries, deed.Introduces ∅ entry :=
    fun deed member => assigned.exists_introduces undeclared member rfl
  constructor
  · rintro ⟨number, member⟩
    obtain ⟨deed, deedMem, pairEq⟩ := (assigned.mem_shipped_iff read).mp member
    obtain ⟨entry, entryMem, introduced⟩ := introduces deed deedMem
    exact ⟨entry, entryMem, introduced.name_eq.symm.trans (congrArg Prod.fst pairEq)⟩
  · rintro ⟨entry, entryMem, rfl⟩
    obtain ⟨deed, deedMem, current⟩ := assigned.exists_current entryMem
    obtain ⟨other, _, introduced⟩ := introduces deed deedMem
    have nameEq : other.name = entry.name :=
      Option.some.inj (introduced.current.symm.trans current)
    rw [← nameEq, ← introduced.name_eq]
    exact ⟨_, (assigned.mem_shipped_iff read).mpr ⟨deed, deedMem, rfl⟩⟩

/-- If the second run finds every function among the shipped ones, no name looks versioned. -/
theorem Assigned.untagged_of_known (assigned : Assigned category entries ∅ deeds assignment)
    (undeclared : ∀ entry ∈ entries, entry.declared = none) (read : assignment.toMap = .ok shipped)
    (known : ∀ entry ∈ entries, shipped.versionsOf entry.name ≠ []) {entry : Entry}
    (member : entry ∈ entries) : VersionedName.ofName entry.name = ⟨entry.name, none⟩ := by
  have onto : ∀ name ∈ entries.map Entry.name, ∃ other ∈ entries.map Entry.name,
      (VersionedName.ofName other).base = name := by
    intro name nameMem
    obtain ⟨other, otherMem, rfl⟩ := List.mem_map.mp nameMem
    have found := known other otherMem
    rw [Ne, IdMap.versionsOf_eq_nil_iff] at found
    push Not at found
    obtain ⟨⟨title, number⟩, titled, baseEq⟩ := found
    obtain ⟨owner, ownerMem, rfl⟩ :=
      (assigned.shipped_names_iff undeclared read).mp ⟨number, titled⟩
    exact ⟨owner.name, List.mem_map_of_mem ownerMem, baseEq⟩
  exact ofName_eq_of_onto onto (List.mem_map_of_mem member)

/-! ## The second run -/

/-- A run that gives as many pairs as were shipped finds every function among them. -/
theorem Assigned.known_of_length_eq (assigned : Assigned category entries map deeds assignment)
    (same : assignment.pairs.length = map.entries.length) :
    ∀ entry ∈ entries, map.versionsOf entry.name ≠ [] := by
  have total := assigned.length_records
  rw [Assignment.pairs, List.length_map] at same
  have noneNew : entries.countP (fun entry => map.versionsOf entry.name = []) = 0 := by omega
  intro entry member unshipped
  exact List.countP_eq_zero.mp noneNew entry member (by simpa using unshipped)

/-- A run that succeeds finds every function that is shipped under its name: otherwise it would
number the function anew, under a name that is kept. -/
theorem Assigned.known_of_shipped (assigned : Assigned category entries map deeds assignment)
    (undeclared : ∀ entry ∈ entries, entry.declared = none) (canonical : map.Canonical)
    {entry : Entry} (member : entry ∈ entries) {number : Nat}
    (shipped : (entry.name, number) ∈ map.entries) : map.versionsOf entry.name ≠ [] := by
  intro unshipped
  obtain ⟨deed, deedMem, current⟩ := assigned.exists_current member
  have functionEq := ((assigned.current?_eq_some_iff deedMem).mp current).1
  rw [← functionEq] at unshipped
  obtain ⟨other, _, introduced⟩ := assigned.exists_introduces undeclared deedMem unshipped
  have nameEq : other.name = entry.name := Option.some.inj (introduced.current.symm.trans current)
  have kept : (entry.name, number) ∈ assignment.pairs := by
    apply assigned.mem_pairs_of_unclaimed canonical shipped
    intro claimant claimantMem declares
    rw [undeclared claimant claimantMem] at declares
    contradiction
  have fresh : (entry.name, deed.record.number) ∈ assignment.pairs := by
    rw [← nameEq, ← introduced.name_eq]
    exact assigned.pair_mem_pairs deedMem
  have both : (entry.name, deed.record.number) ∈ [(entry.name, number)] := by
    rw [← assigned.filter_pairs_eq_singleton kept]
    exact List.mem_filter.mpr ⟨fresh, by simp⟩
  exact introduced.fresh _ shipped (congrArg Prod.snd (List.mem_singleton.mp both)).symm

end Undeclared

/-- Numbering the same functions again after a first run gives the same pairs and no event exactly
if no name looks versioned. If one does and the names are canonical, it fails. -/
theorem assign_first_again_iff (category : Category) (entries : List Entry)
    (named : ∀ entry ∈ entries, entry.name ≠ "")
    (undeclared : ∀ entry ∈ entries, entry.declared = none) (assignment : Assignment)
    (ended : (assign category entries ∅).outcome = .ok assignment) :
    ((∃ shipped again, assignment.toMap = .ok shipped ∧
        (assign category entries shipped).outcome = .ok again ∧
        again.pairs = assignment.pairs ∧ again.events = []) ↔
      ∀ entry ∈ entries, VersionedName.ofName entry.name = ⟨entry.name, none⟩) ∧
    ((∀ entry ∈ entries, (VersionedName.ofName entry.name).name = entry.name) →
      (∃ entry ∈ entries, VersionedName.ofName entry.name ≠ ⟨entry.name, none⟩) →
        ∃ shipped, assignment.toMap = .ok shipped ∧
          ∀ again, (assign category entries shipped).outcome ≠ .ok again) := by
  obtain ⟨deeds, assigned⟩ := exists_deeds_of_assign ended
  constructor
  · constructor
    · rintro ⟨shipped, again, read, endedAgain, pairsEq, _⟩ entry member
      obtain ⟨deedsAgain, assignedAgain⟩ := exists_deeds_of_assign endedAgain
      have lengthEq : again.pairs.length = shipped.entries.length := by
        rw [pairsEq, (Assignment.perm_pairs_of_toMap read).length_eq]
      exact assigned.untagged_of_known undeclared read
        (assignedAgain.known_of_length_eq lengthEq) member
    · intro untagged
      obtain ⟨shipped, read⟩ := assigned.exists_toMap
      have readBack : ReadBack category entries ∅ deeds assignment shipped :=
        ⟨assigned, fun entry member => ⟨named entry member, untagged entry member⟩, read⟩
      obtain ⟨again, endedAgain, pairsEq, quiet⟩ := readBack.exists_again
      exact ⟨shipped, again, read, endedAgain, pairsEq, quiet⟩
  · rintro canonical ⟨entry, member, tagged⟩
    obtain ⟨shipped, read⟩ := assigned.exists_toMap
    refine ⟨shipped, read, ?_⟩
    intro again endedAgain
    obtain ⟨deedsAgain, assignedAgain⟩ := exists_deeds_of_assign endedAgain
    have canonicalShipped : shipped.Canonical := by
      rintro ⟨name, number⟩ pairMem
      obtain ⟨owner, ownerMem, rfl⟩ :=
        (assigned.shipped_names_iff undeclared read).mp ⟨number, pairMem⟩
      exact canonical owner ownerMem
    apply tagged
    apply assigned.untagged_of_known undeclared read ?_ member
    intro other otherMem
    obtain ⟨number, pairMem⟩ :=
      (assigned.shipped_names_iff undeclared read).mpr ⟨other, otherMem, rfl⟩
    exact assignedAgain.known_of_shipped undeclared canonicalShipped otherMem pairMem

/-!
## A name that looks versioned

Two functions, one of them named like a second version of the other.
-/

namespace Lookalike

/-- The functions, both without declared numbers. -/
def entries : List Entry :=
  [⟨"zeInit", none⟩, ⟨"zeInit_v2", none⟩]

/-- What the first run gives. -/
def assignment : Assignment where
  category := Contested.category
  records := [⟨"zeInit", 1, none, .current⟩, ⟨"zeInit_v2", 2, none, .current⟩]
  events := []

/-- What is read back. -/
def shipped : IdMap where
  numbers := ⟨[("zeInit", 1), ("zeInit_v2", 2)], by decide⟩
  distinct := by decide
  positive := by decide
  nextFree := 3

theorem ended : (assign Contested.category entries ∅).outcome = .ok assignment := by
  cbv

theorem read : assignment.toMap = .ok shipped := by
  decide +kernel

end Lookalike

theorem assign_first_again_lookalike :
    (∀ entry ∈ Lookalike.entries, entry.name ≠ "") ∧
      (∀ entry ∈ Lookalike.entries, entry.declared = none) ∧
      (assign Contested.category Lookalike.entries ∅).outcome = .ok Lookalike.assignment ∧
      ∃ shipped, Lookalike.assignment.toMap = .ok shipped ∧
        ∀ again, (assign Contested.category Lookalike.entries shipped).outcome ≠ .ok again := by
  have named : ∀ entry ∈ Lookalike.entries, entry.name ≠ "" := by decide
  have undeclared : ∀ entry ∈ Lookalike.entries, entry.declared = none := by decide
  have fails := (assign_first_again_iff Contested.category Lookalike.entries named undeclared
    Lookalike.assignment Lookalike.ended).2
  exact ⟨named, undeclared, Lookalike.ended, fails (by decide +kernel)
    ⟨⟨"zeInit_v2", none⟩, by decide, by decide +kernel⟩⟩

/-- Numbering the same functions again may find a name twice. -/
theorem assign_first_again_fails :
    (assign Contested.category Lookalike.entries ∅).outcome = .ok Lookalike.assignment ∧
      Lookalike.assignment.toMap = .ok Lookalike.shipped ∧
      (assign Contested.category Lookalike.entries Lookalike.shipped).outcome =
        .error (.duplicateName "driver_levelzero" "zeInit_v2") :=
  ⟨Lookalike.ended, Lookalike.read, by cbv⟩

end ApiTrace
