import ApiTrace.Proofs.Identity.Provenance

/-!
# Shipped pairs are conserved

A shipped pair is in the next assignment as it is, unless another function declares its number; then
that function has the number, one event says so, and the pair goes on under a fresh version and
number. Every record of an assignment is accounted for in the same way, and so is their count. The
shipped names are taken to be canonical: a kept pair is written again, not copied.
-/

namespace ApiTrace

namespace Event

/-- Whether an event gives the number of a shipped pair to a claimant. -/
def gives (name : String) (number : Nat) (claimant : String) : Event → Bool
  | .recycled evicted recycledNumber winner _ _ =>
    evicted = name ∧ recycledNumber = number ∧ winner = claimant
  | .reversioned .. => false

/-- Whether an event moves a function to another number. -/
def isReversioned : Event → Bool
  | .recycled .. => false
  | .reversioned .. => true

end Event

/-- An event about a shipped pair comes from the deed that disposes of it. -/
private theorem shipped?_eq_some_of_gives {deed : Deed} {name claimant : String} {number : Nat}
    (reports : (deed.event?.filter (Event.gives name number claimant)).isSome) :
    deed.move.shipped? = some (name, number) := by
  obtain ⟨event, kept⟩ := Option.isSome_iff_exists.mp reports
  obtain ⟨reported, gives⟩ := Option.filter_eq_some_iff.mp kept
  obtain ⟨move, record⟩ := deed
  cases move with
  | adopt | mint | keep => contradiction
  | evict base prior winner origin =>
      cases reported
      obtain ⟨rfl, rfl, _⟩ := of_decide_eq_true gives
      rfl
  | reversion function prior declared =>
      cases reported
      contradiction

/-- A record under which a shipped pair of `base` can go on: its version is above all that were
shipped, its number neither shipped nor declared. -/
structure GoesOn (entries : List Entry) (map : IdMap) (base : String) (record : Record) : Prop where
  function_eq : record.function = base
  raised : ∃ version, record.version = some version ∧
    ∀ prior ∈ map.versionsOf base, prior.rank < version
  unshipped : ∀ pair ∈ map.entries, pair.2 ≠ record.number
  undeclared : ∀ entry ∈ entries, entry.declared ≠ some record.number

namespace Assigned

variable {category : Category} {entries : List Entry} {map : IdMap} {deeds : List Deed}
  {assignment : Assignment}

/-- A pair of the assignment is its only one with its name or its number. -/
theorem filter_pairs_eq_singleton (assigned : Assigned category entries map deeds assignment)
    {name : String} {number : Nat} (member : (name, number) ∈ assignment.pairs) :
    assignment.pairs.filter (fun pair => pair.1 = name ∨ pair.2 = number) = [(name, number)] := by
  have apart : assignment.pairs.Pairwise fun left right => left.1 ≠ right.1 ∧ left.2 ≠ right.2 :=
    List.pairwise_map.mpr (assigned.records_pairwise.imp And.symm)
  have names : (assignment.pairs.map Prod.fst).Nodup :=
    List.pairwise_map.mpr (apart.imp And.left)
  have numbers : (assignment.pairs.map Prod.snd).Nodup :=
    List.pairwise_map.mpr (apart.imp And.right)
  apply Selection.filter_eq_singleton (.of_map _ names) member
  · simp
  · intro other otherMem same
    rcases of_decide_eq_true same with sameName | sameNumber
    · exact List.inj_on_of_nodup_map names otherMem member sameName
    · exact List.inj_on_of_nodup_map numbers otherMem member sameNumber

/-- A function that declares a number has one current record, and it has this number. -/
theorem filter_current_eq_singleton (assigned : Assigned category entries map deeds assignment)
    {function : String} {number : Nat} (declares : ⟨function, some number⟩ ∈ entries) :
    (assignment.records.filter fun record =>
      record.function = function ∧ record.origin = .current).map Record.number = [number] := by
  obtain ⟨deed, deedMem, current⟩ := assigned.exists_current declares
  rw [assigned.filter_current deedMem current, List.map_singleton,
    assigned.number_eq_of_declares declares deedMem current]

/-- A pair whose number no other function declares is kept. -/
theorem mem_pairs_of_unclaimed (assigned : Assigned category entries map deeds assignment)
    (canonical : map.Canonical) {name : String} {number : Nat}
    (shipped : (name, number) ∈ map.entries)
    (unclaimed : ∀ entry ∈ entries, entry.declared = some number →
      entry.name = (VersionedName.ofName name).base) : (name, number) ∈ assignment.pairs := by
  obtain ⟨deed, deedMem, versionedEq, numberEq⟩ :=
    assigned.exists_deed_of_unclaimed shipped unclaimed
  have nameEq : deed.record.name = name := by
    calc
      deed.record.name = deed.record.versioned.name := rfl
      _ = (VersionedName.ofName name).name := congrArg VersionedName.name versionedEq
      _ = name := canonical _ shipped
  rw [← nameEq, ← numberEq]
  exact List.mem_map_of_mem (assigned.record_mem deedMem)

/-- A pair whose number another function declares goes on elsewhere, and one event says so. -/
theorem exists_goesOn_of_claimed (assigned : Assigned category entries map deeds assignment)
    {name : String} {number : Nat} (shipped : (name, number) ∈ map.entries) {claimant : String}
    (claims : ⟨claimant, some number⟩ ∈ entries)
    (different : claimant ≠ (VersionedName.ofName name).base) :
    ∃ record ∈ assignment.records, GoesOn entries map (VersionedName.ofName name).base record ∧
      assignment.events.filter (Event.gives name number claimant) =
        [.recycled name number claimant record.name record.number] := by
  have claimed := assigned.valid.claimant?_eq_some_iff.mpr ⟨claims, different⟩
  obtain ⟨origin, fresh, raised, deedMem, isFresh, isRaised⟩ :=
    assigned.exists_evict_of_claimed (IdMap.mem_versionsOf_of_mem shipped) claimed
  refine ⟨_, assigned.record_mem deedMem, ?_, ?_⟩
  · have untaken := isFresh.untaken
    rw [mem_taken_spaceOf_iff] at untaken
    push Not at untaken
    constructor
    · rfl
    · refine ⟨_, rfl, ?_⟩
      intro prior priorMem
      exact Nat.lt_of_le_of_lt (IdMap.rank_le_highestVersion priorMem) isRaised.highest_lt
    · rintro pair pairMem rfl
      exact untaken.1 (List.mem_map_of_mem pairMem)
    · exact untaken.2
  · rw [assigned.events_eq, List.filter_filterMap]
    apply Selection.filterMap_eq_singleton assigned.nodup_deeds deedMem
    · simp [Deed.event?, Event.gives]
    · intro other otherMem reports
      exact Selection.eq_of_nodup_filterMap assigned.nodup_shipped? otherMem deedMem
        (shipped?_eq_some_of_gives reports) rfl

/-- Every record is a shipped pair, goes back to an event, or is of a function that was not shipped.
-/
theorem record_cases (assigned : Assigned category entries map deeds assignment)
    (canonical : map.Canonical) {record : Record} (member : record ∈ assignment.records) :
    (record.name, record.number) ∈ map.entries ∨
      (∃ evicted number claimant,
        .recycled evicted number claimant record.name record.number ∈ assignment.events) ∨
      (∃ retained retainedNumber,
        .reversioned record.function retained retainedNumber record.name record.number ∈
          assignment.events) ∨
      (∃ entry ∈ entries, map.versionsOf entry.name = [] ∧ record.function = entry.name ∧
        record.version = none ∧ record.origin = .current) := by
  obtain ⟨deed, deedMem, rfl⟩ := assigned.mem_records_iff.mp member
  have reported : ∀ {event : Event}, deed.event? = some event → event ∈ assignment.events :=
    fun reports => assigned.event_mem deedMem reports
  cases assigned.justified deedMem with
  | adopt declares unshipped => exact .inr (.inr (.inr ⟨_, declares, unshipped, rfl, rfl, rfl⟩))
  | mint undeclared unshipped _ =>
      exact .inr (.inr (.inr ⟨_, undeclared, unshipped, rfl, rfl, rfl⟩))
  | keep shipped _ _ =>
      obtain ⟨pairMem, read⟩ := IdMap.mem_versionsOf_iff.mp shipped
      have nameEq := canonical _ pairMem
      rw [read] at nameEq
      apply Or.inl
      rw [Record.name, nameEq]
      exact pairMem
  | evict => exact .inr (.inl ⟨_, _, _, reported rfl⟩)
  | reversion => exact .inr (.inr (.inl ⟨_, _, reported rfl⟩))

/-- The records are as many as the shipped pairs, the functions that were not shipped and the
functions that moved to another number. -/
theorem length_records (assigned : Assigned category entries map deeds assignment) :
    assignment.records.length =
      map.entries.length + entries.countP (fun entry => map.versionsOf entry.name = []) +
        assignment.events.countP Event.isReversioned := by
  have shipped : (deeds.filterMap fun deed => deed.move.shipped?).length = map.entries.length :=
    assigned.shipped?_perm.length_eq
  have introduced : (deeds.filterMap fun deed => deed.move.introduced?).length =
      entries.countP fun entry => map.versionsOf entry.name = [] := by
    rw [assigned.filterMap_move, filterMap_introduced?_plan, List.length_map,
      List.countP_eq_length_filter]
  have reversioned : (deeds.filterMap fun deed => deed.move.reversioned?).length =
      assignment.events.countP Event.isReversioned := by
    rw [assigned.events_eq, List.countP_filterMap, List.length_filterMap_eq_countP]
    congr 1
    funext deed
    obtain ⟨move, record⟩ := deed
    cases move <;> rfl
  have total := length_eq_add_of_moves (deeds.map Deed.move)
  rw [List.filterMap_map, List.filterMap_map, List.filterMap_map] at total
  rw [assigned.records_eq, (sortRecords_perm _).length_eq, List.length_map, ← introduced,
    ← reversioned, ← shipped, ← List.length_map Deed.move]
  exact total

end Assigned

/-- An assignment after canonical names loses no shipped pair and holds nothing unexplained. -/
theorem assign_conserves (category : Category) (entries : List Entry) (map : IdMap)
    (canonical : map.Canonical) (assignment : Assignment)
    (ended : (assign category entries map).outcome = .ok assignment) :
    (∀ name number, (name, number) ∈ map.entries →
      let base := (VersionedName.ofName name).base
      ((∀ entry ∈ entries, entry.declared = some number → entry.name = base) →
        assignment.pairs.filter (fun pair => pair.1 = name ∨ pair.2 = number) =
          [(name, number)]) ∧
      ∀ claimant, ⟨claimant, some number⟩ ∈ entries → claimant ≠ base →
        (assignment.records.filter fun record =>
          record.function = claimant ∧ record.origin = .current).map Record.number = [number] ∧
        ∃ record ∈ assignment.records, GoesOn entries map base record ∧
          assignment.events.filter (Event.gives name number claimant) =
            [.recycled name number claimant record.name record.number]) ∧
    (∀ record ∈ assignment.records,
      (record.name, record.number) ∈ map.entries ∨
        (∃ evicted number claimant,
          .recycled evicted number claimant record.name record.number ∈ assignment.events) ∨
        (∃ retained retainedNumber,
          .reversioned record.function retained retainedNumber record.name record.number ∈
            assignment.events) ∨
        (∃ entry ∈ entries, map.versionsOf entry.name = [] ∧ record.function = entry.name ∧
          record.version = none ∧ record.origin = .current)) ∧
    assignment.records.length =
      map.entries.length + entries.countP (fun entry => map.versionsOf entry.name = []) +
        assignment.events.countP Event.isReversioned := by
  obtain ⟨deeds, assigned⟩ := exists_deeds_of_assign ended
  constructor
  · intro name number shipped base
    constructor
    · intro unclaimed
      exact assigned.filter_pairs_eq_singleton
        (assigned.mem_pairs_of_unclaimed canonical shipped unclaimed)
    · intro claimant claims different
      exact ⟨assigned.filter_current_eq_singleton claims,
        assigned.exists_goesOn_of_claimed shipped claims different⟩
  · constructor
    · intro record member
      exact assigned.record_cases canonical member
    · exact assigned.length_records

theorem assign_conserves_contested :
    Contested.map.Canonical ∧
      (assign Contested.category Contested.entries Contested.map).outcome =
        .ok Contested.assignment ∧
      Contested.assignment.pairs.filter (fun pair => pair.1 = "zeInit" ∨ pair.2 = 5) =
        [("zeInit", 5)] ∧
      Contested.assignment.records.length = Contested.map.entries.length +
        Contested.entries.countP (fun entry => Contested.map.versionsOf entry.name = []) +
          Contested.assignment.events.countP Event.isReversioned ∧
      ∃ record ∈ Contested.assignment.records,
        GoesOn Contested.entries Contested.map (VersionedName.ofName "zeInit_v2").base record ∧
          Contested.assignment.events.filter (Event.gives "zeInit_v2" 6 "zeOpen") =
            [.recycled "zeInit_v2" 6 "zeOpen" record.name record.number] := by
  obtain ⟨fate, origin, total⟩ :=
    assign_conserves Contested.category Contested.entries Contested.map
    Contested.canonical Contested.assignment Contested.ended
  have kept := (fate "zeInit" 5 (by decide)).1 (by decide +kernel)
  have claimed := (fate "zeInit_v2" 6 (by decide)).2 "zeOpen" (by decide) (by decide +kernel)
  exact ⟨Contested.canonical, Contested.ended, kept, total, claimed.2⟩

end ApiTrace
