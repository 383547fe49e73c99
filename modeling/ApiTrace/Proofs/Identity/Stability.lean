import ApiTrace.Proofs.Identity.Names

/-!
# Numbering again changes nothing

After an assignment every function of its header is shipped, and every declared number is shipped
under the function that declares it. On such a map a plan only keeps, so it can be carried out,
reports nothing, and leads to the shipped pairs. So a second run on what the first one shipped gives
the same pairs, whatever the first one evicted and reversioned.
-/

namespace ApiTrace

/-- A header whose functions are all shipped, every declared number under the function that declares
it. -/
structure Settled (entries : List Entry) (map : IdMap) : Prop where
  valid : WellDeclared entries
  known : ∀ entry ∈ entries, map.versionsOf entry.name ≠ []
  owned : ∀ entry ∈ entries, ∀ number, entry.declared = some number →
    ∃ prior ∈ map.versionsOf entry.name, prior.number = number

namespace Settled

variable {entries : List Entry} {map : IdMap}

/-- Nobody claims a number of another function. -/
theorem claimant?_eq_none (settled : Settled entries map) {base : String} {prior : Prior}
    (shipped : prior ∈ map.versionsOf base) : claimant? entries prior.number base = none := by
  apply settled.valid.claimant?_eq_none_iff.mpr
  intro entry member declares
  obtain ⟨own, ownMem, same⟩ := settled.owned entry member prior.number declares
  have ownEq : own = prior := IdMap.eq_of_mem_versionsOf ownMem shipped same
  have ownRead := (IdMap.mem_versionsOf_iff.mp ownMem).2
  have read := (IdMap.mem_versionsOf_iff.mp shipped).2
  rw [ownEq, read] at ownRead
  exact (congrArg VersionedName.base ownRead).symm

/-- A plan only keeps. -/
theorem exists_keep (settled : Settled entries map) {move : Move}
    (member : move ∈ plan entries map) :
    ∃ base prior origin, prior ∈ map.versionsOf base ∧ move = .keep base prior origin := by
  cases decided_of_mem_plan member with
  | adopt declares unshipped => exact absurd unshipped (settled.known _ declares)
  | mint undeclared unshipped => exact absurd unshipped (settled.known _ undeclared)
  | keep shipped _ _ => exact ⟨_, _, _, shipped, rfl⟩
  | evict shipped claimed _ =>
      rw [settled.claimant?_eq_none shipped] at claimed
      contradiction
  | reversion declares continues changes =>
      obtain ⟨own, ownMem, rfl⟩ := settled.owned _ declares _ rfl
      rw [IdMap.prior?_eq_some_of_number_eq ownMem] at continues
      cases continues
      contradiction

end Settled

/-- What only keeps can be carried out. -/
private theorem exists_foldlM_keep {space : NumberSpace} {moves : List Move}
    (keeps : ∀ move ∈ moves, ∃ base prior origin, move = .keep base prior origin)
    (numbering : Numbering) :
    ∃ after, moves.foldlM (Numbering.carryOut space) numbering = .ok after := by
  induction moves generalizing numbering with
  | nil => exact ⟨numbering, rfl⟩
  | cons move moves ih =>
      obtain ⟨base, prior, origin, rfl⟩ := keeps move List.mem_cons_self
      rw [List.foldlM_cons]
      exact ih (fun other member => keeps other (List.mem_cons_of_mem _ member)) _

namespace Executed

variable {category : Category} {entries : List Entry} {map : IdMap} {deeds : List Deed}

/-- On a settled header every deed has the pair that it keeps. -/
theorem keeps_of_settled (executed : Executed category entries map deeds)
    (settled : Settled entries map) (canonical : map.Canonical) {deed : Deed}
    (member : deed ∈ deeds) :
    deed.event? = none ∧ deed.move.shipped? = some (deed.record.name, deed.record.number) := by
  have planned : deed.move ∈ plan entries map := by
    rw [← executed.moves]
    exact List.mem_map_of_mem member
  have yields := executed.yields deed member
  obtain ⟨base, prior, origin, shipped, keeps⟩ := settled.exists_keep planned
  obtain ⟨move, record⟩ := deed
  dsimp only at keeps yields
  subst keeps
  cases yields
  obtain ⟨pairMem, read⟩ := IdMap.mem_versionsOf_iff.mp shipped
  have nameEq := canonical _ pairMem
  rw [read] at nameEq
  constructor
  · rfl
  · exact congrArg (fun name => some (name, prior.number)) nameEq.symm

theorem pairs_perm_of_settled (executed : Executed category entries map deeds)
    (settled : Settled entries map) (canonical : map.Canonical) :
    (deeds.map fun deed => (deed.record.name, deed.record.number)).Perm map.entries := by
  have kept : deeds.filterMap (fun deed => deed.move.shipped?) =
      deeds.filterMap fun deed => some (deed.record.name, deed.record.number) :=
    List.filterMap_congr fun deed member =>
      (executed.keeps_of_settled settled canonical member).2
  rw [List.filterMap_eq_map'] at kept
  rw [← kept]
  exact executed.shipped?_perm

end Executed

/-- A settled header is numbered by the shipped pairs. -/
theorem Settled.exists_assign {entries : List Entry} {map : IdMap} (settled : Settled entries map)
    (canonical : map.Canonical) (category : Category) :
    ∃ assignment, (assign category entries map).outcome = .ok assignment ∧
      assignment.pairs.Perm map.entries ∧ assignment.events = [] := by
  obtain ⟨numbering, carried⟩ : ∃ numbering, (plan entries map).foldlM
      (Numbering.carryOut (spaceOf category entries map)) {} = .ok numbering := by
    apply exists_foldlM_keep
    intro move member
    obtain ⟨base, prior, origin, _, keeps⟩ := settled.exists_keep member
    exact ⟨base, prior, origin, keeps⟩
  obtain ⟨deeds, executed, recordsEq, eventsEq⟩ := exists_executed_of_foldlM settled.valid carried
  have pairsPerm := executed.pairs_perm_of_settled settled canonical
  have distinct : numbering.records.Pairwise Record.Distinct := by
    have apart : (deeds.map fun deed => (deed.record.name, deed.record.number)).Pairwise
        fun left right => left.2 ≠ right.2 ∧ left.1 ≠ right.1 := by
      apply (pairsPerm.pairwise_iff fun different => ⟨different.1.symm, different.2.symm⟩).mpr
      exact map.distinct.and (List.pairwise_map.mp map.nodup_names)
    rw [recordsEq]
    apply List.pairwise_map.mpr
    exact (List.pairwise_map.mp apart).imp fun different => different
  refine ⟨_, outcome_assign_eq_ok settled.valid carried distinct, ?_, ?_⟩
  · have sorted := (sortRecords_perm numbering.records).map fun record =>
      (record.name, record.number)
    rw [recordsEq, List.map_map] at sorted
    rw [Assignment.pairs, recordsEq]
    exact sorted.trans pairsPerm
  · rw [eventsEq, List.filterMap_eq_nil_iff]
    intro deed member
    exact (executed.keeps_of_settled settled canonical member).1

/-- After an assignment was read back its header is settled. -/
theorem ReadBack.settled {category : Category} {entries : List Entry} {map shipped : IdMap}
    {deeds : List Deed} {assignment : Assignment}
    (readBack : ReadBack category entries map deeds assignment shipped) :
    Settled entries shipped where
  valid := readBack.valid
  known entry member := by
    obtain ⟨deed, deedMem, current⟩ := readBack.exists_current member
    exact List.ne_nil_of_mem (readBack.current_version_mem member deedMem current)
  owned entry member number declares := by
    obtain ⟨name, declared⟩ := entry
    dsimp only at declares
    subst declares
    obtain ⟨deed, deedMem, current⟩ := readBack.exists_current member
    have version := readBack.current_version_mem member deedMem current
    exact ⟨_, version, readBack.number_eq_of_declares member deedMem current⟩

/-- The records of an assignment ascend by number. -/
theorem Assigned.records_ascending {category : Category} {entries : List Entry} {map : IdMap}
    {deeds : List Deed} {assignment : Assignment}
    (assigned : Assigned category entries map deeds assignment) :
    assignment.records.Pairwise fun left right => left.number < right.number := by
  apply (assigned.records_sorted.and assigned.records_pairwise).imp
  rintro left right ⟨atMost, different, _⟩
  exact Nat.lt_of_le_of_ne atMost different

theorem Assigned.pairs_ascending {category : Category} {entries : List Entry} {map : IdMap}
    {deeds : List Deed} {assignment : Assignment}
    (assigned : Assigned category entries map deeds assignment) :
    assignment.pairs.Pairwise fun left right => left.2 < right.2 :=
  List.pairwise_map.mpr assigned.records_ascending

/-- What was read back is numbered again by the same pairs, without an event. -/
theorem ReadBack.exists_again {category : Category} {entries : List Entry} {map shipped : IdMap}
    {deeds : List Deed} {assignment : Assignment}
    (readBack : ReadBack category entries map deeds assignment shipped) :
    ∃ again, (assign category entries shipped).outcome = .ok again ∧
      again.pairs = assignment.pairs ∧ again.events = [] := by
  obtain ⟨again, endedAgain, pairsPerm, quiet⟩ :=
    readBack.settled.exists_assign readBack.canonical_shipped category
  obtain ⟨deedsAgain, assignedAgain⟩ := exists_deeds_of_assign endedAgain
  have samePairs : again.pairs.Perm assignment.pairs :=
    pairsPerm.trans (Assignment.perm_pairs_of_toMap readBack.read)
  have pairsEq : again.pairs = assignment.pairs :=
    samePairs.eq_of_pairwise
      (fun _ _ _ _ before after => absurd before (Nat.not_lt_of_lt after))
      assignedAgain.pairs_ascending readBack.pairs_ascending
  exact ⟨again, endedAgain, pairsEq, quiet⟩

/-- Numbering again what an assignment shipped succeeds with the same pairs and reports nothing. -/
theorem assign_again (category : Category) (entries : List Entry) (map : IdMap)
    (named : map.Named) (untagged : ∀ entry ∈ entries, entry.Untagged) (assignment : Assignment)
    (ended : (assign category entries map).outcome = .ok assignment) :
    ∃ shipped again, assignment.toMap = .ok shipped ∧
      (assign category entries shipped).outcome = .ok again ∧
        again.pairs = assignment.pairs ∧ again.events = [] := by
  obtain ⟨deeds, assigned⟩ := exists_deeds_of_assign ended
  obtain ⟨shipped, read⟩ := assigned.exists_toMap
  have regenerated : Regenerated category entries map deeds assignment shipped :=
    ⟨assigned, named, untagged, read⟩
  obtain ⟨again, endedAgain, pairsEq, quiet⟩ := regenerated.readBack.exists_again
  exact ⟨shipped, again, read, endedAgain, pairsEq, quiet⟩

theorem assign_again_contested :
    Contested.map.Named ∧ (∀ entry ∈ Contested.entries, entry.Untagged) ∧
      (assign Contested.category Contested.entries Contested.map).outcome =
        .ok Contested.assignment ∧
      ∃ shipped again, Contested.assignment.toMap = .ok shipped ∧
        (assign Contested.category Contested.entries shipped).outcome = .ok again ∧
          again.pairs = Contested.assignment.pairs ∧ again.events = [] :=
  ⟨Contested.named, Contested.untagged, Contested.ended,
    assign_again Contested.category Contested.entries Contested.map Contested.named
      Contested.untagged Contested.assignment Contested.ended⟩

end ApiTrace
