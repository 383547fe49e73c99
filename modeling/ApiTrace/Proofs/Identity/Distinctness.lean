import ApiTrace.Proofs.Identity.Provenance

/-!
# No two records collide

The number of a record is shipped, fresh or declared, and its name is shipped, new or raised to a
fresh version. Two records of different kinds never agree, and neither do two of one kind, if the
shipped names read as different versions. So the check of the records never fires: an assignment
succeeds on well-declared entries as far as 32 bits go.
-/

namespace ApiTrace

/-- Two deeds of one run: no selection of the plan gives both the same, and what is fresh ascends.
-/
structure Deed.Apart (earlier later : Deed) : Prop where
  shipped : ∀ pair, earlier.move.shipped? = some pair → later.move.shipped? ≠ some pair
  introduced : ∀ function,
    earlier.move.introduced? = some function → later.move.introduced? ≠ some function
  declared : ∀ number, earlier.move.declared? = some number → later.move.declared? ≠ some number
  minted : earlier.move.mints → later.move.mints → earlier.record.number < later.record.number
  bumped : ∀ base, earlier.move.bumped? = some base → later.move.bumped? = some base →
    earlier.record.rank < later.record.rank

theorem Executed.pairwise_apart {category : Category} {entries : List Entry} {map : IdMap}
    {deeds : List Deed} (executed : Executed category entries map deeds) :
    deeds.Pairwise Deed.Apart := by
  have shipped := List.pairwise_filterMap.mp executed.nodup_shipped?
  have introduced := List.pairwise_filterMap.mp executed.nodup_introduced?
  have declared := List.pairwise_filterMap.mp executed.nodup_declared?
  have selections := shipped.and (introduced.and declared)
  have orders := executed.minted.and executed.bumped
  apply (selections.and orders).imp
  rintro earlier later ⟨⟨shipped, introduced, declared⟩, minted, bumped⟩
  exact {
    shipped := fun pair first second => shipped pair first pair second rfl
    introduced := fun function first second => introduced function first function second rfl
    declared := fun number first second => declared number first number second rfl
    minted := minted
    bumped := bumped }

section Collisions

variable {entries : List Entry} {map : IdMap}

/-- A kept number is no declared number that goes to another function. -/
private theorem shipped_ne_declared (valid : WellDeclared entries) {pair : String × Nat}
    (member : pair ∈ map.entries)
    (unclaimed : claimant? entries pair.2 (VersionedName.ofName pair.1).base = none)
    {function : String} {number : Nat} (declares : ⟨function, some number⟩ ∈ entries)
    (foreign : ∀ prior ∈ map.versionsOf function, prior.number ≠ number) : pair.2 ≠ number := by
  rintro rfl
  have owner : function = (VersionedName.ofName pair.1).base :=
    valid.claimant?_eq_none_iff.mp unclaimed _ declares rfl
  subst owner
  exact foreign _ (IdMap.mem_versionsOf_of_mem member) rfl

private theorem mem_numbers {pair : String × Nat} (member : pair ∈ map.entries) :
    pair.2 ∈ map.entries.map Prod.snd :=
  List.mem_map_of_mem member

theorem Numbered.number_ne (valid : WellDeclared entries) {earlier later : Deed}
    (apart : earlier.Apart later) (earlierNumbered : Numbered entries map earlier)
    (laterNumbered : Numbered entries map later) :
    earlier.record.number ≠ later.record.number := by
  intro same
  cases earlierNumbered with
  | shipped member disposes numberEq unclaimed =>
      cases laterNumbered with
      | shipped laterMem laterDisposes laterEq _ =>
          have pairEq := IdMap.eq_of_number_eq member laterMem
            (numberEq.symm.trans (same.trans laterEq))
          rw [← pairEq] at laterDisposes
          exact apart.shipped _ disposes laterDisposes
      | fresh _ unshipped _ =>
          rw [← same, numberEq] at unshipped
          exact unshipped (mem_numbers member)
      | declared _ declares foreign =>
          exact shipped_ne_declared valid member unclaimed declares foreign
            (numberEq.symm.trans same)
  | fresh mints unshipped undeclared =>
      cases laterNumbered with
      | shipped laterMem _ laterEq _ =>
          rw [same, laterEq] at unshipped
          exact unshipped (mem_numbers laterMem)
      | fresh laterMints _ _ => exact absurd same (Nat.ne_of_lt (apart.minted mints laterMints))
      | declared _ declares _ => exact undeclared _ declares (congrArg some same.symm)
  | declared gives declares foreign =>
      cases laterNumbered with
      | shipped laterMem _ laterEq laterUnclaimed =>
          exact shipped_ne_declared valid laterMem laterUnclaimed declares foreign
            (laterEq.symm.trans same.symm)
      | fresh _ _ undeclared => exact undeclared _ declares (congrArg some same)
      | declared laterGives _ _ =>
          rw [← same] at laterGives
          exact apart.declared _ gives laterGives

private theorem versionsOf_ne_nil {pair : String × Nat} (member : pair ∈ map.entries)
    {deed : Deed} (versionedEq : deed.record.versioned = VersionedName.ofName pair.1) :
    map.versionsOf deed.record.function ≠ [] := by
  intro none
  exact IdMap.versionsOf_eq_nil_iff.mp none pair member
    (congrArg VersionedName.base versionedEq).symm

/-- A kept version is at most the highest one. -/
private theorem rank_le_of_shipped {pair : String × Nat} (member : pair ∈ map.entries) {deed : Deed}
    (versionedEq : deed.record.versioned = VersionedName.ofName pair.1) :
    deed.record.rank ≤ map.highestVersion deed.record.function := by
  have versions := IdMap.mem_versionsOf_of_mem member
  rw [← versionedEq] at versions
  exact IdMap.rank_le_highestVersion versions

theorem Titled.versioned_ne (readsApart : map.ReadsApart) {earlier later : Deed}
    (apart : earlier.Apart later) (earlierTitled : Titled map earlier)
    (laterTitled : Titled map later) : earlier.record.versioned ≠ later.record.versioned := by
  intro same
  have functionEq : earlier.record.function = later.record.function :=
    congrArg VersionedName.base same
  have versionEq : earlier.record.version = later.record.version :=
    congrArg VersionedName.version same
  have rankEq : earlier.record.rank = later.record.rank := by
    rw [Record.rank, versionEq, Record.rank]
  cases earlierTitled with
  | shipped member disposes _ versionedEq =>
      cases laterTitled with
      | shipped laterMem laterDisposes _ laterEq =>
          have pairEq :=
            readsApart _ member _ laterMem (versionedEq.symm.trans (same.trans laterEq))
          rw [← pairEq] at laterDisposes
          exact apart.shipped _ disposes laterDisposes
      | introduced _ _ unshipped =>
          rw [← functionEq] at unshipped
          exact versionsOf_ne_nil member versionedEq unshipped
      | raised _ _ above =>
          rw [← functionEq, ← rankEq] at above
          exact absurd (rank_le_of_shipped member versionedEq) (Nat.not_le_of_lt above)
  | introduced introduces untagged unshipped =>
      cases laterTitled with
      | shipped laterMem _ _ laterEq =>
          rw [functionEq] at unshipped
          exact versionsOf_ne_nil laterMem laterEq unshipped
      | introduced laterIntroduces _ _ =>
          rw [← functionEq] at laterIntroduces
          exact apart.introduced _ introduces laterIntroduces
      | raised _ tagged _ =>
          rw [← versionEq, untagged] at tagged
          contradiction
  | raised bumps tagged above =>
      cases laterTitled with
      | shipped laterMem _ _ laterEq =>
          rw [functionEq, rankEq] at above
          exact absurd (rank_le_of_shipped laterMem laterEq) (Nat.not_le_of_lt above)
      | introduced _ untagged _ =>
          rw [versionEq, untagged] at tagged
          contradiction
      | raised laterBumps _ _ =>
          rw [← functionEq] at laterBumps
          exact absurd rankEq (Nat.ne_of_lt (apart.bumped _ bumps laterBumps))

end Collisions

/-- Records that a plan leads to never collide. -/
theorem Executed.distinct {category : Category} {entries : List Entry} {map : IdMap}
    {deeds : List Deed} (executed : Executed category entries map deeds) (named : map.Named)
    (readsApart : map.ReadsApart) (untagged : ∀ entry ∈ entries, entry.Untagged) :
    (deeds.map Deed.record).Pairwise Record.Distinct := by
  apply List.pairwise_map.mpr
  apply executed.pairwise_apart.imp_of_mem
  intro earlier later earlierMem laterMem apart
  constructor
  · exact Numbered.number_ne executed.valid apart (executed.numbered earlierMem)
      (executed.numbered laterMem)
  · intro sameName
    apply Titled.versioned_ne readsApart apart (executed.titled earlierMem)
      (executed.titled laterMem)
    exact VersionedName.eq_of_name_eq (executed.proper named untagged earlierMem)
      (executed.proper named untagged laterMem) sameName

/-- As far as 32 bits go, an assignment after canonical names succeeds exactly on well-declared
entries: whatever is evicted, raised and minted, the check of the records never fires. -/
theorem assign_succeeds_iff (category : Category) (entries : List Entry) (map : IdMap)
    (named : map.Named) (canonical : map.Canonical)
    (untagged : ∀ entry ∈ entries, entry.Untagged)
    (fits : (assign category entries map).outcome ≠ .error .exhausted) :
    (∃ assignment, (assign category entries map).outcome = .ok assignment) ↔
      (entries.map Entry.name).Nodup ∧ (∀ entry ∈ entries, entry.declared ≠ some 0) ∧
        (entries.filterMap Entry.declared).Nodup := by
  constructor
  · rintro ⟨assignment, ended⟩
    obtain ⟨deeds, assigned⟩ := exists_deeds_of_assign ended
    exact ⟨assigned.valid.names, assigned.valid.nonzero, assigned.valid.numbers⟩
  · rintro ⟨names, nonzero, numbers⟩
    have valid : WellDeclared entries := ⟨names, nonzero, numbers⟩
    cases carried : (plan entries map).foldlM
        (Numbering.carryOut (spaceOf category entries map)) {} with
    | error error =>
        rw [outcome_assign, checkEntries_nil_eq_ok_iff.mpr valid, carried,
          eq_exhausted_of_foldlM_eq_error carried] at fits
        exact absurd rfl fits
    | ok numbering =>
        obtain ⟨deeds, executed, recordsEq, _⟩ := exists_executed_of_foldlM valid carried
        have distinct := executed.distinct named canonical.readsApart untagged
        rw [← recordsEq] at distinct
        exact ⟨_, outcome_assign_eq_ok valid carried distinct⟩

theorem assign_succeeds_contested :
    Contested.map.Named ∧ Contested.map.Canonical ∧
      (∀ entry ∈ Contested.entries, entry.Untagged) ∧
      (assign Contested.category Contested.entries Contested.map).outcome ≠ .error .exhausted ∧
      ∃ assignment, (assign Contested.category Contested.entries Contested.map).outcome =
        .ok assignment := by
  have fits : (assign Contested.category Contested.entries Contested.map).outcome ≠
      .error .exhausted := by
    rw [Contested.ended]
    nofun
  have succeeds := assign_succeeds_iff Contested.category Contested.entries Contested.map
    Contested.named Contested.canonical Contested.untagged fits
  exact ⟨Contested.named, Contested.canonical, Contested.untagged, fits,
    succeeds.mpr (by decide)⟩

end ApiTrace
