import ApiTrace.Proofs.Identity.Provenance

/-!
# From one run to the next

What a regeneration ships is compared with what was shipped before it. No number and no version of a
function is lost, a number changes its function only to one that declares it, and a name that was
reached comes back only from a pair that reads alike. After canonical names that is the pair itself.
-/

namespace ApiTrace

/-- A version that a function has or is past. -/
def IdMap.Reached (map : IdMap) (versioned : VersionedName) : Prop :=
  ∃ prior ∈ map.versionsOf versioned.base, versioned.rank ≤ prior.rank

theorem IdMap.reached_of_mem {map : IdMap} {name : String} {number : Nat}
    (shipped : (name, number) ∈ map.entries) : map.Reached (VersionedName.ofName name) :=
  ⟨_, IdMap.mem_versionsOf_of_mem shipped, Nat.le_refl _⟩

/-- A name that is shipped only as in a reference, and cannot be new. -/
structure IdMap.Follows (reference map : IdMap) (name : String) : Prop where
  reached : map.Reached (VersionedName.ofName name)
  back : ∀ number, (name, number) ∈ map.entries → (name, number) ∈ reference.entries

theorem IdMap.Follows.refl {map : IdMap} {name : String}
    (reached : map.Reached (VersionedName.ofName name)) : map.Follows map name :=
  ⟨reached, fun _ shipped => shipped⟩

namespace Regenerated

variable {category : Category} {entries : List Entry} {map : IdMap} {deeds : List Deed}
  {assignment : Assignment} {shipped : IdMap} {name : String} {number : Nat}

/-! ## Numbers -/

/-- An unclaimed number stays with the name that reads alike. -/
theorem exists_alike_of_unclaimed
    (regenerated : Regenerated category entries map deeds assignment shipped)
    (before : (name, number) ∈ map.entries)
    (unclaimed : ∀ entry ∈ entries, entry.declared = some number →
      entry.name = (VersionedName.ofName name).base) :
    ∃ title, (title, number) ∈ shipped.entries ∧
      VersionedName.ofName title = VersionedName.ofName name := by
  obtain ⟨deed, deedMem, versionedEq, rfl⟩ :=
    regenerated.exists_deed_of_unclaimed before unclaimed
  have alike := regenerated.ofName_record deedMem
  rw [versionedEq] at alike
  exact ⟨_, regenerated.pair_mem_shipped deedMem, alike⟩

/-- A declared number goes to the function that declares it. -/
theorem exists_title_of_declares
    (regenerated : Regenerated category entries map deeds assignment shipped) {function : String}
    (declares : ⟨function, some number⟩ ∈ entries) :
    ∃ title, (title, number) ∈ shipped.entries ∧ (VersionedName.ofName title).base = function := by
  obtain ⟨deed, deedMem, current⟩ := regenerated.exists_current declares
  have numberEq := regenerated.number_eq_of_declares declares deedMem current
  have functionEq := ((regenerated.current?_eq_some_iff deedMem).mp current).1
  have titled := regenerated.pair_mem_shipped deedMem
  rw [numberEq] at titled
  have baseEq : (VersionedName.ofName deed.record.name).base = function := by
    rw [regenerated.ofName_record deedMem]
    exact functionEq
  exact ⟨deed.record.name, titled, baseEq⟩

/-- A number stays with its function, or goes to one that declares it. -/
theorem exists_owner
    (regenerated : Regenerated category entries map deeds assignment shipped)
    (before : (name, number) ∈ map.entries) :
    ∃ title, (title, number) ∈ shipped.entries ∧
      ((VersionedName.ofName title).base = (VersionedName.ofName name).base ∨
        ⟨(VersionedName.ofName title).base, some number⟩ ∈ entries) := by
  by_cases unclaimed : ∀ entry ∈ entries, entry.declared = some number →
      entry.name = (VersionedName.ofName name).base
  · obtain ⟨title, titled, alike⟩ := regenerated.exists_alike_of_unclaimed before unclaimed
    exact ⟨title, titled, .inl (congrArg VersionedName.base alike)⟩
  · push Not at unclaimed
    obtain ⟨⟨function, declared⟩, declares, declaredEq, _⟩ := unclaimed
    dsimp only at declaredEq
    subst declaredEq
    obtain ⟨title, titled, baseEq⟩ := regenerated.exists_title_of_declares declares
    rw [← baseEq] at declares
    exact ⟨title, titled, .inr declares⟩

/-- Fresh numbers were not shipped. -/
theorem ne_of_mints
    (regenerated : Regenerated category entries map deeds assignment shipped) {deed : Deed}
    (member : deed ∈ deeds) (mints : deed.move.mints) (before : (name, number) ∈ map.entries) :
    deed.record.number ≠ number := by
  rintro rfl
  have untaken := ((regenerated.yields deed member).fresh mints).untaken
  rw [mem_taken_spaceOf_iff] at untaken
  exact untaken (.inl (List.mem_map_of_mem before))

/-! ## Names -/

theorem reached {versioned : VersionedName}
    (regenerated : Regenerated category entries map deeds assignment shipped)
    (before : map.Reached versioned) : shipped.Reached versioned := by
  obtain ⟨prior, version, atMost⟩ := before
  obtain ⟨deed, deedMem, functionEq, raised⟩ := regenerated.exists_deed_of_version version
  have later := regenerated.version_mem_shipped deedMem
  rw [functionEq] at later
  exact ⟨_, later, Nat.le_trans atMost raised⟩

/-- A name that was reached comes from a pair that reads alike. -/
theorem exists_alike_of_reached
    (regenerated : Regenerated category entries map deeds assignment shipped)
    (before : map.Reached (VersionedName.ofName name)) (after : (name, number) ∈ shipped.entries) :
    ∃ old, (old, number) ∈ map.entries ∧
      VersionedName.ofName old = VersionedName.ofName name := by
  obtain ⟨deed, deedMem, pairEq⟩ := regenerated.mem_shipped_iff.mp after
  cases pairEq
  obtain ⟨prior, version, atMost⟩ := before
  rw [regenerated.ofName_record deedMem] at version atMost ⊢
  cases regenerated.titled deedMem with
  | @shipped pair member _ numberEq versionedEq =>
      rw [numberEq]
      exact ⟨pair.1, member, versionedEq.symm⟩
  | introduced _ _ unshipped =>
      have none : map.versionsOf deed.record.versioned.base = [] := unshipped
      rw [none] at version
      contradiction
  | raised _ _ above =>
      have rankLe : prior.rank ≤ map.highestVersion deed.record.function :=
        IdMap.rank_le_highestVersion version
      have atMost : deed.record.rank ≤ prior.rank := atMost
      omega

/-- After canonical names a name comes back only with its pair. -/
theorem mem_of_reached (regenerated : Regenerated category entries map deeds assignment shipped)
    (canonical : map.Canonical) (before : map.Reached (VersionedName.ofName name))
    (after : (name, number) ∈ shipped.entries) : (name, number) ∈ map.entries := by
  obtain ⟨old, oldMem, alike⟩ := regenerated.exists_alike_of_reached before after
  have same : old = name := by
    calc
      old = (VersionedName.ofName old).name := (canonical _ oldMem).symm
      _ = (VersionedName.ofName name).name := congrArg VersionedName.name alike
      _ = name := regenerated.canonical_shipped _ after
  rwa [← same]

theorem follows {reference : IdMap}
    (regenerated : Regenerated category entries map deeds assignment shipped)
    (canonical : map.Canonical) (before : reference.Follows map name) :
    reference.Follows shipped name where
  reached := regenerated.reached before.reached
  back other after := before.back other (regenerated.mem_of_reached canonical before.reached after)

/-- A name keeps its number exactly if no other function declares the number. -/
theorem number_eq_iff {otherNumber : Nat}
    (regenerated : Regenerated category entries map deeds assignment shipped)
    (before : (name, number) ∈ map.entries) (after : (name, otherNumber) ∈ shipped.entries) :
    number = otherNumber ↔ ∀ entry ∈ entries, entry.declared = some number →
      entry.name = (VersionedName.ofName name).base := by
  constructor
  · rintro rfl ⟨function, declared⟩ member declares
    dsimp only at declares
    subst declares
    obtain ⟨title, titled, baseEq⟩ := regenerated.exists_title_of_declares member
    cases IdMap.eq_of_number_eq titled after rfl
    exact baseEq.symm
  · intro unclaimed
    obtain ⟨title, titled, alike⟩ := regenerated.exists_alike_of_unclaimed before unclaimed
    have same : title = name := by
      calc
        title = (VersionedName.ofName title).name :=
          (regenerated.canonical_shipped _ titled).symm
        _ = (VersionedName.ofName name).name := congrArg VersionedName.name alike
        _ = name := regenerated.canonical_shipped _ after
    subst same
    exact congrArg Prod.snd (IdMap.eq_of_name_eq titled after rfl)

end Regenerated

end ApiTrace
