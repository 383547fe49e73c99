import ApiTrace.Identity.IdMap
import ApiTrace.Proofs.Identity.Version
import ApiTrace.Proofs.Sequence
import Mathlib.Data.List.Nodup

/-!
# Shipped pairs

What is in a map of shipped numbers, said by its pairs: a look-up finds exactly the pairs, the
versions of a function are exactly the pairs whose names read as that function, and a map built from
pairs holds these pairs and no others.
-/

namespace ApiTrace

namespace NameMap

variable {α : Type}

private theorem lookup_eq_some_iff {entries : List (String × α)}
    (ascending : entries.Pairwise fun left right => left.1 < right.1) {name : String} {value : α} :
    entries.lookup name = some value ↔ (name, value) ∈ entries := by
  induction entries with
  | nil => simp
  | cons head entries ih =>
      obtain ⟨above, rest⟩ := List.pairwise_cons.mp ascending
      obtain ⟨other, kept⟩ := head
      by_cases same : name = other
      · subst same
        have absent : (name, value) ∉ entries := by
          intro member
          exact String.lt_irrefl name (above _ member)
        simp [absent, eq_comm]
      · rw [List.lookup_cons, beq_false_of_ne same]
        simp [ih rest, same]

theorem find?_eq_some_iff {map : NameMap α} {name : String} {value : α} :
    map.find? name = some value ↔ (name, value) ∈ map.entries :=
  lookup_eq_some_iff map.ascending

theorem contains_eq_false_iff {map : NameMap α} {name : String} :
    map.contains name = false ↔ ∀ entry ∈ map.entries, entry.1 ≠ name := by
  rw [contains, Option.isSome_eq_false_iff, Option.isNone_iff_eq_none,
    Option.eq_none_iff_forall_ne_some]
  constructor
  · rintro absent ⟨other, value⟩ member rfl
    exact absent value (find?_eq_some_iff.mpr member)
  · intro absent value found
    exact absent _ (find?_eq_some_iff.mp found) rfl

theorem perm_putEntry {name : String} {value : α} {entries : List (String × α)}
    (absent : ∀ entry ∈ entries, entry.1 ≠ name) :
    (putEntry name value entries).Perm ((name, value) :: entries) := by
  induction entries with
  | nil => exact .refl _
  | cons head entries ih =>
      have different : name ≠ head.1 := (absent head List.mem_cons_self).symm
      have rest := ih fun entry member => absent entry (List.mem_cons_of_mem head member)
      simp only [putEntry, different, if_false]
      split
      · exact .refl _
      · exact (rest.cons head).trans (.swap _ _ _)

theorem nodup_names (map : NameMap α) : (map.entries.map Prod.fst).Nodup := by
  apply List.pairwise_map.mpr
  apply map.ascending.imp
  intro left right before same
  rw [same] at before
  exact String.lt_irrefl _ before

/-- A map is its entries, in whatever order they are listed. -/
theorem eq_of_entries_perm {left right : NameMap α} (perm : left.entries.Perm right.entries) :
    left = right := by
  have same : left.entries = right.entries := by
    apply perm.eq_of_pairwise _ left.ascending right.ascending
    intro first second _ _ before after
    exact absurd (String.lt_trans before after) (String.lt_irrefl _)
  cases left
  cases right
  cases same
  rfl

end NameMap

namespace IdMap

variable {map : IdMap}

theorem find?_eq_some_iff {name : String} {number : Nat} :
    map.find? name = some number ↔ (name, number) ∈ map.entries :=
  NameMap.find?_eq_some_iff

theorem nodup_names (map : IdMap) : (map.entries.map Prod.fst).Nodup :=
  NameMap.nodup_names map.numbers

theorem nodup_numbers (map : IdMap) : (map.entries.map Prod.snd).Nodup :=
  List.pairwise_map.mpr map.distinct

theorem nodup_entries (map : IdMap) : map.entries.Nodup :=
  .of_map _ map.nodup_names

theorem eq_of_number_eq {first second : String × Nat} (firstMem : first ∈ map.entries)
    (secondMem : second ∈ map.entries) (same : first.2 = second.2) : first = second :=
  List.inj_on_of_nodup_map map.nodup_numbers firstMem secondMem same

theorem eq_of_name_eq {first second : String × Nat} (firstMem : first ∈ map.entries)
    (secondMem : second ∈ map.entries) (same : first.1 = second.1) : first = second :=
  List.inj_on_of_nodup_map map.nodup_names firstMem secondMem same

theorem owner?_eq_some_iff {number : Nat} {name : String} :
    map.owner? number = some name ↔ (name, number) ∈ map.entries := by
  rw [owner?, Option.map_eq_some_iff]
  constructor
  · rintro ⟨⟨other, otherNumber⟩, found, rfl⟩
    have same : otherNumber = number := by simpa using List.find?_some found
    rw [← same]
    exact List.mem_of_find?_eq_some found
  · intro member
    cases found : map.entries.find? fun entry => entry.2 = number with
    | none => simpa using List.find?_eq_none.mp found _ member
    | some other =>
        have same : other.2 = number := by simpa using List.find?_some found
        exact ⟨other, rfl, congrArg Prod.fst
          (eq_of_number_eq (List.mem_of_find?_eq_some found) member same)⟩

/-! ## Versions of a function -/

theorem mem_versionsOf_iff {base : String} {prior : Prior} :
    prior ∈ map.versionsOf base ↔
      (prior.name, prior.number) ∈ map.entries ∧
        VersionedName.ofName prior.name = ⟨base, prior.version⟩ := by
  simp only [versionsOf, List.mem_filterMap]
  constructor
  · rintro ⟨⟨name, number⟩, member, chosen⟩
    dsimp only at chosen
    split at chosen
    · rename_i sameBase
      cases chosen
      rw [← sameBase]
      exact ⟨member, rfl⟩
    · contradiction
  · rintro ⟨member, read⟩
    refine ⟨(prior.name, prior.number), member, ?_⟩
    simp [read]

/-- A pair as a version of the function that its name reads as. -/
theorem mem_versionsOf_of_mem {name : String} {number : Nat}
    (member : (name, number) ∈ map.entries) :
    ⟨name, number, (VersionedName.ofName name).version⟩ ∈
      map.versionsOf (VersionedName.ofName name).base :=
  mem_versionsOf_iff.mpr ⟨member, rfl⟩

theorem eq_of_mem_versionsOf {base otherBase : String} {prior other : Prior}
    (member : prior ∈ map.versionsOf base) (otherMem : other ∈ map.versionsOf otherBase)
    (sameNumber : prior.number = other.number) : prior = other := by
  obtain ⟨name, number, version⟩ := prior
  obtain ⟨otherName, otherNumber, otherVersion⟩ := other
  obtain ⟨shipped, read⟩ := mem_versionsOf_iff.mp member
  obtain ⟨otherShipped, otherRead⟩ := mem_versionsOf_iff.mp otherMem
  cases eq_of_number_eq shipped otherShipped sameNumber
  rw [read] at otherRead
  cases otherRead
  rfl

/-- A shipped pair is one version of one function. -/
theorem eq_of_pair_eq {base otherBase : String} {prior other : Prior}
    (member : prior ∈ map.versionsOf base) (otherMem : other ∈ map.versionsOf otherBase)
    (same : (prior.name, prior.number) = (other.name, other.number)) :
    base = otherBase ∧ prior = other := by
  cases eq_of_mem_versionsOf member otherMem (congrArg Prod.snd same)
  have read := (mem_versionsOf_iff.mp member).2
  rw [(mem_versionsOf_iff.mp otherMem).2] at read
  exact ⟨(congrArg VersionedName.base read).symm, rfl⟩

theorem versionsOf_eq_nil_iff {base : String} :
    map.versionsOf base = [] ↔
      ∀ entry ∈ map.entries, (VersionedName.ofName entry.1).base ≠ base := by
  rw [List.eq_nil_iff_forall_not_mem]
  constructor
  · rintro none ⟨name, number⟩ member rfl
    exact none _ (mem_versionsOf_of_mem member)
  · intro none prior member
    obtain ⟨shipped, read⟩ := mem_versionsOf_iff.mp member
    exact none _ shipped (congrArg VersionedName.base read)

private theorem le_foldl_rank (versions : List Prior) (start : Nat) :
    start ≤ versions.foldl (fun best prior => max best prior.rank) start ∧
      ∀ prior ∈ versions,
        prior.rank ≤ versions.foldl (fun best prior => max best prior.rank) start := by
  induction versions generalizing start with
  | nil => simp
  | cons head versions ih =>
      obtain ⟨startLe, restLe⟩ := ih (max start head.rank)
      rw [List.foldl_cons]
      constructor
      · omega
      · intro prior member
        rcases List.mem_cons.mp member with rfl | member
        · omega
        · exact restLe prior member

theorem rank_le_highestVersion {base : String} {prior : Prior}
    (member : prior ∈ map.versionsOf base) : prior.rank ≤ map.highestVersion base :=
  (le_foldl_rank (map.versionsOf base) 1).2 prior member

theorem one_le_rank {base : String} {prior : Prior} (member : prior ∈ map.versionsOf base) :
    1 ≤ prior.rank := by
  have read := (mem_versionsOf_iff.mp member).2
  rw [Prior.rank]
  cases version : prior.version with
  | none => exact Nat.le_refl 1
  | some value =>
      rw [version] at read
      exact Nat.le_of_succ_le (VersionedName.two_le_of_ofName_eq read)

theorem one_le_highestVersion (base : String) : 1 ≤ map.highestVersion base :=
  (le_foldl_rank (map.versionsOf base) 1).1

private theorem foldl_rank_le {versions : List Prior} {start bound : Nat} (startLe : start ≤ bound)
    (atMost : ∀ prior ∈ versions, prior.rank ≤ bound) :
    versions.foldl (fun best prior => max best prior.rank) start ≤ bound := by
  induction versions generalizing start with
  | nil => exact startLe
  | cons head versions ih =>
      obtain ⟨headLe, restLe⟩ := List.forall_mem_cons.mp atMost
      exact ih (Nat.max_le.mpr ⟨startLe, headLe⟩) restLe

theorem highestVersion_le {base : String} {bound : Nat} (positive : 1 ≤ bound)
    (atMost : ∀ prior ∈ map.versionsOf base, prior.rank ≤ bound) :
    map.highestVersion base ≤ bound :=
  foldl_rank_le positive atMost

/-! ## The entry that a function continues -/

private theorem exists_highest? (prior : Prior) (versions : List Prior) :
    ∃ best, highest? (prior :: versions) = some best ∧ best ∈ prior :: versions ∧
      ∀ other ∈ prior :: versions, other.rank ≤ best.rank := by
  unfold highest?
  rw [List.foldl_cons]
  dsimp only
  induction versions generalizing prior with
  | nil => simp
  | cons next versions ih =>
      rw [List.foldl_cons]
      dsimp only
      simp only [List.forall_mem_cons]
      split
      · rename_i higher
        obtain ⟨best, found, member, atLeast⟩ := ih next
        have nextLe := atLeast next List.mem_cons_self
        refine ⟨best, found, List.mem_cons_of_mem prior member, ?_⟩
        exact ⟨Nat.le_of_lt (Nat.lt_of_lt_of_le higher nextLe), List.forall_mem_cons.mp atLeast⟩
      · rename_i notHigher
        obtain ⟨best, found, member, atLeast⟩ := ih prior
        obtain ⟨priorLe, restLe⟩ := List.forall_mem_cons.mp atLeast
        refine ⟨best, found, ?_, priorLe, Nat.le_trans (Nat.le_of_not_lt notHigher) priorLe, restLe⟩
        rcases List.mem_cons.mp member with rfl | member
        · exact List.mem_cons_self
        · exact List.mem_cons_of_mem _ (List.mem_cons_of_mem next member)

private theorem highest?_eq_some {versions : List Prior} {best : Prior}
    (found : highest? versions = some best) :
    best ∈ versions ∧ ∀ other ∈ versions, other.rank ≤ best.rank := by
  cases versions with
  | nil => contradiction
  | cons prior versions =>
      obtain ⟨actual, actualFound, member, atLeast⟩ := exists_highest? prior versions
      rw [found] at actualFound
      cases actualFound
      exact ⟨member, atLeast⟩

/-- A function continues an entry exactly when it was shipped. -/
theorem prior?_eq_none_iff {base : String} {declared : Option Nat} :
    map.prior? base declared = none ↔ map.versionsOf base = [] := by
  rw [prior?]
  constructor
  · intro absent
    cases versions : map.versionsOf base with
    | nil => rfl
    | cons prior rest =>
        obtain ⟨best, found, _⟩ := exists_highest? prior rest
        simp [versions, found] at absent
  · intro none
    simp [none, highest?]

theorem prior?_mem {base : String} {declared : Option Nat} {prior : Prior}
    (continues : map.prior? base declared = some prior) : prior ∈ map.versionsOf base := by
  rw [prior?, Option.or_eq_some_iff] at continues
  rcases continues with declares | ⟨_, highest⟩
  · exact List.mem_of_find?_eq_some declares
  · exact (highest?_eq_some highest).1

/-- Without a declared number a function continues its highest version. -/
theorem rank_le_of_prior? {base : String} {prior other : Prior}
    (continues : map.prior? base none = some prior) (member : other ∈ map.versionsOf base) :
    other.rank ≤ prior.rank := by
  have undeclared : ((map.versionsOf base).find? fun prior => none = some prior.number) = none := by
    simp
  rw [prior?, undeclared, Option.none_or] at continues
  exact (highest?_eq_some continues).2 other member

/-- A function continues the entry that has its declared number, if it is one of its versions. -/
theorem prior?_eq_some_of_number_eq {base : String} {prior : Prior}
    (member : prior ∈ map.versionsOf base) :
    map.prior? base (some prior.number) = some prior := by
  cases found : (map.versionsOf base).find? fun other => some prior.number = some other.number with
  | none => simpa using List.find?_eq_none.mp found prior member
  | some other =>
      have sameNumber : prior.number = other.number := by simpa using List.find?_some found
      have same := eq_of_mem_versionsOf member (List.mem_of_find?_eq_some found) sameNumber
      rw [prior?, found, Option.some_or, same]

/-! ## Maps of pairs -/

theorem perm_of_insert {after : IdMap} {scope name : String} {number : Nat}
    (inserted : map.insert scope name number = .ok after) :
    after.entries.Perm ((name, number) :: map.entries) := by
  unfold insert at inserted
  split at inserted
  · contradiction
  · split at inserted
    · contradiction
    · split at inserted
      · contradiction
      · rename_i absent
        cases inserted
        exact NameMap.perm_putEntry
          (NameMap.contains_eq_false_iff.mp (Bool.eq_false_iff.mpr absent))

theorem exists_insert {name : String} {number : Nat} (scope : String) (positive : 0 < number)
    (absent : ∀ entry ∈ map.entries, entry.1 ≠ name ∧ entry.2 ≠ number) :
    ∃ after, map.insert scope name number = .ok after := by
  have nonzero : number ≠ 0 := Nat.ne_of_gt positive
  have free : map.owner? number = none := by
    rw [owner?, Option.map_eq_none_iff, List.find?_eq_none]
    intro entry member
    simpa using (absent entry member).2
  have unnamed : map.numbers.contains name = false :=
    NameMap.contains_eq_false_iff.mpr fun entry member => (absent entry member).1
  unfold insert
  rw [dif_neg nonzero]
  split
  · rename_i first taken
    rw [free] at taken
    contradiction
  · rw [unnamed]
    exact ⟨_, rfl⟩

/-- Inserting pairs one after the other keeps all of them. -/
theorem perm_of_foldlM_insert {after : IdMap} {scope : String} {pairs : List (String × Nat)}
    (inserted : pairs.foldlM (fun map pair => map.insert scope pair.1 pair.2) map = .ok after) :
    after.entries.Perm (map.entries ++ pairs) := by
  induction pairs generalizing map with
  | nil =>
      cases inserted
      simp
  | cons pair pairs ih =>
      rw [List.foldlM_cons] at inserted
      obtain ⟨middle, first, inserted⟩ := bind_eq_ok inserted
      have rest := ih inserted
      have head := (perm_of_insert first).append_right pairs
      exact (rest.trans head).trans List.perm_middle.symm

theorem exists_foldlM_insert {pairs : List (String × Nat)} (scope : String)
    (positive : ∀ pair ∈ pairs, 0 < pair.2)
    (apart : pairs.Pairwise fun left right => left.1 ≠ right.1 ∧ left.2 ≠ right.2)
    (absent : ∀ pair ∈ pairs, ∀ entry ∈ map.entries, entry.1 ≠ pair.1 ∧ entry.2 ≠ pair.2) :
    ∃ after, pairs.foldlM (fun map pair => map.insert scope pair.1 pair.2) map = .ok after := by
  induction pairs generalizing map with
  | nil => exact ⟨map, rfl⟩
  | cons pair pairs ih =>
      obtain ⟨headApart, restApart⟩ := List.pairwise_cons.mp apart
      obtain ⟨middle, inserted⟩ := exists_insert scope
        (positive pair List.mem_cons_self) (absent pair List.mem_cons_self)
      have restAbsent : ∀ other ∈ pairs, ∀ entry ∈ middle.entries,
          entry.1 ≠ other.1 ∧ entry.2 ≠ other.2 := by
        intro other otherMem entry entryMem
        rcases List.mem_cons.mp ((perm_of_insert inserted).mem_iff.mp entryMem) with rfl | entryMem
        · exact headApart other otherMem
        · exact absent other (List.mem_cons_of_mem pair otherMem) entry entryMem
      obtain ⟨after, restInserted⟩ := ih
        (fun other member => positive other (List.mem_cons_of_mem pair member)) restApart restAbsent
      refine ⟨after, ?_⟩
      rw [List.foldlM_cons, inserted]
      exact restInserted

theorem perm_of_ofPairs {after : IdMap} {scope : String} {pairs : List (String × Nat)}
    (made : ofPairs scope pairs = .ok after) : after.entries.Perm pairs := by
  simpa [EmptyCollection.emptyCollection, empty, entries, NameMap.empty]
    using perm_of_foldlM_insert made

theorem exists_ofPairs {pairs : List (String × Nat)} (scope : String)
    (positive : ∀ pair ∈ pairs, 0 < pair.2)
    (apart : pairs.Pairwise fun left right => left.1 ≠ right.1 ∧ left.2 ≠ right.2) :
    ∃ after, ofPairs scope pairs = .ok after := by
  apply exists_foldlM_insert scope positive apart
  intro pair _ entry member
  exact (List.not_mem_nil member).elim

/-! ## The order of the pairs -/

theorem nextFree_of_insert {after : IdMap} {scope name : String} {number : Nat}
    (inserted : map.insert scope name number = .ok after) :
    after.nextFree = max map.nextFree (min (number + 1) Text.maxWord) := by
  unfold insert at inserted
  split at inserted
  · contradiction
  · split at inserted
    · contradiction
    · split at inserted
      · contradiction
      · cases inserted
        rfl

/-- Where numbers start after pairs were inserted. -/
def startAfter (start : Nat) (pairs : List (String × Nat)) : Nat :=
  pairs.foldl (fun start pair => max start (min (pair.2 + 1) Text.maxWord)) start

theorem nextFree_of_foldlM_insert {after : IdMap} {scope : String} {pairs : List (String × Nat)}
    (inserted : pairs.foldlM (fun map pair => map.insert scope pair.1 pair.2) map = .ok after) :
    after.nextFree = startAfter map.nextFree pairs := by
  induction pairs generalizing map with
  | nil =>
      cases inserted
      rfl
  | cons pair pairs ih =>
      rw [List.foldlM_cons] at inserted
      obtain ⟨middle, first, inserted⟩ := bind_eq_ok inserted
      rw [ih inserted, nextFree_of_insert first]
      rfl

theorem startAfter_eq_of_perm {start : Nat} {pairs others : List (String × Nat)}
    (perm : pairs.Perm others) : startAfter start pairs = startAfter start others := by
  apply perm.foldl_eq'
  intro first _ second _ start
  omega

/-- A map is its pairs, in whatever order they are listed, and its start. -/
theorem eq_of_entries_perm {left right : IdMap} (entries : left.entries.Perm right.entries)
    (nextFree : left.nextFree = right.nextFree) : left = right :=
  eq_of_entries_eq (congrArg NameMap.entries (NameMap.eq_of_entries_perm entries)) nextFree

/-- Pairs make the same map in any order. -/
theorem ofPairs_eq_ok_of_perm {scope : String} {pairs others : List (String × Nat)}
    (made : ofPairs scope pairs = .ok map) (perm : pairs.Perm others) (other : String) :
    ofPairs other others = .ok map := by
  have entriesPerm : map.entries.Perm others := (perm_of_ofPairs made).trans perm
  have apart : map.entries.Pairwise fun left right => left.1 ≠ right.1 ∧ left.2 ≠ right.2 :=
    (List.pairwise_map.mp map.nodup_names).and map.distinct
  obtain ⟨after, remade⟩ := exists_ofPairs other
    (fun pair member => map.positive pair (entriesPerm.mem_iff.mpr member))
    ((entriesPerm.pairwise_iff fun different => ⟨different.1.symm, different.2.symm⟩).mp apart)
  have sameStart : map.nextFree = after.nextFree := by
    rw [nextFree_of_foldlM_insert made, nextFree_of_foldlM_insert remade]
    exact startAfter_eq_of_perm perm
  rw [eq_of_entries_perm (entriesPerm.trans (perm_of_ofPairs remade).symm) sameStart]
  exact remade

/-- What pairs make does not depend on where an error would be reported. -/
theorem ofPairs_eq_ok_of_scope {after : IdMap} {scope : String} {pairs : List (String × Nat)}
    (made : ofPairs scope pairs = .ok after) (other : String) : ofPairs other pairs = .ok after :=
  ofPairs_eq_ok_of_perm made (.refl pairs) other

end IdMap

end ApiTrace
