import ApiTrace.Proofs.Identity.Succession

/-!
# Histories

A history is a chain of regenerations of one category, each with a header of its own. Whatever the
headers are, numbers never vanish, a number changes its function only to one that declares it, and a
name has one number for all times from the first run on.

A name that was shipped before the first run may come back with another number, in one situation:
two shipped names read as the same version of the same function, as `zeInit_v02` and `zeInit_v2` do,
and the first run writes one as the other. Canonical names exclude it.
-/

namespace ApiTrace

/-- Successive regenerations of one category. Each run numbers its own header after what the run
before it shipped, and may be told where new numbers start. -/
structure History (category : Category) (length : Nat) where
  headers : Nat → List Entry
  hints : Nat → Nat
  maps : Nat → IdMap
  assignments : Nat → Assignment
  named : (maps 0).Named
  untagged : ∀ run < length, ∀ entry ∈ headers run, entry.Untagged
  ended : ∀ run < length,
    (assign category (headers run) ((maps run).withNextFree (hints run))).outcome =
      .ok (assignments run)
  read : ∀ run < length, (assignments run).toMap = .ok (maps (run + 1))

namespace History

variable {category : Category} {length : Nat}

/-- One run of a history with its deeds. -/
private theorem regenerated_of_named (history : History category length) {run : Nat}
    (within : run < length) (named : (history.maps run).Named) :
    ∃ deeds, Regenerated category (history.headers run)
      ((history.maps run).withNextFree (history.hints run)) deeds (history.assignments run)
      (history.maps (run + 1)) := by
  obtain ⟨deeds, assigned⟩ := exists_deeds_of_assign (history.ended run within)
  exact ⟨deeds, assigned, named, history.untagged run within, history.read run within⟩

theorem named_maps (history : History category length) {run : Nat} (within : run ≤ length) :
    (history.maps run).Named := by
  induction run with
  | zero => exact history.named
  | succ run ih =>
      have named := ih (Nat.le_of_succ_le within)
      obtain ⟨deeds, regenerated⟩ := history.regenerated_of_named within named
      exact regenerated.named_shipped

theorem exists_regenerated (history : History category length) {run : Nat} (within : run < length) :
    ∃ deeds, Regenerated category (history.headers run)
      ((history.maps run).withNextFree (history.hints run)) deeds (history.assignments run)
      (history.maps (run + 1)) :=
  history.regenerated_of_named within (history.named_maps (Nat.le_of_lt within))

/-- From the first run on what is shipped is canonical. -/
theorem canonical_maps (history : History category length) {run : Nat} (positive : 0 < run)
    (within : run ≤ length) : (history.maps run).Canonical := by
  obtain ⟨before, rfl⟩ := Nat.exists_eq_add_one_of_ne_zero (Nat.ne_of_gt positive)
  obtain ⟨deeds, regenerated⟩ := history.exists_regenerated within
  exact regenerated.canonical_shipped

variable {first last : Nat}

/-! ## Numbers -/

/-- Numbers never vanish. -/
theorem exists_owner_of_le (history : History category length) (order : first ≤ last)
    (within : last ≤ length) {number : Nat}
    (owned : ∃ name, (name, number) ∈ (history.maps first).entries) :
    ∃ name, (name, number) ∈ (history.maps last).entries := by
  induction order with
  | refl => exact owned
  | step order ih =>
      obtain ⟨name, before⟩ := ih (Nat.le_of_succ_le within)
      obtain ⟨deeds, regenerated⟩ := history.exists_regenerated within
      obtain ⟨title, titled, _⟩ := regenerated.exists_owner before
      exact ⟨title, titled⟩

theorem isSome_owner?_of_le (history : History category length) (order : first ≤ last)
    (within : last ≤ length) {number : Nat}
    (owned : ((history.maps first).owner? number).isSome) :
    ((history.maps last).owner? number).isSome := by
  obtain ⟨name, found⟩ := Option.isSome_iff_exists.mp owned
  obtain ⟨title, titled⟩ :=
    history.exists_owner_of_le order within ⟨name, IdMap.owner?_eq_some_iff.mp found⟩
  exact Option.isSome_iff_exists.mpr ⟨title, IdMap.owner?_eq_some_iff.mpr titled⟩

/-- A fresh number is none that any earlier run shipped. -/
theorem owner?_eq_none_of_mints (history : History category length) {run earlier : Nat}
    (within : run < length) (order : earlier ≤ run) {deeds : List Deed}
    (regenerated : Regenerated category (history.headers run)
      ((history.maps run).withNextFree (history.hints run)) deeds (history.assignments run)
      (history.maps (run + 1)))
    {deed : Deed} (member : deed ∈ deeds) (mints : deed.move.mints) :
    (history.maps earlier).owner? deed.record.number = none := by
  apply Option.eq_none_iff_forall_ne_some.mpr
  intro name found
  obtain ⟨title, titled⟩ := history.exists_owner_of_le order (Nat.le_of_lt within)
    ⟨name, IdMap.owner?_eq_some_iff.mp found⟩
  exact regenerated.ne_of_mints member mints titled rfl

/-- The number under which an evicted pair goes on was never shipped. -/
theorem owner?_eq_none_of_recycled (history : History category length) {run earlier : Nat}
    (within : run < length) (order : earlier ≤ run) {evicted claimant reassigned : String}
    {number fresh : Nat}
    (reported : .recycled evicted number claimant reassigned fresh ∈
      (history.assignments run).events) : (history.maps earlier).owner? fresh = none := by
  obtain ⟨deeds, regenerated⟩ := history.exists_regenerated within
  obtain ⟨_, _, _, _, member, _, _, _, rfl⟩ := regenerated.exists_evict_of_recycled reported
  exact history.owner?_eq_none_of_mints within order regenerated member rfl

/-- The number of a new function that declares none was never shipped. -/
theorem owner?_eq_none_of_introduced (history : History category length) {run earlier : Nat}
    (within : run < length) (order : earlier ≤ run) {function : String}
    (undeclared : ⟨function, none⟩ ∈ history.headers run)
    (unshipped : (history.maps run).versionsOf function = []) {record : Record}
    (member : record ∈ (history.assignments run).records)
    (functionEq : record.function = function) :
    (history.maps earlier).owner? record.number = none := by
  obtain ⟨deeds, regenerated⟩ := history.exists_regenerated within
  obtain ⟨deed, deedMem, rfl⟩ := regenerated.mem_records_iff.mp member
  subst functionEq
  apply history.owner?_eq_none_of_mints within order regenerated deedMem
  have introduced : ∀ {prior : Prior},
      prior ∉ ((history.maps run).withNextFree (history.hints run)).versionsOf
        deed.record.function := by
    intro prior version
    change prior ∈ (history.maps run).versionsOf deed.record.function at version
    rw [unshipped] at version
    contradiction
  cases regenerated.justified deedMem with
  | mint | evict => rfl
  | adopt declares _ =>
      have same := regenerated.valid.eq_of_name_eq declares undeclared rfl
      cases same
  | keep shipped _ _ => exact absurd shipped introduced
  | reversion _ continues _ _ => exact absurd (IdMap.prior?_mem continues) introduced

/-- A number changes its function only to one that declares it. -/
theorem declares_of_base_ne (history : History category length) {run : Nat} (within : run < length)
    {number : Nat} {before after : String}
    (ownedBefore : (history.maps run).owner? number = some before)
    (ownedAfter : (history.maps (run + 1)).owner? number = some after)
    (different : (VersionedName.ofName before).base ≠ (VersionedName.ofName after).base) :
    ⟨(VersionedName.ofName after).base, some number⟩ ∈ history.headers run := by
  obtain ⟨deeds, regenerated⟩ := history.exists_regenerated within
  obtain ⟨title, titled, origin⟩ :=
    regenerated.exists_owner (IdMap.owner?_eq_some_iff.mp ownedBefore)
  cases IdMap.eq_of_number_eq titled (IdMap.owner?_eq_some_iff.mp ownedAfter) rfl
  rcases origin with sameBase | declares
  · exact absurd sameBase.symm different
  · exact declares

/-! ## Names -/

theorem follows_of_le (history : History category length) (order : first ≤ last)
    (within : last ≤ length) (canonical : (history.maps first).Canonical) {name : String}
    (reached : (history.maps first).Reached (VersionedName.ofName name)) :
    (history.maps first).Follows (history.maps last) name := by
  induction order with
  | refl => exact .refl reached
  | @step middle order ih =>
      have before := ih (Nat.le_of_succ_le within)
      have canonicalBefore : (history.maps middle).Canonical := by
        rcases Nat.eq_zero_or_pos middle with zero | positive
        · subst zero
          rwa [Nat.le_zero.mp order] at canonical
        · exact history.canonical_maps positive (Nat.le_of_succ_le within)
      obtain ⟨deeds, regenerated⟩ := history.exists_regenerated within
      exact regenerated.follows canonicalBefore ⟨before.reached, before.back⟩

/-- After canonical names a name never changes its number, even if it is absent in between. -/
theorem number_eq_of_canonical (history : History category length) (order : first ≤ last)
    (within : last ≤ length) (canonical : (history.maps first).Canonical) {name : String}
    {firstNumber lastNumber : Nat}
    (shippedFirst : (history.maps first).find? name = some firstNumber)
    (shippedLast : (history.maps last).find? name = some lastNumber) :
    firstNumber = lastNumber := by
  have firstMem := IdMap.find?_eq_some_iff.mp shippedFirst
  have follows := history.follows_of_le order within canonical (IdMap.reached_of_mem firstMem)
  have lastMem := follows.back lastNumber (IdMap.find?_eq_some_iff.mp shippedLast)
  exact congrArg Prod.snd (IdMap.eq_of_name_eq firstMem lastMem rfl)

/-- A name that comes back after the first run is shipped by that run. -/
theorem mem_one_of_mem (history : History category length) (positive : 0 < last)
    (within : last ≤ length) {name : String} {firstNumber lastNumber : Nat}
    (shippedFirst : (name, firstNumber) ∈ (history.maps 0).entries)
    (shippedLast : (name, lastNumber) ∈ (history.maps last).entries) :
    (name, lastNumber) ∈ (history.maps 1).entries := by
  have nonempty : 0 < length := Nat.lt_of_lt_of_le positive within
  obtain ⟨deeds, regenerated⟩ := history.exists_regenerated nonempty
  have reached : (history.maps 1).Reached (VersionedName.ofName name) :=
    regenerated.reached (IdMap.reached_of_mem shippedFirst)
  exact (history.follows_of_le positive within regenerated.canonical_shipped reached).back
    lastNumber shippedLast

/-- When a name has the same number again. Only the first run can change it. -/
theorem number_eq_iff (history : History category length) (order : first ≤ last)
    (within : last ≤ length) {name : String} {firstNumber lastNumber : Nat}
    (shippedFirst : (history.maps first).find? name = some firstNumber)
    (shippedLast : (history.maps last).find? name = some lastNumber) :
    firstNumber = lastNumber ↔
      (first = 0 → 0 < last → ∀ entry ∈ history.headers 0, entry.declared = some firstNumber →
        entry.name = (VersionedName.ofName name).base) := by
  rcases Nat.eq_zero_or_pos first with zero | positive
  · subst zero
    rcases Nat.eq_zero_or_pos last with zero | positive
    · subst zero
      rw [shippedFirst] at shippedLast
      cases shippedLast
      simp
    · have firstMem := IdMap.find?_eq_some_iff.mp shippedFirst
      have lastMem := history.mem_one_of_mem positive within firstMem
        (IdMap.find?_eq_some_iff.mp shippedLast)
      obtain ⟨deeds, regenerated⟩ :=
        history.exists_regenerated (Nat.lt_of_lt_of_le positive within)
      rw [regenerated.number_eq_iff firstMem lastMem]
      exact ⟨fun unclaimed _ _ => unclaimed, fun unclaimed => unclaimed rfl positive⟩
  · have same := history.number_eq_of_canonical order within
      (history.canonical_maps positive (Nat.le_trans order within)) shippedFirst shippedLast
    exact ⟨fun _ zero => absurd zero (Nat.ne_of_gt positive), fun _ => same⟩

/-- A name has another number only if another name that was shipped before the first run reads
alike. -/
theorem exists_alike_of_number_ne (history : History category length) (order : first ≤ last)
    (within : last ≤ length) {name : String} {firstNumber lastNumber : Nat}
    (shippedFirst : (history.maps first).find? name = some firstNumber)
    (shippedLast : (history.maps last).find? name = some lastNumber)
    (different : firstNumber ≠ lastNumber) :
    ∃ other, other ≠ name ∧ VersionedName.ofName other = VersionedName.ofName name ∧
      (history.maps 0).find? other = some lastNumber := by
  have changed := mt (history.number_eq_iff order within shippedFirst shippedLast).mpr different
  push Not at changed
  obtain ⟨rfl, positive, _⟩ := changed
  have firstMem := IdMap.find?_eq_some_iff.mp shippedFirst
  have lastMem := history.mem_one_of_mem positive within firstMem
    (IdMap.find?_eq_some_iff.mp shippedLast)
  obtain ⟨deeds, regenerated⟩ := history.exists_regenerated (Nat.lt_of_lt_of_le positive within)
  obtain ⟨other, otherMem, alike⟩ :=
    regenerated.exists_alike_of_reached (IdMap.reached_of_mem firstMem) lastMem
  refine ⟨other, ?_, alike, IdMap.find?_eq_some_iff.mpr otherMem⟩
  rintro rfl
  exact different (congrArg Prod.snd (IdMap.eq_of_name_eq firstMem otherMem rfl))

end History

/-- Over a whole history a name has one number unless the first run finds another name that reads
alike, numbers never vanish and are never given out as fresh again, and only a declaration moves a
number to another function. -/
theorem history_keeps_numbers {category : Category} {length : Nat}
    (history : History category length) :
    (∀ first last, first ≤ last → last ≤ length → ∀ name firstNumber lastNumber,
      (history.maps first).find? name = some firstNumber →
      (history.maps last).find? name = some lastNumber →
        (firstNumber = lastNumber ↔
          (first = 0 → 0 < last → ∀ entry ∈ history.headers 0,
            entry.declared = some firstNumber → entry.name = (VersionedName.ofName name).base)) ∧
        (firstNumber ≠ lastNumber →
          ∃ other, other ≠ name ∧ VersionedName.ofName other = VersionedName.ofName name ∧
            (history.maps 0).find? other = some lastNumber)) ∧
    (∀ first last, first ≤ last → last ≤ length → ∀ number,
      ((history.maps first).owner? number).isSome →
        ((history.maps last).owner? number).isSome) ∧
    (∀ earlier run, earlier ≤ run → run < length →
      (∀ evicted number claimant reassigned fresh,
        .recycled evicted number claimant reassigned fresh ∈ (history.assignments run).events →
          (history.maps earlier).owner? fresh = none) ∧
      ∀ function, ⟨function, none⟩ ∈ history.headers run →
        (history.maps run).versionsOf function = [] →
          ∀ record ∈ (history.assignments run).records, record.function = function →
            (history.maps earlier).owner? record.number = none) ∧
    ∀ run < length, ∀ number before after,
      (history.maps run).owner? number = some before →
      (history.maps (run + 1)).owner? number = some after →
      (VersionedName.ofName before).base ≠ (VersionedName.ofName after).base →
        ⟨(VersionedName.ofName after).base, some number⟩ ∈ history.headers run := by
  refine ⟨?names, ?numbers, ?fresh, ?owners⟩
  case names =>
    intro first last order within name firstNumber lastNumber shippedFirst shippedLast
    constructor
    · exact history.number_eq_iff order within shippedFirst shippedLast
    · exact history.exists_alike_of_number_ne order within shippedFirst shippedLast
  case numbers =>
    intro first last order within number owned
    exact history.isSome_owner?_of_le order within owned
  case fresh =>
    intro earlier run order within
    constructor
    · intro evicted number claimant reassigned fresh reported
      exact history.owner?_eq_none_of_recycled within order reported
    · intro function undeclared unshipped record member functionEq
      exact history.owner?_eq_none_of_introduced within order undeclared unshipped member functionEq
  case owners =>
    intro run within number before after ownedBefore ownedAfter different
    exact history.declares_of_base_ne within ownedBefore ownedAfter different

namespace Contested

/-- What is read back after the first run, and after any later one for the same header. -/
def shipped : IdMap where
  numbers :=
    ⟨[("zeInit", 5), ("zeInit_v3", 7), ("zeInit_v4", 9), ("zeNew", 8), ("zeOpen", 6)], by decide⟩
  distinct := by decide
  positive := by decide
  nextFree := 10

/-- What the second run for the same header gives. -/
def again : Assignment :=
  { assignment with events := [] }

theorem ended_again : (assign category entries shipped).outcome = .ok again := by
  cbv

theorem read : assignment.toMap = .ok shipped := by
  decide +kernel

theorem read_again : again.toMap = .ok shipped := by
  decide +kernel

/-- Two runs for one header. -/
def history : History category 2 where
  headers _ := entries
  hints
    | 0 => 7
    | _ => 10
  maps
    | 0 => map
    | _ => shipped
  assignments
    | 0 => assignment
    | _ => again
  named := named
  untagged _ _ := untagged
  ended run within := by
    have run_cases : run = 0 ∨ run = 1 := by omega
    rcases run_cases with rfl | rfl
    · exact ended
    · exact ended_again
  read run within := by
    have run_cases : run = 0 ∨ run = 1 := by omega
    rcases run_cases with rfl | rfl
    · exact read
    · exact read_again

end Contested

theorem history_keeps_numbers_contested :
    (Contested.history.maps 0).find? "zeInit" = some 5 ∧
      (∀ number, (Contested.history.maps 2).find? "zeInit" = some number → 5 = number) ∧
      ((Contested.history.maps 0).owner? 6).isSome ∧
      ((Contested.history.maps 2).owner? 6).isSome ∧
      (Contested.history.maps 0).owner? 7 = none ∧
      ⟨(VersionedName.ofName "zeOpen").base, some 6⟩ ∈ Contested.history.headers 0 := by
  obtain ⟨names, numbers, fresh, owners⟩ := history_keeps_numbers Contested.history
  have shippedFirst : (Contested.history.maps 0).find? "zeInit" = some 5 := by decide
  have ownedFirst : ((Contested.history.maps 0).owner? 6).isSome := by decide
  refine ⟨shippedFirst, ?_, ownedFirst, ?_, ?_, ?_⟩
  · intro number shippedLast
    apply (names 0 2 (by decide) (by decide) "zeInit" 5 number shippedFirst shippedLast).1.mpr
    intro _ _
    decide +kernel
  · exact numbers 0 2 (by decide) (by decide) 6 ownedFirst
  · exact (fresh 0 0 (by decide) (by decide)).1 "zeInit_v2" 6 "zeOpen" "zeInit_v3" 7 (by decide)
  · exact owners 0 (by decide) 6 "zeInit_v2" "zeOpen" (by decide) (by decide) (by decide +kernel)

namespace Alike

/-- The category that is numbered. -/
def category : Category := ⟨"driver", "levelzero"⟩

/-- Two names that read as the same version. -/
def before : IdMap where
  numbers := ⟨[("zeInit_v02", 5), ("zeInit_v2", 6)], by decide⟩
  distinct := by decide
  positive := by decide
  nextFree := 7

/-- A new function claims the number of one of them. -/
def header : List Entry :=
  [⟨"zeOpen", some 6⟩]

/-- The other one is written with the name of the evicted one. -/
def assignment : Assignment where
  category := category
  records := [
    ⟨"zeInit", 5, some 2, .residual⟩,
    ⟨"zeOpen", 6, none, .current⟩,
    ⟨"zeInit", 7, some 3, .residual⟩]
  events := [.recycled "zeInit_v2" 6 "zeOpen" "zeInit_v3" 7]

/-- What is read back. -/
def after : IdMap where
  numbers := ⟨[("zeInit_v2", 5), ("zeInit_v3", 7), ("zeOpen", 6)], by decide⟩
  distinct := by decide
  positive := by decide
  nextFree := 8

theorem ended : (assign category header (before.withNextFree 7)).outcome = .ok assignment := by
  cbv

theorem read : assignment.toMap = .ok after := by
  decide +kernel

/-- One run in which a name gets the number of another name that reads alike. -/
def history : History category 1 where
  headers _ := header
  hints _ := 7
  maps
    | 0 => before
    | _ => after
  assignments _ := assignment
  named := by decide +kernel
  untagged _ _ := by decide +kernel
  ended run within := by
    obtain rfl : run = 0 := by omega
    exact ended
  read run within := by
    obtain rfl : run = 0 := by omega
    exact read

end Alike

/-- Names that read alike are why the number of a name is not fixed before the first run. -/
theorem history_renumbers_alike :
    ∃ history : History Alike.category 1,
      (history.maps 0).find? "zeInit_v2" = some 6 ∧ (history.maps 1).find? "zeInit_v2" = some 5 :=
  ⟨Alike.history, by decide, by decide⟩

end ApiTrace
