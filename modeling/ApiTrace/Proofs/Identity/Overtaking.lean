import ApiTrace.Proofs.Identity.Stability

/-!
# Versions that overtake

Numbering again what an assignment shipped gives the same pairs, but it may take another pair of a
function for the current one. A function that declares a number goes by the pair with that number in
every run. A function that declares none goes by its highest version, and a pair that is evicted
goes on under a higher one: when an older version is evicted, the next run finds it above the
version that the function went by. `ReadBack.pair_again_eq_iff` says that this is the only way to
lose the pair.
-/

namespace ApiTrace

/-! ## The order of decisions -/

/-- Of two items of a list one comes first. -/
private theorem rel_or_rel_of_pairwise {α : Type} {related : α → α → Prop} {items : List α}
    (pairwise : items.Pairwise related) {first second : α} (firstMem : first ∈ items)
    (secondMem : second ∈ items) (different : first ≠ second) :
    related first second ∨ related second first := by
  have symmetric : Std.Symm fun left right => related left right ∨ related right left :=
    ⟨fun _ _ => Or.symm⟩
  have either : items.Pairwise fun left right => related left right ∨ related right left :=
    pairwise.imp Or.inl
  exact either.forall firstMem secondMem different

/-- A function that declares no number gets no fresh version before its current decision. -/
theorem pairwise_plan_of_undeclared {entries : List Entry}
    (valid : WellDeclared entries) (map : IdMap)
    {function : String} (undeclared : ⟨function, none⟩ ∈ entries) :
    (plan entries map).Pairwise fun earlier later =>
      earlier.bumped? = some function → later.current? ≠ some function := by
  have residual : ∀ pair, (moveOfResidual entries pair).current? = none :=
    fun _ => Move.current?_keepOrEvict_residual
  rw [plan, List.pairwise_append, List.pairwise_flatMap]
  refine ⟨⟨?single, ?several⟩, ?residuals, ?across⟩
  case single =>
    intro entry member
    unfold movesOfEntry
    split
    · exact List.pairwise_singleton _ _
    · exact List.pairwise_singleton _ _
    · rename_i prior number _ declares
      split
      · exact List.pairwise_singleton _ _
      · apply List.pairwise_pair.mpr
        intro bumps _
        have functionEq := Move.function_of_bumped? bumps
        rw [Move.function_keepOrEvict] at functionEq
        rw [valid.eq_of_name_eq member undeclared functionEq] at declares
        contradiction
    · exact List.pairwise_singleton _ _
  case several =>
    apply (List.pairwise_map.mp valid.names).imp
    intro first second different earlier earlierMem later laterMem bumps current
    apply different
    rw [← function_of_mem_movesOfEntry earlierMem, ← function_of_mem_movesOfEntry laterMem,
      Move.function_of_bumped? bumps, Move.function_of_current? current]
  case residuals =>
    apply List.pairwise_map.mpr
    apply List.pairwise_of_forall
    intro _ pair _ current
    rw [residual] at current
    contradiction
  case across =>
    intro _ _ later laterMem _ current
    obtain ⟨pair, _, rfl⟩ := List.mem_map.mp laterMem
    rw [residual] at current
    contradiction

/-! ## The highest version -/

/-- Two versions of a function that are equally high are one. -/
theorem IdMap.Canonical.eq_of_rank_eq {map : IdMap} (canonical : map.Canonical) {base : String}
    {first second : Prior} (firstMem : first ∈ map.versionsOf base)
    (secondMem : second ∈ map.versionsOf base) (same : first.rank = second.rank) :
    first = second := by
  obtain ⟨firstShipped, firstRead⟩ := mem_versionsOf_iff.mp firstMem
  obtain ⟨secondShipped, secondRead⟩ := mem_versionsOf_iff.mp secondMem
  have versionEq : first.version = second.version :=
    VersionedName.version_eq_of_rank_eq firstRead secondRead same
  have nameEq : first.name = second.name := by
    calc
      first.name = (VersionedName.ofName first.name).name := (canonical _ firstShipped).symm
      _ = (VersionedName.ofName second.name).name := by rw [firstRead, secondRead, versionEq]
      _ = second.name := canonical _ secondShipped
  have numberEq := congrArg Prod.snd (IdMap.eq_of_name_eq firstShipped secondShipped nameEq)
  exact eq_of_mem_versionsOf firstMem secondMem numberEq

/-- A function that declares no number and of which a version that it does not continue loses its
number to another function. -/
def Overtaken (entries : List Entry) (map : IdMap) (entry : Entry) : Prop :=
  entry.declared = none ∧
    ∃ prior ∈ map.versionsOf entry.name, map.prior? entry.name none ≠ some prior ∧
      ∃ claimant, ⟨claimant, some prior.number⟩ ∈ entries ∧ claimant ≠ entry.name

/-- The current deed of a function that continues a pair and declares no number. -/
structure Deed.Continues (map : IdMap) (deed : Deed) (prior : Prior) : Prop where
  disposes : deed.move.shipped? = some (prior.name, prior.number)
  rank_le : prior.rank ≤ deed.record.rank
  raised_or_kept : deed.move.bumped? = some deed.record.function ∨ deed.record.rank = prior.rank

namespace Executed

variable {category : Category} {entries : List Entry} {map : IdMap} {deeds : List Deed}
  {function : String} {current deed : Deed}

/-- A function without a declared number is new, or continues its highest version. -/
theorem unshipped_or_continues (executed : Executed category entries map deeds)
    (undeclared : ⟨function, none⟩ ∈ entries) (currentMem : current ∈ deeds)
    (isCurrent : current.move.current? = some function) :
    map.versionsOf function = [] ∨
      ∃ prior, map.prior? function none = some prior ∧ current.Continues map prior := by
  have agrees : ∀ {declared : Option Nat}, ⟨function, declared⟩ ∈ entries → declared = none :=
    fun other => congrArg Entry.declared (executed.valid.eq_of_name_eq other undeclared rfl)
  cases executed.justified currentMem with
  | adopt _ unshipped =>
      cases isCurrent
      exact .inl unshipped
  | mint _ unshipped _ =>
      cases isCurrent
      exact .inl unshipped
  | @keep _ prior origin _ _ continues =>
      cases origin with
      | residual => contradiction
      | current =>
          cases isCurrent
          obtain ⟨declared, entryMem, found, _⟩ := continues rfl
          cases agrees entryMem
          exact .inr ⟨prior, found, rfl, Nat.le_refl _, .inr rfl⟩
  | @evict _ prior _ origin _ _ shipped _ continues _ raised =>
      cases origin with
      | residual => contradiction
      | current =>
          cases isCurrent
          obtain ⟨declared, entryMem, found, _⟩ := continues rfl
          cases agrees entryMem
          have higher := Nat.lt_of_le_of_lt (IdMap.rank_le_highestVersion shipped) raised.highest_lt
          exact .inr ⟨prior, found, rfl, Nat.le_of_lt higher, .inl rfl⟩
  | reversion declares _ _ _ =>
      cases isCurrent
      have declared := agrees declares
      contradiction

/-- A function that is not overtaken is known by the highest of its versions. -/
theorem rank_le_of_not_overtaken (executed : Executed category entries map deeds)
    (undeclared : ⟨function, none⟩ ∈ entries) (currentMem : current ∈ deeds)
    (isCurrent : current.move.current? = some function)
    (ahead : ¬Overtaken entries map ⟨function, none⟩) (member : deed ∈ deeds)
    (functionEq : deed.record.function = function) : deed.record.rank ≤ current.record.rank := by
  by_cases alsoCurrent : deed.move.current? = some function
  · have same := Selection.eq_of_nodup_filterMap executed.nodup_current? member currentMem
      alsoCurrent isCurrent
    exact Nat.le_of_eq (congrArg (fun deed => deed.record.rank) same)
  · have continues : ∀ {other : Prior}, other ∈ map.versionsOf function →
        ∃ prior, map.prior? function none = some prior ∧ current.Continues map prior := by
      intro other otherMem
      rcases executed.unshipped_or_continues undeclared currentMem isCurrent with unshipped | found
      · rw [unshipped] at otherMem
        contradiction
      · exact found
    cases executed.justified member with
    | adopt | mint | reversion => exact absurd (congrArg some functionEq) alsoCurrent
    | keep shipped _ _ =>
        dsimp only at functionEq ⊢
        subst functionEq
        obtain ⟨prior, found, continued⟩ := continues shipped
        exact Nat.le_trans (IdMap.rank_le_of_prior? found shipped) continued.rank_le
    | @evict base other claimant _ _ _ shipped claimed _ _ _ =>
        dsimp only at functionEq ⊢
        subst functionEq
        obtain ⟨prior, found, continued⟩ := continues shipped
        obtain ⟨claims, different⟩ := executed.valid.claimant?_eq_some_iff.mp claimed
        -- Only the continued version may be evicted, and one deed disposes of it.
        have isContinued : map.prior? base none = some other := by
          by_contra passed
          exact ahead ⟨rfl, other, shipped, passed, claimant, claims, different⟩
        rw [found] at isContinued
        cases isContinued
        have same := Selection.eq_of_nodup_filterMap executed.nodup_shipped? member currentMem
          rfl continued.disposes
        exact Nat.le_of_eq (congrArg (fun deed => deed.record.rank) same)

/-- A current fresh version of a function that declares no number is below its other fresh ones. -/
theorem rank_lt_of_bumped (executed : Executed category entries map deeds)
    (undeclared : ⟨function, none⟩ ∈ entries) (currentMem : current ∈ deeds) (member : deed ∈ deeds)
    (different : current ≠ deed) (isCurrent : current.move.current? = some function)
    (currentBumps : current.move.bumped? = some function)
    (bumps : deed.move.bumped? = some function) : current.record.rank < deed.record.rank := by
  have order : deeds.Pairwise fun earlier later =>
      earlier.move.bumped? = some function → later.move.current? ≠ some function := by
    have planned := pairwise_plan_of_undeclared executed.valid map undeclared
    rw [← executed.moves] at planned
    exact List.pairwise_map.mp planned
  rcases rel_or_rel_of_pairwise (executed.bumped.and order) currentMem member different with
    ⟨ascends, _⟩ | ⟨_, currentFirst⟩
  · exact ascends function currentBumps bumps
  · exact absurd isCurrent (currentFirst bumps)

/-- An overtaken function is known by a version that is not its highest. -/
theorem exists_rank_gt_of_overtaken (executed : Executed category entries map deeds)
    (undeclared : ⟨function, none⟩ ∈ entries) (currentMem : current ∈ deeds)
    (isCurrent : current.move.current? = some function)
    (overtaken : Overtaken entries map ⟨function, none⟩) :
    ∃ deed ∈ deeds, deed.record.function = function ∧ current.record.rank < deed.record.rank := by
  obtain ⟨_, other, version, passed, claimant, claims, different⟩ := overtaken
  dsimp only at version passed claims different
  obtain ⟨prior, found, continued⟩ :=
    (executed.unshipped_or_continues undeclared currentMem isCurrent).resolve_left
      (List.ne_nil_of_mem version)
  have claimed := executed.valid.claimant?_eq_some_iff.mpr ⟨claims, different⟩
  obtain ⟨origin, fresh, raised, member, _, isRaised⟩ :=
    executed.exists_evict_of_claimed version claimed
  refine ⟨_, member, rfl, ?_⟩
  rcases continued.raised_or_kept with currentBumps | kept
  · rw [((executed.current?_eq_some_iff currentMem).mp isCurrent).1] at currentBumps
    apply executed.rank_lt_of_bumped undeclared currentMem member ?_ isCurrent currentBumps rfl
    rintro rfl
    -- The deed would dispose of both versions.
    have samePair := Option.some.inj continued.disposes.symm
    have same := IdMap.eq_of_mem_versionsOf (IdMap.prior?_mem found) version
      (congrArg Prod.snd samePair)
    rw [same] at found
    exact passed found
  · rw [kept]
    exact Nat.lt_of_le_of_lt (IdMap.rank_le_highestVersion (IdMap.prior?_mem found))
      isRaised.highest_lt

/-- On a settled header a function is known by the pair that it continues. -/
theorem pair_eq_prior_of_settled (executed : Executed category entries map deeds)
    (settled : Settled entries map) (canonical : map.Canonical) {declared : Option Nat}
    (entryMem : ⟨function, declared⟩ ∈ entries) (currentMem : current ∈ deeds)
    (isCurrent : current.move.current? = some function) :
    ∃ prior, map.prior? function declared = some prior ∧
      (current.record.name, current.record.number) = (prior.name, prior.number) := by
  have planned : current.move ∈ plan entries map := by
    rw [← executed.moves]
    exact List.mem_map_of_mem currentMem
  have decided := executed.decided currentMem
  have keeps := (executed.keeps_of_settled settled canonical currentMem).2
  obtain ⟨base, prior, origin, _, moveEq⟩ := settled.exists_keep planned
  rw [moveEq] at isCurrent decided keeps
  cases origin with
  | residual => contradiction
  | current =>
      cases isCurrent
      cases decided with
      | keep _ _ continues =>
          obtain ⟨other, otherMem, found, _⟩ := continues rfl
          cases executed.valid.eq_of_name_eq otherMem entryMem rfl
          exact ⟨prior, found, (Option.some.inj keeps).symm⟩

end Executed

/-! ## Two runs -/

namespace ReadBack

variable {category : Category} {entries : List Entry} {map shipped : IdMap}
  {deeds deedsAgain : List Deed} {assignment again : Assignment} {current currentAgain : Deed}

/-- What is read back as a version of a function is one of its records, or has no tag. -/
theorem rank_le_of_mem_versionsOf
    (readBack : ReadBack category entries map deeds assignment shipped) {function : String}
    {bound : Nat} (positive : 1 ≤ bound)
    (within : ∀ deed ∈ deeds, deed.record.function = function → deed.record.rank ≤ bound)
    {prior : Prior} (version : prior ∈ shipped.versionsOf function) : prior.rank ≤ bound := by
  obtain ⟨member, read⟩ := IdMap.mem_versionsOf_iff.mp version
  obtain ⟨deed, deedMem, pairEq⟩ := readBack.mem_shipped_iff.mp member
  have nameEq : deed.record.name = prior.name := congrArg Prod.fst pairEq
  rw [← nameEq] at read
  by_cases empty : deed.record.function = ""
  · rw [Record.name, empty, VersionedName.ofName_name_of_base_empty] at read
    have untagged : prior.version = none := (congrArg VersionedName.version read).symm
    rw [Prior.rank, untagged]
    exact positive
  · have proper := readBack.proper_of_ne_empty readBack.untagged deedMem empty
    have versionedEq : deed.record.versioned = ⟨function, prior.version⟩ := proper.symm.trans read
    have rankEq : deed.record.rank = prior.rank :=
      congrArg (fun versioned => versioned.version.getD 1) versionedEq
    rw [← rankEq]
    exact within deed deedMem (congrArg VersionedName.base versionedEq)

/-- The next run continues the current pair of a function exactly if no other pair overtakes it. -/
theorem prior?_shipped_eq_iff (readBack : ReadBack category entries map deeds assignment shipped)
    {entry : Entry} (entryMem : entry ∈ entries) (currentMem : current ∈ deeds)
    (isCurrent : current.move.current? = some entry.name) :
    shipped.prior? entry.name entry.declared =
        some ⟨current.record.name, current.record.number, current.record.version⟩ ↔
      ¬Overtaken entries map entry := by
  have version := readBack.current_version_mem entryMem currentMem isCurrent
  have functionEq := ((readBack.current?_eq_some_iff currentMem).mp isCurrent).1
  obtain ⟨function, declared⟩ := entry
  dsimp only at version isCurrent functionEq ⊢
  cases declared with
  | some number =>
      have numberEq := readBack.number_eq_of_declares entryMem currentMem isCurrent
      subst numberEq
      constructor
      · rintro _ ⟨undeclared, _⟩
        contradiction
      · intro _
        exact IdMap.prior?_eq_some_of_number_eq version
  | none =>
      constructor
      · intro continued overtaken
        obtain ⟨deed, deedMem, rfl, higher⟩ :=
          readBack.exists_rank_gt_of_overtaken entryMem currentMem isCurrent overtaken
        have nonempty : deed.record.function ≠ "" := (readBack.untagged _ entryMem).1
        have atMost := IdMap.rank_le_of_prior? continued
          (readBack.version_mem_of_ne_empty deedMem nonempty)
        exact Nat.not_le_of_lt higher atMost
      · intro ahead
        have within : ∀ deed ∈ deeds, deed.record.function = function →
            deed.record.rank ≤ current.record.rank :=
          fun deed deedMem same =>
            readBack.rank_le_of_not_overtaken entryMem currentMem isCurrent ahead deedMem same
        obtain ⟨prior, found⟩ : ∃ prior, shipped.prior? function none = some prior := by
          apply Option.ne_none_iff_exists'.mp
          intro absent
          exact List.ne_nil_of_mem version (IdMap.prior?_eq_none_iff.mp absent)
        have priorMem := IdMap.prior?_mem found
        have atLeast := IdMap.rank_le_of_prior? found version
        have atMost :=
          readBack.rank_le_of_mem_versionsOf (IdMap.one_le_rank version) within priorMem
        rw [found]
        exact congrArg some (readBack.canonical_shipped.eq_of_rank_eq priorMem version
          (Nat.le_antisymm atMost atLeast))

/-- In the next run a function is known by the same pair exactly if no other pair overtakes it. -/
theorem pair_again_eq_iff (readBack : ReadBack category entries map deeds assignment shipped)
    (executedAgain : Executed category entries shipped deedsAgain) {entry : Entry}
    (entryMem : entry ∈ entries) (currentMem : current ∈ deeds)
    (isCurrent : current.move.current? = some entry.name) (againMem : currentAgain ∈ deedsAgain)
    (isCurrentAgain : currentAgain.move.current? = some entry.name) :
    (currentAgain.record.name, currentAgain.record.number) =
        (current.record.name, current.record.number) ↔ ¬Overtaken entries map entry := by
  obtain ⟨prior, found, pairEq⟩ := executedAgain.pair_eq_prior_of_settled readBack.settled
    readBack.canonical_shipped entryMem againMem isCurrentAgain
  have version := readBack.current_version_mem entryMem currentMem isCurrent
  rw [← readBack.prior?_shipped_eq_iff entryMem currentMem isCurrent, pairEq, found,
    Option.some.injEq]
  constructor
  · intro samePair
    exact IdMap.eq_of_mem_versionsOf (IdMap.prior?_mem found) version (congrArg Prod.snd samePair)
  · rintro rfl
    rfl

end ReadBack

end ApiTrace
