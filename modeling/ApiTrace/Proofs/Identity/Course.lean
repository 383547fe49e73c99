import ApiTrace.Proofs.Identity.Assignment

/-!
# The course of a run

What a run gives out as fresh is known before it starts: the fresh numbers are the first free ones,
in the order of the decisions that take one, and the fresh versions of a function follow its highest
one without a gap. So a run succeeds exactly if these fit 32 bits, and that depends on how many
decisions take a number or raise a function, not on their order.
-/

namespace ApiTrace

namespace NumberSpace

/-- The next `count` fresh numbers after `last`. -/
def freshNumbers (space : NumberSpace) (last : Nat) : Nat → List Nat
  | 0 => []
  | count + 1 =>
    let number := firstFree space.taken (max space.map.nextFree (last + 1))
    number :: space.freshNumbers number count

/-- Two spaces that give out the same numbers and versions. -/
structure Alike (first second : NumberSpace) : Prop where
  map_eq : first.map = second.map
  taken_iff : ∀ number, number ∈ first.taken ↔ number ∈ second.taken

theorem Alike.symm {first second : NumberSpace} (alike : first.Alike second) : second.Alike first :=
  ⟨alike.map_eq.symm, fun number => (alike.taken_iff number).symm⟩

theorem Alike.freshNumbers_eq {first second : NumberSpace} (alike : first.Alike second)
    (last count : Nat) : first.freshNumbers last count = second.freshNumbers last count := by
  induction count generalizing last with
  | zero => rfl
  | succ count ih =>
      rw [freshNumbers, freshNumbers, alike.map_eq, firstFree_congr alike.taken_iff]
      exact congrArg _ (ih _)

theorem Alike.nextVersion_eq {first second : NumberSpace} (alike : first.Alike second)
    (numbering : Numbering) (base : String) :
    numbering.nextVersion first base = numbering.nextVersion second base := by
  rw [Numbering.nextVersion, Numbering.nextVersion, alike.map_eq]

end NumberSpace

section Course

variable {space : NumberSpace} {numbering : Numbering} {moves : List Move}

theorem move_mem_of_mem_deedsOf {deed : Deed} (member : deed ∈ deedsOf space numbering moves) :
    deed.move ∈ moves := by
  have decided := List.mem_map_of_mem (f := Deed.move) member
  rwa [map_move_deedsOf] at decided

theorem filter_deedsOf (keep : Move → Bool) :
    ((deedsOf space numbering moves).filter fun deed => keep deed.move).map Deed.move =
      moves.filter keep := by
  have filtered := List.filter_map (f := Deed.move) (p := keep) (l := deedsOf space numbering moves)
  rw [map_move_deedsOf] at filtered
  exact filtered.symm

/-- The fresh numbers of a run are the first free ones. -/
theorem numbers_deedsOf :
    ((deedsOf space numbering moves).filter fun deed => deed.move.mints).map
        (fun deed => deed.record.number) =
      space.freshNumbers numbering.last (moves.countP Move.mints) := by
  induction moves generalizing numbering with
  | nil => rfl
  | cons move moves ih =>
      rw [deedsOf, List.filter_cons, List.countP_cons, Numbering.move_deed]
      by_cases mints : move.mints
      · rw [if_pos mints, if_pos mints, List.map_cons, ih, Numbering.number_deed_of_mints mints,
          Numbering.last_advance_of_mints mints]
        rfl
      · rw [if_neg mints, if_neg mints, ih, Numbering.last_advance_of_not_mints mints]
        rfl

/-- The fresh versions of a function follow each other. -/
theorem ranks_deedsOf (base : String) :
    ((deedsOf space numbering moves).filter fun deed => deed.move.bumped? = some base).map
        (fun deed => deed.record.rank) =
      List.range' (numbering.nextVersion space base)
        (moves.countP fun move => move.bumped? = some base) := by
  induction moves generalizing numbering with
  | nil => rfl
  | cons move moves ih =>
      have next : (numbering.advance space move).nextVersion space base =
          numbering.nextVersion space base + if move.bumped? = some base then 1 else 0 := by
        rw [Numbering.nextVersion, Numbering.nextVersion, Numbering.count_bumped_advance]
        omega
      rw [deedsOf, List.filter_cons, List.countP_cons, Numbering.move_deed]
      by_cases bumps : move.bumped? = some base
      · rw [if_pos (decide_eq_true bumps), if_pos (decide_eq_true bumps), List.map_cons, ih,
          Numbering.rank_deed_of_bumped? bumps, next, if_pos bumps, List.range'_succ]
      · rw [if_neg (by simpa using bumps), if_neg (by simpa using bumps), ih, next, if_neg bumps]
        rfl

/-! ## Runs that succeed -/

/-- What a deed gives out as fresh fits 32 bits. -/
def Deed.Fits (deed : Deed) : Prop :=
  (deed.move.mints → deed.record.number ≤ Text.maxWord) ∧
    (deed.move.bumped?.isSome → deed.record.rank ≤ Text.maxWord)

theorem fits_deed_iff {move : Move} :
    (numbering.deed space move).Fits ↔ numbering.Fits space move := by
  rw [Deed.Fits, Numbering.move_deed]
  constructor
  · rintro ⟨number, version⟩
    refine ⟨fun base bumps => ?_, fun mints => ?_⟩
    · rw [← Numbering.rank_deed_of_bumped? bumps]
      exact version (Option.isSome_of_eq_some bumps)
    · rw [← Numbering.number_deed_of_mints mints]
      exact number mints
  · rintro ⟨version, number⟩
    refine ⟨fun mints => ?_, fun bumps => ?_⟩
    · rw [Numbering.number_deed_of_mints mints]
      exact number mints
    · obtain ⟨base, isBumped⟩ := Option.isSome_iff_exists.mp bumps
      rw [Numbering.rank_deed_of_bumped? isBumped]
      exact version base isBumped

private theorem exists_foldlM_iff_fits :
    (∃ after, moves.foldlM (Numbering.carryOut space) numbering = .ok after) ↔
      ∀ deed ∈ deedsOf space numbering moves, deed.Fits := by
  induction moves generalizing numbering with
  | nil => exact ⟨fun _ _ member => (List.not_mem_nil member).elim, fun _ => ⟨numbering, rfl⟩⟩
  | cons move moves ih =>
      rw [deedsOf, List.forall_mem_cons, fits_deed_iff, ← ih]
      constructor
      · rintro ⟨after, ended⟩
        obtain ⟨middle, first, rest⟩ := bind_eq_ok ended
        obtain ⟨fits, rfl⟩ := Numbering.carryOut_eq_ok_iff.mp first
        exact ⟨fits, after, rest⟩
      · rintro ⟨fits, after, rest⟩
        refine ⟨after, ?_⟩
        rw [List.foldlM_cons, Numbering.carryOut_eq_ok_iff.mpr ⟨fits, rfl⟩]
        exact rest

/-- A run succeeds exactly if its fresh numbers and versions fit 32 bits. -/
theorem exists_foldlM_iff :
    (∃ after, moves.foldlM (Numbering.carryOut space) numbering = .ok after) ↔
      (∀ number ∈ space.freshNumbers numbering.last (moves.countP Move.mints),
        number ≤ Text.maxWord) ∧
      ∀ base, ∀ version ∈ List.range' (numbering.nextVersion space base)
        (moves.countP fun move => move.bumped? = some base), version ≤ Text.maxWord := by
  rw [exists_foldlM_iff_fits, ← numbers_deedsOf]
  simp only [← ranks_deedsOf, List.forall_mem_map, List.mem_filter, decide_eq_true_eq]
  constructor
  · intro fits
    constructor
    · rintro deed ⟨member, mints⟩
      exact (fits deed member).1 mints
    · rintro base deed ⟨member, bumps⟩
      exact (fits deed member).2 (Option.isSome_of_eq_some bumps)
  · rintro ⟨numbers, versions⟩ deed member
    constructor
    · exact fun mints => numbers deed ⟨member, mints⟩
    · intro bumps
      obtain ⟨base, isBumped⟩ := Option.isSome_iff_exists.mp bumps
      exact versions base deed ⟨member, isBumped⟩

end Course

/-! ## Decisions in another order -/

/-- The record of a deed with zero in place of a fresh number. -/
def Deed.outline (deed : Deed) : Record :=
  if deed.move.mints then { deed.record with number := 0 } else deed.record

namespace Deed

variable {deed : Deed}

theorem outline_of_not_mints (mints : ¬deed.move.mints) : deed.outline = deed.record :=
  if_neg mints

@[simp]
theorem function_outline : deed.outline.function = deed.record.function := by
  unfold outline
  split <;> rfl

@[simp]
theorem version_outline : deed.outline.version = deed.record.version := by
  unfold outline
  split <;> rfl

@[simp]
theorem origin_outline : deed.outline.origin = deed.record.origin := by
  unfold outline
  split <;> rfl

end Deed

/-- The outline of a deed is known from its decision and the version that it gave out. -/
theorem outline_of_mem_deedsOf {space : NumberSpace} {numbering : Numbering} {moves : List Move}
    {deed : Deed} (member : deed ∈ deedsOf space numbering moves) :
    deed.outline = deed.move.record 0 fun _ => deed.record.rank := by
  induction moves generalizing numbering with
  | nil => contradiction
  | cons move moves ih =>
      rcases List.mem_cons.mp member with rfl | member
      · cases move <;> rfl
      · exact ih member

/-- The numbers that are not fresh are known from the decisions. -/
theorem given_deedsOf {space : NumberSpace} {numbering : Numbering} {moves : List Move} :
    ((deedsOf space numbering moves).filter fun deed => !deed.move.mints).map
        (fun deed => deed.record.number) =
      (moves.filter fun move => !move.mints).map fun move =>
        (move.record 0 fun _ => 0).number := by
  have decisions : ((deedsOf space numbering moves).filter fun deed => !deed.move.mints).map
      Deed.move = moves.filter fun move => !move.mints :=
    filter_deedsOf fun move => !move.mints
  rw [← decisions, List.map_map]
  apply List.map_congr_left
  intro deed kept
  obtain ⟨member, given⟩ := List.mem_filter.mp kept
  have outlineEq := outline_of_mem_deedsOf member
  rw [Deed.outline_of_not_mints (by simpa using given)] at outlineEq
  rw [outlineEq, Function.comp_apply]
  exact Move.number_record_eq deed.move

/-- The same decisions in another order, but those that raise one function in the same one. -/
structure Reordered (moves others : List Move) : Prop where
  perm : moves.Perm others
  raising : ∀ base, (moves.filter fun move => move.bumped? = some base) =
    others.filter fun move => move.bumped? = some base

namespace Reordered

variable {moves others : List Move} {space otherSpace : NumberSpace}

theorem symm (reordered : Reordered moves others) : Reordered others moves :=
  ⟨reordered.perm.symm, fun base => (reordered.raising base).symm⟩

/-- Decisions in another order can be carried out together as well. -/
theorem exists_foldlM_iff (reordered : Reordered moves others) (alike : space.Alike otherSpace)
    {numbering : Numbering} :
    (∃ after, moves.foldlM (Numbering.carryOut space) numbering = .ok after) ↔
      ∃ after, others.foldlM (Numbering.carryOut otherSpace) numbering = .ok after := by
  rw [ApiTrace.exists_foldlM_iff, ApiTrace.exists_foldlM_iff, alike.freshNumbers_eq]
  simp only [alike.nextVersion_eq, reordered.perm.countP_eq]

/-- The decisions that raise a function give out the same versions. -/
theorem pairs_eq (reordered : Reordered moves others) (alike : space.Alike otherSpace)
    {numbering : Numbering} (base : String) :
    ((deedsOf space numbering moves).filter fun deed => deed.move.bumped? = some base).map
        (fun deed => (deed.move, deed.record.rank)) =
      ((deedsOf otherSpace numbering others).filter fun deed => deed.move.bumped? = some base).map
        fun deed => (deed.move, deed.record.rank) := by
  rw [← List.zip_map', ← List.zip_map', ranks_deedsOf, ranks_deedsOf, alike.nextVersion_eq,
    reordered.perm.countP_eq, filter_deedsOf fun move => move.bumped? = some base,
    filter_deedsOf fun move => move.bumped? = some base, reordered.raising]

/-- A decision leads to the same record in both orders, up to a fresh number. -/
theorem exists_twin (reordered : Reordered moves others) (alike : space.Alike otherSpace)
    {numbering : Numbering} {deed : Deed} (member : deed ∈ deedsOf space numbering moves) :
    ∃ twin ∈ deedsOf otherSpace numbering others,
      twin.move = deed.move ∧ twin.outline = deed.outline := by
  cases bumps : deed.move.bumped? with
  | none =>
      have decided : deed.move ∈ (deedsOf otherSpace numbering others).map Deed.move := by
        rw [map_move_deedsOf]
        exact reordered.perm.subset (move_mem_of_mem_deedsOf member)
      obtain ⟨twin, twinMem, moveEq⟩ := List.mem_map.mp decided
      refine ⟨twin, twinMem, moveEq, ?_⟩
      rw [outline_of_mem_deedsOf twinMem, outline_of_mem_deedsOf member, moveEq]
      exact Move.record_eq_of_bumped?_eq_none bumps
  | some base =>
      have kept : deed ∈ (deedsOf space numbering moves).filter fun deed =>
          deed.move.bumped? = some base :=
        List.mem_filter.mpr ⟨member, decide_eq_true bumps⟩
      have pair := List.mem_map_of_mem (f := fun deed => (deed.move, deed.record.rank)) kept
      rw [reordered.pairs_eq alike] at pair
      obtain ⟨twin, twinKept, same⟩ := List.mem_map.mp pair
      obtain ⟨moveEq, rankEq⟩ := Prod.mk.inj same
      have twinMem := List.mem_of_mem_filter twinKept
      refine ⟨twin, twinMem, moveEq, ?_⟩
      rw [outline_of_mem_deedsOf twinMem, outline_of_mem_deedsOf member, moveEq, rankEq]

/-- Decisions that are pairwise different lead to the same records, up to fresh numbers. -/
theorem outlines_perm (reordered : Reordered moves others) (alike : space.Alike otherSpace)
    (nodup : moves.Nodup) {numbering : Numbering} :
    ((deedsOf space numbering moves).map Deed.outline).Perm
      ((deedsOf otherSpace numbering others).map Deed.outline) := by
  have pairsNodup {space : NumberSpace} {moves : List Move} (nodup : moves.Nodup) :
      ((deedsOf space numbering moves).map fun deed => (deed.move, deed.outline)).Nodup := by
    apply List.Nodup.of_map Prod.fst
    rwa [List.map_map, Function.comp_def, map_move_deedsOf]
  have pairsPerm : ((deedsOf space numbering moves).map fun deed => (deed.move, deed.outline)).Perm
      ((deedsOf otherSpace numbering others).map fun deed => (deed.move, deed.outline)) := by
    apply (List.perm_ext_iff_of_nodup (pairsNodup nodup)
      (pairsNodup (reordered.perm.nodup_iff.mp nodup))).mpr
    intro pair
    constructor
    · intro member
      obtain ⟨deed, deedMem, rfl⟩ := List.mem_map.mp member
      obtain ⟨twin, twinMem, moveEq, outlineEq⟩ := reordered.exists_twin alike deedMem
      exact List.mem_map.mpr ⟨twin, twinMem, Prod.ext moveEq outlineEq⟩
    · intro member
      obtain ⟨deed, deedMem, rfl⟩ := List.mem_map.mp member
      obtain ⟨twin, twinMem, moveEq, outlineEq⟩ := reordered.symm.exists_twin alike.symm deedMem
      exact List.mem_map.mpr ⟨twin, twinMem, Prod.ext moveEq outlineEq⟩
  have outlinesPerm := pairsPerm.map Prod.snd
  rwa [List.map_map, List.map_map] at outlinesPerm

/-- Decisions in another order lead to the same numbers: as many fresh ones, and the others are
known from the decisions. -/
theorem numbers_perm (reordered : Reordered moves others) (alike : space.Alike otherSpace)
    {numbering : Numbering} :
    ((deedsOf space numbering moves).map fun deed => deed.record.number).Perm
      ((deedsOf otherSpace numbering others).map fun deed => deed.record.number) := by
  have split (deeds : List Deed) :
      ((deeds.filter fun deed => deed.move.mints).map (fun deed => deed.record.number) ++
          (deeds.filter fun deed => !deed.move.mints).map fun deed => deed.record.number).Perm
        (deeds.map fun deed => deed.record.number) := by
    rw [← List.map_append]
    exact (List.filter_append_perm _ deeds).map _
  refine (split _).symm.trans (.trans (.append (.of_eq ?_) ?_) (split _))
  · rw [numbers_deedsOf, numbers_deedsOf, reordered.perm.countP_eq, alike.freshNumbers_eq]
  · rw [given_deedsOf, given_deedsOf]
    exact (reordered.perm.filter _).map _

end Reordered

end ApiTrace
