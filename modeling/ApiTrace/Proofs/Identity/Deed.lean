import ApiTrace.Proofs.Identity.Plan
import ApiTrace.Proofs.Sequence

/-!
# Plans carried out

Carrying out a decision adds one record. `Yields` says which record a decision can lead to, whatever
was carried out before it, and `Logged` how the fresh numbers and versions of several decisions are
ordered. A step extends the log by one deed, so a whole run has a log: `logged_of_foldlM`.
-/

namespace ApiTrace

/-! ## Fresh numbers and versions -/

theorem le_firstFree (taken : List Nat) (start : Nat) : start ≤ firstFree taken start := by
  fun_induction firstFree taken start with
  | case1 taken start _ ih => exact Nat.le_of_succ_le ih
  | case2 taken start _ => exact Nat.le_refl start

theorem firstFree_not_mem (taken : List Nat) (start : Nat) : firstFree taken start ∉ taken := by
  fun_induction firstFree taken start with
  | case1 taken start _ ih =>
      -- The search erases `start` from the list, but it ends above `start`.
      have above : start + 1 ≤ firstFree (taken.erase start) (start + 1) := le_firstFree _ _
      have different : firstFree (taken.erase start) (start + 1) ≠ start := by omega
      rwa [List.mem_erase_of_ne different] at ih
  | case2 taken start free => exact free

/-- The search skips no number that is free. -/
theorem firstFree_le {taken : List Nat} {start number : Nat} (reached : start ≤ number)
    (free : number ∉ taken) : firstFree taken start ≤ number := by
  fun_induction firstFree taken start with
  | case1 taken start isTaken ih =>
      have different : start ≠ number := fun same => free (same ▸ isTaken)
      exact ih (by omega) fun member => free (List.mem_of_mem_erase member)
  | case2 taken start _ => exact reached

/-- The search depends on which numbers are taken, not on their order. -/
theorem firstFree_congr {first second : List Nat}
    (same : ∀ number, number ∈ first ↔ number ∈ second)
    (start : Nat) : firstFree first start = firstFree second start := by
  apply Nat.le_antisymm
  · exact firstFree_le (le_firstFree second start)
      (mt (same _).mp (firstFree_not_mem second start))
  · exact firstFree_le (le_firstFree first start)
      (mt (same _).mpr (firstFree_not_mem first start))

namespace NumberSpace

/-- A number that may be given out as fresh. -/
structure Fresh (space : NumberSpace) (number : Nat) : Prop where
  untaken : number ∉ space.taken
  nextFree_le : space.map.nextFree ≤ number
  positive : 0 < number
  le_maxWord : number ≤ Text.maxWord

/-- A version that may be given out as fresh. -/
structure Raised (space : NumberSpace) (base : String) (version : Nat) : Prop where
  highest_lt : space.map.highestVersion base < version
  le_maxWord : version ≤ Text.maxWord

end NumberSpace

/-! ## One decision -/

/-- The version of a record as a number. -/
def Record.rank (record : Record) : Nat :=
  record.version.getD 1

namespace Move

/-- Whether a decision takes a fresh number. -/
def mints : Move → Bool
  | .mint _ | .evict .. => true
  | _ => false

/-- The function of which a decision takes a fresh version. -/
def bumped? : Move → Option String
  | .evict base .. => some base
  | .reversion function .. => some function
  | _ => none

theorem function_of_bumped? {move : Move} {base : String} (bumps : move.bumped? = some base) :
    move.function = base := by
  cases move with
  | adopt | mint | keep => contradiction
  | evict | reversion => exact Option.some.inj bumps

/-- The record that a decision leads to, with a fresh number and fresh versions. -/
def record (number : Nat) (version : String → Nat) : Move → Record
  | .adopt function declared => ⟨function, declared, none, .current⟩
  | .mint function => ⟨function, number, none, .current⟩
  | .keep base prior origin => ⟨base, prior.number, prior.version, origin⟩
  | .evict base _ _ origin => ⟨base, number, some (version base), origin⟩
  | .reversion function _ declared => ⟨function, declared, some (version function), .current⟩

theorem number_record_of_mints {number : Nat} {version : String → Nat} {move : Move}
    (mints : move.mints) : (move.record number version).number = number := by
  cases move with
  | adopt | keep | reversion => contradiction
  | mint | evict => rfl

theorem rank_record_of_bumped? {number : Nat} {version : String → Nat} {move : Move} {base : String}
    (bumps : move.bumped? = some base) : (move.record number version).rank = version base := by
  cases move with
  | adopt | mint | keep => contradiction
  | evict | reversion =>
      cases bumps
      rfl

/-- Only a decision that raises a function uses a fresh version. -/
theorem record_eq_of_bumped?_eq_none {number : Nat} {version other : String → Nat} {move : Move}
    (bumps : move.bumped? = none) : move.record number version = move.record number other := by
  cases move with
  | adopt | mint | keep => rfl
  | evict | reversion => contradiction

/-- The number does not depend on the fresh versions. -/
theorem number_record_eq {number : Nat} {version other : String → Nat} (move : Move) :
    (move.record number version).number = (move.record number other).number := by
  cases move <;> rfl

end Move

/-- The records that a decision can lead to. -/
inductive Yields (space : NumberSpace) : Move → Record → Prop
  | adopt (function : String) (number : Nat) :
      Yields space (.adopt function number) ⟨function, number, none, .current⟩
  | mint (function : String) {number : Nat} (fresh : space.Fresh number) :
      Yields space (.mint function) ⟨function, number, none, .current⟩
  | keep (base : String) (prior : Prior) (origin : Origin) :
      Yields space (.keep base prior origin) ⟨base, prior.number, prior.version, origin⟩
  | evict (base : String) (prior : Prior) (claimant : String) (origin : Origin)
      {number version : Nat} (fresh : space.Fresh number) (raised : space.Raised base version) :
      Yields space (.evict base prior claimant origin) ⟨base, number, some version, origin⟩
  | reversion (function : String) (prior : Prior) (number : Nat) {version : Nat}
      (raised : space.Raised function version) :
      Yields space (.reversion function prior number) ⟨function, number, some version, .current⟩

/-- The current record of a function stems from the current decision about it. -/
theorem Yields.current? {space : NumberSpace} {move : Move} {record : Record}
    (yields : Yields space move record) :
    move.current? = if record.origin = .current then some record.function else none := by
  cases yields with
  | adopt | mint | reversion => rfl
  | keep base prior origin => cases origin <;> rfl
  | evict base prior claimant origin => cases origin <;> rfl

theorem Yields.fresh {space : NumberSpace} {move : Move} {record : Record}
    (yields : Yields space move record) (mints : move.mints) : space.Fresh record.number := by
  cases yields with
  | adopt | keep | reversion => contradiction
  | mint _ fresh => exact fresh
  | evict _ _ _ _ fresh _ => exact fresh

/-- A decision with the record that it led to. -/
structure Deed where
  move : Move
  record : Record

/-- A deed with why it was decided and the record that it led to. -/
inductive Justified (entries : List Entry) (map : IdMap) (space : NumberSpace) : Deed → Prop
  | adopt {function : String} {number : Nat} (declares : ⟨function, some number⟩ ∈ entries)
      (unshipped : map.versionsOf function = []) :
      Justified entries map space ⟨.adopt function number, ⟨function, number, none, .current⟩⟩
  | mint {function : String} {number : Nat} (undeclared : ⟨function, none⟩ ∈ entries)
      (unshipped : map.versionsOf function = []) (fresh : space.Fresh number) :
      Justified entries map space ⟨.mint function, ⟨function, number, none, .current⟩⟩
  | keep {base : String} {prior : Prior} {origin : Origin} (shipped : prior ∈ map.versionsOf base)
      (unclaimed : claimant? entries prior.number base = none)
      (continues : origin = .current → Continues entries map base prior) :
      Justified entries map space
        ⟨.keep base prior origin, ⟨base, prior.number, prior.version, origin⟩⟩
  | evict {base : String} {prior : Prior} {claimant : String} {origin : Origin}
      {number version : Nat} (shipped : prior ∈ map.versionsOf base)
      (claimed : claimant? entries prior.number base = some claimant)
      (continues : origin = .current → Continues entries map base prior)
      (fresh : space.Fresh number) (raised : space.Raised base version) :
      Justified entries map space
        ⟨.evict base prior claimant origin, ⟨base, number, some version, origin⟩⟩
  | reversion {function : String} {prior : Prior} {number version : Nat}
      (declares : ⟨function, some number⟩ ∈ entries)
      (continues : map.prior? function (some number) = some prior) (changes : number ≠ prior.number)
      (raised : space.Raised function version) :
      Justified entries map space
        ⟨.reversion function prior number, ⟨function, number, some version, .current⟩⟩

theorem Decided.justified {entries : List Entry} {map : IdMap} {space : NumberSpace} {deed : Deed}
    (decided : Decided entries map deed.move) (yields : Yields space deed.move deed.record) :
    Justified entries map space deed := by
  obtain ⟨move, record⟩ := deed
  dsimp only at decided yields
  cases yields with
  | adopt function number =>
      cases decided with
      | adopt declares unshipped => exact .adopt declares unshipped
  | mint function fresh =>
      cases decided with
      | mint undeclared unshipped => exact .mint undeclared unshipped fresh
  | keep base prior origin =>
      cases decided with
      | keep shipped unclaimed continues => exact .keep shipped unclaimed continues
  | evict base prior claimant origin fresh raised =>
      cases decided with
      | evict shipped claimed continues => exact .evict shipped claimed continues fresh raised
  | reversion function prior number raised =>
      cases decided with
      | reversion declares continues changes => exact .reversion declares continues changes raised

/-- What a deed reports. -/
def Deed.event? (deed : Deed) : Option Event :=
  match deed.move with
  | .evict _ prior claimant _ =>
    some (.recycled prior.name prior.number claimant deed.record.name deed.record.number)
  | .reversion function prior _ =>
    some (.reversioned function prior.name prior.number deed.record.name deed.record.number)
  | _ => none

/-- All that one step does: it adds a record and perhaps an event, its fresh number is above the
last one, and its fresh version above all that the function had. -/
structure Carried (space : NumberSpace) (numbering : Numbering) (deed : Deed) (after : Numbering) :
    Prop where
  yields : Yields space deed.move deed.record
  records : after.records = numbering.records ++ [deed.record]
  events : after.events = numbering.events ++ deed.event?.toList
  last_le : numbering.last ≤ after.last
  minted : deed.move.mints →
    numbering.last < deed.record.number ∧ deed.record.number ≤ after.last
  count_le : ∀ base, numbering.bumped.count base ≤ after.bumped.count base
  bumped : ∀ base, deed.move.bumped? = some base →
    space.map.highestVersion base + numbering.bumped.count base < deed.record.rank ∧
      deed.record.rank ≤ space.map.highestVersion base + after.bumped.count base

namespace Numbering

variable {space : NumberSpace} {numbering : Numbering} {move : Move}

/-- The next fresh number. -/
def freshNumber (space : NumberSpace) (numbering : Numbering) : Nat :=
  firstFree space.taken (max space.map.nextFree (numbering.last + 1))

/-- The next version of a function. -/
def nextVersion (space : NumberSpace) (numbering : Numbering) (base : String) : Nat :=
  space.map.highestVersion base + numbering.bumped.count base + 1

/-- The deed of a decision, whether or not it fits 32 bits. -/
def deed (space : NumberSpace) (numbering : Numbering) (move : Move) : Deed :=
  ⟨move, move.record (numbering.freshNumber space) (numbering.nextVersion space)⟩

@[simp]
theorem move_deed (space : NumberSpace) (numbering : Numbering) (move : Move) :
    (numbering.deed space move).move = move :=
  rfl

theorem number_deed_of_mints (mints : move.mints) :
    (numbering.deed space move).record.number = numbering.freshNumber space :=
  Move.number_record_of_mints mints

theorem rank_deed_of_bumped? {base : String} (bumps : move.bumped? = some base) :
    (numbering.deed space move).record.rank = numbering.nextVersion space base :=
  Move.rank_record_of_bumped? bumps

/-- The numbering after a decision, whether or not it fits 32 bits. -/
def advance (space : NumberSpace) (numbering : Numbering) (move : Move) : Numbering where
  last := if move.mints then numbering.freshNumber space else numbering.last
  bumped := move.bumped?.toList ++ numbering.bumped
  records := numbering.records ++ [(numbering.deed space move).record]
  events := numbering.events ++ (numbering.deed space move).event?.toList

theorem last_advance_of_mints (mints : move.mints) :
    (numbering.advance space move).last = numbering.freshNumber space :=
  if_pos mints

theorem last_advance_of_not_mints (mints : ¬move.mints) :
    (numbering.advance space move).last = numbering.last :=
  if_neg mints

theorem count_bumped_advance (base : String) :
    (numbering.advance space move).bumped.count base =
      numbering.bumped.count base + if move.bumped? = some base then 1 else 0 := by
  rw [advance, List.count_append, Nat.add_comm]
  congr 1
  cases bumps : move.bumped? with
  | none => rfl
  | some other => simp [List.count_singleton]

/-- What a decision takes as fresh fits 32 bits. -/
structure Fits (space : NumberSpace) (numbering : Numbering) (move : Move) : Prop where
  version : ∀ base, move.bumped? = some base → numbering.nextVersion space base ≤ Text.maxWord
  number : move.mints → numbering.freshNumber space ≤ Text.maxWord

theorem Fits.of_given (bumps : move.bumped? = none) (mints : ¬move.mints) :
    numbering.Fits space move where
  version base raises := by
    rw [bumps] at raises
    contradiction
  number isMint := absurd isMint mints

/-- The one place where the cases of a step are gone through: it fails exactly where 32 bits do not
suffice. -/
theorem carryOut_cases (space : NumberSpace) (numbering : Numbering) (move : Move) :
    (numbering.Fits space move ∧
        numbering.carryOut space move = .ok (numbering.advance space move)) ∨
      (¬numbering.Fits space move ∧ numbering.carryOut space move = .error .exhausted) := by
  have mint_eq : ∀ bumped,
      mint ⟨numbering.last, bumped, numbering.records, numbering.events⟩ space =
        if numbering.freshNumber space ≤ Text.maxWord then
          .ok (numbering.freshNumber space,
            ⟨numbering.freshNumber space, bumped, numbering.records, numbering.events⟩)
        else .error .exhausted := fun _ => rfl
  have bump_eq : ∀ base, numbering.bump space base =
      if numbering.nextVersion space base ≤ Text.maxWord then
        .ok (numbering.nextVersion space base,
          { numbering with bumped := base :: numbering.bumped })
      else .error .exhausted := fun _ => rfl
  cases move with
  | adopt function number =>
      refine .inl ⟨.of_given rfl Bool.false_ne_true, ?_⟩
      simp [carryOut, advance, addRecord, deed, Deed.event?, Move.mints, Move.bumped?, Move.record]
  | mint function =>
      by_cases within : numbering.freshNumber space ≤ Text.maxWord
      · refine .inl ⟨⟨fun base raises => by contradiction, fun _ => within⟩, ?_⟩
        simp [carryOut, mint_eq numbering.bumped, within, advance, addRecord, deed, Deed.event?,
          Move.mints, Move.bumped?, Move.record, bind, Except.bind, pure, Except.pure]
      · refine .inr ⟨fun fits => within (fits.number rfl), ?_⟩
        simp [carryOut, mint_eq numbering.bumped, within, bind, Except.bind]
  | keep base prior origin =>
      refine .inl ⟨.of_given rfl Bool.false_ne_true, ?_⟩
      simp [carryOut, advance, addRecord, deed, Deed.event?, Move.mints, Move.bumped?, Move.record]
  | evict base prior claimant origin =>
      by_cases raised : numbering.nextVersion space base ≤ Text.maxWord
      · by_cases within : numbering.freshNumber space ≤ Text.maxWord
        · refine .inl ⟨⟨?_, fun _ => within⟩, ?_⟩
          · rintro other ⟨⟩
            exact raised
          · simp [carryOut, bump_eq, raised, mint_eq, within, advance, addRecord, addEvent, deed,
              Deed.event?, Move.mints, Move.bumped?, Move.record, bind, Except.bind, pure,
              Except.pure]
        · refine .inr ⟨fun fits => within (fits.number rfl), ?_⟩
          simp [carryOut, bump_eq, raised, mint_eq, within, bind, Except.bind]
      · refine .inr ⟨fun fits => raised (fits.version base rfl), ?_⟩
        simp [carryOut, bump_eq, raised, bind, Except.bind]
  | reversion function prior number =>
      by_cases raised : numbering.nextVersion space function ≤ Text.maxWord
      · refine .inl ⟨⟨?_, fun mints => by contradiction⟩, ?_⟩
        · rintro other ⟨⟩
          exact raised
        · simp [carryOut, bump_eq, raised, advance, addRecord, addEvent, deed, Deed.event?,
            Move.mints, Move.bumped?, Move.record, bind, Except.bind, pure, Except.pure]
      · refine .inr ⟨fun fits => raised (fits.version function rfl), ?_⟩
        simp [carryOut, bump_eq, raised, bind, Except.bind]

theorem carryOut_eq_ok_iff {after : Numbering} :
    numbering.carryOut space move = .ok after ↔
      numbering.Fits space move ∧ after = numbering.advance space move := by
  rcases carryOut_cases space numbering move with ⟨fits, ended⟩ | ⟨misfits, ended⟩
  · rw [ended, Except.ok.injEq, and_iff_right fits, eq_comm]
  · simp [ended, misfits]

theorem last_lt_freshNumber (space : NumberSpace) (numbering : Numbering) :
    numbering.last < numbering.freshNumber space := by
  have above := le_firstFree space.taken (max space.map.nextFree (numbering.last + 1))
  rw [freshNumber]
  omega

theorem fresh_freshNumber (within : numbering.freshNumber space ≤ Text.maxWord) :
    space.Fresh (numbering.freshNumber space) := by
  have above := le_firstFree space.taken (max space.map.nextFree (numbering.last + 1))
  refine ⟨firstFree_not_mem _ _, ?_, ?_, within⟩ <;> rw [freshNumber] <;> omega

theorem raised_nextVersion {base : String}
    (within : numbering.nextVersion space base ≤ Text.maxWord) :
    space.Raised base (numbering.nextVersion space base) := by
  refine ⟨?_, within⟩
  rw [nextVersion]
  omega

theorem yields_deed (fits : numbering.Fits space move) :
    Yields space move (numbering.deed space move).record := by
  cases move with
  | adopt function number => exact .adopt function number
  | mint function => exact .mint function (fresh_freshNumber (fits.number rfl))
  | keep base prior origin => exact .keep base prior origin
  | evict base prior claimant origin =>
      exact .evict base prior claimant origin (fresh_freshNumber (fits.number rfl))
        (raised_nextVersion (fits.version base rfl))
  | reversion function prior number =>
      exact .reversion function prior number (raised_nextVersion (fits.version function rfl))

end Numbering

theorem carried_advance {space : NumberSpace} {numbering : Numbering} {move : Move}
    (fits : numbering.Fits space move) :
    Carried space numbering (numbering.deed space move) (numbering.advance space move) where
  yields := Numbering.yields_deed fits
  records := rfl
  events := rfl
  last_le := by
    by_cases mints : move.mints
    · rw [Numbering.last_advance_of_mints mints]
      exact Nat.le_of_lt (numbering.last_lt_freshNumber space)
    · exact Nat.le_of_eq (Numbering.last_advance_of_not_mints mints).symm
  minted mints := by
    rw [Numbering.move_deed] at mints
    rw [Numbering.number_deed_of_mints mints, Numbering.last_advance_of_mints mints]
    exact ⟨numbering.last_lt_freshNumber space, Nat.le_refl _⟩
  count_le base := by
    rw [Numbering.count_bumped_advance]
    exact Nat.le_add_right _ _
  bumped base bumps := by
    rw [Numbering.move_deed] at bumps
    rw [Numbering.rank_deed_of_bumped? bumps, Numbering.count_bumped_advance, if_pos bumps,
      Numbering.nextVersion]
    omega

/-- A step fails only where 32 bits do not suffice. -/
theorem eq_exhausted_of_carryOut_eq_error {space : NumberSpace}
    {numbering : Numbering} {move : Move}
    {error : IdError} (ended : numbering.carryOut space move = .error error) :
    error = .exhausted := by
  rcases Numbering.carryOut_cases space numbering move with ⟨_, fit⟩ | ⟨_, misfit⟩
  · rw [fit] at ended
    contradiction
  · rw [misfit] at ended
    exact (Except.error.inj ended).symm

/-! ## A whole run -/

/-- The deeds that led from the start to a numbering. -/
structure Logged (space : NumberSpace) (deeds : List Deed) (numbering : Numbering) : Prop where
  records : numbering.records = deeds.map Deed.record
  events : numbering.events = deeds.filterMap Deed.event?
  yields : ∀ deed ∈ deeds, Yields space deed.move deed.record
  /-- Fresh numbers ascend. -/
  minted : deeds.Pairwise fun earlier later =>
    earlier.move.mints → later.move.mints → earlier.record.number < later.record.number
  /-- The fresh versions of a function ascend. -/
  bumped : deeds.Pairwise fun earlier later => ∀ base,
    earlier.move.bumped? = some base → later.move.bumped? = some base →
      earlier.record.rank < later.record.rank
  le_last : ∀ deed ∈ deeds, deed.move.mints → deed.record.number ≤ numbering.last
  le_count : ∀ deed ∈ deeds, ∀ base, deed.move.bumped? = some base →
    deed.record.rank ≤ space.map.highestVersion base + numbering.bumped.count base

theorem Logged.start (space : NumberSpace) : Logged space [] {} where
  records := rfl
  events := rfl
  yields _ member := (List.not_mem_nil member).elim
  minted := .nil
  bumped := .nil
  le_last _ member := (List.not_mem_nil member).elim
  le_count _ member := (List.not_mem_nil member).elim

theorem Logged.snoc {space : NumberSpace} {deeds : List Deed} {numbering after : Numbering}
    {deed : Deed} (logged : Logged space deeds numbering)
    (carried : Carried space numbering deed after) : Logged space (deeds ++ [deed]) after where
  records := by rw [carried.records, logged.records, List.map_append, List.map_singleton]
  events := by
    rw [carried.events, logged.events, List.filterMap_append]
    cases reported : deed.event? <;> simp [reported]
  yields other member := by
    rcases List.mem_append.mp member with member | member
    · exact logged.yields other member
    · rw [List.mem_singleton.mp member]
      exact carried.yields
  minted := by
    apply List.pairwise_append.mpr
    apply And.intro logged.minted
    apply And.intro (List.pairwise_singleton _ _)
    intro earlier member later isDeed earlierMints laterMints
    rw [List.mem_singleton.mp isDeed] at laterMints ⊢
    exact Nat.lt_of_le_of_lt (logged.le_last earlier member earlierMints)
      (carried.minted laterMints).1
  bumped := by
    apply List.pairwise_append.mpr
    apply And.intro logged.bumped
    apply And.intro (List.pairwise_singleton _ _)
    intro earlier member later isDeed base earlierBumps laterBumps
    rw [List.mem_singleton.mp isDeed] at laterBumps ⊢
    exact Nat.lt_of_le_of_lt (logged.le_count earlier member base earlierBumps)
      (carried.bumped base laterBumps).1
  le_last other member mints := by
    rcases List.mem_append.mp member with member | member
    · exact Nat.le_trans (logged.le_last other member mints) carried.last_le
    · rw [List.mem_singleton.mp member] at mints ⊢
      exact (carried.minted mints).2
  le_count other member base bumps := by
    rcases List.mem_append.mp member with member | member
    · have before := logged.le_count other member base bumps
      have counted := carried.count_le base
      omega
    · rw [List.mem_singleton.mp member] at bumps ⊢
      exact (carried.bumped base bumps).2

/-- The deeds of decisions, whether or not they fit 32 bits. -/
def deedsOf (space : NumberSpace) (numbering : Numbering) : List Move → List Deed
  | [] => []
  | move :: moves => numbering.deed space move :: deedsOf space (numbering.advance space move) moves

@[simp]
theorem map_move_deedsOf {space : NumberSpace} {numbering : Numbering} {moves : List Move} :
    (deedsOf space numbering moves).map Deed.move = moves := by
  induction moves generalizing numbering with
  | nil => rfl
  | cons move moves ih => exact congrArg (move :: ·) ih

/-- A run that succeeds has a log of its deeds. -/
theorem logged_of_foldlM {space : NumberSpace} {deeds : List Deed} {numbering after : Numbering}
    {moves : List Move} (logged : Logged space deeds numbering)
    (ended : moves.foldlM (Numbering.carryOut space) numbering = .ok after) :
    Logged space (deeds ++ deedsOf space numbering moves) after := by
  induction moves generalizing deeds numbering with
  | nil =>
      cases ended
      rwa [deedsOf, List.append_nil]
  | cons move moves ih =>
      obtain ⟨middle, first, rest⟩ := bind_eq_ok ended
      obtain ⟨fits, rfl⟩ := Numbering.carryOut_eq_ok_iff.mp first
      rw [deedsOf, List.append_cons]
      exact ih (logged.snoc (carried_advance fits)) rest

/-- A run fails only where 32 bits do not suffice. -/
theorem eq_exhausted_of_foldlM_eq_error {space : NumberSpace} {numbering : Numbering}
    {moves : List Move} {error : IdError}
    (ended : moves.foldlM (Numbering.carryOut space) numbering = .error error) :
    error = .exhausted := by
  induction moves generalizing numbering with
  | nil => contradiction
  | cons move moves ih =>
      rcases bind_eq_error ended with first | ⟨middle, _, rest⟩
      · exact eq_exhausted_of_carryOut_eq_error first
      · exact ih rest

end ApiTrace
