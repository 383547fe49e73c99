import ApiTrace.Proofs.Identity.Course
import ApiTrace.Proofs.Identity.Names

/-!
# Which numbers are minted

A number is minted for a new function that declares none and for a shipped pair that is evicted,
first in the order of the header and then, for the pairs that no function continues, in the order of
their numbers. The minted numbers are the smallest that are neither shipped nor declared, from where
the map starts: none is skipped and none is tried twice, so a call is answered by its place in that
order alone.
-/

namespace ApiTrace

/-! ## The smallest free numbers -/

/-- The numbers are the smallest from `start` on that are not taken, ascending. -/
structure Smallest (taken : List Nat) (start : Nat) (numbers : List Nat) : Prop where
  ascending : numbers.Pairwise (· < ·)
  le : ∀ number ∈ numbers, start ≤ number
  untaken : ∀ number ∈ numbers, number ∉ taken
  /-- A free number that is not among them is above all of them. -/
  least : ∀ number, start ≤ number → number ∉ taken → number ∉ numbers →
    ∀ other ∈ numbers, other < number

theorem Smallest.nil (taken : List Nat) (start : Nat) : Smallest taken start [] where
  ascending := .nil
  le _ member := (List.not_mem_nil member).elim
  untaken _ member := (List.not_mem_nil member).elim
  least _ _ _ _ _ member := (List.not_mem_nil member).elim

/-- The search goes on behind the number that it found. -/
theorem Smallest.cons {taken : List Nat} {start : Nat} {numbers : List Nat}
    (rest : Smallest taken (firstFree taken start + 1) numbers) :
    Smallest taken start (firstFree taken start :: numbers) where
  ascending := List.pairwise_cons.mpr ⟨rest.le, rest.ascending⟩
  le := by
    refine List.forall_mem_cons.mpr ⟨le_firstFree taken start, fun number member => ?_⟩
    have above := rest.le number member
    have reached := le_firstFree taken start
    omega
  untaken := List.forall_mem_cons.mpr ⟨firstFree_not_mem taken start, rest.untaken⟩
  least := by
    intro number reached free absent
    have first : firstFree taken start ≤ number := firstFree_le reached free
    have different : number ≠ firstFree taken start := List.ne_of_not_mem_cons absent
    have above : firstFree taken start < number := Nat.lt_of_le_of_ne first different.symm
    exact List.forall_mem_cons.mpr
      ⟨above, rest.least number above free (List.not_mem_of_not_mem_cons absent)⟩

/-- The fresh numbers of a space are the smallest after the last one. -/
theorem NumberSpace.smallest_freshNumbers (space : NumberSpace) (last count : Nat) :
    Smallest space.taken (max space.map.nextFree (last + 1)) (space.freshNumbers last count) := by
  induction count generalizing last with
  | zero => exact .nil _ _
  | succ count ih =>
      rw [freshNumbers]
      apply Smallest.cons
      have rest := ih (firstFree space.taken (max space.map.nextFree (last + 1)))
      have reached := le_firstFree space.taken (max space.map.nextFree (last + 1))
      rwa [Nat.max_eq_right (by omega)] at rest

/-! ## The calls for a fresh number -/

/-- A call for a fresh number. -/
structure MintCall where
  /-- The function whose record gets the number. -/
  function : String
  /-- The shipped pair that needs another number; none for a new function. -/
  evicted : Option (String × Nat)
  deriving DecidableEq, Repr

/-- The call for a shipped pair of `base`, if another function declares its number. -/
def evictionCall? (entries : List Entry) (base : String) (pair : String × Nat) : Option MintCall :=
  (claimant? entries pair.2 base).map fun _ => ⟨base, some pair⟩

/-- The call for a function: it is new and declares no number, or what it continues is evicted. -/
def entryCall? (entries : List Entry) (map : IdMap) (entry : Entry) : Option MintCall :=
  match map.prior? entry.name entry.declared with
  | none => if entry.declared = none then some ⟨entry.name, none⟩ else none
  | some prior => evictionCall? entries entry.name (prior.name, prior.number)

/-- The calls of a run: for the functions in the order of the header, then for the evicted pairs
that no function continues, by ascending number. -/
def mintCalls (entries : List Entry) (map : IdMap) : List MintCall :=
  entries.filterMap (entryCall? entries map) ++
    (residuals entries map).filterMap fun pair =>
      evictionCall? entries (VersionedName.ofName pair.1).base pair

/-- The call that a decision makes. -/
def Move.call? : Move → Option MintCall
  | .mint function => some ⟨function, none⟩
  | .evict base prior _ _ => some ⟨base, some (prior.name, prior.number)⟩
  | _ => none

theorem Move.isSome_call? (move : Move) : move.call?.isSome = move.mints := by
  cases move <;> rfl

theorem Move.call?_keepOrEvict (entries : List Entry) (base : String) (prior : Prior)
    (origin : Origin) : (keepOrEvict entries base prior origin).call? =
      evictionCall? entries base (prior.name, prior.number) := by
  unfold keepOrEvict evictionCall?
  split <;> rename_i claims <;> rw [claims] <;> rfl

theorem filterMap_call?_movesOfEntry (entries : List Entry) (map : IdMap) (entry : Entry) :
    (movesOfEntry entries map entry).filterMap Move.call? =
      (entryCall? entries map entry).toList := by
  unfold movesOfEntry entryCall?
  split <;> rename_i continues declares
  · rw [continues, declares]
    rfl
  · rw [continues, declares]
    rfl
  · rw [continues]
    split <;> simp only [List.filterMap_cons, Move.call?_keepOrEvict] <;>
      cases evictionCall? entries entry.name _ <;> rfl
  · rw [continues]
    simp only [List.filterMap_cons, Move.call?_keepOrEvict]
    cases evictionCall? entries entry.name _ <;> rfl

/-- A plan makes its calls in this order. -/
theorem filterMap_call?_plan (entries : List Entry) (map : IdMap) :
    (plan entries map).filterMap Move.call? = mintCalls entries map := by
  rw [plan, List.filterMap_append, List.filterMap_flatMap, List.filterMap_map, mintCalls]
  congr 1
  · simp only [filterMap_call?_movesOfEntry]
    exact (List.filterMap_eq_flatMap_toList _ _).symm
  · congr 1
    funext pair
    exact Move.call?_keepOrEvict entries _ _ _

/-! ## The numbers that answer the calls -/

/-- The number under which a shipped pair goes on, if the event is about it. -/
def Event.reassigned? (pair : String × Nat) : Event → Option Nat
  | .recycled evicted number _ _ reassignedNumber =>
    if (evicted, number) = pair then some reassignedNumber else none
  | .reversioned .. => none

/-- The numbers that an assignment shows for a call: those of the current records of a new function,
and those under which an evicted pair is reported to go on. -/
def Assignment.numbersFor (assignment : Assignment) (call : MintCall) : List Nat :=
  match call.evicted with
  | none => (assignment.records.filter fun record =>
      record.function = call.function ∧ record.origin = .current).map Record.number
  | some pair => assignment.events.filterMap (Event.reassigned? pair)

/-- A number is reported for a pair by the deed that disposes of it. -/
private theorem shipped?_eq_some_of_reassigned? {deed : Deed} {pair : String × Nat}
    (reports : (deed.event?.bind (Event.reassigned? pair)).isSome) :
    deed.move.shipped? = some pair := by
  obtain ⟨move, record⟩ := deed
  cases move with
  | adopt | mint | keep | reversion => contradiction
  | evict base prior claimant origin =>
      rw [Deed.event?, Option.bind_some, Event.reassigned?] at reports
      split at reports
      · rename_i same
        exact congrArg some same
      · contradiction

section Answers

variable {category : Category} {entries : List Entry} {map : IdMap} {deeds : List Deed}
  {assignment : Assignment}

/-- A call is answered by the number of its deed. -/
theorem Assigned.numbersFor_eq_singleton (assigned : Assigned category entries map deeds assignment)
    {deed : Deed} (member : deed ∈ deeds) {call : MintCall} (calls : deed.move.call? = some call) :
    assignment.numbersFor call = [deed.record.number] := by
  obtain ⟨move, record⟩ := deed
  cases move with
  | adopt | keep | reversion => contradiction
  | mint function =>
      cases calls
      have current : (Move.mint function).current? = some function := rfl
      rw [Assignment.numbersFor, assigned.filter_current member current, List.map_singleton]
  | evict base prior claimant origin =>
      cases calls
      change assignment.events.filterMap (Event.reassigned? (prior.name, prior.number)) = _
      rw [assigned.events_eq, List.filterMap_filterMap]
      apply Selection.filterMap_eq_singleton assigned.nodup_deeds member
      · rw [Deed.event?, Option.bind_some, Event.reassigned?, if_pos rfl]
      · intro other otherMem reports
        exact Selection.eq_of_nodup_filterMap assigned.nodup_shipped? otherMem member
          (shipped?_eq_some_of_reassigned? reports) rfl

/-- The numbers that were minted, in the order of the deeds. -/
def mintedNumbers (deeds : List Deed) : List Nat :=
  (deeds.filter fun deed => deed.move.mints).map fun deed => deed.record.number

/-- Deed by deed, the calls are answered by the minted numbers. -/
private theorem forall₂_mintedNumbers {answered : MintCall → Nat → Prop}
    (answers : ∀ deed ∈ deeds, ∀ call, deed.move.call? = some call →
      answered call deed.record.number) :
    List.Forall₂ answered (deeds.filterMap fun deed => deed.move.call?) (mintedNumbers deeds) := by
  induction deeds with
  | nil => exact .nil
  | cons deed deeds ih =>
      obtain ⟨first, later⟩ := List.forall_mem_cons.mp answers
      rw [mintedNumbers, List.filter_cons, ← deed.move.isSome_call?, List.filterMap_cons]
      cases calls : deed.move.call? with
      | none => exact ih later
      | some call => exact .cons (first call calls) (ih later)

/-- Only minted numbers are neither shipped nor declared. -/
theorem Executed.mints_iff (executed : Executed category entries map deeds) {deed : Deed}
    (member : deed ∈ deeds) :
    deed.move.mints ↔ deed.record.number ∉ takenNumbers entries map := by
  constructor
  · intro mints
    exact ((executed.yields deed member).fresh mints).untaken
  · intro untaken
    by_contra given
    apply untaken
    cases executed.justified member with
    | adopt declares _ => exact List.mem_append_right _ (List.mem_filterMap.mpr ⟨_, declares, rfl⟩)
    | mint | evict => exact absurd rfl given
    | keep shipped _ _ =>
        exact List.mem_append_left _
          (List.mem_map_of_mem (f := Prod.snd) (IdMap.mem_versionsOf_iff.mp shipped).1)
    | reversion declares _ _ _ =>
        exact List.mem_append_right _ (List.mem_filterMap.mpr ⟨_, declares, rfl⟩)

end Answers

/-- The calls of a run are answered, in their order, by the smallest numbers from the map's start on
that are neither shipped nor declared, and no other record has such a number. -/
theorem assign_mints_smallest (category : Category) (entries : List Entry) (map : IdMap)
    (assignment : Assignment)
    (ended : (assign category entries map).outcome = .ok assignment) :
    ∃ minted,
      List.Forall₂ (fun call number => assignment.numbersFor call = [number])
        (mintCalls entries map) minted ∧
      Smallest (takenNumbers entries map) (max map.nextFree 1) minted ∧
      ∀ record ∈ assignment.records,
        record.number ∈ minted ↔ record.number ∉ takenNumbers entries map := by
  have assigned := assigned_courseOf ended
  have minted : mintedNumbers (courseOf category entries map) =
      (spaceOf category entries map).freshNumbers 0 ((plan entries map).countP Move.mints) :=
    numbers_deedsOf
  refine ⟨mintedNumbers (courseOf category entries map), ?answered, ?smallest, ?others⟩
  case answered =>
    rw [← filterMap_call?_plan, ← assigned.filterMap_move]
    exact forall₂_mintedNumbers fun deed member call => assigned.numbersFor_eq_singleton member
  case smallest =>
    rw [minted]
    exact (spaceOf category entries map).smallest_freshNumbers 0 _
  case others =>
    intro record recordMem
    obtain ⟨deed, deedMem, rfl⟩ := assigned.mem_records_iff.mp recordMem
    rw [← assigned.mints_iff deedMem, mintedNumbers, List.mem_map]
    constructor
    · rintro ⟨other, kept, same⟩
      obtain ⟨otherMem, mints⟩ := List.mem_filter.mp kept
      rw [assigned.mints_iff deedMem, ← same, ← assigned.mints_iff otherMem]
      exact mints
    · intro mints
      exact ⟨deed, List.mem_filter.mpr ⟨deedMem, mints⟩, rfl⟩

theorem assign_mints_smallest_contested :
    (assign Contested.category Contested.entries Contested.map).outcome =
        .ok Contested.assignment ∧
      mintCalls Contested.entries Contested.map =
        [⟨"zeInit", some ("zeInit_v2", 6)⟩, ⟨"zeNew", none⟩] ∧
      ∃ minted,
        List.Forall₂ (fun call number => Contested.assignment.numbersFor call = [number])
          (mintCalls Contested.entries Contested.map) minted ∧
        Smallest [5, 6, 9, 6] 7 minted := by
  obtain ⟨minted, answered, smallest, _⟩ := assign_mints_smallest Contested.category
    Contested.entries Contested.map Contested.assignment Contested.ended
  exact ⟨Contested.ended, by decide +kernel, minted, answered, smallest⟩

end ApiTrace
