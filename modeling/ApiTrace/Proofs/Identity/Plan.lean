import ApiTrace.Identity.Assignment
import ApiTrace.Proofs.Identity.IdMap
import ApiTrace.Proofs.Selection
import Mathlib.Data.List.Flatten

/-!
# What a plan decides

A plan disposes of every shipped pair once, introduces every function that was never shipped, and
has every function of the header under exactly one current decision. `Decided` says of a single
decision what the entries and the shipped pairs must be like for the plan to hold it.
-/

namespace ApiTrace

/-- Functions that can be numbered: their names and their declared numbers are pairwise distinct,
and none declares the reserved zero. -/
structure WellDeclared (entries : List Entry) : Prop where
  names : (entries.map Entry.name).Nodup
  nonzero : ∀ entry ∈ entries, entry.declared ≠ some 0
  numbers : (entries.filterMap Entry.declared).Nodup

section Declarations

variable {entries : List Entry}

theorem declarer?_eq_none_iff {number : Nat} :
    declarer? entries number = none ↔ ∀ entry ∈ entries, entry.declared ≠ some number := by
  simp [declarer?, List.find?_eq_none]

/-- A number has at most one declarer. -/
theorem WellDeclared.declarer?_eq_some_iff (valid : WellDeclared entries) {number : Nat}
    {name : String} :
    declarer? entries number = some name ↔ ⟨name, some number⟩ ∈ entries := by
  constructor
  · intro declares
    obtain ⟨⟨entryName, declared⟩, found, same⟩ := Option.map_eq_some_iff.mp declares
    have declaredEq : declared = some number := by simpa using List.find?_some found
    dsimp only at same
    subst same declaredEq
    exact List.mem_of_find?_eq_some found
  · intro member
    cases declares : declarer? entries number with
    | none => exact absurd rfl (declarer?_eq_none_iff.mp declares _ member)
    | some other =>
        obtain ⟨entry, found, same⟩ := Option.map_eq_some_iff.mp declares
        have entryDeclares : entry.declared = some number := by simpa using List.find?_some found
        have entryEq : entry = ⟨name, some number⟩ :=
          Selection.eq_of_nodup_filterMap valid.numbers (List.mem_of_find?_eq_some found) member
            entryDeclares rfl
        rw [← same, entryEq]

/-- A function has one entry. -/
theorem WellDeclared.eq_of_name_eq (valid : WellDeclared entries) {first second : Entry}
    (firstMem : first ∈ entries) (secondMem : second ∈ entries) (same : first.name = second.name) :
    first = second :=
  List.inj_on_of_nodup_map valid.names firstMem secondMem same

theorem WellDeclared.claimant?_eq_some_iff (valid : WellDeclared entries) {number : Nat}
    {base claimant : String} :
    claimant? entries number base = some claimant ↔
      ⟨claimant, some number⟩ ∈ entries ∧ claimant ≠ base := by
  simp [claimant?, valid.declarer?_eq_some_iff]

theorem WellDeclared.claimant?_eq_none_iff (valid : WellDeclared entries) {number : Nat}
    {base : String} :
    claimant? entries number base = none ↔
      ∀ entry ∈ entries, entry.declared = some number → entry.name = base := by
  rw [Option.eq_none_iff_forall_ne_some]
  constructor
  · rintro unclaimed ⟨name, declared⟩ member declares
    dsimp only at declares
    subst declares
    by_contra different
    exact unclaimed name (valid.claimant?_eq_some_iff.mpr ⟨member, different⟩)
  · intro unclaimed claimant claims
    obtain ⟨member, different⟩ := valid.claimant?_eq_some_iff.mp claims
    exact different (unclaimed _ member rfl)

end Declarations

namespace Move

/-- The shipped pair that a decision disposes of. -/
def shipped? : Move → Option (String × Nat)
  | .keep _ prior _ | .evict _ prior _ _ => some (prior.name, prior.number)
  | _ => none

/-- The function that a decision numbers for the first time. -/
def introduced? : Move → Option String
  | .adopt function _ | .mint function => some function
  | _ => none

/-- The function that a decision moves to the number that it declares. -/
def reversioned? : Move → Option String
  | .reversion function _ _ => some function
  | _ => none

/-- The declared number that a decision gives out. -/
def declared? : Move → Option Nat
  | .adopt _ number | .reversion _ _ number => some number
  | _ => none

/-- The function whose current record a decision leads to. -/
def current? : Move → Option String
  | .adopt function _ | .mint function | .reversion function _ _ => some function
  | .keep base _ .current | .evict base _ _ .current => some base
  | .keep _ _ .residual | .evict _ _ _ .residual => none

/-- The function that a decision is about. -/
def function : Move → String
  | .adopt function _ | .mint function | .keep function _ _ | .evict function _ _ _
  | .reversion function _ _ => function

theorem function_of_current? {move : Move} {base : String} (current : move.current? = some base) :
    move.function = base := by
  cases move with
  | adopt | mint | reversion => exact Option.some.inj current
  | keep base prior origin | evict base prior claimant origin =>
      cases origin with
      | current => exact Option.some.inj current
      | residual => contradiction

variable {entries : List Entry} {base : String} {prior : Prior} {origin : Origin}

@[simp]
theorem shipped?_keepOrEvict :
    (keepOrEvict entries base prior origin).shipped? = some (prior.name, prior.number) := by
  unfold keepOrEvict
  split <;> rfl

@[simp]
theorem introduced?_keepOrEvict : (keepOrEvict entries base prior origin).introduced? = none := by
  unfold keepOrEvict
  split <;> rfl

@[simp]
theorem declared?_keepOrEvict : (keepOrEvict entries base prior origin).declared? = none := by
  unfold keepOrEvict
  split <;> rfl

@[simp]
theorem current?_keepOrEvict_current :
    (keepOrEvict entries base prior .current).current? = some base := by
  unfold keepOrEvict
  split <;> rfl

@[simp]
theorem current?_keepOrEvict_residual :
    (keepOrEvict entries base prior .residual).current? = none := by
  unfold keepOrEvict
  split <;> rfl

@[simp]
theorem function_keepOrEvict : (keepOrEvict entries base prior origin).function = base := by
  unfold keepOrEvict
  split <;> rfl

end Move

/-! ## The decisions about one function -/

section Entries

variable {entries : List Entry} {map : IdMap} {entry : Entry}

theorem filterMap_shipped?_movesOfEntry :
    (movesOfEntry entries map entry).filterMap Move.shipped? =
      ((map.prior? entry.name entry.declared).map fun prior =>
        (prior.name, prior.number)).toList := by
  unfold movesOfEntry
  split <;> rename_i continues declares
  · rw [continues]
    rfl
  · rw [continues]
    rfl
  · rw [continues]
    split <;> rw [List.filterMap_cons_some Move.shipped?_keepOrEvict] <;> rfl
  · rw [continues, List.filterMap_cons_some Move.shipped?_keepOrEvict]
    rfl

theorem filterMap_introduced?_movesOfEntry :
    (movesOfEntry entries map entry).filterMap Move.introduced? =
      if map.versionsOf entry.name = [] then [entry.name] else [] := by
  have known : map.prior? entry.name entry.declared = none ↔ map.versionsOf entry.name = [] :=
    IdMap.prior?_eq_none_iff
  unfold movesOfEntry
  split <;> rename_i continues declares
  · rw [if_pos (known.mp continues)]
    rfl
  · rw [if_pos (known.mp continues)]
    rfl
  · have shipped : map.versionsOf entry.name ≠ [] :=
      fun none => by simp [known.mpr none] at continues
    rw [if_neg shipped]
    split <;> rw [List.filterMap_cons_none Move.introduced?_keepOrEvict] <;> rfl
  · have shipped : map.versionsOf entry.name ≠ [] :=
      fun none => by simp [known.mpr none] at continues
    rw [if_neg shipped, List.filterMap_cons_none Move.introduced?_keepOrEvict]
    rfl

theorem filterMap_current?_movesOfEntry :
    (movesOfEntry entries map entry).filterMap Move.current? = [entry.name] := by
  unfold movesOfEntry
  split
  · rfl
  · rfl
  · split
    · rw [List.filterMap_cons_some Move.current?_keepOrEvict_current]
      rfl
    · rw [List.filterMap_cons_none Move.current?_keepOrEvict_residual]
      rfl
  · rw [List.filterMap_cons_some Move.current?_keepOrEvict_current]
    rfl

theorem filterMap_declared?_movesOfEntry_sublist :
    ((movesOfEntry entries map entry).filterMap Move.declared?).Sublist entry.declared.toList := by
  unfold movesOfEntry
  split <;> rename_i continues declares
  · rw [declares]
    exact .refl _
  · exact List.nil_sublist _
  · rw [declares]
    split <;> rw [List.filterMap_cons_none Move.declared?_keepOrEvict]
    · exact List.nil_sublist _
    · exact .refl _
  · rw [List.filterMap_cons_none Move.declared?_keepOrEvict]
    exact List.nil_sublist _

end Entries

/-- The decisions about an entry are about its function. -/
theorem function_of_mem_movesOfEntry {entries : List Entry} {map : IdMap} {entry : Entry}
    {move : Move} (decides : move ∈ movesOfEntry entries map entry) :
    move.function = entry.name := by
  unfold movesOfEntry at decides
  split at decides
  · rw [List.mem_singleton.mp decides]
    rfl
  · rw [List.mem_singleton.mp decides]
    rfl
  · split at decides
    · rw [List.mem_singleton.mp decides, Move.function_keepOrEvict]
    · rcases List.mem_cons.mp decides with rfl | decides
      · rw [Move.function_keepOrEvict]
      · rw [List.mem_singleton.mp decides]
        rfl
  · rw [List.mem_singleton.mp decides, Move.function_keepOrEvict]

/-! ## The whole plan -/

section Plan

variable {entries : List Entry} {map : IdMap}

theorem mem_plan_iff {move : Move} :
    move ∈ plan entries map ↔
      (∃ entry ∈ entries, move ∈ movesOfEntry entries map entry) ∨
        ∃ pair ∈ residuals entries map, moveOfResidual entries pair = move := by
  simp [plan, List.mem_flatMap]

theorem mem_residuals_iff {pair : String × Nat} :
    pair ∈ residuals entries map ↔ pair ∈ map.entries ∧ pair.1 ∉ continued entries map := by
  simp [residuals, List.mem_mergeSort]

/-- The pair that a function continues, by ascending function. -/
private def continuedPair? (map : IdMap) (entry : Entry) : Option (String × Nat) :=
  (map.prior? entry.name entry.declared).map fun prior => (prior.name, prior.number)

private theorem continuedPair?_eq_some {entry : Entry} {pair : String × Nat}
    (continues : continuedPair? map entry = some pair) :
    pair ∈ map.entries ∧ (VersionedName.ofName pair.1).base = entry.name := by
  obtain ⟨prior, found, rfl⟩ := Option.map_eq_some_iff.mp continues
  obtain ⟨shipped, read⟩ := IdMap.mem_versionsOf_iff.mp (IdMap.prior?_mem found)
  exact ⟨shipped, congrArg VersionedName.base read⟩

private theorem filterMap_shipped?_plan :
    (plan entries map).filterMap Move.shipped? =
      entries.filterMap (continuedPair? map) ++ residuals entries map := by
  rw [plan, List.filterMap_append, List.filterMap_flatMap, List.filterMap_map]
  congr 1
  · simp only [filterMap_shipped?_movesOfEntry]
    rw [List.filterMap_eq_flatMap_toList]
    rfl
  · have own : Move.shipped? ∘ moveOfResidual entries = some := by
      funext pair
      simp [moveOfResidual]
    rw [own, List.filterMap_some]

/-- A plan disposes of every shipped pair once. -/
theorem filterMap_shipped?_plan_perm (names : (entries.map Entry.name).Nodup) :
    ((plan entries map).filterMap Move.shipped?).Perm map.entries := by
  have continuedNodup : (entries.filterMap (continuedPair? map)).Nodup := by
    apply List.pairwise_filterMap.mpr
    apply (List.pairwise_map.mp names).imp
    rintro first second different pair firstContinues other secondContinues rfl
    exact different ((continuedPair?_eq_some firstContinues).2.symm.trans
      (continuedPair?_eq_some secondContinues).2)
  have continuedPerm : (entries.filterMap (continuedPair? map)).Perm
      (map.entries.filter fun entry => (continued entries map).contains entry.1) := by
    apply (List.perm_ext_iff_of_nodup continuedNodup (map.nodup_entries.filter _)).mpr
    intro pair
    simp only [List.mem_filterMap, List.mem_filter, List.contains_iff_mem, continued]
    constructor
    · rintro ⟨entry, member, continues⟩
      have shipped := (continuedPair?_eq_some continues).1
      obtain ⟨prior, found, rfl⟩ := Option.map_eq_some_iff.mp continues
      exact ⟨shipped, entry, member, by rw [found, Option.map_some]⟩
    · rintro ⟨shipped, entry, member, continues⟩
      refine ⟨entry, member, ?_⟩
      obtain ⟨prior, found, sameName⟩ := Option.map_eq_some_iff.mp continues
      have priorShipped := (IdMap.mem_versionsOf_iff.mp (IdMap.prior?_mem found)).1
      rw [continuedPair?, found, Option.map_some, IdMap.eq_of_name_eq priorShipped shipped sameName]
  have residualsPerm : (residuals entries map).Perm
      (map.entries.filter fun entry => !(continued entries map).contains entry.1) :=
    List.mergeSort_perm _ _
  rw [filterMap_shipped?_plan]
  exact (continuedPerm.append residualsPerm).trans (List.filter_append_perm _ _)

private theorem filterMap_map_moveOfResidual {β : Type} {select : Move → Option β}
    (skips : ∀ base prior, select (keepOrEvict entries base prior .residual) = none)
    (pairs : List (String × Nat)) :
    (pairs.map (moveOfResidual entries)).filterMap select = [] := by
  rw [List.filterMap_map, List.filterMap_eq_nil_iff]
  intro pair _
  exact skips _ _

/-- A plan introduces the functions that were never shipped, in the order of the header. -/
theorem filterMap_introduced?_plan :
    (plan entries map).filterMap Move.introduced? =
      (entries.filter fun entry => map.versionsOf entry.name = []).map Entry.name := by
  rw [plan, List.filterMap_append, List.filterMap_flatMap,
    filterMap_map_moveOfResidual fun _ _ => Move.introduced?_keepOrEvict, List.append_nil]
  simp only [filterMap_introduced?_movesOfEntry]
  induction entries with
  | nil => rfl
  | cons entry entries ih =>
      rw [List.flatMap_cons, List.filter_cons, ih]
      by_cases unshipped : map.versionsOf entry.name = [] <;> simp [unshipped]

/-- A plan has one current decision for every function, in the order of the header. -/
theorem filterMap_current?_plan :
    (plan entries map).filterMap Move.current? = entries.map Entry.name := by
  rw [plan, List.filterMap_append, List.filterMap_flatMap,
    filterMap_map_moveOfResidual fun _ _ => Move.current?_keepOrEvict_residual, List.append_nil]
  simp only [filterMap_current?_movesOfEntry]
  exact List.map_eq_flatMap.symm

/-- A plan gives out every declared number at most once. -/
theorem filterMap_declared?_plan_sublist :
    ((plan entries map).filterMap Move.declared?).Sublist (entries.filterMap Entry.declared) := by
  rw [plan, List.filterMap_append, List.filterMap_flatMap,
    filterMap_map_moveOfResidual fun _ _ => Move.declared?_keepOrEvict, List.append_nil,
    List.filterMap_eq_flatMap_toList]
  exact List.Sublist.flatMap_right entries fun _ _ => filterMap_declared?_movesOfEntry_sublist

/-- Every decision disposes of a shipped pair, introduces a function or moves one to the number that
it declares. -/
theorem length_eq_add_of_moves (moves : List Move) :
    moves.length = (moves.filterMap Move.shipped?).length +
      (moves.filterMap Move.introduced?).length + (moves.filterMap Move.reversioned?).length := by
  induction moves with
  | nil => rfl
  | cons move moves ih =>
      cases move <;>
        simp only [List.filterMap_cons, List.length_cons, Move.shipped?, Move.introduced?,
          Move.reversioned?, ih] <;>
        omega

end Plan

/-! ## Single decisions -/

/-- The entry list has the function `base`, which continues `prior` and does not declare another
number than that. -/
def Continues (entries : List Entry) (map : IdMap) (base : String) (prior : Prior) : Prop :=
  ∃ declared, ⟨base, declared⟩ ∈ entries ∧ map.prior? base declared = some prior ∧
    (declared = none ∨ declared = some prior.number)

/-- When a plan holds a decision. -/
inductive Decided (entries : List Entry) (map : IdMap) : Move → Prop
  | adopt {function : String} {number : Nat} (declares : ⟨function, some number⟩ ∈ entries)
      (unshipped : map.versionsOf function = []) : Decided entries map (.adopt function number)
  | mint {function : String} (undeclared : ⟨function, none⟩ ∈ entries)
      (unshipped : map.versionsOf function = []) : Decided entries map (.mint function)
  | keep {base : String} {prior : Prior} {origin : Origin}
      (shipped : prior ∈ map.versionsOf base)
      (unclaimed : claimant? entries prior.number base = none)
      (continues : origin = .current → Continues entries map base prior) :
      Decided entries map (.keep base prior origin)
  | evict {base : String} {prior : Prior} {claimant : String} {origin : Origin}
      (shipped : prior ∈ map.versionsOf base)
      (claimed : claimant? entries prior.number base = some claimant)
      (continues : origin = .current → Continues entries map base prior) :
      Decided entries map (.evict base prior claimant origin)
  | reversion {function : String} {prior : Prior} {number : Nat}
      (declares : ⟨function, some number⟩ ∈ entries)
      (continues : map.prior? function (some number) = some prior)
      (changes : number ≠ prior.number) : Decided entries map (.reversion function prior number)

section Decided

variable {entries : List Entry} {map : IdMap}

theorem decided_keepOrEvict {base : String} {prior : Prior} {origin : Origin}
    (shipped : prior ∈ map.versionsOf base)
    (continues : origin = .current → Continues entries map base prior) :
    Decided entries map (keepOrEvict entries base prior origin) := by
  unfold keepOrEvict
  split
  · exact .evict shipped ‹_› continues
  · exact .keep shipped ‹_› continues

private theorem decided_of_mem_movesOfEntry {entry : Entry} (member : entry ∈ entries) {move : Move}
    (decides : move ∈ movesOfEntry entries map entry) : Decided entries map move := by
  obtain ⟨name, declared⟩ := entry
  unfold movesOfEntry at decides
  dsimp only at decides
  split at decides
  · rename_i unshipped
    rw [List.mem_singleton.mp decides]
    exact .adopt member (IdMap.prior?_eq_none_iff.mp unshipped)
  · rename_i unshipped
    rw [List.mem_singleton.mp decides]
    exact .mint member (IdMap.prior?_eq_none_iff.mp unshipped)
  · rename_i prior number found
    have shipped := IdMap.prior?_mem found
    split at decides
    · rename_i same
      rw [List.mem_singleton.mp decides]
      exact decided_keepOrEvict shipped fun _ =>
        ⟨some number, member, found, .inr (congrArg some same)⟩
    · rename_i changes
      rcases List.mem_cons.mp decides with rfl | decides
      · exact decided_keepOrEvict shipped fun current => by contradiction
      · rw [List.mem_singleton.mp decides]
        exact .reversion member found changes
  · rename_i prior found
    rw [List.mem_singleton.mp decides]
    exact decided_keepOrEvict (IdMap.prior?_mem found) fun _ => ⟨none, member, found, .inl rfl⟩

theorem decided_of_mem_plan {move : Move} (member : move ∈ plan entries map) :
    Decided entries map move := by
  rcases mem_plan_iff.mp member with ⟨entry, entryMem, decides⟩ | ⟨⟨name, number⟩, residual, rfl⟩
  · exact decided_of_mem_movesOfEntry entryMem decides
  · have shipped := IdMap.mem_versionsOf_of_mem (mem_residuals_iff.mp residual).1
    exact decided_keepOrEvict shipped fun current => by contradiction

end Decided

end ApiTrace
