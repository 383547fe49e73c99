import ApiTrace.Proofs.Symbol.Table

/-!
# Coverage

A function without a slot is an error of the strict build and an entry of the list of the tolerant
one. Both builds read the interface headers in the same way before they look for these functions,
and the enumerations behind them, so the strict build either ends as the tolerant one or with the
error about the first of them. What a table says does not depend on the build that made it: its
names are those that the lines of the headers declare, each at its first place.
-/

namespace ApiTrace

/-! ## Both builds -/

section Builds

variable (dialect : Dialect) (headers enumHeaders : List Header)

/-- The functions and the slots of the interface headers. -/
def readInterface : Except ScanError (List Function × NameMap Slot) := do
  let names ← (declaredNames dialect headers).outcome
  let functions ← names.mapM (describeFunction dialect headers)
  let slots ← (readSlots headers dialect).outcome
  return (functions, slots)

/-- Only the search for functions without a slot depends on the tolerance. -/
theorem outcome_buildTable (tolerant : Bool) :
    (buildTable dialect tolerant headers enumHeaders).outcome = do
    let (functions, slots) ← readInterface dialect headers
    let uncovered ← (findUncovered dialect slots tolerant functions).outcome
    let enums ← (collectEnums enumHeaders).outcome
    return ⟨functions, slots, enums, uncovered,
      headers.head?.bind fun header => header.versionLine? dialect.versionMarker⟩ := by
  simp only [buildTable, readInterface, Journalled.outcome_bind, Journalled.outcome_ofExcept,
    Journalled.outcome_write, Journalled.outcome_pure, bind_assoc, pure_bind, ok_bind]
  rfl

/-- The strict build ends as the tolerant one, without uncovered functions, or with the error about
the first uncovered function. -/
theorem strict_or_withoutSlot :
    ((buildTable dialect false headers enumHeaders).outcome =
        (buildTable dialect true headers enumHeaders).outcome ∧
      ∀ table, (buildTable dialect true headers enumHeaders).outcome = .ok table →
        table.uncovered = []) ∨
    ∃ name, (buildTable dialect false headers enumHeaders).outcome =
        .error (.withoutSlot name dialect.dispatchTable) ∧
      ∀ table, (buildTable dialect true headers enumHeaders).outcome = .ok table →
        ∃ rest, table.uncovered = name :: rest := by
  rw [outcome_buildTable, outcome_buildTable]
  cases interface : readInterface dialect headers with
  | error cause => exact .inl ⟨rfl, nofun⟩
  | ok read =>
      obtain ⟨functions, slots⟩ := read
      simp only [ok_bind, outcome_findUncovered_tolerant, outcome_findUncovered_strict]
      cases withoutSlot slots functions with
      | nil =>
          refine .inl ⟨rfl, fun table ended => ?_⟩
          obtain ⟨enums, _, ended⟩ := bind_eq_ok ended
          cases ended
          rfl
      | cons name rest =>
          refine .inr ⟨name, rfl, fun table ended => ?_⟩
          obtain ⟨enums, _, ended⟩ := bind_eq_ok ended
          cases ended
          exact ⟨rest, rfl⟩

end Builds

/-- What a table says of its functions, whichever build made it. -/
theorem coverage_of_buildTable {dialect : Dialect} {tolerant : Bool}
    {headers enumHeaders : List Header}
    {table : SymbolTable}
    (ended : (buildTable dialect tolerant headers enumHeaders).outcome = .ok table) :
    FirstPlaces table.functionNames (declarations dialect headers) ∧
      table.uncovered = table.functionNames.filter fun name => (table.slots.find? name).isNone := by
  rw [outcome_buildTable] at ended
  obtain ⟨⟨functions, slots⟩, interface, ended⟩ := bind_eq_ok ended
  obtain ⟨uncovered, searched, ended⟩ := bind_eq_ok ended
  obtain ⟨enums, _, ended⟩ := bind_eq_ok ended
  cases ended
  obtain ⟨names, declared, interface⟩ := bind_eq_ok interface
  obtain ⟨_, described, interface⟩ := bind_eq_ok interface
  obtain ⟨_, _, interface⟩ := bind_eq_ok interface
  cases interface
  constructor
  · rw [SymbolTable.functionNames, map_name_of_mapM described]
    exact firstPlaces_of_declaredNames declared
  · exact (uncovered_of_findUncovered searched).trans (withoutSlot_eq_filter_map slots functions)

/-- The tolerance of the build changes nothing but the error about a function without a slot: a
table of the tolerant build is that of the strict build if every function has a slot, and the strict
build names the first one without otherwise. -/
theorem buildTable_tolerant_agrees (dialect : Dialect) (headers enumHeaders : List Header) :
    ((buildTable dialect false headers enumHeaders).outcome =
        (buildTable dialect true headers enumHeaders).outcome ∨
      ∃ name, (buildTable dialect false headers enumHeaders).outcome =
        .error (.withoutSlot name dialect.dispatchTable)) ∧
    (∀ table, (buildTable dialect true headers enumHeaders).outcome = .ok table →
      (table.uncovered = [] → (buildTable dialect false headers enumHeaders).outcome = .ok table) ∧
      ∀ name rest, table.uncovered = name :: rest →
        (buildTable dialect false headers enumHeaders).outcome =
          .error (.withoutSlot name dialect.dispatchTable)) ∧
    (∀ table, (buildTable dialect false headers enumHeaders).outcome = .ok table →
      (buildTable dialect true headers enumHeaders).outcome = .ok table) ∧
    ∀ tolerant table, (buildTable dialect tolerant headers enumHeaders).outcome = .ok table →
      table.functionNames.Nodup ∧ FirstPlaces table.functionNames (declarations dialect headers) ∧
      table.uncovered = table.functionNames.filter fun name => (table.slots.find? name).isNone := by
  have coverage : ∀ tolerant table,
      (buildTable dialect tolerant headers enumHeaders).outcome = .ok table →
      table.functionNames.Nodup ∧ FirstPlaces table.functionNames (declarations dialect headers) ∧
      table.uncovered = table.functionNames.filter fun name => (table.slots.find? name).isNone := by
    intro tolerant table ended
    obtain ⟨first, uncovered⟩ := coverage_of_buildTable ended
    exact ⟨first.nodup, first, uncovered⟩
  rcases strict_or_withoutSlot dialect headers enumHeaders with
    ⟨same, covered⟩ | ⟨name, failed, first⟩
  · refine ⟨.inl same,
      fun table ended => ⟨fun _ => same.trans ended, fun name rest uncovered => ?_⟩,
      fun table ended => same.symm.trans ended, coverage⟩
    rw [covered table ended] at uncovered
    contradiction
  · refine ⟨.inr ⟨name, failed⟩, fun table ended => ?_, fun table ended => ?_, coverage⟩
    · obtain ⟨rest, uncovered⟩ := first table ended
      rw [uncovered]
      refine ⟨nofun, fun other others same => ?_⟩
      rw [failed, (List.cons.inj same).1]
    · rw [failed] at ended
      contradiction

namespace PartialCoverage

/-- A function with a slot, declared in two headers, and a function without a slot. -/
def headers : List Header :=
  [⟨"init.h", ["ze_init_params_t \x7b".toList, "\x7d;".toList, "ZE_APICALL *ze_pfnInitCb_t".toList,
      "g \x7b".toList, "ze_pfnInitCb_t f;".toList, "\x7d;".toList,
      "ze_callbacks_t \x7b".toList, "g G;".toList, "\x7d;".toList]⟩,
    ⟨"stop.h", ["ze_stop_params_t \x7b".toList, "\x7d;".toList, "ZE_APICALL *ze_pfnStopCb_t".toList,
      "ZE_APICALL *ze_pfnInitCb_t".toList]⟩]

end PartialCoverage

theorem buildTable_tolerant_agrees_partial : ∃ table,
    (buildTable {} true PartialCoverage.headers []).outcome = .ok table ∧
    declarations {} PartialCoverage.headers = ["zeInit", "zeStop", "zeInit"] ∧
    table.functionNames = ["zeInit", "zeStop"] ∧ table.uncovered = ["zeStop"] ∧
    (buildTable {} false PartialCoverage.headers []).outcome =
      .error (.withoutSlot "zeStop" "ze_callbacks_t") ∧
    table.uncovered = table.functionNames.filter fun name => (table.slots.find? name).isNone := by
  have read : (buildTable {} true PartialCoverage.headers []).outcome.toOption.map
      (fun table => (table.functionNames, table.uncovered)) =
        some (["zeInit", "zeStop"], ["zeStop"]) := by
    decide +kernel
  obtain ⟨table, ended, viewed⟩ := exists_of_map_toOption read
  obtain ⟨names, uncovered⟩ := Prod.mk.inj viewed
  obtain ⟨_, strict, _, coverage⟩ := buildTable_tolerant_agrees {} PartialCoverage.headers []
  exact ⟨table, ended, by decide +kernel, names, uncovered,
    (strict table ended).2 "zeStop" [] uncovered, (coverage true table ended).2.2⟩

end ApiTrace
