import ApiTrace.Generated.LookupTable
import ApiTrace.Text.Line
import Mathlib.Data.List.Nodup
import Mathlib.Data.List.Perm.Basic

/-!
# Variables of the state maps

The header of the state maps declares two variables for each category: a mutex, named after the
subdomain, and the map of states, named after the key. Each is declared once exactly if the
subdomains differ and the keys differ. Different categories may share either: the mutex does not
know the domain, and joining a domain and a subdomain does not tell where the one ends.
-/

namespace ApiTrace

/-- The variable that a line of C++ declares: a mutex, or a map that its entries follow. -/
def declaredVariable? (line : List Char) : Option String :=
  match Text.dropStart? "std::mutex ".toList line with
  | some rest => (Text.dropEnd? [';'] rest).map String.ofList
  | none => do
    let rest ← Text.dropStart? "inline static std::map<uint32_t, uint32_t> ".toList line
    (Text.dropEnd? " =".toList rest).map String.ofList

/-- The variables that a header declares, in order. -/
def declaredVariables (text : String) : List String :=
  (Text.lines text.toList).filterMap declaredVariable?

/-- The mutex of a category. -/
def stateMutex (category : Category) : String :=
  category.subdomain ++ "_set_granularity_map_mtx"

/-- The map from the numbers of a category to their states. -/
def stateMap (naming : Naming) (category : Category) : String :=
  naming.idEnum category ++ "_state"

/-- The line of one entry of a state table. -/
def stateEntryLine (idEnum : String) (record : Record) : List Char :=
  ("    \x7b" ++ idEnum ++ "::" ++ record.enumerator ++ ", 1\x7d,").toList

/-- The lines of a state table. -/
def stateTableLines (naming : Naming) (assignment : Assignment) : List (List Char) :=
  [("std::mutex " ++ stateMutex assignment.category ++ ";").toList,
    ("inline static std::map<uint32_t, uint32_t> " ++ stateMap naming assignment.category ++
      " =").toList, "  \x7b".toList] ++
    assignment.records.map (stateEntryLine (naming.idEnum assignment.category)) ++
    ["  \x7d; ".toList, []]

/-- The lines of the header above the state tables. -/
def stateMapsStart : List (List Char) :=
  ["#ifndef PTI_API_IDS_STATE_MAPS_H_".toList, "#define PTI_API_IDS_STATE_MAPS_H_".toList, [],
    "// ========= This file is autogenerated - do not modify ========".toList, [],
    "#include <cstdint>".toList, "#include <map>".toList, "#include <mutex>".toList, []]

/-- The lines of the header below the state tables. -/
def stateMapsEnd : List (List Char) :=
  ["#endif  // PTI_API_IDS_STATE_MAPS_H_".toList]

theorem toList_stateEntryLine (idEnum : String) (record : Record) :
    ("    \x7b" ++ idEnum ++ "::" ++ record.enumerator ++ ", 1\x7d,\n").toList =
      stateEntryLine idEnum record ++ ['\n'] := by
  have ending : ", 1\x7d,\n".toList = ", 1\x7d,".toList ++ ['\n'] := by
    decide +kernel
  rw [stateEntryLine, String.toList_append, ending, ← List.append_assoc, ← String.toList_append]

theorem toList_renderStateTable (naming : Naming) (assignment : Assignment) :
    (renderStateTable assignment naming).toList =
      Text.unlines (stateTableLines naming assignment) := by
  have split : renderStateTable assignment naming =
      "std::mutex " ++ assignment.category.subdomain ++ "_set_granularity_map_mtx;\n" ++
        "inline static std::map<uint32_t, uint32_t> " ++ naming.idEnum assignment.category ++
        "_state =\n  \x7b\n" ++
        String.join (assignment.records.map fun record => "    \x7b" ++
          naming.idEnum assignment.category ++ "::" ++ record.enumerator ++ ", 1\x7d,\n") ++
        "  \x7d; \n\n" := rfl
  have mutexEnd : "_set_granularity_map_mtx;\n".toList =
      "_set_granularity_map_mtx".toList ++ (";".toList ++ ['\n']) := by
    decide +kernel
  have mapEnd : "_state =\n  \x7b\n".toList =
      "_state".toList ++ (" =".toList ++ '\n' :: ("  \x7b".toList ++ ['\n'])) := by
    decide +kernel
  have tableEnd : "  \x7d; \n\n".toList = "  \x7d; ".toList ++ ['\n', '\n'] := by
    decide +kernel
  have entries : (String.join (assignment.records.map fun record => "    \x7b" ++
      naming.idEnum assignment.category ++ "::" ++ record.enumerator ++ ", 1\x7d,\n")).toList =
      Text.unlines
        (assignment.records.map (stateEntryLine (naming.idEnum assignment.category))) := by
    simp only [String.toList_join, List.flatMap_map, toList_stateEntryLine, Text.unlines]
  rw [split, stateTableLines, stateMutex, stateMap]
  simp only [String.toList_append, mutexEnd, mapEnd, tableEnd, entries,
    Text.unlines_cons, Text.unlines_append, Text.unlines_nil, List.append_assoc,
    List.cons_append, List.nil_append]

/-- The text of the header above the state tables. -/
def stateMapsOpening : String :=
  "#ifndef " ++ "PTI_API_IDS_STATE_MAPS_H_" ++ "\n#define " ++ "PTI_API_IDS_STATE_MAPS_H_" ++
    "\n\n" ++ generatedMark ++ "\n" ++ "#include <cstdint>\n#include <map>\n#include <mutex>\n\n"

theorem toList_stateMapsOpening : stateMapsOpening.toList = Text.unlines stateMapsStart := by
  -- Short pieces keep the evaluation small.
  rw [stateMapsOpening, generatedMark, String.toList_append, String.toList_append,
    String.toList_append, String.toList_append, String.toList_append, String.toList_append,
    String.toList_append]
  decide +kernel

theorem toList_renderStateMaps (naming : Naming) (assignments : List Assignment) :
    (renderStateMaps (assignments.map fun assignment =>
        renderStateTable assignment naming)).toList =
      Text.unlines
        (stateMapsStart ++ assignments.flatMap (stateTableLines naming) ++ stateMapsEnd) := by
  have split (tables : List String) : renderStateMaps tables = stateMapsOpening ++
      String.join tables ++ "#endif  // " ++ "PTI_API_IDS_STATE_MAPS_H_" ++ "\n" := rfl
  have ending : "#endif  // ".toList ++ "PTI_API_IDS_STATE_MAPS_H_".toList ++ "\n".toList =
      Text.unlines stateMapsEnd := by
    decide +kernel
  have tables : (String.join (assignments.map fun assignment =>
      renderStateTable assignment naming)).toList =
      Text.unlines (assignments.flatMap (stateTableLines naming)) := by
    simp only [String.toList_join, List.flatMap_map, toList_renderStateTable, Text.unlines_flatMap]
  rw [split, String.toList_append, String.toList_append, String.toList_append, String.toList_append,
    tables, toList_stateMapsOpening, List.append_assoc, List.append_assoc, ← List.append_assoc
      "#endif  // ".toList, ending, Text.unlines_append, Text.unlines_append, List.append_assoc]

/-- The names in the table of an assignment stay on their lines. -/
structure Assignment.Inline (naming : Naming) (assignment : Assignment) : Prop where
  start : '\n' ∉ naming.idStart.toList
  domain : '\n' ∉ assignment.category.domain.toList
  subdomain : '\n' ∉ assignment.category.subdomain.toList
  enumerators : ∀ record ∈ assignment.records, '\n' ∉ record.enumerator.toList

theorem Assignment.Inline.idEnum {naming : Naming} {assignment : Assignment}
    (inline : assignment.Inline naming) : '\n' ∉ (naming.idEnum assignment.category).toList := by
  have separator : '\n' ∉ "_".toList := by decide
  have middle : '\n' ∉ "_api_id_".toList := by decide
  simp only [Naming.idEnum, Category.key, String.toList_append, List.mem_append, inline.start,
    inline.domain, inline.subdomain, separator, middle, or_false, not_false_iff]

theorem Assignment.Inline.not_mem_stateTableLines {naming : Naming} {assignment : Assignment}
    (inline : assignment.Inline naming) :
    ∀ line ∈ stateTableLines naming assignment, '\n' ∉ line := by
  have mutexText : '\n' ∉ "std::mutex ".toList ∧ '\n' ∉ "_set_granularity_map_mtx".toList ∧
      '\n' ∉ ";".toList := by decide +kernel
  have mapText : '\n' ∉ "inline static std::map<uint32_t, uint32_t> ".toList ∧
      '\n' ∉ "_state".toList ∧ '\n' ∉ " =".toList := by decide +kernel
  have entryText : '\n' ∉ "    \x7b".toList ∧ '\n' ∉ "::".toList ∧ '\n' ∉ ", 1\x7d,".toList := by
    decide
  have brackets : '\n' ∉ "  \x7b".toList ∧ '\n' ∉ "  \x7d; ".toList := by decide
  simp only [stateTableLines, List.forall_mem_append, List.forall_mem_cons, List.forall_mem_map,
    stateMutex, stateMap, stateEntryLine, String.toList_append]
  simp only [List.mem_append, inline.subdomain, inline.idEnum, mutexText, mapText, entryText,
    brackets, List.not_mem_nil, false_or, or_false, not_false_iff, false_implies, implies_true,
    and_true, true_and]
  exact inline.enumerators

theorem getLast?_stateTableLines {naming : Naming} {assignment : Assignment} :
    ∀ line ∈ stateTableLines naming assignment, line.getLast? ≠ some '\r' := by
  simp only [stateTableLines, List.forall_mem_append, List.forall_mem_cons, List.forall_mem_map,
    stateEntryLine, String.toList_append]
  refine ⟨⟨⟨?mutex, ?map, by decide, by simp⟩, ?entry⟩, by decide, by simp, by simp⟩
  case mutex =>
    rw [List.getLast?_append_of_ne_nil _ (by decide)]
    decide
  case map =>
    rw [List.getLast?_append_of_ne_nil _ (by decide)]
    decide
  case entry =>
    intro record _
    rw [List.getLast?_append_of_ne_nil _ (by decide)]
    decide

theorem declaredVariable?_mutexLine (name : String) :
    declaredVariable? ("std::mutex " ++ name ++ ";").toList = some name := by
  have ending : ";".toList = [';'] := rfl
  have start : Text.dropStart? "std::mutex ".toList ("std::mutex " ++ name ++ ";").toList =
      some (name.toList ++ [';']) := by
    rw [String.toList_append, String.toList_append, ending, List.append_assoc, Text.dropStart?,
      Text.isPrefixOf?_append_self]
  rw [declaredVariable?, start]
  simp only [Text.dropEnd?_append, Option.map_some, String.ofList_toList]

/-- A line that does not start with the letter of a mutex declares no mutex. -/
theorem dropStart?_mutex_of_ne {c : Char} (different : c ≠ 's') (rest : List Char) :
    Text.dropStart? "std::mutex ".toList (c :: rest) = none := by
  have opening : "std::mutex ".toList = 's' :: "td::mutex ".toList := rfl
  rw [Text.dropStart?, opening, List.isPrefixOf?, if_neg (by simpa using different.symm)]

theorem declaredVariable?_mapLine (name : String) :
    declaredVariable? ("inline static std::map<uint32_t, uint32_t> " ++ name ++ " =").toList =
      some name := by
  have opening : "inline static std::map<uint32_t, uint32_t> ".toList =
      'i' :: "nline static std::map<uint32_t, uint32_t> ".toList := by
    decide +kernel
  have start : Text.dropStart? "inline static std::map<uint32_t, uint32_t> ".toList
      ("inline static std::map<uint32_t, uint32_t> " ++ name ++ " =").toList =
      some (name.toList ++ " =".toList) := by
    rw [String.toList_append, String.toList_append, List.append_assoc, Text.dropStart?,
      Text.isPrefixOf?_append_self]
  have noMutex : Text.dropStart? "std::mutex ".toList
      ("inline static std::map<uint32_t, uint32_t> " ++ name ++ " =").toList = none := by
    rw [String.toList_append, String.toList_append, opening, List.cons_append, List.cons_append,
      dropStart?_mutex_of_ne (by decide)]
  rw [declaredVariable?, noMutex]
  simp only [start, Option.bind_eq_bind, Option.bind_some, Text.dropEnd?_append, Option.map_some,
    String.ofList_toList]

theorem declaredVariable?_stateEntryLine (idEnum : String) (record : Record) :
    declaredVariable? (stateEntryLine idEnum record) = none := by
  have opening : "    \x7b".toList = ' ' :: "   \x7b".toList := rfl
  have mapOpening : "inline static std::map<uint32_t, uint32_t> ".toList =
      'i' :: "nline static std::map<uint32_t, uint32_t> ".toList := by
    decide +kernel
  rw [stateEntryLine, String.toList_append, String.toList_append, String.toList_append,
    String.toList_append, opening, List.cons_append, List.cons_append, List.cons_append,
    List.cons_append, declaredVariable?, dropStart?_mutex_of_ne (by decide), mapOpening]
  rfl

theorem filterMap_stateTableLines (naming : Naming) (assignment : Assignment) :
    (stateTableLines naming assignment).filterMap declaredVariable? =
      [stateMutex assignment.category, stateMap naming assignment.category] := by
  have entries : (assignment.records.map
      (stateEntryLine (naming.idEnum assignment.category))).filterMap declaredVariable? = [] := by
    rw [List.filterMap_eq_nil_iff, List.forall_mem_map]
    exact fun record _ => declaredVariable?_stateEntryLine _ record
  have opening : declaredVariable? "  \x7b".toList = none := by decide +kernel
  have closing : ["  \x7d; ".toList, []].filterMap declaredVariable? = [] := by decide +kernel
  rw [stateTableLines, List.filterMap_append, List.filterMap_append, entries, closing,
    List.append_nil, List.append_nil, List.filterMap_cons_some (declaredVariable?_mutexLine _),
    List.filterMap_cons_some (declaredVariable?_mapLine _), List.filterMap_cons_none opening,
    List.filterMap_nil]

/-- The header of the state maps declares the mutex and the map of each table, in order. -/
theorem declaredVariables_renderStateMaps {naming : Naming} {assignments : List Assignment}
    (inline : ∀ assignment ∈ assignments, assignment.Inline naming) :
    declaredVariables
        (renderStateMaps (assignments.map fun assignment => renderStateTable assignment naming)) =
      assignments.flatMap fun assignment =>
        [stateMutex assignment.category, stateMap naming assignment.category] := by
  have startPlain : ∀ line ∈ stateMapsStart ++ stateMapsEnd,
      '\n' ∉ line ∧ line.getLast? ≠ some '\r' := by decide +kernel
  have startFree : stateMapsStart.filterMap declaredVariable? = [] := by decide +kernel
  have endFree : stateMapsEnd.filterMap declaredVariable? = [] := by decide +kernel
  obtain ⟨startPlain, endPlain⟩ := List.forall_mem_append.mp startPlain
  rw [declaredVariables, toList_renderStateMaps, Text.lines_unlines, List.filterMap_append,
    List.filterMap_append, startFree, endFree, List.nil_append, List.append_nil,
    List.filterMap_flatMap]
  · simp only [filterMap_stateTableLines]
  · simp only [List.forall_mem_append, List.forall_mem_flatMap]
    exact ⟨⟨fun line member => (startPlain line member).1,
      fun assignment member => (inline assignment member).not_mem_stateTableLines⟩,
      fun line member => (endPlain line member).1⟩
  · simp only [List.forall_mem_append, List.forall_mem_flatMap]
    exact ⟨⟨fun line member => (startPlain line member).2,
      fun assignment _ => getLast?_stateTableLines⟩, fun line member => (endPlain line member).2⟩

/-- A mutex and a map have different names. -/
theorem stateMutex_ne_stateMap (naming : Naming) (first second : Category) :
    stateMutex first ≠ stateMap naming second := by
  intro same
  have ends := congrArg (fun name => name.toList.getLast?) same
  simp [stateMutex, stateMap] at ends

/-- The mutexes and the maps of some categories differ exactly if the subdomains and the keys do. -/
theorem nodup_stateVariables_iff (naming : Naming) (categories : List Category) :
    (categories.flatMap fun category => [stateMutex category, stateMap naming category]).Nodup ↔
      (categories.map Category.subdomain).Nodup ∧ (categories.map Category.key).Nodup := by
  have apart : List.Disjoint (categories.map stateMutex) (categories.map (stateMap naming)) := by
    intro name mutexMem mapMem
    obtain ⟨first, _, rfl⟩ := List.mem_map.mp mutexMem
    obtain ⟨second, _, same⟩ := List.mem_map.mp mapMem
    exact stateMutex_ne_stateMap naming first second same.symm
  have grouped : (categories.map stateMutex ++ categories.map (stateMap naming)).Perm
      (categories.flatMap fun category => [stateMutex category, stateMap naming category]) := by
    rw [List.map_eq_flatMap, List.map_eq_flatMap]
    exact List.flatMap_append_perm _ _ _
  have mutexes : (categories.map stateMutex).Nodup ↔ (categories.map Category.subdomain).Nodup := by
    have named : stateMutex = (· ++ "_set_granularity_map_mtx") ∘ Category.subdomain := rfl
    rw [named, ← List.map_map,
      List.nodup_map_iff fun _ _ same => (String.append_left_inj _).mp same]
  have maps : (categories.map (stateMap naming)).Nodup ↔ (categories.map Category.key).Nodup := by
    have named : stateMap naming = (naming.idStart ++ "_api_id_" ++ · ++ "_state") ∘ Category.key :=
      rfl
    rw [named, ← List.map_map, List.nodup_map_iff fun _ _ same =>
      (String.append_right_inj _).mp ((String.append_left_inj _).mp same)]
  rw [← mutexes, ← maps, ← grouped.nodup_iff, List.nodup_append']
  simp only [apart, and_true]

/-- The header of the state maps declares the mutex and the map of each table. No variable is
declared twice exactly if no two tables share the subdomain or the key. -/
theorem renderStateMaps_declares (naming : Naming) (assignments : List Assignment)
    (inline : ∀ assignment ∈ assignments, assignment.Inline naming) :
    let header :=
      renderStateMaps (assignments.map fun assignment => renderStateTable assignment naming)
    declaredVariables header = assignments.flatMap (fun assignment =>
        [stateMutex assignment.category, stateMap naming assignment.category]) ∧
      ((declaredVariables header).Nodup ↔
        (assignments.map fun assignment => assignment.category.subdomain).Nodup ∧
          (assignments.map fun assignment => assignment.category.key).Nodup) := by
  have declared := declaredVariables_renderStateMaps inline
  refine ⟨declared, ?_⟩
  have distinct := nodup_stateVariables_iff naming (assignments.map Assignment.category)
  rw [List.flatMap_map, List.map_map, List.map_map] at distinct
  rw [declared]
  exact distinct

namespace LevelZero

/-- The functions of the driver. -/
def driver : Assignment where
  category := ⟨"driver", "levelzero"⟩
  records := [⟨"zeInit", 1, none, .current⟩, ⟨"zeInit", 2, some 2, .current⟩]
  events := []

/-- The functions of a runtime that stands on the driver. -/
def runtime : Assignment where
  category := ⟨"runtime", "sycl"⟩
  records := [⟨"urInit", 1, none, .current⟩]
  events := []

/-- The functions of a loader that is named like the driver. -/
def loader : Assignment where
  category := ⟨"loader", "levelzero"⟩
  records := []
  events := []

theorem inline : ∀ assignment ∈ [driver, runtime, loader], assignment.Inline {} := by
  simp only [List.forall_mem_cons]
  exact ⟨⟨by decide, by decide, by decide, by decide +kernel⟩,
    ⟨by decide, by decide, by decide, by decide⟩, ⟨by decide, by decide, by decide, by decide⟩,
    by simp⟩

end LevelZero

theorem renderStateMaps_declares_levelZero :
    (∀ assignment ∈ [LevelZero.driver, LevelZero.runtime], assignment.Inline {}) ∧
      (declaredVariables (renderStateMaps ([LevelZero.driver, LevelZero.runtime].map
        fun assignment => renderStateTable assignment {}))).Nodup := by
  have inline : ∀ assignment ∈ [LevelZero.driver, LevelZero.runtime], assignment.Inline {} :=
    fun assignment member => LevelZero.inline assignment (by grind)
  refine ⟨inline, (renderStateMaps_declares {} _ inline).2.mpr ?_⟩
  decide +kernel

/-- Different categories of identifiers may share the mutex. -/
theorem renderStateMaps_repeats_mutex :
    ¬ ∀ (naming : Naming) (assignments : List Assignment),
      (assignments.map Assignment.category).Nodup →
      (∀ assignment ∈ assignments, Text.isIdentifier assignment.category.domain.toList = true ∧
        Text.isIdentifier assignment.category.subdomain.toList = true) →
      (declaredVariables (renderStateMaps (assignments.map
        fun assignment => renderStateTable assignment naming))).Nodup := by
  intro distinct
  have inline : ∀ assignment ∈ [LevelZero.driver, LevelZero.loader], assignment.Inline {} :=
    fun assignment member => LevelZero.inline assignment (by grind)
  have once :=
    distinct {} [LevelZero.driver, LevelZero.loader] (by decide +kernel) (by decide +kernel)
  rw [declaredVariables_renderStateMaps inline] at once
  exact absurd once (by decide +kernel)

end ApiTrace
