import ApiTrace.Generated.IdHeader
import ApiTrace.Proofs.Identity.IdFile
import ApiTrace.Proofs.Identity.Names

/-!
# Reading an id header back

The id header of an assignment is all that the next run knows of this one. Below the banner stand
the line of the sentinel, one line for each record and the line that closes the enumeration, so the
next run reads exactly the records.
-/

namespace ApiTrace

/-- The text of an id header above the line of the sentinel. -/
def idHeaderStart (category : Category) (banner : Banner) (naming : Naming) : String :=
  let idEnum := naming.idEnum category
  let guard := includeGuard idEnum
  "#ifndef " ++ guard ++ "\n#define " ++ guard ++ "\n\n" ++ banner.render ++ "\n" ++
    "typedef enum _" ++ idEnum ++ " \x7b\n"

/-- The line of the sentinel. -/
def sentinelLine (category : Category) : String :=
  "    reserved_" ++ category.key ++ "_id=0,"

/-- The text of an id header below the entry lines. -/
def idHeaderEnd (category : Category) (naming : Naming) : String :=
  " \x7d " ++ naming.idEnum category ++ ";\n\n#endif\n"

theorem toList_enumeratorLine (record : Record) :
    (enumeratorLine record).toList = IdMap.entryLine (record.name, record.number) ++ ['\n'] := by
  have indent : "    ".toList = List.replicate 4 ' ' := rfl
  have equals : "=".toList = ['='] := rfl
  have ending : ",\n".toList = [',', '\n'] := rfl
  rw [enumeratorLine, Text.showNat, Record.enumerator, String.toList_append, String.toList_append,
    String.toList_append, String.toList_append, indent, equals, ending, String.toList_ofList,
    IdMap.entryLine, IdMap.entryText]
  simp only [List.append_assoc, List.cons_append, List.nil_append]

theorem renderIdHeader_eq (assignment : Assignment) (banner : Banner) (naming : Naming) :
    renderIdHeader assignment banner naming =
      idHeaderStart assignment.category banner naming ++
        (sentinelLine assignment.category ++ "\n" ++
          (String.join (assignment.records.map enumeratorLine) ++
            idHeaderEnd assignment.category naming)) := by
  have ending : "_id=0,\n" = "_id=0," ++ "\n" := rfl
  unfold renderIdHeader idHeaderStart sentinelLine idHeaderEnd
  rw [ending]
  simp only [String.append_assoc]

theorem exists_toList_idHeaderStart (category : Category) (banner : Banner) (naming : Naming) :
    ∃ text, (idHeaderStart category banner naming).toList = text ++ ['\n'] := by
  have ended (text : String) :
      (text ++ " \x7b\n").toList = (text.toList ++ [' ', '\x7b']) ++ ['\n'] := by
    rw [String.toList_append, List.append_assoc]
    rfl
  exact ⟨_, ended _⟩

theorem exists_toList_idHeaderEnd (category : Category) (naming : Naming) :
    ∃ text, (idHeaderEnd category naming).toList = [' ', '\x7d'] ++ text := by
  have opening : " \x7d ".toList = [' ', '\x7d'] ++ [' '] := rfl
  rw [idHeaderEnd, String.toList_append, String.toList_append, opening, List.append_assoc,
    List.append_assoc]
  exact ⟨_, rfl⟩

theorem toList_renderIdHeader (assignment : Assignment) (banner : Banner) (naming : Naming) :
    (renderIdHeader assignment banner naming).toList =
      (idHeaderStart assignment.category banner naming).toList ++
        ((sentinelLine assignment.category).toList ++ '\n' ::
          (assignment.pairs.flatMap (fun pair => IdMap.entryLine pair ++ ['\n']) ++
            (idHeaderEnd assignment.category naming).toList)) := by
  have entries : (String.join (assignment.records.map enumeratorLine)).toList =
      assignment.pairs.flatMap (fun pair => IdMap.entryLine pair ++ ['\n']) := by
    simp only [String.toList_join, Assignment.pairs, List.flatMap_map, toList_enumeratorLine]
  have ending : "\n".toList = ['\n'] := rfl
  rw [renderIdHeader_eq, String.toList_append, String.toList_append, String.toList_append,
    String.toList_append, entries, ending, List.append_assoc, List.singleton_append]

/-- A line with a name in it holds no newline if what stands around the name holds none. -/
theorem newline_not_mem_around {before name after : String}
    (plain : name.toList.all Header.isNameChar = true) (start : '\n' ∉ before.toList)
    (ending : '\n' ∉ after.toList) : '\n' ∉ (before ++ name ++ after).toList := by
  rw [String.toList_append, String.toList_append, List.mem_append, List.mem_append]
  rintro ((member | member) | member)
  · exact start member
  · exact absurd (List.all_eq_true.mp plain _ member) (by decide)
  · exact ending member

theorem newline_not_mem_sentinelLine {category : Category}
    (plain : category.key.toList.all Header.isNameChar = true) :
    '\n' ∉ (sentinelLine category).toList :=
  newline_not_mem_around plain (by decide) (by decide)

theorem getLast?_sentinelLine (category : Category) :
    (sentinelLine category).toList.getLast? = some ',' := by
  have ending : "_id=0,".toList = "_id=0".toList ++ [','] := rfl
  rw [sentinelLine, String.toList_append, ending, ← List.append_assoc, List.getLast?_concat]

theorem contains_sentinelLine (category : Category) :
    Text.contains IdMap.sentinel (sentinelLine category).toList = true := by
  have opening : "    reserved_".toList = "    ".toList ++ IdMap.sentinel := rfl
  rw [Text.contains_iff_isInfix, sentinelLine, String.toList_append, String.toList_append, opening,
    List.append_assoc]
  exact List.infix_append "    ".toList _ _

/-- The lines of an id header: those above the sentinel, the sentinel and the entries, and a closing
line. -/
theorem exists_lines_renderIdHeader {assignment : Assignment} (banner : Banner) (naming : Naming)
    (plain : assignment.category.key.toList.all Header.isNameChar = true)
    (spelled : ∀ pair ∈ assignment.pairs, IdMap.Spelled pair.1 pair.2) :
    ∃ closing rest, IdMap.closes (Text.trim closing) = true ∧
      Text.lines (renderIdHeader assignment banner naming).toList =
        Text.lines (idHeaderStart assignment.category banner naming).toList ++
          (sentinelLine assignment.category).toList ::
            (assignment.pairs.map IdMap.entryLine ++ closing :: rest) := by
  obtain ⟨start, startEq⟩ := exists_toList_idHeaderStart assignment.category banner naming
  obtain ⟨below, belowEq⟩ := exists_toList_idHeaderEnd assignment.category naming
  have kept : (sentinelLine assignment.category).toList.getLast? ≠ some '\r' := by
    rw [getLast?_sentinelLine]
    decide
  rw [toList_renderIdHeader, startEq, belowEq, List.append_assoc, List.singleton_append]
  exact IdMap.exists_lines_of_entries (newline_not_mem_sentinelLine plain) kept spelled

/-- An id header is read as the pairs of its records. -/
theorem parse_idHeader (file : String) {assignment : Assignment} {banner : Banner}
    {naming : Naming} (plain : assignment.category.key.toList.all Header.isNameChar = true)
    (legible : ∀ pair ∈ assignment.pairs, IdMap.Legible pair.1 pair.2)
    (above : ∀ line ∈ Text.lines (idHeaderStart assignment.category banner naming).toList,
      Text.contains IdMap.sentinel line = false) :
    IdMap.parse file (renderIdHeader assignment banner naming) =
      IdMap.ofPairs file assignment.pairs := by
  have spelled : ∀ pair ∈ assignment.pairs, IdMap.Spelled pair.1 pair.2 :=
    fun pair member => (legible pair member).spelled
  obtain ⟨closing, rest, closed, linesEq⟩ := exists_lines_renderIdHeader banner naming plain spelled
  rw [IdMap.parse_eq_ofPairs linesEq above (contains_sentinelLine assignment.category) spelled
    closed, IdMap.listed_eq_self legible]

/-- The next run reads from an id header exactly what the assignment ships. -/
theorem parse_renderIdHeader (file : String) (assignment : Assignment) (banner : Banner)
    (naming : Naming) (apart : assignment.records.Pairwise Record.Distinct)
    (nonzero : ∀ record ∈ assignment.records, record.number ≠ 0)
    (legible : ∀ record ∈ assignment.records, IdMap.Legible record.name record.number)
    (plain : assignment.category.key.toList.all Header.isNameChar = true)
    (above : ∀ line ∈ Text.lines (idHeaderStart assignment.category banner naming).toList,
      Text.contains IdMap.sentinel line = false) :
    ∃ map, assignment.toMap = .ok map ∧
      IdMap.parse file (renderIdHeader assignment banner naming) = .ok map := by
  have pairsLegible : ∀ pair ∈ assignment.pairs, IdMap.Legible pair.1 pair.2 := by
    intro pair member
    obtain ⟨record, recordMem, rfl⟩ := List.mem_map.mp member
    exact legible record recordMem
  obtain ⟨map, made⟩ := Assignment.exists_toMap apart fun record member =>
    Nat.pos_of_ne_zero (nonzero record member)
  refine ⟨map, made, ?_⟩
  rw [parse_idHeader file plain pairsLegible above]
  exact IdMap.ofPairs_eq_ok_of_scope made file

namespace Suffixed

/-- A function whose name ends like an enumerator, and one that was shipped twice. -/
def assignment : Assignment where
  category := ⟨"driver", "levelzero"⟩
  records := [
    ⟨"zeInit", 1, none, .residual⟩,
    ⟨"zeDevice_id", 2, none, .current⟩,
    ⟨"zeInit", 3, some 2, .current⟩]
  events := []

/-- A banner with every line. -/
def banner : Banner where
  apiFile := "include/ze_api.h"
  apiVersion := some "@version v1.3-r1.3.7"
  digest := some "ab12"

theorem guard_eq :
    includeGuard (Naming.idEnum {} assignment.category) = "PTI_API_ID_DRIVER_LEVELZERO_H_" := by
  decide +kernel

theorem above : ∀ line ∈ Text.lines (idHeaderStart assignment.category banner {}).toList,
    Text.contains IdMap.sentinel line = false := by
  dsimp only [idHeaderStart]
  rw [guard_eq]
  -- Short pieces keep the evaluation small.
  simp only [Banner.render, banner, bannerLine, generatedMark, String.toList_append]
  decide +kernel

end Suffixed

theorem parse_renderIdHeader_suffixed :
    ∃ map, Suffixed.assignment.toMap = .ok map ∧
      IdMap.parse "pti_driver_levelzero_api_ids.h"
        (renderIdHeader Suffixed.assignment Suffixed.banner {}) = .ok map := by
  apply parse_renderIdHeader
  case apart => decide +kernel
  case nonzero => decide
  case legible => decide +kernel
  case plain => decide +kernel
  case above => exact Suffixed.above

end ApiTrace
