import ApiTrace.Proofs.Generated.Banner
import ApiTrace.Proofs.Run.Draft
import ApiTrace.Proofs.Run.Publication
import ApiTrace.Proofs.Workspace.Path

/-!
# What a run ships

A run that assigns numbers anew writes one id header for each category. The place of the header is
made from the key of the category, and two categories can have the same key: then the header of the
later one replaces that of the earlier one. Otherwise the header lies apart from all other files of
the run, and the next run reads from it exactly what was assigned.
-/

namespace ApiTrace

open Workspace

/-! ## Places -/

/-- The name of the id header of a category. -/
def idHeaderName (category : Category) : String :=
  "pti_" ++ category.key ++ "_api_ids.h"

theorem idHeader_eq (options : GenerateOptions) (category : Category) :
    options.idHeader {} category =
      (options.idDirectory.getD options.outDirectory).join ⟨idHeaderName category⟩ := by
  have start : "pti" ++ "_" = "pti_" := rfl
  rw [GenerateOptions.idHeader, idHeaderName, ← start]

theorem toList_idHeaderName (category : Category) :
    (idHeaderName category).toList =
      'p' :: 't' :: "i_".toList ++ category.key.toList ++ "_api_ids.h".toList := by
  rw [idHeaderName, String.toList_append, String.toList_append]
  rfl

theorem key_eq_of_idHeaderName_eq {first second : Category}
    (same : idHeaderName first = idHeaderName second) : first.key = second.key := by
  have texts := congrArg String.toList same
  rw [toList_idHeaderName, toList_idHeaderName] at texts
  exact String.toList_inj.mp (List.append_cancel_left (List.append_cancel_right texts))

theorem isName_idHeaderName {category : Category}
    (plain : category.key.toList.all Header.isNameChar = true) :
    Path.IsName (idHeaderName category) := by
  have long {text : String} (short : text.toList.length < 2) : idHeaderName category ≠ text := by
    rintro rfl
    rw [toList_idHeaderName] at short
    simp only [List.length_append, List.length_cons] at short
    omega
  refine ⟨long (by decide), ?_, long (by decide), ?_⟩
  · rw [toList_idHeaderName, List.mem_append, List.mem_append]
    rintro ((member | member) | member)
    · exact absurd member (by decide)
    · exact absurd (List.all_eq_true.mp plain '/' member) (by decide)
    · exact absurd member (by decide)
  · intro same
    have texts := congrArg String.toList same
    rw [toList_idHeaderName] at texts
    exact absurd (List.cons.inj texts).1 (by decide)

/-- The names of the files that are not id headers. -/
def outputNames : List String :=
  ["tracing.gen", "tracing_cb_api.gen", "pti_api_ids_state_maps.h",
    "tracing_base_apiid_validation_file.gen"]

theorem isName_of_mem_outputNames {name : String} (member : name ∈ outputNames) :
    Path.IsName name := by
  have names : ∀ name ∈ outputNames,
      name ≠ "" ∧ '/' ∉ name.toList ∧ name ≠ "." ∧ name ≠ ".." := by
    decide
  obtain ⟨nonempty, single, notDot, notParent⟩ := names name member
  exact ⟨nonempty, single, notDot, notParent⟩

/-- No other file of a run is named like an id header. -/
theorem idHeaderName_not_mem_outputNames (category : Category) :
    idHeaderName category ∉ outputNames := by
  have endings : ∀ name ∈ outputNames, ¬ "_api_ids.h".toList <:+ name.toList := by
    decide
  intro member
  apply endings _ member
  rw [toList_idHeaderName]
  exact List.suffix_append _ _

/-- The tables and the lookups of a draft are named unlike the tracing source. -/
theorem exists_table_name_of_mem {naming : Naming} {options : GenerateOptions}
    {numbered : List NumberedCategory} {file : StagedFile}
    (member : file ∈ tableFiles naming options numbered ++ lookupFiles options numbered) :
    ∃ name ∈ outputNames.tail, file.destination = options.output name := by
  rcases List.mem_append.mp member with member | member
  · rw [tableFiles, List.mem_cons, List.mem_singleton] at member
    rcases member with rfl | rfl
    · exact ⟨_, by decide, rfl⟩
    · exact ⟨_, by decide, rfl⟩
  · unfold lookupFiles at member
    split at member
    · rw [List.mem_singleton] at member
      exact ⟨_, by decide, congrArg StagedFile.destination member⟩
    · contradiction

/-- What a draft holds apart from the id headers. -/
theorem exists_output_of_mem {naming : Naming} {options : GenerateOptions}
    {numbered : List NumberedCategory} {tracing : List StagedFile}
    (traced : ∀ file ∈ tracing, file.destination = options.tracing) {file : StagedFile}
    (member : file ∈ tracing ++ tableFiles naming options numbered ++
      lookupFiles options numbered) :
    ∃ name ∈ outputNames, file.destination = options.output name := by
  rw [List.append_assoc, List.mem_append] at member
  rcases member with member | member
  · exact ⟨_, by decide, traced file member⟩
  · obtain ⟨name, nameMem, destination⟩ := exists_table_name_of_mem member
    exact ⟨name, List.mem_of_mem_tail nameMem, destination⟩

section Places

variable {staged : Workspace} {options : GenerateOptions} {category : Category}
  {location : Location} (plain : category.key.toList.all Header.isNameChar = true)
  (reached : staged.target (options.idHeader {} category) = .ok location)
include plain reached

/-- The place of an id header has its name. -/
theorem getLast?_of_target_idHeader : location.getLast? = some (idHeaderName category) := by
  rw [idHeader_eq] at reached
  exact getLast?_of_locate_join (isName_idHeaderName plain) (target_eq_ok_iff.mp reached).2.2.1

/-- Only id headers of categories with the same key share a place. -/
theorem target_idHeader_ne {other : Category}
    (otherPlain : other.key.toList.all Header.isNameChar = true)
    (different : other.key ≠ category.key) :
    staged.target (options.idHeader {} other) ≠ .ok location := by
  intro same
  have last := getLast?_of_target_idHeader plain reached
  rw [getLast?_of_target_idHeader otherPlain same] at last
  exact different (key_eq_of_idHeaderName_eq (Option.some.inj last))

theorem target_output_ne {name : String} (member : name ∈ outputNames) :
    staged.target (options.output name) ≠ .ok location := by
  intro same
  have last := getLast?_of_target_idHeader plain reached
  have lastName := getLast?_of_locate_join (isName_of_mem_outputNames member)
    (target_eq_ok_iff.mp same).2.2.1
  rw [lastName] at last
  exact idHeaderName_not_mem_outputNames category (Option.some.inj last ▸ member)

end Places

/-! ## Reading back -/

/-- What lets an id header be read back: names that can stand on entry lines, and no sentinel in
what stands above its line. -/
structure NumberedCategory.Readable (numbered : NumberedCategory) : Prop where
  nonempty : ∀ record ∈ numbered.assignment.records, record.name ≠ ""
  plain : ∀ record ∈ numbered.assignment.records,
    record.name.toList.all Header.isNameChar = true
  /-- No enumerator is taken for the line after the last entry. -/
  unmarked : ∀ record ∈ numbered.assignment.records,
    Text.contains IdMap.enumMark record.enumerator.toList = false
  fileUnmarked : Text.contains IdMap.sentinel numbered.scanned.banner.apiFile.toList = false
  versionUnmarked : ∀ line ∈ numbered.scanned.banner.apiVersion,
    Text.contains IdMap.sentinel line.toList = false
  keyUnmarked : Text.contains IdMap.sentinel numbered.scanned.category.key.toList = false

instance (numbered : NumberedCategory) : Decidable numbered.Readable :=
  decidable_of_iff
    ((∀ record ∈ numbered.assignment.records, record.name ≠ "") ∧
      (∀ record ∈ numbered.assignment.records,
        record.name.toList.all Header.isNameChar = true) ∧
      (∀ record ∈ numbered.assignment.records,
        Text.contains IdMap.enumMark record.enumerator.toList = false) ∧
      Text.contains IdMap.sentinel numbered.scanned.banner.apiFile.toList = false ∧
      (∀ line ∈ numbered.scanned.banner.apiVersion,
        Text.contains IdMap.sentinel line.toList = false) ∧
      Text.contains IdMap.sentinel numbered.scanned.category.key.toList = false)
    ⟨fun ⟨nonempty, plain, unmarked, file, version, key⟩ =>
        ⟨nonempty, plain, unmarked, file, version, key⟩,
      fun ⟨nonempty, plain, unmarked, file, version, key⟩ =>
        ⟨nonempty, plain, unmarked, file, version, key⟩⟩

section Reading

variable {configuration : Configuration} {options : GenerateOptions} {before : Workspace}
  {source : CategorySource} {numbered : NumberedCategory}

/-- The banner of a readable category does not hold the sentinel. -/
theorem NumberedCategory.Readable.banner_unmarked (readable : numbered.Readable)
    (renumbered : Renumbered configuration options before source numbered) :
    numbered.scanned.banner.marked = false := by
  obtain ⟨_, bytes, digest⟩ := exists_digest_of_scanCategory renumbered.scanned
  rw [Banner.marked, List.any_eq_false]
  intro fact member
  rw [Bool.not_eq_true]
  rw [Banner.facts, digest, List.mem_cons, List.mem_append, Option.mem_toList] at member
  rcases member with rfl | version | digested
  · exact readable.fileUnmarked
  · exact readable.versionUnmarked fact version
  · rw [List.mem_singleton.mp digested]
    exact contains_sentinel_hex bytes

/-- The id header of a readable category is read as what was assigned. -/
theorem NumberedCategory.Readable.exists_map (readable : numbered.Readable)
    (renumbered : Renumbered configuration options before source numbered)
    (plain : source.category.key.toList.all Header.isNameChar = true) :
    ∃ map, numbered.assignment.toMap = .ok map ∧ ∀ file,
      IdMap.parse file (renderIdHeader numbered.assignment numbered.scanned.banner {}) =
        .ok map := by
  obtain ⟨shipped, _, ended⟩ := renumbered.assigned
  obtain ⟨deeds, assigned⟩ := exists_deeds_of_assign ended
  obtain ⟨map, made⟩ := assigned.exists_toMap
  have categoryEq : numbered.assignment.category = source.category := category_of_assign ended
  have keyUnmarked := readable.keyUnmarked
  rw [renumbered.category] at keyUnmarked
  rw [← categoryEq] at plain keyUnmarked
  have unmarked := contains_sentinel_idHeaderStart numbered.scanned.banner plain
  rw [contains_sentinel_render, readable.banner_unmarked renumbered, keyUnmarked] at unmarked
  have legible : ∀ pair ∈ numbered.assignment.pairs, IdMap.Legible pair.1 pair.2 := by
    intro pair member
    obtain ⟨record, recordMem, rfl⟩ := List.mem_map.mp member
    exact ⟨readable.nonempty record recordMem, readable.plain record recordMem,
      readable.unmarked record recordMem, renumbered.number_le_maxWord record recordMem⟩
  refine ⟨map, made, fun file => ?_⟩
  rw [parse_idHeader file plain legible fun line => contains_sentinel_of_mem_lines unmarked]
  exact IdMap.ofPairs_eq_ok_of_scope made file

/-- A file is loaded as what its text is parsed as. -/
theorem loadIds_of_readText {workspace : Workspace} {path : Path} {text : String} {map : IdMap}
    (read : workspace.readText path = .ok text) (parsed : IdMap.parse path.text text = .ok map) :
    workspace.loadIds path = .ok (some map) := by
  have there : workspace.hasPath path = true := by
    obtain ⟨location, bytes, found⟩ := exists_find_of_readText read
    rw [hasPath, found]
    rfl
  unfold loadIds
  rw [if_pos there, read]
  dsimp only
  rw [parsed]
  rfl

end Reading

/-! ## A whole run -/

section Run

variable {configuration : Configuration} {options : GenerateOptions} {before after : Workspace}
  {report : GenerateReport}

/-- What a run that numbers anew has moved when it succeeds: the id headers, the other files of its
draft, and its report. -/
theorem exists_moved_of_generate (naming : configuration.naming = {})
    (anew : options.regenerate = true)
    (ended : (generate configuration options).run before = (after, .ok report)) :
    ∃ staged numbered others,
      (numberCategories configuration options before).outcome = .ok numbered ∧
      report.categories = numbered.map NumberedCategory.report ∧
      Moved staged after
        (numbered.map (fun numbered => ⟨numbered.idFile,
            renderIdHeader numbered.assignment numbered.scanned.banner {}⟩) ++
          (others ++ reportFiles options report)) ∧
      ∀ file ∈ others, ∃ name ∈ outputNames, file.destination = options.output name := by
  obtain ⟨staged, prepared, ran, _, ending⟩ := generate_ends configuration options before
  rw [ended] at ending
  cases ending with
  | published published =>
      cases published with
      | cleared shipped =>
          rw [anew] at shipped
          contradiction
      | complete _ moved =>
          obtain ⟨draft, _, drafted, _, reportEq, _, rfl⟩ := exists_draft_of_prepare ran
          obtain ⟨numbered, tracing, numberedEq, categories, files, traced⟩ :=
            exists_numbered_of_makeDraft drafted
          refine ⟨staged, numbered,
            tracing ++ tableFiles {} options numbered ++ lookupFiles options numbered, numberedEq,
            ?_, ?_, fun file => exists_output_of_mem traced⟩
          · rw [reportEq, ← categories]
            rfl
          · rw [files, naming, idHeaderFiles, if_pos anew] at moved
            simpa only [List.append_assoc] using moved

/-- The text that a run leaves at the place of an id header: that of the last category with its
key. -/
theorem lastText?_idHeader {staged : Workspace} {earlier later : List NumberedCategory}
    {last : NumberedCategory} {others reported : List StagedFile} {location : Location}
    (places : ∀ item ∈ earlier ++ last :: later,
      item.idFile = options.idHeader {} item.scanned.category ∧
        item.scanned.category.key.toList.all Header.isNameChar = true)
    (lastOfKey : ∀ other ∈ later, other.scanned.category.key ≠ last.scanned.category.key)
    (outputs : ∀ file ∈ others, ∃ name ∈ outputNames, file.destination = options.output name)
    (elsewhere : ∀ file ∈ reported, staged.target file.destination ≠ .ok location)
    (reached : staged.target last.idFile = .ok location) :
    staged.lastText? ((earlier ++ last :: later).map (fun numbered => ⟨numbered.idFile,
        renderIdHeader numbered.assignment numbered.scanned.banner {}⟩) ++ (others ++ reported))
      location = some (renderIdHeader last.assignment last.scanned.banner {}) := by
  obtain ⟨lastPlace, lastPlain⟩ :=
    places last (List.mem_append_right earlier List.mem_cons_self)
  have reachedHeader := reached
  rw [lastPlace] at reachedHeader
  rw [List.map_append, List.map_cons, List.append_assoc, List.cons_append]
  refine lastText?_eq_some reached ?_
  intro file member
  rw [List.mem_append, List.mem_append] at member
  rcases member with member | member | member
  · obtain ⟨other, otherMem, rfl⟩ := List.mem_map.mp member
    obtain ⟨otherPlace, otherPlain⟩ :=
      places other (List.mem_append_right earlier (List.mem_cons_of_mem last otherMem))
    rw [otherPlace]
    exact target_idHeader_ne lastPlain reachedHeader otherPlain (lastOfKey other otherMem)
  · obtain ⟨name, nameMem, destination⟩ := outputs file member
    rw [destination]
    exact target_output_ne lastPlain reachedHeader nameMem
  · exact elsewhere file member

/-- The last category with a key ships its numbers at the place of all categories with that key. -/
theorem exists_shipped (earlier : List NumberedCategory) (last : NumberedCategory)
    (later : List NumberedCategory) {staged : Workspace} {others : List StagedFile}
    (naming : configuration.naming = {})
    (plain : ∀ source ∈ configuration.categories,
      source.category.key.toList.all Header.isNameChar = true)
    (renumbered : List.Forall₂ (Renumbered configuration options before) configuration.categories
      (earlier ++ last :: later))
    (moved : Moved staged after
      ((earlier ++ last :: later).map (fun numbered => ⟨numbered.idFile,
          renderIdHeader numbered.assignment numbered.scanned.banner {}⟩) ++
        (others ++ reportFiles options report)))
    (outputs : ∀ file ∈ others, ∃ name ∈ outputNames, file.destination = options.output name)
    (readable : last.Readable)
    (lastOfKey : ∀ other ∈ later, other.scanned.category.key ≠ last.scanned.category.key)
    (elsewhere : ∀ path, options.report = some path →
      after.locate path ≠ after.locate last.idFile) :
    ∃ map, last.assignment.toMap = .ok map ∧
      ∀ shipped ∈ earlier ++ last :: later,
        shipped.scanned.category.key = last.scanned.category.key →
          after.loadIds shipped.idFile = .ok (some map) := by
  have places : ∀ item ∈ earlier ++ last :: later,
      item.idFile = options.idHeader {} item.scanned.category ∧
        item.scanned.category.key.toList.all Header.isNameChar = true := by
    intro item member
    obtain ⟨source, sourceMem, made⟩ := exists_source_of_mem renumbered member
    rw [made.idFile, made.category, naming]
    exact ⟨rfl, plain source sourceMem⟩
  have lastMem : last ∈ earlier ++ last :: later := List.mem_append_right earlier List.mem_cons_self
  obtain ⟨source, sourceMem, lastMade⟩ := exists_source_of_mem renumbered lastMem
  obtain ⟨map, mapEq, parsed⟩ := readable.exists_map lastMade (plain source sourceMem)
  obtain ⟨location, reached⟩ := moved.reached _
    (List.mem_append_left _ (List.mem_map_of_mem lastMem))
  have reportElsewhere : ∀ file ∈ reportFiles options report,
      staged.target file.destination ≠ .ok location := by
    intro file member same
    obtain ⟨path, wanted, rfl⟩ := Option.map_eq_some_iff.mp (Option.mem_toList.mp member)
    apply elsewhere path wanted
    rw [moved.locate_eq_ok_iff.mpr (target_eq_ok_iff.mp same).2.2.1,
      moved.locate_eq_ok_iff.mpr (target_eq_ok_iff.mp reached).2.2.1]
  have text := lastText?_idHeader places lastOfKey outputs reportElsewhere reached
  have read := moved.readText reached text
  refine ⟨map, mapEq, fun shipped member sameKey => ?_⟩
  have samePlace : shipped.idFile = last.idFile := by
    rw [(places shipped member).1, (places last lastMem).1, idHeader_eq, idHeader_eq, idHeaderName,
      idHeaderName, sameKey]
  rw [samePlace]
  exact loadIds_of_readText read (parsed _)

/-- What a run ships: at the place of its id header the next run reads exactly what was assigned to
the last category with the key, so every category ships its own numbers if no two have the same key.
-/
theorem generate_ships (naming : configuration.naming = {})
    (plain : ∀ source ∈ configuration.categories,
      source.category.key.toList.all Header.isNameChar = true)
    (anew : options.regenerate = true)
    (ended : (generate configuration options).run before = (after, .ok report)) :
    ∃ numbered, (numberCategories configuration options before).outcome = .ok numbered ∧
      List.Forall₂ (Renumbered configuration options before) configuration.categories numbered ∧
      report.categories = numbered.map NumberedCategory.report ∧
      ∀ earlier last later, numbered = earlier ++ last :: later → last.Readable →
        (∀ other ∈ later, other.scanned.category.key ≠ last.scanned.category.key) →
        (∀ path, options.report = some path → after.locate path ≠ after.locate last.idFile) →
        ∃ map, last.assignment.toMap = .ok map ∧
          ∀ shipped ∈ numbered, shipped.scanned.category.key = last.scanned.category.key →
            after.loadIds shipped.idFile = .ok (some map) := by
  obtain ⟨staged, numbered, others, numberedEq, categories, moved, outputs⟩ :=
    exists_moved_of_generate naming anew ended
  have renumbered := renumbered_of_numberCategories anew numberedEq
  refine ⟨numbered, numberedEq, renumbered, categories, ?_⟩
  rintro earlier last later rfl readable lastOfKey elsewhere
  exact exists_shipped earlier last later naming plain renumbered moved outputs readable lastOfKey
    elsewhere

end Run

namespace TwoCategories

/-- A category of one function that its header does not declare. -/
def source (domain subdomain function : String) : CategorySource where
  category := ⟨domain, subdomain⟩
  functions := .vendorNumbers {}
  headers := ["ur.h"]
  extraFunctions := [function]

/-- Two categories with different keys. -/
def apart : Configuration where
  categories := [source "runtime" "sycl" "urInit", source "runtime" "pi" "piInit"]

/-- Two different categories with the same key. -/
def colliding : Configuration where
  categories := [source "runtime_sycl" "ur" "urInit", source "runtime" "sycl_ur" "piInit"]

def options : GenerateOptions where
  includeDirectory := ⟨"include"⟩
  outDirectory := ⟨"out"⟩
  regenerate := true

def workspace : Workspace where
  nodes := [
    (["include"], .directory),
    (["include", "ur.h"], .file "typedef enum ur_function_t \x7b\n\x7d\n".toUTF8)]
  current := []

theorem plain : ∀ configuration ∈ [apart, colliding], ∀ source ∈ configuration.categories,
    source.category.key.toList.all Header.isNameChar = true := by
  decide +kernel

theorem exists_run (configuration : Configuration)
    (succeeds : ((generate configuration options).run workspace).2.toOption.isSome = true) :
    ∃ after report, (generate configuration options).run workspace = (after, .ok report) := by
  cases ended : (generate configuration options).run workspace with
  | mk after outcome =>
      rw [ended] at succeeds
      cases outcome with
      | error cause => contradiction
      | ok report => exact ⟨after, report, rfl⟩

/-- The numbered categories are two of one function each, whose headers can be read back. -/
structure OneEach (configuration : Configuration) (first second : NumberedCategory) : Prop where
  numbered : (numberCategories configuration options workspace).outcome = .ok [first, second]
  firstPairs : first.assignment.pairs = [("urInit", 1)]
  secondPairs : second.assignment.pairs = [("piInit", 1)]
  firstReadable : first.Readable
  secondReadable : second.Readable

/-- Whether the numbered categories are two of one function each. -/
def oneEach (configuration : Configuration) : Bool :=
  match (numberCategories configuration options workspace).outcome with
  | .ok [first, second] =>
    first.assignment.pairs = [("urInit", 1)] ∧ second.assignment.pairs = [("piInit", 1)] ∧
      first.Readable ∧ second.Readable
  | _ => false

theorem exists_oneEach {configuration : Configuration} (checked : oneEach configuration = true) :
    ∃ first second, OneEach configuration first second := by
  unfold oneEach at checked
  split at checked
  · obtain ⟨firstPairs, secondPairs, firstReadable, secondReadable⟩ := of_decide_eq_true checked
    exact ⟨_, _, ‹_›, firstPairs, secondPairs, firstReadable, secondReadable⟩
  · contradiction

theorem forall₂_pair {α β : Type} {relation : α → β → Prop} {a b : α} {c d : β}
    (related : List.Forall₂ relation [a, b] [c, d]) : relation a c ∧ relation b d := by
  cases related with
  | cons first rest =>
      cases rest with
      | cons second _ => exact ⟨first, second⟩

end TwoCategories

open TwoCategories in
theorem generate_ships_apart :
    ∃ after report first second, (generate apart options).run workspace = (after, .ok report) ∧
      OneEach apart first second ∧ ∀ shipped ∈ [first, second],
        ∃ map, shipped.assignment.toMap = .ok map ∧
          after.loadIds shipped.idFile = .ok (some map) := by
  obtain ⟨after, report, ended⟩ := exists_run apart (by decide +kernel)
  have checked : oneEach apart = true := by decide +kernel
  obtain ⟨first, second, each⟩ := exists_oneEach checked
  obtain ⟨numbered, sameEq, renumbered, _, shipped⟩ :=
    generate_ships rfl (plain apart List.mem_cons_self) rfl ended
  rw [each.numbered] at sameEq
  cases sameEq
  obtain ⟨firstMade, secondMade⟩ := forall₂_pair renumbered
  have different : second.scanned.category.key ≠ first.scanned.category.key := by
    rw [firstMade.category, secondMade.category]
    decide
  refine ⟨after, report, first, second, ended, each, ?_⟩
  rw [List.forall_mem_cons, List.forall_mem_singleton]
  constructor
  · obtain ⟨map, made, loaded⟩ := shipped [] first [second] rfl each.firstReadable
      (List.forall_mem_singleton.mpr different) nofun
    exact ⟨map, made, loaded first List.mem_cons_self rfl⟩
  · obtain ⟨map, made, loaded⟩ := shipped [first] second [] rfl each.secondReadable nofun nofun
    exact ⟨map, made, loaded second (List.mem_cons_of_mem _ List.mem_cons_self) rfl⟩

open TwoCategories in
theorem generate_loses_colliding :
    ∃ after report first second map,
      (generate colliding options).run workspace = (after, .ok report) ∧
      OneEach colliding first second ∧ first.scanned.category ≠ second.scanned.category ∧
      first.assignment.toMap = .ok map ∧ after.loadIds first.idFile ≠ .ok (some map) := by
  obtain ⟨after, report, ended⟩ := exists_run colliding (by decide +kernel)
  have checked : oneEach colliding = true := by decide +kernel
  obtain ⟨first, second, each⟩ := exists_oneEach checked
  obtain ⟨staged, numbered, others, numberedEq, _, moved, outputs⟩ :=
    exists_moved_of_generate rfl rfl ended
  have renumbered := renumbered_of_numberCategories rfl numberedEq
  rw [each.numbered] at numberedEq
  cases numberedEq
  obtain ⟨firstMade, secondMade⟩ := forall₂_pair renumbered
  have plainKeys := plain colliding (List.mem_cons_of_mem _ List.mem_cons_self)
  have sameKey : first.scanned.category.key = second.scanned.category.key := by
    rw [firstMade.category, secondMade.category]
    decide
  have differ : first.scanned.category ≠ second.scanned.category := by
    rw [firstMade.category, secondMade.category]
    decide
  obtain ⟨firstMap, firstShips, _⟩ :=
    each.firstReadable.exists_map firstMade (plainKeys _ List.mem_cons_self)
  obtain ⟨secondMap, secondShips, loaded⟩ :=
    exists_shipped [first] second [] rfl plainKeys renumbered moved outputs each.secondReadable
      (List.forall_mem_nil _) nofun
  refine ⟨after, report, first, second, firstMap, ended, each, differ, firstShips, ?_⟩
  rw [loaded first List.mem_cons_self sameKey]
  intro same
  cases same
  have perm := (Assignment.perm_pairs_of_toMap firstShips).symm.trans
    (Assignment.perm_pairs_of_toMap secondShips)
  rw [each.firstPairs, each.secondPairs] at perm
  exact absurd perm (by decide)

end ApiTrace
