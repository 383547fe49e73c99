import ApiTrace.Proofs.Header.VendorNumbers
import ApiTrace.Proofs.Identity.IdFile
import ApiTrace.Proofs.Identity.Provenance
import ApiTrace.Run.Draft

/-!
# What a draft holds

A draft is made from the numbered categories of a configuration, one for each of its sources and in
their order. Shipped, declared and fresh numbers all have 32 bits, so the numbers of a category do.
The files of a draft are the id headers of these categories, if numbers are assigned anew, and files
of fixed names in the output directory.
-/

namespace ApiTrace

/-! ## Numbers that a vendor fixes -/

theorem Header.le_maxWord_of_entryNumber? {line : List Char} {number : Nat}
    (read : Header.entryNumber? line = some number) : number ≤ Text.maxWord := by
  simp only [Header.entryNumber?, Option.bind_eq_bind, Option.bind_eq_some_iff] at read
  obtain ⟨_, _, literal, _, kept⟩ := read
  split at kept
  · rename_i range
    cases kept
    exact Int.toNat_le.mpr range.2
  · contradiction

theorem Header.le_maxWord_of_vendorNumbers {header : Header} {spec : NumberEnum}
    {entries : List Entry} (ended : header.vendorNumbers spec = .ok entries) :
    ∀ entry ∈ entries, ∀ number ∈ entry.declared, number ≤ Text.maxWord := by
  intro entry member number given
  obtain ⟨waiting, reads⟩ := ReadsNumbers.of_vendorNumbers ended
  obtain ⟨index, found⟩ := List.getElem?_of_mem member
  obtain ⟨before, line, after, _, _, _, ⟨read, numbered, declared⟩, _⟩ := reads.exists_line found
  obtain rfl := Option.some.inj (declared.symm.trans given)
  exact le_maxWord_of_entryNumber? numbered

section Declared

variable {configuration : Configuration} {options : GenerateOptions} {workspace : Workspace}
  {source : CategorySource}

theorem le_maxWord_of_readEntries {headers : List Header} {entries : List Entry}
    {table : Option SymbolTable}
    (read : (readEntries configuration options source headers workspace).outcome =
      .ok (entries, table)) :
    ∀ entry ∈ entries, ∀ number ∈ entry.declared, number ≤ Text.maxWord := by
  unfold readEntries at read
  split at read
  · obtain ⟨symbols, _, read⟩ := Journalled.bind_eq_ok read
    cases read
    intro entry member
    obtain ⟨_, _, rfl⟩ := List.mem_map.mp member
    exact nofun
  · rename_i spec _
    cases headers with
    | nil => contradiction
    | cons header headers =>
        dsimp only at read
        obtain ⟨listed, vendor, read⟩ := Journalled.liftM_bind_eq_ok read
        cases read
        exact Header.le_maxWord_of_vendorNumbers (ok_of_mapError vendor)

/-- All that a scan does: it opens the headers and reads their functions, and the extra functions
that none of them declares follow. -/
theorem exists_read_of_scanCategory {scanned : ScannedCategory}
    (ended : (scanCategory configuration options workspace source).outcome = .ok scanned) :
    ∃ headers entries table,
      ((source.headers.map fun name => (source.directory options.includeDirectory).join ⟨name⟩).mapM
        workspace.openHeader).mapError RunError.scan = .ok headers ∧
      (readEntries configuration options source headers workspace).outcome = .ok (entries, table) ∧
      scanned = {
        category := source.category
        entries := entries ++ (missingExtras source entries).map fun name => ⟨name, none⟩
        table := table
        banner := bannerOf configuration.dialect source headers } := by
  unfold scanCategory at ended
  split at ended
  · contradiction
  · obtain ⟨headers, opened, ended⟩ := Journalled.liftM_bind_eq_ok ended
    obtain ⟨⟨entries, table⟩, read, ended⟩ := Journalled.bind_eq_ok ended
    obtain ⟨_, _, ended⟩ := Journalled.bind_eq_ok ended
    cases ended
    exact ⟨headers, entries, table, opened, read, rfl⟩

/-- The entries of a category declare numbers of 32 bits. -/
theorem le_maxWord_of_scanCategory {scanned : ScannedCategory}
    (ended : (scanCategory configuration options workspace source).outcome = .ok scanned) :
    ∀ entry ∈ scanned.entries, ∀ number ∈ entry.declared, number ≤ Text.maxWord := by
  obtain ⟨_, entries, _, _, read, rfl⟩ := exists_read_of_scanCategory ended
  intro entry member
  rcases List.mem_append.mp member with member | member
  · exact le_maxWord_of_readEntries read entry member
  · obtain ⟨_, _, rfl⟩ := List.mem_map.mp member
    exact nofun

end Declared

/-! ## The numbered categories -/

/-- The numbered categories of a configuration. -/
def numberCategories (configuration : Configuration) (options : GenerateOptions)
    (workspace : Workspace) : Journalled RunError (List NumberedCategory) := do
  let scanned ← configuration.categories.mapM (scanCategory configuration options workspace)
  scanned.mapM (numberCategory configuration.naming options workspace)

variable {configuration : Configuration} {options : GenerateOptions} {workspace : Workspace}

/-- What a scan says of a category whatever its headers hold: which one it is, and that the digest
in its banner is one. -/
theorem exists_digest_of_scanCategory {source : CategorySource} {scanned : ScannedCategory}
    (ended : (scanCategory configuration options workspace source).outcome = .ok scanned) :
    scanned.category = source.category ∧
      ∃ bytes, scanned.banner.digest = some (Digest.hex bytes) := by
  obtain ⟨_, _, _, _, _, rfl⟩ := exists_read_of_scanCategory ended
  exact ⟨rfl, _, rfl⟩

/-- All that numbering a category does. -/
theorem numbersOf_of_numberCategory {naming : Naming} {scanned : ScannedCategory}
    {numbered : NumberedCategory}
    (ended : (numberCategory naming options workspace scanned).outcome = .ok numbered) :
    numbered.scanned = scanned ∧ numbered.idFile = options.idHeader naming scanned.category ∧
      (numbersOf options workspace scanned numbered.idFile).outcome = .ok numbered.assignment := by
  unfold numberCategory at ended
  obtain ⟨assignment, numbers, ended⟩ := Journalled.bind_eq_ok ended
  obtain ⟨_, _, ended⟩ := Journalled.bind_eq_ok ended
  cases ended
  exact ⟨rfl, rfl, Journalled.outcome_of_mapError numbers⟩

/-- How a numbered category comes from its source when numbers are assigned anew: after the numbers
that its id header ships. -/
structure Renumbered (configuration : Configuration) (options : GenerateOptions)
    (workspace : Workspace) (source : CategorySource) (numbered : NumberedCategory) : Prop where
  scanned : (scanCategory configuration options workspace source).outcome = .ok numbered.scanned
  category : numbered.scanned.category = source.category
  idFile : numbered.idFile = options.idHeader configuration.naming source.category
  assigned : ∃ shipped, workspace.loadIds numbered.idFile = .ok shipped ∧
    (assign source.category numbered.scanned.entries (shipped.getD ∅)).outcome =
      .ok numbered.assignment

/-- Shipped numbers are read from the text of their file. -/
theorem exists_text_of_loadIds {path : Path} {map : IdMap}
    (loaded : workspace.loadIds path = .ok (some map)) :
    ∃ text, workspace.readText path = .ok text ∧ IdMap.parse path.text text = .ok map := by
  unfold Workspace.loadIds at loaded
  split at loaded
  · split at loaded
    · rename_i text found
      obtain ⟨parsed, read, same⟩ := map_eq_ok loaded
      cases same
      exact ⟨text, found, read⟩
    · contradiction
  · cases loaded

/-- The numbers of a category that is numbered anew have 32 bits. -/
theorem Renumbered.number_le_maxWord {source : CategorySource} {numbered : NumberedCategory}
    (renumbered : Renumbered configuration options workspace source numbered) :
    ∀ record ∈ numbered.assignment.records, record.number ≤ Text.maxWord := by
  obtain ⟨shipped, loaded, ended⟩ := renumbered.assigned
  obtain ⟨deeds, assigned⟩ := exists_deeds_of_assign ended
  intro record member
  obtain ⟨deed, deedMem, rfl⟩ := assigned.mem_records_iff.mp member
  refine assigned.number_le_maxWord ?_ (le_maxWord_of_scanCategory renumbered.scanned) deedMem
  cases shipped with
  | none => exact fun pair member => (List.not_mem_nil member).elim
  | some map =>
      obtain ⟨text, _, read⟩ := exists_text_of_loadIds loaded
      exact IdMap.le_maxWord_of_parse read

theorem renumbered_of_numberCategory (anew : options.regenerate = true) {source : CategorySource}
    {scanned : ScannedCategory} {numbered : NumberedCategory}
    (scan : (scanCategory configuration options workspace source).outcome = .ok scanned)
    (ended : (numberCategory configuration.naming options workspace scanned).outcome =
      .ok numbered) :
    Renumbered configuration options workspace source numbered := by
  obtain ⟨rfl, idFile, assigned⟩ := numbersOf_of_numberCategory ended
  have category := (exists_digest_of_scanCategory scan).1
  rw [category] at idFile
  unfold numbersOf at assigned
  rw [if_pos anew, category] at assigned
  obtain ⟨shipped, loaded, assigned⟩ := Journalled.liftM_bind_eq_ok assigned
  exact ⟨scan, category, idFile, shipped, loaded, assigned⟩

private theorem forall₂_trans {α β γ : Type} {first : α → β → Prop} {second : β → γ → Prop}
    {both : α → γ → Prop} (compose : ∀ {a b c}, first a b → second b c → both a c)
    {as : List α} {bs : List β} {cs : List γ} (left : List.Forall₂ first as bs)
    (right : List.Forall₂ second bs cs) : List.Forall₂ both as cs := by
  induction left generalizing cs with
  | nil =>
      cases right
      exact .nil
  | cons head _ ih =>
      cases right with
      | cons next rest => exact .cons (compose head next) (ih rest)

/-- Every source gives one numbered category, by being scanned and then numbered. -/
theorem forall₂_of_numberCategories {relation : CategorySource → NumberedCategory → Prop}
    (each : ∀ {source scanned numbered},
      (scanCategory configuration options workspace source).outcome = .ok scanned →
      (numberCategory configuration.naming options workspace scanned).outcome = .ok numbered →
      relation source numbered)
    {numbered : List NumberedCategory}
    (ended : (numberCategories configuration options workspace).outcome = .ok numbered) :
    List.Forall₂ relation configuration.categories numbered := by
  unfold numberCategories at ended
  obtain ⟨scanned, scans, ended⟩ := Journalled.bind_eq_ok ended
  have scannedAll := Journalled.forall₂_of_outcome_mapM scans
  have numberedAll := Journalled.forall₂_of_outcome_mapM ended
  refine forall₂_trans ?_ scannedAll numberedAll
  intro source scanned numbered scan numbering
  exact each scan numbering

theorem renumbered_of_numberCategories (anew : options.regenerate = true)
    {numbered : List NumberedCategory}
    (ended : (numberCategories configuration options workspace).outcome = .ok numbered) :
    List.Forall₂ (Renumbered configuration options workspace)
      configuration.categories numbered := by
  refine forall₂_of_numberCategories ?_ ended
  intro source scanned numbered scan numbering
  exact renumbered_of_numberCategory anew scan numbering

/-- How a numbered category comes from its source when the numbers are kept: they are those that its
id header ships. -/
structure Reloaded (configuration : Configuration) (options : GenerateOptions)
    (workspace : Workspace) (source : CategorySource) (numbered : NumberedCategory) : Prop where
  idFile : numbered.idFile = options.idHeader configuration.naming source.category
  shipped : ∃ text map, workspace.readText numbered.idFile = .ok text ∧
    IdMap.parse numbered.idFile.text text = .ok map ∧
    numbered.assignment = .ofMap source.category map

theorem reloaded_of_numberCategory (kept : options.regenerate = false) {source : CategorySource}
    {scanned : ScannedCategory} {numbered : NumberedCategory}
    (scan : (scanCategory configuration options workspace source).outcome = .ok scanned)
    (ended : (numberCategory configuration.naming options workspace scanned).outcome =
      .ok numbered) :
    Reloaded configuration options workspace source numbered := by
  obtain ⟨rfl, idFile, reloaded⟩ := numbersOf_of_numberCategory ended
  have category := (exists_digest_of_scanCategory scan).1
  rw [category] at idFile
  unfold numbersOf at reloaded
  rw [if_neg (by simp [kept]), category] at reloaded
  obtain ⟨map, needed, reloaded⟩ := Journalled.liftM_bind_eq_ok reloaded
  obtain ⟨loadedMap, loaded, needed⟩ := bind_eq_ok needed
  cases loadedMap with
  | none => cases needed
  | some loadedMap =>
      cases needed
      obtain ⟨text, found, read⟩ := exists_text_of_loadIds loaded
      exact ⟨idFile, text, map, found, read, (Except.ok.inj reloaded).symm⟩

theorem reloaded_of_numberCategories (kept : options.regenerate = false)
    {numbered : List NumberedCategory}
    (ended : (numberCategories configuration options workspace).outcome = .ok numbered) :
    List.Forall₂ (Reloaded configuration options workspace) configuration.categories numbered := by
  refine forall₂_of_numberCategories ?_ ended
  intro source scanned numbered scan numbering
  exact reloaded_of_numberCategory kept scan numbering

/-- Every numbered category comes from a source. -/
theorem exists_source_of_mem {numbered : List NumberedCategory} {sources : List CategorySource}
    (renumbered : List.Forall₂ (Renumbered configuration options workspace) sources numbered)
    {item : NumberedCategory} (member : item ∈ numbered) :
    ∃ source ∈ sources, Renumbered configuration options workspace source item :=
  exists_item_of_forall₂ renumbered member

/-- The tracing source has one place. -/
theorem destination_of_tracingFiles {hooks : HookSet} {categories : List NumberedCategory}
    {files : List StagedFile}
    (ended : tracingFiles configuration options hooks categories = .ok files) {file : StagedFile}
    (member : file ∈ files) : file.destination = options.tracing := by
  unfold tracingFiles at ended
  split at ended
  · cases ended
    contradiction
  · obtain ⟨converters, _, ended⟩ := bind_eq_ok ended
    cases ended
    rw [List.mem_singleton.mp member]

/-- What a draft is made of. -/
theorem exists_parts_of_makeDraft {draft : Draft}
    (ended : (makeDraft configuration options workspace).outcome = .ok draft) :
    ∃ hooks numbered tracing,
      (loadHooks configuration.naming options workspace).outcome = .ok hooks ∧
      (numberCategories configuration options workspace).outcome = .ok numbered ∧
      tracingFiles configuration options hooks numbered = .ok tracing ∧
      draft = ⟨numbered.map NumberedCategory.report,
        idHeaderFiles configuration.naming options numbered ++ tracing ++
          tableFiles configuration.naming options numbered ++ lookupFiles options numbered⟩ := by
  unfold makeDraft at ended
  obtain ⟨_, _, ended⟩ := Journalled.bind_eq_ok ended
  obtain ⟨hooks, hooked, ended⟩ := Journalled.bind_eq_ok ended
  obtain ⟨scanned, scannedAll, ended⟩ := Journalled.bind_eq_ok ended
  obtain ⟨numbered, numberedAll, ended⟩ := Journalled.bind_eq_ok ended
  obtain ⟨tracing, traced, ended⟩ := Journalled.liftM_bind_eq_ok ended
  cases ended
  refine ⟨hooks, numbered, tracing, hooked, ?_, traced, rfl⟩
  rw [numberCategories, Journalled.outcome_bind, scannedAll]
  exact numberedAll

theorem exists_numbered_of_makeDraft {draft : Draft}
    (ended : (makeDraft configuration options workspace).outcome = .ok draft) :
    ∃ numbered tracing, (numberCategories configuration options workspace).outcome = .ok numbered ∧
      draft.categories = numbered.map NumberedCategory.report ∧
      draft.files = idHeaderFiles configuration.naming options numbered ++ tracing ++
        tableFiles configuration.naming options numbered ++ lookupFiles options numbered ∧
      ∀ file ∈ tracing, file.destination = options.tracing := by
  obtain ⟨hooks, numbered, tracing, _, numberedEq, traced, rfl⟩ := exists_parts_of_makeDraft ended
  exact ⟨numbered, tracing, numberedEq, rfl, rfl, fun file member =>
    destination_of_tracingFiles traced member⟩

end ApiTrace
