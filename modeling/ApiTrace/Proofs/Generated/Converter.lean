import ApiTrace.Generated.Converter
import ApiTrace.Proofs.Selection
import ApiTrace.Text.Line
import ApiTrace.Text.Search
import Mathlib.Algebra.Group.Int.Defs
import Mathlib.Data.List.Find
import Mathlib.Data.List.Induction

/-!
# Cases of a converter

A converter has one case for each number of its enumeration, ascending, with the first declared
member of that number. Its switch compares unsigned numbers of 32 bits, which tells the cases apart
exactly if no two numbers of the enumeration differ by a multiple of 2 ^ 32.
-/

namespace ApiTrace

-- A text is decided by its own characters, not by those of the whole alphabet.
attribute [local instance (high)] List.decidableBAll

namespace Enumeration

/-! ## Placing by number -/

section Place

variable {pair other : String × Int} {pairs : List (String × Int)}

theorem mem_placeByValue (member : other ∈ placeByValue pair pairs) :
    other = pair ∨ other ∈ pairs := by
  induction pairs with
  | nil => exact .inl (List.mem_singleton.mp member)
  | cons first pairs ih =>
      rw [placeByValue] at member
      split at member
      · exact List.mem_cons.mp member
      · split at member
        · exact .inr member
        · rcases List.mem_cons.mp member with rfl | member
          · exact .inr List.mem_cons_self
          · exact (ih member).imp_right (List.mem_cons_of_mem first)

theorem ascending_placeByValue (ascending : pairs.Pairwise fun left right => left.2 < right.2) :
    (placeByValue pair pairs).Pairwise fun left right => left.2 < right.2 := by
  induction pairs with
  | nil => exact List.pairwise_singleton _ pair
  | cons first pairs ih =>
      obtain ⟨above, rest⟩ := List.pairwise_cons.mp ascending
      rw [placeByValue]
      split
      · rename_i less
        refine List.pairwise_cons.mpr ⟨List.forall_mem_cons.mpr ⟨less, ?_⟩, ascending⟩
        exact fun other member => Int.lt_trans less (above other member)
      · rename_i notLess
        split
        · exact ascending
        · rename_i different
          refine List.pairwise_cons.mpr ⟨fun other member => ?_, ih rest⟩
          rcases mem_placeByValue member with rfl | member
          · omega
          · exact above other member

/-- A pair that is placed is found unless another pair has its number already. -/
theorem find?_placeByValue (ascending : pairs.Pairwise fun left right => left.2 < right.2)
    (number : Int) :
    (placeByValue pair pairs).find? (fun other => other.2 = number) =
      (pairs.find? fun other => other.2 = number).or
        (if pair.2 = number then some pair else none) := by
  induction pairs with
  | nil => by_cases same : pair.2 = number <;> simp [placeByValue, same]
  | cons first pairs ih =>
      obtain ⟨above, rest⟩ := List.pairwise_cons.mp ascending
      rw [placeByValue]
      split
      · rename_i less
        rw [List.find?_cons]
        by_cases same : pair.2 = number
        · have absent : (first :: pairs).find? (fun other => other.2 = number) = none := by
            rw [List.find?_eq_none, List.forall_mem_cons]
            refine ⟨by simp; omega, fun other member => ?_⟩
            have := above other member
            simp
            omega
          rw [absent]
          simp [same]
        · simp [same]
      · split
        · rename_i equal
          by_cases same : first.2 = number <;> simp [equal, same]
        · rw [List.find?_cons, List.find?_cons, ih rest]
          by_cases same : first.2 = number <;> simp [same]

end Place

/-- Labels by number for pairs in the order of their declarations. -/
structure Labels (pairs labels : List (String × Int)) : Prop where
  subset : labels ⊆ pairs
  /-- No number has two labels. -/
  ascending : labels.Pairwise fun left right => left.2 < right.2
  /-- The label of a number is the first pair with it. -/
  find?_eq : ∀ number,
    labels.find? (fun label => label.2 = number) = pairs.find? fun pair => pair.2 = number

/-- One more declaration. -/
theorem Labels.place {pairs labels : List (String × Int)} (labelled : Labels pairs labels)
    (pair : String × Int) : Labels (pairs ++ [pair]) (placeByValue pair labels) where
  subset other member := by
    rw [List.mem_append, List.mem_singleton]
    exact (mem_placeByValue member).symm.imp_left fun before => labelled.subset before
  ascending := ascending_placeByValue labelled.ascending
  find?_eq number := by
    rw [find?_placeByValue labelled.ascending, labelled.find?_eq, List.find?_append,
      List.find?_singleton]
    simp

theorem labels_byValue (enumeration : Enumeration) :
    Labels enumeration.resolved enumeration.byValue := by
  rw [byValue]
  induction enumeration.resolved using List.reverseRecOn with
  | nil => exact ⟨List.Subset.refl [], .nil, fun number => rfl⟩
  | append_singleton pairs pair ih =>
      rw [List.foldl_concat]
      exact ih.place pair

/-! ## The numbers of the switch -/

/-- A number as the switch compares it: without a sign, in 32 bits. -/
def switchNumber (number : Int) : BitVec 32 :=
  BitVec.ofInt 32 number

/-- The cases are told apart by the switch, and every member has one, which is that of the first
member with its number in the switch. -/
structure Switches (enumeration : Enumeration) : Prop where
  distinct : (enumeration.byValue.map fun label => switchNumber label.2).Nodup
  covered : ∀ member ∈ enumeration.resolved,
    enumeration.byValue.filter (fun label => switchNumber label.2 = switchNumber member.2) =
      (enumeration.resolved.find? fun first => switchNumber first.2 = switchNumber member.2).toList

/-- No two members have different numbers that the switch takes for the same. -/
def ToldApart (enumeration : Enumeration) : Prop :=
  ∀ first ∈ enumeration.resolved, ∀ second ∈ enumeration.resolved,
    switchNumber first.2 = switchNumber second.2 → first.2 = second.2

instance (enumeration : Enumeration) : Decidable enumeration.ToldApart :=
  inferInstanceAs (Decidable (∀ first ∈ enumeration.resolved, ∀ second ∈ enumeration.resolved,
    switchNumber first.2 = switchNumber second.2 → first.2 = second.2))

variable {enumeration : Enumeration}

/-- The labels of a number are the first member with it. -/
theorem filter_byValue (enumeration : Enumeration) (number : Int) :
    enumeration.byValue.filter (fun label => label.2 = number) =
      (enumeration.resolved.find? fun member => member.2 = number).toList := by
  have labelled := labels_byValue enumeration
  rw [← labelled.find?_eq]
  apply Selection.filter_eq_toList_find?
  refine labelled.ascending.imp fun {left right} less leftHas => ?_
  rw [decide_eq_true_eq] at leftHas
  rw [decide_eq_false_iff_not]
  omega

theorem exists_label {member : String × Int} (among : member ∈ enumeration.resolved) :
    ∃ label ∈ enumeration.byValue, label.2 = member.2 := by
  have found : (enumeration.resolved.find? fun other => other.2 = member.2).isSome :=
    List.find?_isSome.mpr ⟨member, among, by simp⟩
  rw [← (labels_byValue enumeration).find?_eq, List.find?_isSome] at found
  simpa using found

theorem ToldApart.distinct (apart : enumeration.ToldApart) :
    (enumeration.byValue.map fun label => switchNumber label.2).Nodup := by
  have labelled := labels_byValue enumeration
  refine List.pairwise_map.mpr
    (labelled.ascending.imp_of_mem fun {left right} leftMem rightMem less same => ?_)
  have equal := apart left (labelled.subset leftMem) right (labelled.subset rightMem) same
  omega

theorem ToldApart.covered (apart : enumeration.ToldApart) {member : String × Int}
    (among : member ∈ enumeration.resolved) :
    enumeration.byValue.filter (fun label => switchNumber label.2 = switchNumber member.2) =
      (enumeration.resolved.find? fun first =>
        switchNumber first.2 = switchNumber member.2).toList := by
  have same : ∀ other ∈ enumeration.resolved,
      decide (switchNumber other.2 = switchNumber member.2) = decide (other.2 = member.2) :=
    fun other otherMem =>
      decide_eq_decide.mpr ⟨apart other otherMem member among, congrArg switchNumber⟩
  calc
    _ = enumeration.byValue.filter fun label => label.2 = member.2 :=
      List.filter_congr fun label labelMem =>
        same label ((labels_byValue enumeration).subset labelMem)
    _ = (enumeration.resolved.find? fun first => first.2 = member.2).toList :=
      filter_byValue enumeration member.2
    _ = _ := congrArg Option.toList (List.find?_congr same).symm

theorem emod_eq_of_switchNumber_eq {first second : Int}
    (same : switchNumber first = switchNumber second) :
    first % 2 ^ 32 = second % 2 ^ 32 := by
  have words := congrArg BitVec.toNat same
  rw [switchNumber, switchNumber, BitVec.toNat_ofInt, BitVec.toNat_ofInt] at words
  omega

/-- Numbers in a range of 2 ^ 32 numbers, such as those of 32 bits with or without a sign, are told
apart. -/
theorem toldApart_of_range {low : Int}
    (within : ∀ member ∈ enumeration.resolved, low ≤ member.2 ∧ member.2 < low + 2 ^ 32) :
    enumeration.ToldApart := by
  intro first firstMem second secondMem same
  have words := emod_eq_of_switchNumber_eq same
  have firstWithin := within first firstMem
  have secondWithin := within second secondMem
  omega

theorem switches_iff : enumeration.Switches ↔ enumeration.ToldApart := by
  constructor
  · intro switches first firstMem second secondMem same
    obtain ⟨left, leftMem, leftNumber⟩ := exists_label firstMem
    obtain ⟨right, rightMem, rightNumber⟩ := exists_label secondMem
    rw [← leftNumber, ← rightNumber] at same ⊢
    rw [List.inj_on_of_nodup_map switches.distinct leftMem rightMem same]
  · exact fun apart => ⟨apart.distinct, fun member among => apart.covered among⟩

end Enumeration

/-! ## The text of a converter -/

/-- The member that a line of C labels. -/
def caseLabel? (line : List Char) : Option String := do
  let rest ← Text.dropStart? "    case ".toList line
  (Text.dropEnd? [':'] rest).map String.ofList

/-- The members that a text labels, in order. -/
def caseLabels (text : String) : List String :=
  (Text.lines text.toList).filterMap caseLabel?

/-- The lines of one case. -/
def caseLines (name : String) : List (List Char) :=
  [("    case " ++ name ++ ":").toList, ("      return \"" ++ name ++ "\";").toList]

/-- The line that opens a converter. -/
def converterStart (function : String) : List Char :=
  ("static const char* " ++ function ++ "(unsigned value) \x7b").toList

/-- The lines behind the cases of a converter. -/
def converterEnd : List (List Char) :=
  ["    default:".toList, "      break;".toList, "  \x7d".toList, "  return \"UNKNOWN\";".toList,
    ['\x7d'], []]

theorem toList_converterCase (name : String) :
    (converterCase name).toList = Text.unlines (caseLines name) := by
  have middle : ":\n      return \"".toList = ":".toList ++ '\n' :: "      return \"".toList := by
    decide +kernel
  have ending : "\";\n".toList = "\";".toList ++ ['\n'] := by decide +kernel
  rw [converterCase, caseLines]
  simp only [String.toList_append, middle, ending, Text.unlines_cons, Text.unlines_nil,
    List.append_assoc, List.cons_append]

theorem toList_renderConverter (enumeration : Enumeration) (function : String) :
    (renderConverter enumeration function).toList =
      Text.unlines (converterStart function :: "  switch (value) \x7b".toList ::
        ((converterLabels enumeration).flatMap caseLines ++ converterEnd)) := by
  have opening : "(unsigned value) \x7b\n  switch (value) \x7b\n".toList =
      "(unsigned value) \x7b".toList ++ '\n' :: ("  switch (value) \x7b".toList ++ ['\n']) := by
    decide +kernel
  have ending : "    default:\n      break;\n  \x7d\n  return \"UNKNOWN\";\n\x7d\n\n".toList =
      Text.unlines converterEnd := by
    decide +kernel
  have cases : (String.join ((converterLabels enumeration).map converterCase)).toList =
      Text.unlines ((converterLabels enumeration).flatMap caseLines) := by
    simp only [String.toList_join, List.flatMap_map, toList_converterCase, Text.unlines_flatMap]
  unfold renderConverter converterStart
  simp only [String.toList_append, opening, ending, cases, Text.unlines_cons, Text.unlines_append,
    List.append_assoc, List.cons_append, List.nil_append]

theorem caseLabel?_case (name : String) :
    caseLabel? ("    case " ++ name ++ ":").toList = some name := by
  have colon : ":".toList = [':'] := rfl
  rw [caseLabel?, String.toList_append, String.toList_append, colon, List.append_assoc,
    Text.dropStart?, Text.isPrefixOf?_append_self]
  simp only [Option.bind_eq_bind, Option.bind_some, Text.dropEnd?_append, Option.map_some,
    String.ofList_toList]

theorem caseLabel?_return (name : String) :
    caseLabel? ("      return \"" ++ name ++ "\";").toList = none := by
  have opening : "      return \"".toList = ' ' :: ' ' :: ' ' :: ' ' :: ' ' ::
      " return \"".toList := by
    decide +kernel
  have mark : "    case ".toList = [' ', ' ', ' ', ' ', 'c', 'a', 's', 'e', ' '] := by
    decide +kernel
  rw [caseLabel?, String.toList_append, String.toList_append, opening, mark]
  rfl

theorem caseLabel?_converterStart (function : String) :
    caseLabel? (converterStart function) = none := by
  have opening : "static const char* ".toList = 's' :: "tatic const char* ".toList := by
    decide +kernel
  have mark : "    case ".toList = ' ' :: "   case ".toList := by decide +kernel
  rw [caseLabel?, converterStart, String.toList_append, String.toList_append, opening, mark]
  rfl

theorem filterMap_caseLines (name : String) : (caseLines name).filterMap caseLabel? = [name] := by
  rw [caseLines, List.filterMap_cons_some (caseLabel?_case name),
    List.filterMap_cons_none (caseLabel?_return name), List.filterMap_nil]

/-- The names in a converter stay on their lines. -/
structure Enumeration.InlineIn (enumeration : Enumeration) (function : String) : Prop where
  function : '\n' ∉ function.toList
  members : ∀ member ∈ enumeration.resolved, '\n' ∉ member.1.toList

namespace Enumeration.InlineIn

variable {enumeration : Enumeration} {function : String} (inline : enumeration.InlineIn function)
include inline

theorem not_mem_converterStart : '\n' ∉ converterStart function := by
  have opening : '\n' ∉ "static const char* ".toList ∧ '\n' ∉ "(unsigned value) \x7b".toList := by
    decide +kernel
  simp only [converterStart, String.toList_append, List.mem_append, inline.function, opening,
    or_false, not_false_iff]

theorem not_mem_caseLines {name : String} (member : name ∈ converterLabels enumeration) :
    ∀ line ∈ caseLines name, '\n' ∉ line := by
  obtain ⟨label, among, rfl⟩ := List.mem_map.mp member
  have plain : '\n' ∉ label.1.toList :=
    inline.members label ((labels_byValue enumeration).subset among)
  have marks : '\n' ∉ "    case ".toList ∧ '\n' ∉ ":".toList ∧ '\n' ∉ "      return \"".toList ∧
      '\n' ∉ "\";".toList := by decide +kernel
  simp only [caseLines, List.forall_mem_cons, String.toList_append, List.mem_append, plain, marks,
    or_false, not_false_iff, true_and]
  exact fun _ none => absurd none List.not_mem_nil

end Enumeration.InlineIn

theorem getLast?_caseLines (name : String) :
    ∀ line ∈ caseLines name, line.getLast? ≠ some '\r' := by
  simp only [caseLines, List.forall_mem_cons, String.toList_append]
  refine ⟨?label, ?result, by simp⟩
  case label =>
    rw [List.getLast?_append_of_ne_nil _ (by decide)]
    decide
  case result =>
    rw [List.getLast?_append_of_ne_nil _ (by decide)]
    decide

/-- The text of a converter labels the members with a case, in order. -/
theorem caseLabels_renderConverter {enumeration : Enumeration} {function : String}
    (inline : enumeration.InlineIn function) :
    caseLabels (renderConverter enumeration function) = converterLabels enumeration := by
  have switchFree : caseLabel? "  switch (value) \x7b".toList = none := by decide +kernel
  have endFree : converterEnd.filterMap caseLabel? = [] := by decide +kernel
  have switchPlain : '\n' ∉ "  switch (value) \x7b".toList ∧
      "  switch (value) \x7b".toList.getLast? ≠ some '\r' := by decide +kernel
  have endPlain : (∀ line ∈ converterEnd, '\n' ∉ line) ∧
      ∀ line ∈ converterEnd, line.getLast? ≠ some '\r' := by
    decide +kernel
  have startKept : (converterStart function).getLast? ≠ some '\r' := by
    rw [converterStart, String.toList_append, List.getLast?_append_of_ne_nil _ (by decide)]
    decide
  rw [caseLabels, toList_renderConverter, Text.lines_unlines,
    List.filterMap_cons_none (caseLabel?_converterStart function),
    List.filterMap_cons_none switchFree, List.filterMap_append, endFree, List.append_nil,
    List.filterMap_flatMap]
  · simp only [filterMap_caseLines, List.flatMap_singleton']
  · simp only [List.forall_mem_cons, List.forall_mem_append, List.forall_mem_flatMap]
    exact ⟨inline.not_mem_converterStart, switchPlain.1, fun name => inline.not_mem_caseLines,
      endPlain.1⟩
  · simp only [List.forall_mem_cons, List.forall_mem_append, List.forall_mem_flatMap]
    exact ⟨startKept, switchPlain.2, fun name _ => getLast?_caseLines name, endPlain.2⟩

/-- A converter has one case for each number of its members, ascending, with the first member of
that number. The switch tells the cases apart, and has one for every member, exactly if no two
numbers of members that differ are the same in 32 bits without a sign, as is so for numbers in a
range of 2 ^ 32 numbers. -/
theorem renderConverter_switches_iff (enumeration : Enumeration) :
    (∀ function, enumeration.InlineIn function →
      caseLabels (renderConverter enumeration function) = enumeration.byValue.map Prod.fst) ∧
    (enumeration.byValue.Pairwise fun left right => left.2 < right.2) ∧
    (∀ number, enumeration.byValue.filter (fun label => label.2 = number) =
      (enumeration.resolved.find? fun member => member.2 = number).toList) ∧
    (enumeration.Switches ↔ enumeration.ToldApart) ∧
    ∀ low, (∀ member ∈ enumeration.resolved, low ≤ member.2 ∧ member.2 < low + 2 ^ 32) →
      enumeration.Switches := by
  refine ⟨fun _ => caseLabels_renderConverter, enumeration.labels_byValue.ascending,
    enumeration.filter_byValue, Enumeration.switches_iff, fun low within => ?_⟩
  exact Enumeration.switches_iff.mpr (Enumeration.toldApart_of_range within)

/-- Numbers below zero, beyond 31 bits, shared and unknown. -/
def modeEnumeration : Enumeration :=
  ⟨"ze_mode_t", [⟨"ZE_MODE_LATE", .resolved 7⟩, ⟨"ZE_MODE_UNSET", .resolved (-1)⟩,
    ⟨"ZE_MODE_ALIAS", .resolved 7⟩, ⟨"ZE_MODE_BIT", .unresolved "ZE_BIT(3)"⟩,
    ⟨"ZE_MODE_LAST", .resolved 4294967294⟩]⟩

theorem renderConverter_switches_modes :
    modeEnumeration.InlineIn "GetModeString" ∧
      caseLabels (renderConverter modeEnumeration "GetModeString") =
        ["ZE_MODE_UNSET", "ZE_MODE_LATE", "ZE_MODE_LAST"] ∧
      modeEnumeration.Switches := by
  have inline : modeEnumeration.InlineIn "GetModeString" := ⟨by decide +kernel, by decide +kernel⟩
  obtain ⟨labels, _, _, _, switches⟩ := renderConverter_switches_iff modeEnumeration
  exact ⟨inline, (labels _ inline).trans (by decide +kernel), switches (-1) (by decide +kernel)⟩

/-- The largest unsigned number and minus one. -/
def maskEnumeration : Enumeration :=
  ⟨"ze_mask_t", [⟨"ZE_MASK_ALL", .resolved 4294967295⟩, ⟨"ZE_MASK_UNSET", .resolved (-1)⟩]⟩

/-- Two cases of one switch may have the same number there. -/
theorem renderConverter_repeats_case :
    caseLabels (renderConverter maskEnumeration "GetMaskString") =
      ["ZE_MASK_UNSET", "ZE_MASK_ALL"] ∧
      Enumeration.switchNumber 4294967295 = Enumeration.switchNumber (-1) ∧
        ¬ maskEnumeration.Switches := by
  have inline : maskEnumeration.InlineIn "GetMaskString" := ⟨by decide +kernel, by decide +kernel⟩
  refine ⟨(caseLabels_renderConverter inline).trans (by decide +kernel), by decide, ?_⟩
  rw [Enumeration.switches_iff]
  decide +kernel

end ApiTrace
