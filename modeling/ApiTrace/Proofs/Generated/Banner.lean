import ApiTrace.Digest
import ApiTrace.Proofs.Generated.IdHeader

/-!
# What a banner hides

Reading an id header starts below the first line that holds the sentinel, and the banner stands
above the enumeration. If a fact of the banner holds the sentinel, reading starts there: the rest of
the banner is skipped, the line that opens the enumeration is taken for the one that closes it, and
nothing is shipped. Otherwise the banner is skipped as a whole, and what it says does not matter.
-/

namespace ApiTrace

namespace Banner

/-- What a banner says, without the labels. -/
def facts (banner : Banner) : List String :=
  banner.apiFile :: (banner.apiVersion.toList ++ banner.digest.toList)

/-- Whether a fact of the banner holds the sentinel. -/
def marked (banner : Banner) : Bool :=
  banner.facts.any fun fact => Text.contains IdMap.sentinel fact.toList

/-- Every fact of the banner stays on its line. -/
def Inline (banner : Banner) : Prop :=
  ∀ fact ∈ banner.facts, '\n' ∉ fact.toList

instance (banner : Banner) : Decidable banner.Inline :=
  inferInstanceAs (Decidable (∀ fact ∈ banner.facts, '\n' ∉ fact.toList))

/-- The facts of a banner with their labels. -/
def labelled (banner : Banner) : List (String × String) :=
  ("//    ApiFile: ", banner.apiFile) ::
    (banner.apiVersion.toList.map ("// ApiVersion: ", ·) ++
      banner.digest.toList.map ("//     Digest: sha256:", ·))

/-- The lines of the facts of a banner. -/
def factLines (banner : Banner) : List (List Char) :=
  banner.labelled.map fun (label, fact) => label.toList ++ fact.toList

theorem map_snd_labelled (banner : Banner) : banner.labelled.map Prod.snd = banner.facts := by
  simp [labelled, facts, Function.comp_def]

end Banner

/-- A label of a fact: it opens a comment and neither holds the sentinel nor can be part of it. -/
structure IsLabel (label : String) : Prop where
  comment : ['/', '/'] <+: label.toList
  inline : '\n' ∉ label.toList
  unmarked : ∃ text c, label.toList = text ++ [c] ∧ c ∉ IdMap.sentinel ∧
    Text.contains IdMap.sentinel text = false

theorem isLabel_of_mem_labelled {banner : Banner} {line : String × String}
    (member : line ∈ banner.labelled) : IsLabel line.1 := by
  have cases : line.1 = "//    ApiFile: " ∨ line.1 = "// ApiVersion: " ∨
      line.1 = "//     Digest: sha256:" := by
    rw [Banner.labelled, List.mem_cons, List.mem_append, List.mem_map, List.mem_map] at member
    rcases member with rfl | ⟨_, _, rfl⟩ | ⟨_, _, rfl⟩
    · exact .inl rfl
    · exact .inr (.inl rfl)
    · exact .inr (.inr rfl)
  rcases cases with labelEq | labelEq | labelEq <;> rw [labelEq]
  · exact ⟨by decide, by decide, "//    ApiFile:".toList, ' ', by decide, by decide, by decide⟩
  · exact ⟨by decide, by decide, "// ApiVersion:".toList, ' ', by decide, by decide, by decide⟩
  · exact ⟨by decide, by decide, "//     Digest: sha256".toList, ':', by decide, by decide,
      by decide⟩

theorem IsLabel.contains_append {label : String} (isLabel : IsLabel label) (fact : List Char) :
    Text.contains IdMap.sentinel (label.toList ++ fact) = Text.contains IdMap.sentinel fact := by
  obtain ⟨text, c, labelEq, absent, unmarked⟩ := isLabel.unmarked
  rw [labelEq, List.append_assoc, List.singleton_append, Text.contains_append_cons absent, unmarked,
    Bool.false_or]

theorem IsLabel.carriesNothing {label : String} (isLabel : IsLabel label) (fact : List Char) :
    IdMap.carriesNothing (Text.trim (Text.endLine (label.toList ++ fact).reverse)) = true := by
  have starts : ['/', '/'] <+: (label.toList ++ fact).reverse.reverse := by
    rw [List.reverse_reverse]
    exact isLabel.comment.trans (List.prefix_append _ _)
  have solid : ∀ c ∈ ['/', '/'], Text.isBlank c = false := by
    rw [List.forall_mem_cons, List.forall_mem_singleton]
    decide
  obtain ⟨rest, lineEq⟩ := Text.prefix_endLine (by decide) starts
  obtain ⟨trimmed, trimEq⟩ := Text.exists_trim_append (List.cons_ne_nil _ _) solid rest
  rw [← lineEq, trimEq, IdMap.carriesNothing]
  rfl

/-- The facts that stay on their lines have lines without line feeds. -/
theorem newline_not_mem_factLines {banner : Banner} (inline : banner.Inline) :
    ∀ line ∈ banner.factLines, '\n' ∉ line := by
  intro line member
  obtain ⟨⟨label, fact⟩, labelled, rfl⟩ := List.mem_map.mp member
  have factMem : fact ∈ banner.facts := by
    rw [← Banner.map_snd_labelled]
    exact List.mem_map_of_mem labelled
  rw [List.mem_append]
  rintro (newline | newline)
  · exact (isLabel_of_mem_labelled labelled).inline newline
  · exact inline fact factMem newline

/-- The sentinel is in the line of a fact only if it is in the fact. -/
theorem any_factLines (banner : Banner) :
    (banner.factLines.any fun line => Text.contains IdMap.sentinel line) = banner.marked := by
  rw [Banner.marked, ← Banner.map_snd_labelled, Banner.factLines, List.any_map, List.any_map,
    Bool.eq_iff_iff, List.any_eq_true, List.any_eq_true]
  apply exists_congr
  intro line
  apply and_congr_right
  intro member
  rw [Function.comp_apply, (isLabel_of_mem_labelled member).contains_append]
  rfl

/-- Ending a line leaves the sentinel in it. -/
theorem contains_sentinel_endLine (line : List Char) :
    Text.contains IdMap.sentinel (Text.endLine line.reverse) =
      Text.contains IdMap.sentinel line := by
  have absent : '\r' ∉ IdMap.sentinel := by decide
  have nothing : Text.contains IdMap.sentinel [] = false := rfl
  rcases Text.endLine_reverse_cases line with same | same
  · rw [same]
  · nth_rewrite 2 [← same]
    rw [Text.contains_append_cons absent, nothing, Bool.or_false]

/-! ## The lines of a header -/

/-- The lines above the facts of a banner. -/
def guardLines (guard : String) : List (List Char) :=
  [("#ifndef " ++ guard).toList, ("#define " ++ guard).toList, [],
    "// ========= This file is autogenerated - do not modify ========".toList]

/-- The line that opens the enumeration. -/
def openingLine (idEnum : String) : List Char :=
  ("typedef enum _" ++ idEnum ++ " \x7b").toList

theorem toList_render (banner : Banner) :
    banner.render.toList = generatedMark.toList ++ banner.factLines.flatMap (· ++ ['\n']) := by
  obtain ⟨apiFile, apiVersion, digest⟩ := banner
  have newline : "\n".toList = ['\n'] := rfl
  cases apiVersion <;> cases digest <;>
    simp only [Banner.render, Banner.factLines, Banner.labelled, bannerLine, newline,
      String.toList_append, Option.toList, List.map_cons, List.map_nil, List.cons_append,
      List.nil_append, List.flatMap_cons, List.flatMap_nil, List.append_assoc, String.toList_empty,
      List.append_nil]

theorem toList_idHeaderStart (category : Category) (banner : Banner) (naming : Naming) :
    (idHeaderStart category banner naming).toList =
      (guardLines (includeGuard (naming.idEnum category)) ++
        (banner.factLines ++ [[], openingLine (naming.idEnum category)])).flatMap
          (· ++ ['\n']) := by
  have newline : "\n".toList = ['\n'] := rfl
  have define : "\n#define ".toList = '\n' :: "#define ".toList := rfl
  have gap : "\n\n".toList = ['\n', '\n'] := rfl
  have brace : " \x7b\n".toList = " \x7b".toList ++ ['\n'] := rfl
  have mark : generatedMark =
      "// ========= This file is autogenerated - do not modify ========" ++ "\n" := rfl
  unfold idHeaderStart guardLines openingLine
  simp only [toList_render, newline, define, gap, brace, mark,
    String.toList_append, List.cons_append, List.nil_append, List.flatMap_cons, List.flatMap_nil,
    List.flatMap_append, List.append_assoc, List.append_nil]

/-- The upper case of a name is a name without small letters. -/
theorem of_mem_upper {text : List Char} (plain : text.all Header.isNameChar = true) {image : Char}
    (member : image ∈ Text.upper text) : Header.isNameChar image = true ∧ image ≠ 'r' := by
  have images : ∀ code < 128, Header.isNameChar (Char.ofNat code) = true →
      Header.isNameChar (Char.ofNat code).toUpper = true ∧ (Char.ofNat code).toUpper ≠ 'r' := by
    decide
  obtain ⟨c, cMem, imageMem⟩ := List.mem_flatMap.mp member
  have cPlain := List.all_eq_true.mp plain c cMem
  have small : c.toNat < 128 := by
    rcases IdMap.toNat_of_isNameChar cPlain with upper | lower | digit | rfl
    case inr.inr.inr => decide
    all_goals omega
  rw [Text.upperChar, if_pos small, List.mem_singleton] at imageMem
  rw [← Char.ofNat_toNat c] at cPlain imageMem
  rw [imageMem]
  exact images c.toNat small cPlain

theorem contains_sentinel_eq_false {line : List Char} (absent : 'r' ∉ line) :
    Text.contains IdMap.sentinel line = false := by
  rw [Bool.eq_false_iff, Ne, Text.contains_iff_isInfix]
  exact fun marked => absent (marked.subset (by decide))

section Lines

variable {category : Category} (plain : category.key.toList.all Header.isNameChar = true)
include plain

theorem isNameChar_idEnum : (Naming.idEnum {} category).toList.all Header.isNameChar = true := by
  have start : ("pti" ++ "_api_id_").toList.all Header.isNameChar = true := by decide
  rw [Naming.idEnum, String.toList_append, List.all_append, start, plain]
  rfl

theorem of_mem_includeGuard {c : Char}
    (member : c ∈ (includeGuard (Naming.idEnum {} category)).toList) :
    Header.isNameChar c = true ∧ c ≠ 'r' := by
  have ending : "_H_".toList.all (fun c => Header.isNameChar c && c != 'r') = true := by decide
  rw [includeGuard, String.toList_append, String.toList_ofList, List.mem_append] at member
  rcases member with member | member
  · exact of_mem_upper (isNameChar_idEnum plain) member
  · simpa using List.all_eq_true.mp ending c member

/-- The lines above the facts stay lines and do not hold the sentinel. -/
theorem of_mem_guardLines {line : List Char}
    (member : line ∈ guardLines (includeGuard (Naming.idEnum {} category))) :
    '\n' ∉ line ∧ Text.contains IdMap.sentinel line = false := by
  have directive {text : String} (inline : '\n' ∉ text.toList) (absent : 'r' ∉ text.toList) :
      let line := (text ++ includeGuard (Naming.idEnum {} category)).toList
      '\n' ∉ line ∧ Text.contains IdMap.sentinel line = false := by
    rw [String.toList_append]
    constructor
    · intro newline
      rcases List.mem_append.mp newline with newline | newline
      · exact inline newline
      · exact absurd (of_mem_includeGuard plain newline).1 (by decide)
    · apply contains_sentinel_eq_false
      intro letter
      rcases List.mem_append.mp letter with letter | letter
      · exact absent letter
      · exact (of_mem_includeGuard plain letter).2 rfl
  simp only [guardLines, List.mem_cons, List.not_mem_nil, or_false] at member
  rcases member with lineEq | lineEq | lineEq | lineEq <;> rw [lineEq]
  · exact directive (by decide) (by decide)
  · exact directive (by decide) (by decide)
  · decide
  · decide

theorem newline_not_mem_openingLine :
    '\n' ∉ openingLine (Naming.idEnum {} category) :=
  newline_not_mem_around (isNameChar_idEnum plain) (by decide) (by decide)

end Lines

theorem getLast?_openingLine (idEnum : String) : (openingLine idEnum).getLast? = some '\x7b' := by
  have ending : " \x7b".toList = [' '] ++ ['\x7b'] := rfl
  rw [openingLine, String.toList_append, ending, ← List.append_assoc, List.getLast?_concat]

/-- The line that opens the enumeration is taken for the one that closes it. -/
theorem closes_openingLine (category : Category) :
    IdMap.closes (Text.trim (openingLine (Naming.idEnum {} category))) = true := by
  have opening : "typedef enum _".toList = 't' :: "ypedef enum _".toList := rfl
  have start : "pti" ++ "_api_id_" = "pti_api_id_" := rfl
  have trimmed : Text.trim (openingLine (Naming.idEnum {} category)) =
      openingLine (Naming.idEnum {} category) := by
    apply Text.trim_eq_self_of_ends
    · intro c first
      rw [openingLine, String.toList_append, String.toList_append, opening] at first
      cases first
      decide
    · intro c last
      rw [getLast?_openingLine] at last
      cases last
      decide
  have holds : Text.contains IdMap.enumMark (openingLine (Naming.idEnum {} category)) = true := by
    rw [Text.contains_iff_isInfix, openingLine, Naming.idEnum, start, String.toList_append,
      String.toList_append, String.toList_append, ← List.append_assoc, List.append_assoc]
    exact List.infix_append "typedef enum _".toList IdMap.enumMark _
  rw [trimmed, IdMap.closes, holds, Bool.or_true]

/-! ## The text above the sentinel -/

theorem contains_sentinel_of_mem_lines {text line : List Char}
    (unmarked : Text.contains IdMap.sentinel text = false) (member : line ∈ Text.lines text) :
    Text.contains IdMap.sentinel line = false := by
  rw [Bool.eq_false_iff, Ne, Text.contains_iff_isInfix] at unmarked ⊢
  exact fun marked => unmarked (marked.trans (Text.isInfix_of_mem_lines member))

theorem contains_sentinel_openingLine (category : Category) :
    Text.contains IdMap.sentinel (openingLine (Naming.idEnum {} category)) =
      Text.contains IdMap.sentinel category.key.toList := by
  have start : "pti" ++ "_api_id_" = "pti_api_" ++ "id_" := rfl
  have mark : "id_".toList = ['i', 'd', '_'] := rfl
  have brace : " \x7b".toList = [' ', '\x7b'] := rfl
  -- Neither the `i` of the mark nor the blank before the brace is in the sentinel.
  have line : openingLine (Naming.idEnum {} category) =
      ("typedef enum _".toList ++ "pti_api_".toList) ++
        'i' :: ('d' :: '_' :: category.key.toList ++ ' ' :: ['\x7b']) := by
    rw [openingLine, Naming.idEnum, start]
    simp only [String.toList_append, mark, brace, List.append_assoc, List.cons_append,
      List.nil_append]
  have fixed : Text.contains IdMap.sentinel ("typedef enum _".toList ++ "pti_api_".toList) =
      false := by
    decide
  have nothing : Text.contains IdMap.sentinel ['\x7b'] = false := by decide
  have inKey : Text.contains IdMap.sentinel ('d' :: '_' :: category.key.toList) =
      Text.contains IdMap.sentinel category.key.toList := by
    have letter : IdMap.sentinel = 'r' :: "eserved_".toList := rfl
    rw [Bool.eq_iff_iff, Text.contains_iff_isInfix, Text.contains_iff_isInfix, letter,
      List.infix_cons_iff, List.infix_cons_iff]
    simp [List.cons_prefix_cons]
  rw [line, Text.contains_append_cons (by decide), fixed, Bool.false_or,
    Text.contains_append_cons (by decide), nothing, Bool.or_false, inKey]

/-- Above its line the sentinel can only be in the banner or in the name of the category. -/
theorem contains_sentinel_idHeaderStart {category : Category} (banner : Banner)
    (plain : category.key.toList.all Header.isNameChar = true) :
    Text.contains IdMap.sentinel (idHeaderStart category banner {}).toList =
      (Text.contains IdMap.sentinel banner.render.toList ||
        Text.contains IdMap.sentinel category.key.toList) := by
  let guard := includeGuard (Naming.idEnum {} category)
  have absent : '\n' ∉ IdMap.sentinel := by decide
  have nothing : Text.contains IdMap.sentinel [] = false := rfl
  have newline : "\n".toList = ['\n'] := rfl
  have define : "\n#define ".toList = '\n' :: "#define ".toList := rfl
  have gap : "\n\n".toList = ['\n', '\n'] := rfl
  have brace : " \x7b\n".toList = " \x7b".toList ++ ['\n'] := rfl
  have text : (idHeaderStart category banner {}).toList =
      ("#ifndef " ++ guard).toList ++ '\n' :: (("#define " ++ guard).toList ++ '\n' ::
        ([] ++ '\n' :: (banner.render.toList ++ '\n' ::
          (openingLine (Naming.idEnum {} category) ++ '\n' :: [])))) := by
    unfold idHeaderStart openingLine
    simp only [newline, define, gap, brace, guard, String.toList_append, List.append_assoc,
      List.cons_append, List.nil_append]
  have ifndef : Text.contains IdMap.sentinel ("#ifndef " ++ guard).toList = false :=
    (of_mem_guardLines plain (by simp [guardLines, guard])).2
  have defines : Text.contains IdMap.sentinel ("#define " ++ guard).toList = false :=
    (of_mem_guardLines plain (by simp [guardLines, guard])).2
  rw [text, Text.contains_append_cons absent, Text.contains_append_cons absent,
    Text.contains_append_cons absent, Text.contains_append_cons absent,
    Text.contains_append_cons absent, contains_sentinel_openingLine, ifndef, defines, nothing,
    Bool.false_or, Bool.false_or, Bool.false_or, Bool.or_false]

/-- The sentinel is in a banner exactly if it is in one of its facts. -/
theorem contains_sentinel_render (banner : Banner) :
    Text.contains IdMap.sentinel banner.render.toList = banner.marked := by
  have absent : '\n' ∉ IdMap.sentinel := by decide
  have mark : generatedMark.toList =
      "// ========= This file is autogenerated - do not modify ========".toList ++ ['\n'] := rfl
  have unmarked : Text.contains IdMap.sentinel
      "// ========= This file is autogenerated - do not modify ========".toList = false := by
    decide
  have lines (texts : List (List Char)) :
      Text.contains IdMap.sentinel (texts.flatMap (· ++ ['\n'])) =
        texts.any fun text => Text.contains IdMap.sentinel text := by
    induction texts with
    | nil => rfl
    | cons text texts ih =>
        rw [List.flatMap_cons, List.append_assoc, List.singleton_append,
          Text.contains_append_cons absent, ih, List.any_cons]
  rw [toList_render, mark, List.append_assoc, List.singleton_append,
    Text.contains_append_cons absent, unmarked, Bool.false_or, lines, any_factLines]

/-- A digest has no letter of the sentinel that is not a digit. -/
theorem contains_sentinel_hex (bytes : List UInt8) :
    Text.contains IdMap.sentinel (Digest.hex bytes).toList = false := by
  have digits : ∀ value < 16, Text.hexDigit value ≠ 'r' := by decide
  apply contains_sentinel_eq_false
  rw [Digest.hex, String.toList_ofList, List.mem_flatMap]
  rintro ⟨byte, _, member⟩
  have small : byte.toNat < 256 := byte.toNat_lt
  rw [Text.hexByte, List.mem_cons, List.mem_singleton] at member
  rcases member with high | low
  · exact digits _ (by omega) high.symm
  · exact digits _ (by omega) low.symm

/-! ## The lines below it -/

/-- The lines of an id header. -/
theorem exists_lines_eq {assignment : Assignment} {banner : Banner}
    (plain : assignment.category.key.toList.all Header.isNameChar = true)
    (spelled : ∀ pair ∈ assignment.pairs, IdMap.Spelled pair.1 pair.2) (inline : banner.Inline) :
    ∃ guards closing rest, (∀ line ∈ guards, Text.contains IdMap.sentinel line = false) ∧
      IdMap.closes (Text.trim closing) = true ∧
      Text.lines (renderIdHeader assignment banner {}).toList =
        guards ++ (banner.factLines.map (fun line => Text.endLine line.reverse) ++
          ([] :: openingLine (Naming.idEnum {} assignment.category) ::
            (sentinelLine assignment.category).toList ::
              (assignment.pairs.map IdMap.entryLine ++ closing :: rest))) := by
  obtain ⟨closing, rest, closed, linesEq⟩ := exists_lines_renderIdHeader banner {} plain spelled
  let guards := guardLines (includeGuard (Naming.idEnum {} assignment.category))
  let opening := openingLine (Naming.idEnum {} assignment.category)
  have startInline : ∀ line ∈ guards ++ (banner.factLines ++ [[], opening]), '\n' ∉ line := by
    intro line member
    simp only [List.mem_append, List.mem_cons, List.not_mem_nil, or_false] at member
    rcases member with member | member | rfl | rfl
    · exact (of_mem_guardLines plain member).1
    · exact newline_not_mem_factLines inline line member
    · exact List.not_mem_nil
    · exact newline_not_mem_openingLine plain
  have openingEnd : Text.endLine opening.reverse = opening := by
    apply Text.endLine_reverse
    rw [getLast?_openingLine]
    decide
  refine ⟨guards.map fun line => Text.endLine line.reverse, closing, rest, ?_, closed, ?_⟩
  · intro line member
    obtain ⟨raw, rawMem, rfl⟩ := List.mem_map.mp member
    rw [contains_sentinel_endLine]
    exact (of_mem_guardLines plain rawMem).2
  · have start := Text.lines_flatMap_of_inline startInline []
    rw [List.append_nil] at start
    rw [linesEq, toList_idHeaderStart, start]
    simp only [List.map_append, List.map_cons, List.map_nil, openingEnd, List.append_assoc,
      List.cons_append, List.nil_append]
    rfl

/-! ## What is read -/

/-- The entry line of the sentinel. -/
def sentinelEntry (category : Category) : String × Nat :=
  ("reserved_" ++ category.key, 0)

theorem entryLine_sentinelEntry (category : Category) :
    IdMap.entryLine (sentinelEntry category) = (sentinelLine category).toList := by
  have indent : "    reserved_".toList = List.replicate 4 ' ' ++ "reserved_".toList := rfl
  have zero : Text.decimal 0 = ['0'] := by
    rw [Text.decimal, if_pos (by decide)]
    rfl
  have ending : "_id=0,".toList = "_id".toList ++ '=' :: (['0'] ++ [',']) := rfl
  rw [IdMap.entryLine, IdMap.entryText, sentinelEntry, sentinelLine, String.toList_append,
    String.toList_append, String.toList_append, String.toList_append, zero, indent, ending]
  simp only [List.append_assoc]

/-- The entries that are read if the banner is skipped. A category whose name holds the sentinel has
it in the line that opens the enumeration already. -/
def entriesBelow (assignment : Assignment) : List (String × Nat) :=
  if Text.contains IdMap.sentinel (openingLine (Naming.idEnum {} assignment.category)) then
    sentinelEntry assignment.category :: assignment.pairs
  else assignment.pairs

section Reading

variable {assignment : Assignment} {banner : Banner}
  (plain : assignment.category.key.toList.all Header.isNameChar = true)
  (spelled : ∀ pair ∈ assignment.pairs, IdMap.Spelled pair.1 pair.2) (inline : banner.Inline)
include plain spelled inline

/-- A fact with the sentinel hides all entries. -/
theorem parse_of_marked (file : String) (marked : banner.marked = true) :
    IdMap.parse file (renderIdHeader assignment banner {}) = .ok ∅ := by
  obtain ⟨guards, closing, rest, guardsUnmarked, _, linesEq⟩ := exists_lines_eq plain spelled inline
  rw [← any_factLines, List.any_eq_true, ← List.find?_isSome] at marked
  obtain ⟨start, found⟩ := Option.isSome_iff_exists.mp marked
  obtain ⟨startMarked, before, after, split, beforeUnmarked⟩ :=
    List.find?_eq_some_iff_append.mp found
  have above : ∀ line ∈ guards ++ before.map fun line => Text.endLine line.reverse,
      Text.contains IdMap.sentinel line = false := by
    intro line member
    rcases List.mem_append.mp member with member | member
    · exact guardsUnmarked line member
    · obtain ⟨raw, rawMem, rfl⟩ := List.mem_map.mp member
      rw [contains_sentinel_endLine]
      simpa using beforeUnmarked raw rawMem
  have idle : ∀ line ∈ (after.map fun line => Text.endLine line.reverse) ++ [[]],
      IdMap.carriesNothing (Text.trim line) = true := by
    intro line member
    rcases List.mem_append.mp member with member | member
    · obtain ⟨raw, rawMem, rfl⟩ := List.mem_map.mp member
      have factMem : raw ∈ banner.factLines := by
        rw [split]
        exact List.mem_append_right before (List.mem_cons_of_mem start rawMem)
      obtain ⟨⟨label, fact⟩, labelled, rfl⟩ := List.mem_map.mp factMem
      exact (isLabel_of_mem_labelled labelled).carriesNothing fact.toList
    · rw [List.mem_singleton.mp member]
      rfl
  rw [split, List.map_append, List.map_cons, List.append_assoc, ← List.append_assoc guards,
    List.cons_append] at linesEq
  have starts : Text.contains IdMap.sentinel (Text.endLine start.reverse) = true := by
    rw [contains_sentinel_endLine]
    exact startMarked
  obtain ⟨numbered, texts, readEq⟩ := IdMap.exists_parse_eq linesEq above starts
  rw [List.append_cons] at texts
  rw [readEq]
  exact IdMap.readEntries_of_carriesNothing idle (closes_openingLine assignment.category) texts

/-- A banner without the sentinel is skipped. -/
theorem parse_of_unmarked (file : String) (unmarked : banner.marked = false) :
    IdMap.parse file (renderIdHeader assignment banner {}) =
      IdMap.ofPairs file (IdMap.listed (entriesBelow assignment)) := by
  obtain ⟨guards, closing, rest, guardsUnmarked, closed, linesEq⟩ :=
    exists_lines_eq plain spelled inline
  rw [← any_factLines, List.any_eq_false] at unmarked
  have above : ∀ line ∈
      guards ++ (banner.factLines.map (fun line => Text.endLine line.reverse) ++ [[]]),
      Text.contains IdMap.sentinel line = false := by
    intro line member
    rw [List.mem_append, List.mem_append, List.mem_singleton] at member
    rcases member with member | member | rfl
    · exact guardsUnmarked line member
    · obtain ⟨raw, rawMem, rfl⟩ := List.mem_map.mp member
      rw [contains_sentinel_endLine]
      simpa using unmarked raw rawMem
    · rfl
  rw [List.append_cons (banner.factLines.map _), ← List.append_assoc guards] at linesEq
  by_cases opens :
      Text.contains IdMap.sentinel (openingLine (Naming.idEnum {} assignment.category)) = true
  · rw [entriesBelow, if_pos opens]
    have entriesSpelled : ∀ pair ∈ sentinelEntry assignment.category :: assignment.pairs,
        IdMap.Spelled pair.1 pair.2 := by
      have start : "reserved_".toList.all Header.isNameChar = true := by decide
      refine List.forall_mem_cons.mpr ⟨⟨?_, ?_, Nat.zero_le _⟩, spelled⟩
      · simp [sentinelEntry]
      · rw [sentinelEntry, String.toList_append, List.all_append, start, plain]
        rfl
    rw [← entryLine_sentinelEntry] at linesEq
    exact IdMap.parse_eq_ofPairs linesEq above opens entriesSpelled closed
  · rw [entriesBelow, if_neg opens]
    rw [List.append_cons] at linesEq
    refine IdMap.parse_eq_ofPairs linesEq ?_ (contains_sentinelLine assignment.category) spelled
      closed
    intro line member
    rcases List.mem_append.mp member with member | member
    · exact above line member
    · rw [List.mem_singleton.mp member]
      simpa using opens

end Reading

/-- What the next run reads depends on the banner only through whether a fact holds the sentinel:
then nothing is read, otherwise what is read with an empty banner. -/
theorem parse_of_banner (file : String) (assignment : Assignment)
    (plain : assignment.category.key.toList.all Header.isNameChar = true)
    (spelled : ∀ record ∈ assignment.records, IdMap.Spelled record.name record.number) :
    (∀ banner : Banner, banner.Inline →
      IdMap.parse file (renderIdHeader assignment banner {}) =
        if banner.marked then .ok ∅ else IdMap.parse file (renderIdHeader assignment {} {})) ∧
    ∀ first second : Banner, first.Inline → second.Inline →
      (IdMap.parse file (renderIdHeader assignment first {}) =
          IdMap.parse file (renderIdHeader assignment second {}) ↔
        first.marked = second.marked ∨
          IdMap.parse file (renderIdHeader assignment {} {}) = .ok ∅) := by
  have pairsSpelled : ∀ pair ∈ assignment.pairs, IdMap.Spelled pair.1 pair.2 := by
    intro pair member
    obtain ⟨record, recordMem, rfl⟩ := List.mem_map.mp member
    exact spelled record recordMem
  have read : ∀ banner : Banner, banner.Inline →
      IdMap.parse file (renderIdHeader assignment banner {}) =
        if banner.marked then .ok ∅ else IdMap.parse file (renderIdHeader assignment {} {}) := by
    intro banner inline
    split
    · rename_i marked
      exact parse_of_marked plain pairsSpelled inline file marked
    · rename_i unmarked
      rw [parse_of_unmarked plain pairsSpelled inline file (by simpa using unmarked),
        parse_of_unmarked plain pairsSpelled (by decide) file (by decide)]
  refine ⟨read, fun first second firstInline secondInline => ?_⟩
  rw [read first firstInline, read second secondInline]
  cases first.marked <;> cases second.marked <;> simp [eq_comm]

namespace Reserved

/-- One shipped function. -/
def assignment : Assignment where
  category := ⟨"driver", "levelzero"⟩
  records := [⟨"zeInit", 1, none, .current⟩]
  events := []

/-- A banner that names a header with the sentinel in its name. -/
def banner : Banner where
  apiFile := "reserved_api.h"

/-- A banner that names another header. -/
def ordinary : Banner where
  apiFile := "ze_api.h"

theorem plain : assignment.category.key.toList.all Header.isNameChar = true := by
  decide +kernel

/-- What the next run is to read. -/
def shipped : IdMap where
  numbers := ⟨[("zeInit", 1)], by decide⟩
  distinct := by decide
  positive := by decide
  nextFree := 2

theorem spelled : ∀ record ∈ assignment.records, IdMap.Spelled record.name record.number := by
  rw [assignment, List.forall_mem_singleton]
  exact ⟨by decide +kernel, by decide +kernel, by decide +kernel⟩

theorem pairsSpelled : ∀ pair ∈ assignment.pairs, IdMap.Spelled pair.1 pair.2 := by
  intro pair member
  obtain ⟨record, recordMem, rfl⟩ := List.mem_map.mp member
  exact spelled record recordMem

/-- Without the sentinel in the banner the function is read back. -/
theorem parse_of_inline {file : String} {banner : Banner} (inline : banner.Inline)
    (unmarked : banner.marked = false) :
    IdMap.parse file (renderIdHeader assignment banner {}) = .ok shipped := by
  have entries : IdMap.listed (entriesBelow assignment) = [("zeInit", 1)] := by
    decide +kernel
  rw [parse_of_unmarked plain pairsSpelled inline file unmarked, entries]
  rfl

end Reserved

theorem parse_of_banner_reserved :
    Reserved.assignment.category.key.toList.all Header.isNameChar = true ∧
      (∀ record ∈ Reserved.assignment.records, IdMap.Spelled record.name record.number) ∧
      Reserved.banner.Inline ∧ Reserved.ordinary.Inline ∧
      IdMap.parse "ids.h" (renderIdHeader Reserved.assignment Reserved.banner {}) = .ok ∅ ∧
      IdMap.parse "ids.h" (renderIdHeader Reserved.assignment Reserved.banner {}) ≠
        IdMap.parse "ids.h" (renderIdHeader Reserved.assignment Reserved.ordinary {}) := by
  have inline : Reserved.banner.Inline := by decide
  have ordinaryInline : Reserved.ordinary.Inline := by decide
  obtain ⟨read, differs⟩ := parse_of_banner "ids.h" Reserved.assignment Reserved.plain
    Reserved.spelled
  have hidden := read Reserved.banner inline
  rw [if_pos (by decide)] at hidden
  refine ⟨Reserved.plain, Reserved.spelled, inline, ordinaryInline, hidden, ?_⟩
  rw [Ne, differs Reserved.banner Reserved.ordinary inline ordinaryInline,
    Reserved.parse_of_inline (by decide) (by decide)]
  rintro (alike | nothing)
  · exact absurd alike (by decide)
  · exact absurd (Except.ok.inj nothing) (by decide)

theorem parse_hidden_by_banner :
    Reserved.banner.Inline ∧ Reserved.ordinary.Inline ∧
      IdMap.parse "ids.h" (renderIdHeader Reserved.assignment Reserved.ordinary {}) =
        .ok Reserved.shipped ∧
      IdMap.parse "ids.h" (renderIdHeader Reserved.assignment Reserved.banner {}) = .ok ∅ ∧
      Reserved.shipped ≠ ∅ :=
  ⟨by decide, by decide, Reserved.parse_of_inline (by decide) (by decide),
    parse_of_marked Reserved.plain Reserved.pairsSpelled (by decide) "ids.h" (by decide), by decide⟩

end ApiTrace
