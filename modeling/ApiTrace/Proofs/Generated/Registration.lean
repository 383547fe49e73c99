import ApiTrace.Generated.Shim
import ApiTrace.Proofs.Header.Dialect
import ApiTrace.Proofs.Selection
import ApiTrace.Proofs.Symbol.Table

/-!
# The registration routine, read back

The reader of headers understands the registration routine: it keeps the assignments to slots under
the conditions of the slots, and everything else without condition. The last word of a line is the
shim that the line installs, and every shim is installed by one line: an assignment if its function
has a slot, a call of its own otherwise.
-/

namespace ApiTrace

open Header

-- A text is decided by its own characters, not by those of the whole alphabet.
attribute [local instance (high)] List.decidableBAll Option.decidableForallMem
  Option.decidableExistsMem

/-! ## What a line says -/

/-- The name of a shim. -/
def shimName (function : Function) (moment : Moment) : String :=
  function.name ++ moment.shimEnd

/-- The table of callbacks of a moment. -/
def Moment.callbacks : Moment → String
  | .enter => "prologue"
  | .exit => "epilogue"

/-- The flag with which a callback of a moment is registered by itself. -/
def Moment.flag : Moment → String
  | .enter => "ZEL_REGISTER_PROLOGUE"
  | .exit => "ZEL_REGISTER_EPILOGUE"

/-- The line that puts a shim into a slot. -/
def slotText (function : Function) (slot : Slot) (moment : Moment) : String :=
  moment.callbacks ++ "." ++ slot.memberPath ++ " = " ++ shimName function moment ++ ";"

/-- The line that registers a shim by itself. -/
def callText (functionStart : String) (function : Function) (moment : Moment) : String :=
  "status = zelTracer" ++ function.shortName functionStart ++ "RegisterCallback(tracer, " ++
    moment.flag ++ ", " ++ shimName function moment ++ ");"

/-- The line that opens the definition of a shim. -/
def definitionText (function : Function) (moment : Moment) : String :=
  "static void " ++ shimName function moment ++ "("

/-- The last word of a line: the value of an assignment, the last argument of a call. -/
def lastWord (line : List Char) : List Char :=
  ((line.reverse.dropWhile fun c => !Text.isWordChar c).takeWhile Text.isWordChar).reverse

/-- Whether a line assigns to a slot. -/
def isSlotLine (line : List Char × Option Guard) : Bool :=
  "prologue.".toList.isPrefixOf line.1 || "epilogue.".toList.isPrefixOf line.1

/-- Whether a line assigns or registers a shim. -/
def installs (function : Function) (moment : Moment) (line : List Char × Option Guard) : Bool :=
  lastWord line.1 == (shimName function moment).toList

/-- Whether a line opens the definition of a shim. -/
def defines (function : Function) (moment : Moment) (line : List Char × Option Guard) : Bool :=
  (definitionText function moment).toList.isPrefixOf line.1

theorem lastWord_append {before word after : List Char} {c : Char}
    (outside : Text.isWordChar c = false) (inside : ∀ d ∈ word, Text.isWordChar d = true)
    (nonempty : word ≠ []) (rest : ∀ d ∈ after, Text.isWordChar d = false) :
    lastWord (before ++ c :: word ++ after) = word := by
  have dropped : ((before ++ c :: word ++ after).reverse.dropWhile fun d => !Text.isWordChar d) =
      word.reverse ++ c :: before.reverse := by
    rw [List.reverse_append, List.dropWhile_append_of_pos (by simpa using rest),
      List.reverse_append, List.reverse_cons, List.append_assoc, List.singleton_append]
    cases reversed : word.reverse with
    | nil => exact absurd (List.reverse_eq_nil_iff.mp reversed) nonempty
    | cons d more =>
        have last : Text.isWordChar d = true :=
          inside d (List.mem_reverse.mp (reversed ▸ List.mem_cons_self))
        rw [List.cons_append, List.dropWhile_cons_of_neg (by simp [last])]
  rw [lastWord, dropped, List.takeWhile_append_of_pos (by simpa using inside),
    List.takeWhile_cons_of_neg (by simp [outside]), List.append_nil, List.reverse_reverse]

/-- The name of a shim tells the function and the moment. -/
theorem shimName_inj {function other : Function} {moment late : Moment}
    (same : shimName function moment = shimName other late) :
    function.name = other.name ∧ moment = late := by
  have chars : function.name.toList ++ moment.shimEnd.toList =
      other.name.toList ++ late.shimEnd.toList := by
    rw [← String.toList_append, ← String.toList_append]
    exact congrArg String.toList same
  have moments : moment = late := by
    have lasts := congrArg List.getLast? chars
    cases moment <;> cases late <;> first | rfl | simp [Moment.shimEnd] at lasts
  subst moments
  exact ⟨String.toList_inj.mp (List.append_cancel_right chars), rfl⟩

/-! ## The registration routine, line by line -/

/-- The lines of a slot. -/
def slotLines (function : Function) (slot : Slot) : List (List Char) :=
  guardBlock slot.guard [("  " ++ slotText function slot .enter).toList,
    ("  " ++ slotText function slot .exit).toList]

/-- The line that checks the status of a call. -/
def checkLine : List Char :=
  "  PTI_ASSERT(status == ZE_RESULT_SUCCESS);".toList

/-- The lines that register the shims of a function by themselves. -/
def callLines (functionStart : String) (function : Function) : List (List Char) :=
  [[], ("  " ++ callText functionStart function .enter).toList, checkLine,
    ("  " ++ callText functionStart function .exit).toList, checkLine]

/-- The lines of the routine before the slots. -/
def openingLines : List (List Char) :=
  ["static void SetTracingAPIs(zel_tracer_handle_t tracer) \x7b".toList,
    "  zet_core_callbacks_t prologue = \x7b\x7d;".toList,
    "  zet_core_callbacks_t epilogue = \x7b\x7d;".toList]

/-- The lines of the routine between the slots and the calls. -/
def statusLines : List (List Char) :=
  ["  ze_result_t status = ZE_RESULT_SUCCESS;".toList,
    "  status = zelTracerSetPrologues(tracer, &prologue);".toList, checkLine,
    "  status = zelTracerSetEpilogues(tracer, &epilogue);".toList, checkLine]

/-- The lines of the registration routine. -/
def registrationLines (table : SymbolTable) (functionStart : String) : List (List Char) :=
  openingLines ++ [[]] ++ table.mapped.flatMap (fun (function, slot) => slotLines function slot) ++
    ([[]] ++ statusLines) ++ table.unmapped.flatMap (callLines functionStart) ++ [['\x7d']]

theorem toList_guarded (guard : Option Guard) {text : String} {block : List (List Char)}
    (written : text.toList = Text.unlines block) :
    (openGuard guard ++ text ++ closeGuard guard).toList =
      Text.unlines (guardBlock guard block) := by
  cases guard with
  | none => simpa [openGuard, closeGuard, guardBlock] using written
  | some guard =>
      have newline : "\n".toList = ['\n'] := rfl
      simp only [openGuard, closeGuard, guardBlock, String.toList_append, newline, written,
        Text.unlines_cons, Text.unlines_append, Text.unlines_nil, List.append_assoc,
        List.cons_append, List.nil_append]

theorem toList_renderSlot (function : Function) (slot : Slot) :
    (renderSlot function slot).toList = Text.unlines (slotLines function slot) := by
  have split : renderSlot function slot = openGuard slot.guard ++
      (("  " ++ "prologue" ++ "." ++ slot.memberPath ++ " = " ++ function.name ++
          "OnEnter" ++ ";\n") ++
        ("  " ++ "epilogue" ++ "." ++ slot.memberPath ++ " = " ++ function.name ++
          "OnExit" ++ ";\n")) ++
        closeGuard slot.guard :=
    congrArg (· ++ closeGuard slot.guard) String.append_assoc
  have ending : ";\n".toList = ";".toList ++ ['\n'] := by decide
  rw [split, slotLines]
  apply toList_guarded
  simp only [-String.reduceToList, slotText, shimName, Moment.callbacks, Moment.shimEnd,
    String.toList_append, ending, Text.unlines_cons, Text.unlines_nil, List.append_assoc,
    List.singleton_append]

theorem toList_callText (functionStart : String) (function : Function) (moment : Moment) :
    (callText functionStart function moment).toList = "status = ".toList ++ ("zelTracer".toList ++
      ((function.shortName functionStart).toList ++ ("RegisterCallback".toList ++
      ("(tracer, ".toList ++ (moment.flag.toList ++ (", ".toList ++
      ((shimName function moment).toList ++ ");".toList))))))) := by
  have split : callText functionStart function moment = "status = zelTracer" ++
      function.shortName functionStart ++ "RegisterCallback(tracer, " ++ moment.flag ++ ", " ++
      shimName function moment ++ ");" := rfl
  have register : "status = zelTracer".toList = "status = ".toList ++ "zelTracer".toList := by
    decide
  have arguments : "RegisterCallback(tracer, ".toList = "RegisterCallback".toList ++
      "(tracer, ".toList := by
    decide
  rw [split]
  simp only [-String.reduceToList, String.toList_append, register, arguments, List.append_assoc]

theorem toList_statusCheck : (statusCheck {}).toList = checkLine ++ ['\n'] := by
  decide +kernel

theorem toList_renderSingleRegistration (functionStart : String) (function : Function) :
    (renderSingleRegistration functionStart {} function).toList =
      Text.unlines (callLines functionStart function) := by
  have split : renderSingleRegistration functionStart {} function = "\n" ++
      ("  status = " ++ ("zelTracer" ++ function.shortName functionStart ++ "RegisterCallback") ++
        "(tracer, " ++ "ZEL_REGISTER_PROLOGUE" ++ ", " ++ function.name ++ "OnEnter" ++ ");\n" ++
        statusCheck {}) ++
      ("  status = " ++ ("zelTracer" ++ function.shortName functionStart ++ "RegisterCallback") ++
        "(tracer, " ++ "ZEL_REGISTER_EPILOGUE" ++ ", " ++ function.name ++ "OnExit" ++ ");\n" ++
        statusCheck {}) := rfl
  have newline : "\n".toList = ['\n'] := rfl
  have start : "  status = ".toList = "  ".toList ++ "status = ".toList := by decide
  have ending : ");\n".toList = ");".toList ++ ['\n'] := by decide
  rw [split, callLines]
  simp only [-String.reduceToList, toList_callText, shimName, Moment.flag, Moment.shimEnd,
    String.toList_append, newline, start, ending, toList_statusCheck, Text.unlines_cons,
    Text.unlines_nil, List.append_assoc, List.cons_append, List.nil_append]

theorem toList_renderRegistration {table : SymbolTable} (built : table.Built {})
    (functionStart : String) :
    (renderRegistration table functionStart {}).toList =
      Text.unlines (registrationLines table functionStart) := by
  have statusType : (table.functions.head?.map Function.returnType).getD "ze_result_t" =
      "ze_result_t" := by
    cases functions : table.functions with
    | nil => rfl
    | cons function rest =>
        exact (built.described function (functions ▸ List.mem_cons_self)).returnType
  have split : renderRegistration table functionStart {} =
      "static void " ++ "SetTracingAPIs" ++ "(" ++ "zel_tracer_handle_t" ++ " tracer) \x7b\n" ++
        "  " ++ "zet_core_callbacks_t" ++ " prologue = \x7b\x7d;\n" ++
        "  " ++ "zet_core_callbacks_t" ++ " epilogue = \x7b\x7d;\n\n" ++
      String.join (table.mapped.map fun (function, slot) => renderSlot function slot) ++
      "\n  " ++ ((table.functions.head?.map Function.returnType).getD "ze_result_t") ++
        " status = " ++ "ZE_RESULT_SUCCESS" ++ ";\n" ++
        "  status = " ++ "zelTracerSetPrologues" ++ "(tracer, &prologue);\n" ++ statusCheck {} ++
        "  status = " ++ "zelTracerSetEpilogues" ++ "(tracer, &epilogue);\n" ++ statusCheck {} ++
      String.join ((table.uncovered.filterMap table.function?).map
        (renderSingleRegistration functionStart {})) ++ "\x7d\n" := rfl
  have opening : "static void ".toList ++ "SetTracingAPIs".toList ++ "(".toList ++
      "zel_tracer_handle_t".toList ++ " tracer) \x7b\n".toList ++ "  ".toList ++
      "zet_core_callbacks_t".toList ++ " prologue = \x7b\x7d;\n".toList ++ "  ".toList ++
      "zet_core_callbacks_t".toList ++ " epilogue = \x7b\x7d;\n\n".toList =
      Text.unlines openingLines ++ Text.unlines [[]] := by
    decide +kernel
  have status (slots : List Char) : slots ++ "\n  ".toList ++ "ze_result_t".toList ++
      " status = ".toList ++ "ZE_RESULT_SUCCESS".toList ++ ";\n".toList ++ "  status = ".toList ++
      "zelTracerSetPrologues".toList ++ "(tracer, &prologue);\n".toList ++
      (statusCheck {}).toList ++ "  status = ".toList ++ "zelTracerSetEpilogues".toList ++
      "(tracer, &epilogue);\n".toList ++ (statusCheck {}).toList =
        slots ++ (Text.unlines [[]] ++ Text.unlines statusLines) := by
    simp only [-String.reduceToList, List.append_assoc]
    exact congrArg (slots ++ ·) (by decide +kernel)
  have slots :
      (String.join (table.mapped.map fun (function, slot) => renderSlot function slot)).toList =
        Text.unlines (table.mapped.flatMap fun (function, slot) => slotLines function slot) := by
    simp only [String.toList_join, List.flatMap_map, toList_renderSlot, Text.unlines_flatMap]
  have calls :
      (String.join (table.unmapped.map (renderSingleRegistration functionStart {}))).toList =
        Text.unlines (table.unmapped.flatMap (callLines functionStart)) := by
    simp only [String.toList_join, List.flatMap_map, toList_renderSingleRegistration,
      Text.unlines_flatMap]
  have closing : "\x7d\n".toList = Text.unlines [['\x7d']] := rfl
  rw [split, statusType, built.filterMap_uncovered, registrationLines]
  simp only [-String.reduceToList, String.toList_append, opening, status, slots, calls, closing,
    Text.unlines_append]

/-! ## The registration routine, read back -/

theorem code_of_not_isSign {text : List Char} (noSign : ∀ c ∈ text, ¬Text.IsSign c) :
    Code text := by
  intro c member
  refine ⟨?_, ?_, ?_⟩ <;>
    · rintro rfl
      exact noSign _ member (by decide)

/-- A text of word characters opens neither a comment nor a directive. -/
theorem code_of_word {text : List Char} (word : ∀ c ∈ text, Text.isWordChar c = true) : Code text :=
  code_of_not_isSign fun c member => Text.not_isSign_of_isWordChar (word c member)

/-- A line of code behind two blanks. -/
theorem reads_indented {branch : Branch} {guard : Option Guard} (gives : branch.Gives guard)
    {text : String} (code : CodeLine text.toList)
    (first : ∀ c ∈ text.toList.head?, Text.isBlank c = false) :
    Reads branch [("  " ++ text).toList] [(text.toList, guard)] := by
  have blanks : ∀ c ∈ "  ".toList, Text.isBlank c = true := by decide
  have trimmed : Text.trim ("  " ++ text).toList = text.toList := by
    rw [String.toList_append, Text.trim_append blanks]
    apply Text.trim_eq_self_of_ends first
    obtain ⟨last, isLast, solid⟩ := code.2
    intro c also
    rw [isLast] at also
    cases also
    exact solid
  have indented : CodeLine ("  " ++ text).toList := by
    rw [String.toList_append]
    exact .append (by decide) code
  have line := Reads.line gives indented
  rwa [trimmed] at line

/-- The name of a function is a word. -/
def Function.IsWord (function : Function) : Prop :=
  ∀ c ∈ function.name.toList, Text.isWordChar c = true

section

variable {function : Function}

theorem Function.IsWord.shimName (word : function.IsWord) (moment : Moment) :
    ∀ c ∈ (shimName function moment).toList, Text.isWordChar c = true := by
  have ending : ∀ c ∈ moment.shimEnd.toList, Text.isWordChar c = true := by
    cases moment <;> decide
  rw [ApiTrace.shimName, String.toList_append]
  exact List.forall_mem_append.mpr ⟨word, ending⟩

theorem shortName_isSuffix (leading name : String) :
    (shortName leading name).toList <:+ name.toList := by
  unfold shortName
  split
  · rename_i rest found
    rw [String.toList_ofList, Text.append_of_isPrefixOf?_eq_some found]
    exact List.suffix_append _ _
  · exact List.suffix_rfl

theorem Function.IsWord.shortName (word : function.IsWord) (functionStart : String) :
    Code (function.shortName functionStart).toList :=
  code_of_word fun c member =>
    word c ((shortName_isSuffix functionStart function.name).subset member)

theorem codeLine_slotText (word : function.IsWord) {slot : Slot} (plain : slot.Plain)
    (moment : Moment) :
    CodeLine (slotText function slot moment).toList := by
  have pieces : Code moment.callbacks.toList ∧ Code ".".toList ∧ Code " = ".toList := by
    cases moment <;> decide
  have path : Code slot.groupField.toList ∧ Code slot.leafField.toList :=
    ⟨code_of_word plain.groupField, code_of_word plain.leafField⟩
  have name := code_of_word (word.shimName moment)
  rw [slotText, String.toList_append]
  refine CodeLine.append ?_ (by decide)
  simp only [-String.reduceToList, Slot.memberPath, String.toList_append, code_append, pieces, path,
    name, and_self]

theorem codeLine_callText (word : function.IsWord) (functionStart : String) (moment : Moment) :
    CodeLine (callText functionStart function moment).toList := by
  have pieces : Code "status = ".toList ∧ Code "zelTracer".toList ∧ Code "RegisterCallback".toList ∧
      Code "(tracer, ".toList ∧ Code moment.flag.toList ∧ Code ", ".toList := by
    cases moment <;> decide
  have name := code_of_word (word.shimName moment)
  have ending : CodeLine ");".toList := by decide
  rw [toList_callText]
  exact .append pieces.1 (.append pieces.2.1 (.append (word.shortName functionStart)
    (.append pieces.2.2.1 (.append pieces.2.2.2.1 (.append pieces.2.2.2.2.1
      (.append pieces.2.2.2.2.2 (.append name ending)))))))

theorem lastWord_slotText (word : function.IsWord) (slot : Slot) (moment : Moment) :
    lastWord (slotText function slot moment).toList = (shimName function moment).toList := by
  have equals : " = ".toList = " =".toList ++ [' '] := by decide
  have split : (slotText function slot moment).toList =
      ((moment.callbacks ++ "." ++ slot.memberPath).toList ++ " =".toList) ++
        ' ' :: (shimName function moment).toList ++ ";".toList := by
    simp only [-String.reduceToList, slotText, String.toList_append, equals, List.append_assoc,
      List.cons_append, List.nil_append]
  rw [split]
  refine lastWord_append (by decide) (word.shimName moment) ?_ (by decide)
  cases moment <;> simp [shimName, Moment.shimEnd]

theorem lastWord_callText (word : function.IsWord) (functionStart : String) (moment : Moment) :
    lastWord (callText functionStart function moment).toList =
      (shimName function moment).toList := by
  have comma : ", ".toList = ",".toList ++ [' '] := by decide
  have split : ∃ before, (callText functionStart function moment).toList =
      before ++ ' ' :: (shimName function moment).toList ++ ");".toList := by
    refine ⟨"status = ".toList ++ ("zelTracer".toList ++
      ((function.shortName functionStart).toList ++ ("RegisterCallback".toList ++
      ("(tracer, ".toList ++ (moment.flag.toList ++ ",".toList))))), ?_⟩
    simp only [-String.reduceToList, toList_callText, comma, List.append_assoc, List.cons_append,
      List.nil_append]
  obtain ⟨before, split⟩ := split
  rw [split]
  refine lastWord_append (by decide) (word.shimName moment) ?_ (by decide)
  cases moment <;> simp [shimName, Moment.shimEnd]

end

/-! ## Lines that install nothing -/

/-- A word that is the name of no shim. -/
def NoShim (word : List Char) : Prop :=
  ¬"OnEnter".toList <:+ word ∧ ¬"OnExit".toList <:+ word

instance : DecidablePred NoShim := fun word =>
  inferInstanceAs (Decidable (¬"OnEnter".toList <:+ word ∧ ¬"OnExit".toList <:+ word))

/-- A line of code that neither assigns to a slot nor installs a shim. -/
structure Idle (line : List Char) : Prop where
  code : CodeLine line
  slot : ¬isSlotLine (Text.trim line, none)
  shim : NoShim (lastWord (Text.trim line))

instance : DecidablePred Idle := fun line =>
  decidable_of_iff (CodeLine line ∧ ¬isSlotLine (Text.trim line, none) ∧
    NoShim (lastWord (Text.trim line)))
    ⟨fun ⟨code, slot, shim⟩ => ⟨code, slot, shim⟩, fun idle => ⟨idle.code, idle.slot, idle.shim⟩⟩

/-- The lines that do not depend on the table. -/
theorem idle_lines : (∀ line ∈ openingLines, Idle line) ∧ (∀ line ∈ statusLines, Idle line) ∧
    ∀ line ∈ [['\x7d']], Idle line := by
  decide +kernel

theorem idle_checkLine : Idle checkLine :=
  idle_lines.2.1 checkLine (by simp [statusLines])

/-- What is kept of the lines of a slot. -/
def slotKept (function : Function) (slot : Slot) : List (List Char × Option Guard) :=
  [((slotText function slot .enter).toList, slot.guard),
    ((slotText function slot .exit).toList, slot.guard)]

/-- What is kept of lines outside of any condition. -/
def bareKept (lines : List (List Char)) : List (List Char × Option Guard) :=
  lines.map fun line => (Text.trim line, none)

/-- What is kept of the calls that register the shims of a function. -/
def callKept (functionStart : String) (function : Function) : List (List Char × Option Guard) :=
  [((callText functionStart function .enter).toList, none), (Text.trim checkLine, none),
    ((callText functionStart function .exit).toList, none), (Text.trim checkLine, none)]

/-- What is kept of the registration routine. -/
def registrationKept (table : SymbolTable) (functionStart : String) :
    List (List Char × Option Guard) :=
  bareKept openingLines ++ table.mapped.flatMap (fun (function, slot) => slotKept function slot) ++
    bareKept statusLines ++ table.unmapped.flatMap (callKept functionStart) ++ bareKept [['\x7d']]

theorem reads_blank (branch : Branch) : Reads branch [[]] [] :=
  .skipped ⟨by decide, by decide⟩ (stripComments_of_free (commentFree_of_not_mem (by decide))) rfl

theorem head?_slotText (function : Function) (slot : Slot) (moment : Moment) :
    ∀ c ∈ (slotText function slot moment).toList.head?, Text.isBlank c = false := by
  cases moment <;> simp [slotText, Moment.callbacks, Text.isBlank]

theorem head?_callText (functionStart : String) (function : Function) (moment : Moment) :
    ∀ c ∈ (callText functionStart function moment).toList.head?, Text.isBlank c = false := by
  rw [toList_callText]
  simp [Text.isBlank]

theorem reads_slotLines {function : Function} (word : function.IsWord) {slot : Slot}
    (plain : slot.Plain) : Reads .outside (slotLines function slot) (slotKept function slot) := by
  refine Reads.under plain.guard fun branch gives => ?_
  have assignment (moment : Moment) := reads_indented gives (codeLine_slotText word plain moment)
    (head?_slotText function slot moment)
  exact (assignment .enter).append (assignment .exit)

theorem reads_callLines {function : Function} (word : function.IsWord) (functionStart : String) :
    Reads .outside (callLines functionStart function) (callKept functionStart function) := by
  have outside : Branch.outside.Gives none := rfl
  have call (moment : Moment) :=
    reads_indented outside (codeLine_callText word functionStart moment)
    (head?_callText functionStart function moment)
  have check := Reads.line outside idle_checkLine.code
  have all := (reads_blank .outside).append
    ((call .enter).append (check.append ((call .exit).append check)))
  simp only [List.cons_append, List.nil_append] at all
  exact all

theorem reads_bareKept {lines : List (List Char)} (idle : ∀ line ∈ lines, Idle line) :
    Reads .outside lines (bareKept lines) := by
  have outside : Branch.outside.Gives none := rfl
  exact Reads.lines outside fun line member => (idle line member).code

theorem reads_registrationLines {table : SymbolTable} (built : table.Built {})
    (words : ∀ function ∈ table.functions, function.IsWord) (functionStart : String) :
    Reads .outside (registrationLines table functionStart)
      (registrationKept table functionStart) := by
  have opening : Reads .outside (openingLines ++ [[]]) (bareKept openingLines) := by
    have lines := (reads_bareKept idle_lines.1).append (reads_blank _)
    rwa [List.append_nil] at lines
  have status : Reads .outside ([[]] ++ statusLines) (bareKept statusLines) :=
    (reads_blank _).append (reads_bareKept idle_lines.2.1)
  have slots : Reads .outside (table.mapped.flatMap fun (function, slot) => slotLines function slot)
      (table.mapped.flatMap fun (function, slot) => slotKept function slot) := by
    refine Reads.flatMap fun (function, slot) member => ?_
    obtain ⟨among, found⟩ := SymbolTable.mem_mapped_iff.mp member
    exact reads_slotLines (words function among) (built.slots function.name slot found)
  have calls : Reads .outside (table.unmapped.flatMap (callLines functionStart))
      (table.unmapped.flatMap (callKept functionStart)) :=
    Reads.flatMap fun function member =>
      reads_callLines (words function (List.mem_filter.mp member).1) functionStart
  exact (((opening.append slots).append status).append calls).append (reads_bareKept idle_lines.2.2)

/-! ## What installs a shim -/

variable {function other : Function} {moment late : Moment} {line : List Char × Option Guard}

theorem not_installs (noShim : NoShim (lastWord line.1)) : ¬installs function moment line := by
  intro installed
  rw [installs, beq_iff_eq, shimName, String.toList_append] at installed
  rw [installed] at noShim
  cases moment
  · exact noShim.1 (List.suffix_append _ _)
  · exact noShim.2 (List.suffix_append _ _)

theorem filter_isSlotLine_bareKept {lines : List (List Char)} (idle : ∀ line ∈ lines, Idle line) :
    (bareKept lines).filter isSlotLine = [] := by
  rw [List.filter_eq_nil_iff, bareKept, List.forall_mem_map]
  exact fun line member => (idle line member).slot

theorem filter_installs_bareKept {lines : List (List Char)} (idle : ∀ line ∈ lines, Idle line) :
    (bareKept lines).filter (installs function moment) = [] := by
  rw [List.filter_eq_nil_iff, bareKept, List.forall_mem_map]
  exact fun line member => not_installs (idle line member).shim

theorem installs_iff {text : List Char} {guard : Option Guard}
    (said : lastWord text = (shimName other late).toList) :
    installs function moment (text, guard) ↔ other.name = function.name ∧ late = moment := by
  rw [installs, beq_iff_eq, said, String.toList_inj]
  constructor
  · exact shimName_inj
  · rintro ⟨same, rfl⟩
    rw [shimName, shimName, same]

theorem installs_slotText (word : other.IsWord) {slot : Slot} {guard : Option Guard} :
    installs function moment ((slotText other slot late).toList, guard) ↔
      other.name = function.name ∧ late = moment :=
  installs_iff (lastWord_slotText word slot late)

theorem installs_callText (word : other.IsWord) {functionStart : String} {guard : Option Guard} :
    installs function moment ((callText functionStart other late).toList, guard) ↔
      other.name = function.name ∧ late = moment :=
  installs_iff (lastWord_callText word functionStart late)

theorem not_installs_checkLine : ¬installs function moment (Text.trim checkLine, none) :=
  not_installs idle_checkLine.shim

/-- The assignments to a slot install the shims of its function. -/
theorem name_eq_of_mem_slotKept (word : other.IsWord) {slot : Slot}
    (member : line ∈ slotKept other slot)
    (installed : installs function moment line) : other.name = function.name := by
  rcases List.mem_cons.mp member with rfl | member
  · exact ((installs_slotText word).mp installed).1
  · rw [List.mem_singleton.mp member] at installed
    exact ((installs_slotText word).mp installed).1

theorem filter_installs_slotKept (word : function.IsWord) (slot : Slot) :
    (slotKept function slot).filter (installs function moment) =
      [((slotText function slot moment).toList, slot.guard)] := by
  cases moment <;> simp [slotKept, installs_slotText word]

/-- The calls of a function install its shims. -/
theorem name_eq_of_mem_callKept (word : other.IsWord) {functionStart : String}
    (member : line ∈ callKept functionStart other) (installed : installs function moment line) :
    other.name = function.name := by
  simp only [callKept, List.mem_cons, List.not_mem_nil, or_false] at member
  rcases member with rfl | rfl | rfl | rfl
  · exact ((installs_callText word).mp installed).1
  · exact absurd installed not_installs_checkLine
  · exact ((installs_callText word).mp installed).1
  · exact absurd installed not_installs_checkLine

theorem filter_installs_callKept (word : function.IsWord) (functionStart : String) :
    (callKept functionStart function).filter (installs function moment) =
      [((callText functionStart function moment).toList, none)] := by
  cases moment <;> simp [callKept, installs_callText word, not_installs_checkLine]

theorem isSlotLine_slotText (function : Function) (slot : Slot) (moment : Moment)
    (guard : Option Guard) : isSlotLine ((slotText function slot moment).toList, guard) := by
  have split : (slotText function slot moment).toList = (moment.callbacks ++ ".").toList ++
      (slot.memberPath ++ " = " ++ shimName function moment ++ ";").toList := by
    simp only [-String.reduceToList, slotText, String.toList_append, List.append_assoc]
  have start : (moment.callbacks ++ ".").toList <+: (slotText function slot moment).toList :=
    split ▸ List.prefix_append _ _
  rw [isSlotLine, Bool.or_eq_true, List.isPrefixOf_iff_prefix, List.isPrefixOf_iff_prefix]
  cases moment
  · exact .inl start
  · exact .inr start

theorem not_isSlotLine_callText (functionStart : String) (function : Function) (moment : Moment)
    (guard : Option Guard) :
    ¬isSlotLine ((callText functionStart function moment).toList, guard) := by
  rw [toList_callText]
  simp [isSlotLine]

/-! ## The whole routine -/

section

variable {table : SymbolTable} (functionStart : String)

/-- The assignments to slots are those of the functions with a slot, in order. -/
theorem filter_isSlotLine : (registrationKept table functionStart).filter isSlotLine =
    table.mapped.flatMap fun (function, slot) => slotKept function slot := by
  have slots : ∀ line ∈ table.mapped.flatMap (fun (function, slot) => slotKept function slot),
      isSlotLine line := by
    intro line member
    obtain ⟨⟨function, slot⟩, _, among⟩ := List.mem_flatMap.mp member
    simp only [slotKept, List.mem_cons, List.not_mem_nil, or_false] at among
    rcases among with rfl | rfl <;> exact isSlotLine_slotText _ _ _ _
  have calls : ∀ line ∈ table.unmapped.flatMap (callKept functionStart), ¬isSlotLine line := by
    intro line member
    obtain ⟨function, _, among⟩ := List.mem_flatMap.mp member
    simp only [callKept, List.mem_cons, List.not_mem_nil, or_false] at among
    rcases among with rfl | rfl | rfl | rfl
    · exact not_isSlotLine_callText _ _ _ _
    · exact idle_checkLine.slot
    · exact not_isSlotLine_callText _ _ _ _
    · exact idle_checkLine.slot
  simp only [registrationKept, List.filter_append, filter_isSlotLine_bareKept idle_lines.1,
    filter_isSlotLine_bareKept idle_lines.2.1, filter_isSlotLine_bareKept idle_lines.2.2,
    List.filter_eq_self.mpr slots, List.filter_eq_nil_iff.mpr calls, List.nil_append,
    List.append_nil]

/-- Only the lines of slots and of calls install a shim. -/
theorem filter_installs_registrationKept :
    (registrationKept table functionStart).filter (installs function moment) =
      (table.mapped.flatMap fun (function, slot) => slotKept function slot).filter
          (installs function moment) ++
        (table.unmapped.flatMap (callKept functionStart)).filter (installs function moment) := by
  simp only [registrationKept, List.filter_append, filter_installs_bareKept idle_lines.1,
    filter_installs_bareKept idle_lines.2.1, filter_installs_bareKept idle_lines.2.2,
    List.nil_append, List.append_nil]

variable (built : table.Built {}) (words : ∀ function ∈ table.functions, function.IsWord)
include built words

/-- A function with a slot is installed in the slot. -/
theorem filter_installs_of_slot (member : function ∈ table.functions) {slot : Slot}
    (found : table.slots.find? function.name = some slot) :
    (registrationKept table functionStart).filter (installs function moment) =
      [((slotText function slot moment).toList, slot.guard)] := by
  have slots : (table.mapped.flatMap fun (function, slot) => slotKept function slot).filter
      (installs function moment) = [((slotText function slot moment).toList, slot.guard)] := by
    rw [Selection.filter_flatMap_eq built.nodup_mapped
      (SymbolTable.mem_mapped_iff.mpr ⟨member, found⟩)]
    · exact filter_installs_slotKept (words function member) slot
    · rintro ⟨other, place⟩ otherMem line lineMem installed
      obtain ⟨otherIn, placed⟩ := SymbolTable.mem_mapped_iff.mp otherMem
      have name := name_eq_of_mem_slotKept (words other otherIn) lineMem installed
      have same := built.eq_of_name_eq member otherIn name
      subst same
      rw [Option.some.inj (placed.symm.trans found)]
  have calls : (table.unmapped.flatMap (callKept functionStart)).filter (installs function moment) =
      [] := by
    rw [List.filter_eq_nil_iff]
    intro line lineMem installed
    obtain ⟨other, otherMem, among⟩ := List.mem_flatMap.mp lineMem
    obtain ⟨otherIn, missing⟩ := SymbolTable.mem_unmapped_iff.mp otherMem
    rw [name_eq_of_mem_callKept (words other otherIn) among installed, found] at missing
    exact Option.some_ne_none slot missing
  rw [filter_installs_registrationKept, slots, calls, List.append_nil]

/-- A function without a slot is installed by a call. -/
theorem filter_installs_of_uncovered (member : function ∈ table.functions)
    (missing : table.slots.find? function.name = none) :
    (registrationKept table functionStart).filter (installs function moment) =
      [((callText functionStart function moment).toList, none)] := by
  have slots : (table.mapped.flatMap fun (function, slot) => slotKept function slot).filter
      (installs function moment) = [] := by
    rw [List.filter_eq_nil_iff]
    intro line lineMem installed
    obtain ⟨⟨other, slot⟩, otherMem, among⟩ := List.mem_flatMap.mp lineMem
    obtain ⟨otherIn, placed⟩ := SymbolTable.mem_mapped_iff.mp otherMem
    rw [name_eq_of_mem_slotKept (words other otherIn) among installed, missing] at placed
    exact Option.some_ne_none slot placed.symm
  have calls : (table.unmapped.flatMap (callKept functionStart)).filter (installs function moment) =
      [((callText functionStart function moment).toList, none)] := by
    rw [Selection.filter_flatMap_eq (built.nodup_unmapped)
      (SymbolTable.mem_unmapped_iff.mpr ⟨member, missing⟩)]
    · exact filter_installs_callKept (words function member) functionStart
    · intro other otherMem line lineMem installed
      obtain ⟨otherIn, _⟩ := SymbolTable.mem_unmapped_iff.mp otherMem
      exact built.eq_of_name_eq member otherIn
        (name_eq_of_mem_callKept (words other otherIn) lineMem installed)
  rw [filter_installs_registrationKept, slots, calls, List.nil_append]

end

end ApiTrace
