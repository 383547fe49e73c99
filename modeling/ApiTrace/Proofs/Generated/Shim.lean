import ApiTrace.Proofs.Generated.Registration

/-!
# Registration of shims

The shims are read back with the reader of headers, like the routine that registers them: every shim
is defined once, under the condition of its function's slot. Together this hooks up every function
exactly once at each moment, under exactly that condition.
-/

namespace ApiTrace

open Header

-- A text is decided by its own characters, not by those of the whole alphabet.
attribute [local instance (high)] List.decidableBAll Option.decidableForallMem
  Option.decidableExistsMem

/-! ## Shims, line by line -/

/-- The arguments that a shim forwards to its hook. -/
def forwardedArguments (moment : Moment) (hook : String) (hooks : HookSet) : List String :=
  if hooks.contains hook then moment.hookArguments else []

/-- The lines of a shim after the one that opens it. -/
def bodyLines (function : Function) (moment : Moment) (hook : String) (hooks : HookSet) :
    List (List Char) :=
  [("    " ++ function.parameterStruct ++ "* params,").toList,
    ("    " ++ function.returnType ++ " result,").toList, "    void* global_user_data,".toList,
    "    void** instance_user_data) \x7b".toList] ++
    (shimArguments.filter fun argument =>
      !(forwardedArguments moment hook hooks).contains argument).map
        (fun argument => ("  (void)" ++ argument ++ ";").toList) ++
    (if (forwardedArguments moment hook hooks).isEmpty then []
      else [("  " ++ hook ++ "(" ++
        String.intercalate ", " (forwardedArguments moment hook hooks) ++
          ");").toList]) ++ [['\x7d']]

/-- The lines of a shim. -/
def shimLines (function : Function) (moment : Moment) (hook : String) (hooks : HookSet) :
    List (List Char) :=
  (definitionText function moment).toList :: bodyLines function moment hook hooks

/-- The name of a hook. -/
def hookName (functionStart : String) (function : Function) (moment : Moment) : String :=
  moment.hookStart {} ++ function.shortName functionStart

/-- The lines of both shims of a function. -/
def functionLines (table : SymbolTable) (hooks : HookSet) (functionStart : String)
    (function : Function) : List (List Char) :=
  ("// " ++ function.prototype).toList :: guardBlock (table.guardOf function.name)
    (shimLines function .enter (hookName functionStart function .enter) hooks ++
      shimLines function .exit (hookName functionStart function .exit) hooks) ++ [[]]

theorem toList_renderShim (function : Function) (moment : Moment) (hook : String)
    (hooks : HookSet) :
    (renderShim function moment hook hooks).toList =
      Text.unlines (shimLines function moment hook hooks) := by
  have split : renderShim function moment hook hooks =
      "static void " ++ function.name ++ moment.shimEnd ++ "(\n" ++
        "    " ++ function.parameterStruct ++ "* params,\n" ++
        "    " ++ function.returnType ++ " result,\n" ++
        "    void* global_user_data,\n" ++ "    void** instance_user_data) \x7b\n" ++
        String.join ((shimArguments.filter fun argument =>
          !(forwardedArguments moment hook hooks).contains argument).map
            fun argument => "  (void)" ++ argument ++ ";\n") ++
        (if (forwardedArguments moment hook hooks).isEmpty then ""
          else "  " ++ hook ++ "(" ++
            String.intercalate ", " (forwardedArguments moment hook hooks) ++ ");\n") ++
        "\x7d\n" := rfl
  have heads : "(\n".toList = "(".toList ++ ['\n'] ∧
      "* params,\n".toList = "* params,".toList ++ ['\n'] ∧
      " result,\n".toList = " result,".toList ++ ['\n'] := by decide
  have fixed : "    void* global_user_data,\n".toList =
      "    void* global_user_data,".toList ++ ['\n'] ∧
      "    void** instance_user_data) \x7b\n".toList =
        "    void** instance_user_data) \x7b".toList ++ ['\n'] := by decide +kernel
  have ends : ";\n".toList = ";".toList ++ ['\n'] ∧ ");\n".toList = ");".toList ++ ['\n'] ∧
      "\x7d\n".toList = ['\x7d', '\n'] := by decide
  have ignored (arguments : List String) :
      (String.join (arguments.map fun argument => "  (void)" ++ argument ++ ";\n")).toList =
        Text.unlines (arguments.map fun argument => ("  (void)" ++ argument ++ ";").toList) := by
    simp only [-String.reduceToList, String.toList_join, List.flatMap_map, Text.unlines,
      String.toList_append, ends, List.append_assoc]
  have forward : (if (forwardedArguments moment hook hooks).isEmpty then ""
      else "  " ++ hook ++ "(" ++ String.intercalate ", " (forwardedArguments moment hook hooks) ++
        ");\n").toList =
      Text.unlines (if (forwardedArguments moment hook hooks).isEmpty then []
        else [("  " ++ hook ++ "(" ++
          String.intercalate ", " (forwardedArguments moment hook hooks) ++ ");").toList]) := by
    split
    · rfl
    · simp only [-String.reduceToList, String.toList_append, ends, Text.unlines_cons,
        Text.unlines_nil, List.append_assoc]
  rw [split, shimLines, bodyLines, definitionText, shimName]
  simp only [-String.reduceToList, String.toList_append, heads, fixed, ends, ignored, forward,
    Text.unlines_cons, Text.unlines_append, Text.unlines_nil, List.append_assoc, List.cons_append,
    List.nil_append]

theorem toList_renderFunctionShims (table : SymbolTable) (hooks : HookSet) (functionStart : String)
    (function : Function) : (renderFunctionShims table hooks functionStart {} function).toList =
      Text.unlines (functionLines table hooks functionStart function) := by
  have both : (renderShim function .enter (hookName functionStart function .enter) hooks ++
      renderShim function .exit (hookName functionStart function .exit) hooks).toList =
      Text.unlines (shimLines function .enter (hookName functionStart function .enter) hooks ++
        shimLines function .exit (hookName functionStart function .exit) hooks) := by
    rw [String.toList_append, toList_renderShim, toList_renderShim, Text.unlines_append]
  have split : renderFunctionShims table hooks functionStart {} function =
      "// " ++ function.prototype ++ "\n" ++ openGuard (table.guardOf function.name) ++
        renderShim function .enter (hookName functionStart function .enter) hooks ++
        renderShim function .exit (hookName functionStart function .exit) hooks ++
        closeGuard (table.guardOf function.name) ++ "\n" := rfl
  have newline : "\n".toList = ['\n'] := rfl
  have guarded := toList_guarded (table.guardOf function.name) both
  rw [String.toList_append, String.toList_append, String.toList_append] at guarded
  rw [split, functionLines, List.cons_append, Text.unlines_cons, Text.unlines_append, ← guarded]
  simp only [-String.reduceToList, String.toList_append, newline, Text.unlines_cons,
    Text.unlines_nil, List.append_assoc, List.cons_append, List.nil_append]

theorem toList_renderShims (table : SymbolTable) (hooks : HookSet) (functionStart : String) :
    (renderShims table hooks functionStart {}).toList =
      Text.unlines (table.functions.flatMap (functionLines table hooks functionStart)) := by
  simp only [renderShims, String.toList_join, List.flatMap_map, toList_renderFunctionShims,
    Text.unlines_flatMap]

/-! ## Lines that define nothing -/

/-- A line of code that opens no definition of a shim. -/
structure Inner (line : List Char) : Prop where
  code : CodeLine line
  shape : '(' ∉ line ∨ (Text.trim line).head? ≠ some 's'

instance : DecidablePred Inner := fun line =>
  decidable_of_iff (CodeLine line ∧ ('(' ∉ line ∨ (Text.trim line).head? ≠ some 's'))
    ⟨fun ⟨code, shape⟩ => ⟨code, shape⟩, fun inner => ⟨inner.code, inner.shape⟩⟩

variable {function other : Function} {moment late : Moment}

theorem Inner.not_defines {line : List Char} (inner : Inner line) {guard : Option Guard} :
    ¬defines function moment (Text.trim line, guard) := by
  intro defined
  rw [defines, List.isPrefixOf_iff_prefix] at defined
  rcases inner.shape with noBracket | otherStart
  · have bracket : '(' ∈ (definitionText function moment).toList := by
      simp [definitionText]
    exact noBracket ((Text.trim_isInfix line).subset (defined.subset bracket))
  · obtain ⟨rest, start⟩ := defined
    dsimp only at start
    rw [← start] at otherStart
    simp [definitionText] at otherStart

/-- The parameter structure of a word stands on a line of code, without brackets. -/
theorem not_isSign_parameterStruct (word : function.IsWord) (described : function.Described {}) :
    ∀ c ∈ function.parameterStruct.toList, ¬Text.IsSign c := by
  intro c member sign
  rw [described.parameterStruct] at member
  exact Text.not_isSign_of_isWordChar
    (word c (Dialect.mem_of_mem_parameterStruct Dialect.signFree_default member sign)) sign

theorem inner_parameterLine (word : function.IsWord) (described : function.Described {}) :
    Inner ("    " ++ function.parameterStruct ++ "* params,").toList := by
  have noSign := not_isSign_parameterStruct word described
  rw [String.toList_append, String.toList_append]
  constructor
  · exact .append (code_append.mpr ⟨by decide, code_of_not_isSign noSign⟩) (by decide)
  · have start : '(' ∉ "    ".toList ∧ '(' ∉ "* params,".toList := by decide
    have struct : '(' ∉ function.parameterStruct.toList :=
      fun member => noSign '(' member (by decide)
    exact .inl
      (by simp only [-String.reduceToList, List.mem_append, start, struct, or_self, not_false_iff])

theorem exists_toList_hookName (functionStart : String) (function : Function) (moment : Moment) :
    ∃ rest, (hookName functionStart function moment).toList = 'O' :: rest := by
  rw [hookName, String.toList_append]
  cases moment
  · exact ⟨_, rfl⟩
  · exact ⟨_, rfl⟩

theorem inner_hookLine (word : function.IsWord) (functionStart : String) (moment : Moment)
    (hooks : HookSet) : Inner ("  " ++ hookName functionStart function moment ++ "(" ++
      String.intercalate ", "
        (forwardedArguments moment (hookName functionStart function moment) hooks) ++
        ");").toList := by
  have arguments : Code (String.intercalate ", "
      (forwardedArguments moment (hookName functionStart function moment) hooks)).toList := by
    unfold forwardedArguments
    split
    · cases moment <;> decide +kernel
    · decide
  have name : Code (hookName functionStart function moment).toList := by
    have start : Code (moment.hookStart {}).toList := by cases moment <;> decide
    rw [hookName, String.toList_append]
    exact code_append.mpr ⟨start, word.shortName functionStart⟩
  have fixed : Code "  ".toList ∧ Code "(".toList := by decide
  constructor
  · rw [String.toList_append]
    refine .append ?_ (by decide)
    simp only [-String.reduceToList, String.toList_append, code_append, fixed, name, arguments,
      and_self]
  · right
    obtain ⟨rest, hook⟩ := exists_toList_hookName functionStart function moment
    have blanks : ∀ c ∈ "  ".toList, Text.isBlank c = true := by decide
    rw [String.append_assoc, String.append_assoc, String.append_assoc, String.toList_append,
      Text.trim_append blanks, String.toList_append, hook]
    obtain ⟨kept, trimmed⟩ := Text.exists_trim_append (List.cons_ne_nil 'O' []) (by decide)
      (rest ++ ("(" ++ (String.intercalate ", " (forwardedArguments moment
        (hookName functionStart function moment) hooks) ++ ");")).toList)
    rw [List.singleton_append] at trimmed
    rw [List.cons_append, trimmed]
    simp

theorem inner_bodyLines (word : function.IsWord) (described : function.Described {})
    (functionStart : String) (moment : Moment) (hooks : HookSet) :
    ∀ line ∈ bodyLines function moment (hookName functionStart function moment) hooks,
      Inner line := by
  have result : Inner ("    " ++ function.returnType ++ " result,").toList := by
    rw [described.returnType]
    decide +kernel
  have userData : Inner "    void* global_user_data,".toList ∧
      Inner "    void** instance_user_data) \x7b".toList ∧ Inner ['\x7d'] := by
    decide +kernel
  have ignored : ∀ argument ∈ shimArguments, Inner ("  (void)" ++ argument ++ ";").toList := by
    decide +kernel
  simp only [bodyLines, List.forall_mem_append, List.forall_mem_cons, List.forall_mem_map]
  refine ⟨⟨⟨⟨inner_parameterLine word described, result, userData.1, userData.2.1, ?_⟩, ?_⟩, ?_⟩,
    userData.2.2, ?_⟩
  · exact List.forall_mem_nil _
  · exact fun argument member => ignored argument (List.mem_filter.mp member).1
  · split
    · exact List.forall_mem_nil _
    · exact List.forall_mem_singleton.mpr (inner_hookLine word functionStart moment hooks)
  · exact List.forall_mem_nil _

/-! ## Lines that define a shim -/

theorem codeLine_definitionText (word : function.IsWord) (moment : Moment) :
    CodeLine (definitionText function moment).toList := by
  have start : Code "static void ".toList := by decide
  rw [definitionText, String.toList_append, String.toList_append]
  exact .append (code_append.mpr ⟨start, code_of_word (word.shimName moment)⟩) (by decide)

theorem trim_definitionText (function : Function) (moment : Moment) :
    Text.trim (definitionText function moment).toList =
      (definitionText function moment).toList := by
  have ending : "(".toList = ['('] := rfl
  apply Text.trim_eq_self_of_ends
  · simp [definitionText, Text.isBlank]
  · intro c last
    rw [definitionText, String.toList_append, ending, List.getLast?_concat] at last
    cases last
    decide

/-- A definition tells the name of its shim. -/
theorem defines_definitionText (word : function.IsWord) (otherWord : other.IsWord)
    {guard : Option Guard} : defines function moment ((definitionText other late).toList, guard) ↔
      other.name = function.name ∧ late = moment := by
  have notWord : Text.isWordChar '(' = false := by decide
  have bracket {function : Function} (word : function.IsWord) (moment : Moment) (rest : List Char) :
      ((shimName function moment).toList ++ '(' :: rest).takeWhile Text.isWordChar =
        (shimName function moment).toList := by
    rw [List.takeWhile_append_of_pos (word.shimName moment),
      List.takeWhile_cons_of_neg (by simp [notWord]), List.append_nil]
  have split (function : Function) (moment : Moment) : (definitionText function moment).toList =
      "static void ".toList ++ ((shimName function moment).toList ++ ['(']) := by
    simp only [-String.reduceToList, definitionText, String.toList_append, List.append_assoc]
    rfl
  rw [defines, List.isPrefixOf_iff_prefix]
  constructor
  · rintro ⟨rest, start⟩
    rw [split, split, List.append_assoc, List.append_cancel_left_eq, List.append_assoc,
      List.singleton_append] at start
    have names := congrArg (List.takeWhile Text.isWordChar) start
    rw [bracket word, bracket otherWord] at names
    exact shimName_inj (String.toList_inj.mp names.symm)
  · rintro ⟨same, rfl⟩
    have texts : definitionText function late = definitionText other late := by
      rw [definitionText, definitionText, shimName, shimName, same]
    exact texts ▸ List.prefix_rfl

/-- The comment above the shims of a function is one line. -/
theorem wholeLine_prototype (word : function.IsWord) (described : function.Described {}) :
    WholeLine ("// " ++ function.prototype).toList := by
  have ending : ")".toList = [')'] := rfl
  have fixed : '\n' ∉ "// ".toList ∧ '\n' ∉ "(".toList ∧ '\n' ∉ [')'] ∧ '\n' ∉ ", ".toList ∧
      '\n' ∉ " ".toList := by decide
  have name := (code_of_word word).not_mem.2.2
  have arguments : '\n' ∉ (String.intercalate ", " (function.parameters.map fun parameter =>
      parameter.type ++ " " ++ parameter.name)).toList := by
    intro member
    rw [String.toList_intercalate] at member
    rcases Text.mem_of_mem_intercalate member with inComma | ⟨argument, among, inArgument⟩
    · exact fixed.2.2.2.1 inComma
    · rw [List.map_map] at among
      obtain ⟨parameter, isParameter, rfl⟩ := List.mem_map.mp among
      obtain ⟨nameInline, typeInline⟩ := described.inline parameter isParameter
      simp only [-String.reduceToList, Function.comp_apply, String.toList_append, List.mem_append,
        typeInline, fixed, nameInline, or_self] at inArgument
  have split : ("// " ++ function.prototype).toList = "// ".toList ++ (function.name.toList ++
      ("(".toList ++ ((String.intercalate ", " (function.parameters.map fun parameter =>
        parameter.type ++ " " ++ parameter.name)).toList))) ++ [')'] := by
    simp only [-String.reduceToList, Function.prototype, String.toList_append, ending,
      List.append_assoc]
  rw [split]
  refine wholeLine_of_ends ?_ List.getLast?_concat (by decide)
  simp only [-String.reduceToList, List.mem_append, fixed, name, arguments, or_self, not_false_iff]

/-- What is kept of both shims of a function. -/
def functionKept (table : SymbolTable) (hooks : HookSet) (functionStart : String)
    (function : Function) : List (List Char × Option Guard) :=
  (shimLines function .enter (hookName functionStart function .enter) hooks ++
    shimLines function .exit (hookName functionStart function .exit) hooks).map
      fun line => (Text.trim line, table.guardOf function.name)

theorem reads_functionLines {table : SymbolTable} (built : table.Built {})
    (member : function ∈ table.functions) (word : function.IsWord) (hooks : HookSet)
    (functionStart : String) : Reads .outside (functionLines table hooks functionStart function)
      (functionKept table hooks functionStart function) := by
  have described := built.described function member
  have comment : Reads .outside [("// " ++ function.prototype).toList] [] := by
    have start : "// ".toList = '/' :: '/' :: [' '] := rfl
    have stripped : stripComments false ("// " ++ function.prototype).toList = ([], false) := by
      rw [String.toList_append, start]
      exact stripComments_line List.not_mem_nil _
    exact .skipped (wholeLine_prototype word described) stripped rfl
  have shims : Reads .outside (guardBlock (table.guardOf function.name)
      (shimLines function .enter (hookName functionStart function .enter) hooks ++
        shimLines function .exit (hookName functionStart function .exit) hooks))
      (functionKept table hooks functionStart function) := by
    refine Reads.under (built.plain_guardOf function.name) fun branch gives => Reads.lines gives ?_
    have code (moment : Moment) : ∀ line ∈ shimLines function moment
        (hookName functionStart function moment) hooks, CodeLine line :=
      List.forall_mem_cons.mpr ⟨codeLine_definitionText word moment, fun line among =>
        (inner_bodyLines word described functionStart moment hooks line among).code⟩
    exact List.forall_mem_append.mpr ⟨code .enter, code .exit⟩
  have all := (comment.append shims).append (reads_blank .outside)
  rwa [List.append_nil, List.nil_append] at all

theorem filter_defines_shimLines (word : function.IsWord) (otherWord : other.IsWord)
    (described : other.Described {}) (functionStart : String) (hooks : HookSet)
    (guard : Option Guard) :
    ((shimLines other late (hookName functionStart other late) hooks).map
      fun line => (Text.trim line, guard)).filter (defines function moment) =
      if other.name = function.name ∧ late = moment then
        [((definitionText other late).toList, guard)]
      else [] := by
  have inner : ((bodyLines other late (hookName functionStart other late) hooks).map
      fun line => (Text.trim line, guard)).filter (defines function moment) = [] := by
    rw [List.filter_eq_nil_iff, List.forall_mem_map]
    exact fun line member =>
      (inner_bodyLines otherWord described functionStart late hooks line member).not_defines
  rw [shimLines, List.map_cons, trim_definitionText, List.filter_cons, inner]
  exact if_congr (defines_definitionText word otherWord) rfl rfl

theorem filter_defines_functionKept (word : function.IsWord) (otherWord : other.IsWord)
    (described : other.Described {}) (table : SymbolTable) (hooks : HookSet)
    (functionStart : String) :
    (functionKept table hooks functionStart other).filter (defines function moment) =
      if other.name = function.name then
        [((definitionText other moment).toList, table.guardOf other.name)]
      else [] := by
  rw [functionKept, List.map_append, List.filter_append,
    filter_defines_shimLines word otherWord described,
    filter_defines_shimLines word otherWord described]
  by_cases same : other.name = function.name
  · cases moment <;> simp [same]
  · simp [same]

/-- Every shim is defined once, under the condition of its function's slot. -/
theorem filter_defines {table : SymbolTable} (built : table.Built {})
    (words : ∀ function ∈ table.functions, function.IsWord) (hooks : HookSet)
    (functionStart : String)
    (member : function ∈ table.functions) :
    (table.functions.flatMap (functionKept table hooks functionStart)).filter
        (defines function moment) =
      [((definitionText function moment).toList, table.guardOf function.name)] := by
  rw [Selection.filter_flatMap_eq built.nodup_functions member,
    filter_defines_functionKept (words function member) (words function member)
      (built.described function member), if_pos rfl]
  intro other otherMem line lineMem defined
  apply built.eq_of_name_eq member otherMem
  by_contra different
  have none : (functionKept table hooks functionStart other).filter (defines function moment) =
      [] := by
    rw [filter_defines_functionKept (words function member) (words other otherMem)
      (built.described other otherMem), if_neg different]
  exact List.filter_eq_nil_iff.mp none line lineMem defined

/-! ## Functions that are hooked up -/

/-- Every function of a table that is built is hooked up once at each moment, under exactly the
condition of its slot. The assignments to slots are those of the functions with a slot, in order; a
function without a slot is registered by one call with each flag; and the shim that is installed is
defined once, under the same condition. -/
theorem renderRegistration_installs_once {tolerant : Bool} {sources : List (String × String)}
    {enumHeaders : List Header} {table : SymbolTable}
    (ended : (buildTable {} tolerant (sources.map fun (name, text) => .ofText name text)
      enumHeaders).outcome = .ok table)
    (identifiers : ∀ function ∈ table.functions, Text.isIdentifier function.name.toList)
    (hooks : HookSet) (functionStart file : String) :
    ∃ registration shims,
      keptOf file (renderRegistration table functionStart {}) = .ok registration ∧
      keptOf file (renderShims table hooks functionStart {}) = .ok shims ∧
      registration.filter isSlotLine = table.mapped.flatMap (fun (function, slot) =>
        [((slotText function slot .enter).toList, slot.guard),
          ((slotText function slot .exit).toList, slot.guard)]) ∧
      (∀ function ∈ table.functions, ∀ slot, table.slots.find? function.name = some slot → ∀ moment,
        registration.filter (installs function moment) =
            [((slotText function slot moment).toList, slot.guard)] ∧
          shims.filter (defines function moment) =
            [((definitionText function moment).toList, slot.guard)]) ∧
      ∀ function ∈ table.functions, table.slots.find? function.name = none → ∀ moment,
        registration.filter (installs function moment) =
            [((callText functionStart function moment).toList, none)] ∧
          (∀ line ∈ registration, isSlotLine line → ¬installs function moment line) ∧
          shims.filter (defines function moment) =
            [((definitionText function moment).toList, none)] := by
  have inline : ∀ header ∈ sources.map fun (name, text) => Header.ofText name text, header.Inline :=
    List.forall_mem_map.mpr fun _ _ => inline_ofText _ _
  have built := built_of_buildTable inline ended
  have words : ∀ function ∈ table.functions, function.IsWord := fun function member =>
    Text.forall_isWordChar_of_isIdentifier (identifiers function member)
  have shimsRead :
      Reads .outside (table.functions.flatMap (functionLines table hooks functionStart))
      (table.functions.flatMap (functionKept table hooks functionStart)) :=
    Reads.flatMap fun function member =>
      reads_functionLines built member (words function member) hooks functionStart
  refine ⟨registrationKept table functionStart,
    table.functions.flatMap (functionKept table hooks functionStart),
    (reads_registrationLines built words functionStart).keptOf file
      (toList_renderRegistration built functionStart),
    shimsRead.keptOf file (toList_renderShims table hooks functionStart),
    filter_isSlotLine functionStart, ?_, ?_⟩
  · intro function member slot found moment
    have guard : table.guardOf function.name = slot.guard := by
      rw [SymbolTable.guardOf, found, Option.bind_some]
    exact ⟨filter_installs_of_slot functionStart built words member found,
      guard ▸ filter_defines built words hooks functionStart member⟩
  · intro function member missing moment
    have guard : table.guardOf function.name = none := by
      rw [SymbolTable.guardOf, missing, Option.bind_none]
    have alone : (registrationKept table functionStart).filter (installs function moment) =
        [((callText functionStart function moment).toList, none)] :=
      filter_installs_of_uncovered functionStart built words member missing
    refine ⟨alone, fun line among slotLine installed => ?_,
      guard ▸ filter_defines built words hooks functionStart member⟩
    have isCall := List.mem_filter.mpr ⟨among, installed⟩
    rw [alone, List.mem_singleton] at isCall
    exact not_isSlotLine_callText functionStart function moment none (isCall ▸ slotLine)

namespace GuardedSlot

/-- Two headers: a function whose slot stands under a condition, and a function without a slot. -/
def sources : List (String × String) :=
  [("init.h",
    "ze_init_params_t \x7b\n\x7d;\nZE_APICALL *ze_pfnInitCb_t\ng \x7b\n#if A\n" ++
      "ze_pfnInitCb_t f;\n#endif\n\x7d;\nze_callbacks_t \x7b\ng G;\n\x7d;\n"),
    ("stop.h", "ze_stop_params_t \x7b\n\x7d;\nZE_APICALL *ze_pfnStopCb_t\n")]

/-- What a table says about its functions. -/
def view (table : SymbolTable) :
    List String × List String × List (List Char × Option Guard) :=
  (table.functionNames, table.uncovered,
    table.mapped.flatMap fun (function, slot) => slotKept function slot)

/-- The table of the headers. -/
theorem exists_table : ∃ table,
    (buildTable {} true (sources.map fun (name, text) => .ofText name text) []).outcome =
      .ok table ∧
    view table = (["zeInit", "zeStop"], ["zeStop"],
      [("prologue.G.f = zeInitOnEnter;".toList, some ⟨"A"⟩),
        ("epilogue.G.f = zeInitOnExit;".toList, some ⟨"A"⟩)]) :=
  exists_of_map_toOption (by decide +kernel)

end GuardedSlot

open GuardedSlot in
theorem renderRegistration_installs_once_guarded : ∃ table registration shims,
    (buildTable {} true (sources.map fun (name, text) => .ofText name text) []).outcome =
      .ok table ∧
    table.functionNames = ["zeInit", "zeStop"] ∧ table.uncovered = ["zeStop"] ∧
    keptOf "tracing.gen" (renderRegistration table "ze" {}) = .ok registration ∧
    keptOf "tracing.gen" (renderShims table .empty "ze" {}) = .ok shims ∧
    registration.filter isSlotLine = [("prologue.G.f = zeInitOnEnter;".toList, some ⟨"A"⟩),
      ("epilogue.G.f = zeInitOnExit;".toList, some ⟨"A"⟩)] := by
  obtain ⟨table, ended, viewed⟩ := exists_table
  obtain ⟨names, rest⟩ := Prod.mk.inj viewed
  obtain ⟨uncovered, slots⟩ := Prod.mk.inj rest
  have identifiers : ∀ function ∈ table.functions, Text.isIdentifier function.name.toList := by
    have each : ∀ name ∈ table.functionNames, Text.isIdentifier name.toList := by
      rw [names]
      decide
    exact List.forall_mem_map.mp each
  obtain ⟨registration, shims, registrationKept, shimsKept, slotLines, _⟩ :=
    renderRegistration_installs_once ended identifiers .empty "ze" "tracing.gen"
  exact ⟨table, registration, shims, ended, names, uncovered, registrationKept, shimsKept,
    slotLines.trans slots⟩

end ApiTrace
