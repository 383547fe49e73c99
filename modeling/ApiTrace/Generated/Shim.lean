import ApiTrace.Generated.Converter
import ApiTrace.Generated.Hook
import ApiTrace.Generated.Naming
import ApiTrace.Symbol.Table

/-!
# Shims

A shim is a generated callback that forwards to a hook if there is one. Every function has one that
runs before the call and one that runs after it, under the guard of the function's slot, and the
registration routine installs all of them: through the slots where there are slots, one by one
otherwise.
-/

namespace ApiTrace

/-- The two moments at which a shim runs. -/
inductive Moment where
  | enter
  | exit
  deriving DecidableEq, Repr

namespace Moment

/-- What a shim's name ends with. -/
def shimEnd : Moment → String
  | .enter => "OnEnter"
  | .exit => "OnExit"

/-- What a hook's name starts with. -/
def hookStart (naming : Naming) : Moment → String
  | .enter => naming.enterHookStart
  | .exit => naming.exitHookStart

/-- The arguments of a hook; there is no result before the call. -/
def hookArguments : Moment → List String
  | .enter => ["params", "global_user_data", "instance_user_data"]
  | .exit => ["params", "result", "global_user_data", "instance_user_data"]

end Moment

/-- The arguments of a shim. -/
def shimArguments : List String :=
  ["params", "result", "global_user_data", "instance_user_data"]

/-- The directive that opens a guard. -/
def openGuard : Option Guard → String
  | some guard => "#if " ++ guard.condition ++ "\n"
  | none => ""

/-- The directive that closes a guard. -/
def closeGuard : Option Guard → String
  | some guard => "#endif // " ++ guard.condition ++ "\n"
  | none => ""

/-- A shim: it forwards to `hook` if that exists, and ignores the arguments that it does not
forward. -/
def renderShim (function : Function) (moment : Moment) (hook : String) (hooks : HookSet) : String :=
  let forwarded := if hooks.contains hook then moment.hookArguments else []
  let ignored := shimArguments.filter fun argument => !forwarded.contains argument
  "static void " ++ function.name ++ moment.shimEnd ++ "(\n" ++
    "    " ++ function.parameterStruct ++ "* params,\n" ++
    "    " ++ function.returnType ++ " result,\n" ++
    "    void* global_user_data,\n" ++
    "    void** instance_user_data) \x7b\n" ++
    String.join (ignored.map fun argument => "  (void)" ++ argument ++ ";\n") ++
    (if forwarded.isEmpty then ""
      else "  " ++ hook ++ "(" ++ String.intercalate ", " forwarded ++ ");\n") ++
    "\x7d\n"

/-- Both shims of a function, under its guard. -/
def renderFunctionShims (table : SymbolTable) (hooks : HookSet) (functionStart : String)
    (naming : Naming) (function : Function) : String :=
  let guard := table.guardOf function.name
  let shim (moment : Moment) : String :=
    renderShim function moment (moment.hookStart naming ++ function.shortName functionStart) hooks
  "// " ++ function.prototype ++ "\n" ++ openGuard guard ++ shim .enter ++ shim .exit ++
    closeGuard guard ++ "\n"

/-- The shims of all functions. -/
def renderShims (table : SymbolTable) (hooks : HookSet) (functionStart : String)
    (naming : Naming) : String :=
  String.join (table.functions.map (renderFunctionShims table hooks functionStart naming))

/-- The line that checks the status of the last call. -/
def statusCheck (naming : Naming) : String :=
  "  " ++ naming.assertMacro ++ "(status == " ++ naming.successValue ++ ");\n"

/-- The lines that put a function's shims into its slot. -/
def renderSlot (function : Function) (slot : Slot) : String :=
  let assignment (table : String) (moment : Moment) : String :=
    "  " ++ table ++ "." ++ slot.memberPath ++ " = " ++ function.name ++ moment.shimEnd ++ ";\n"
  openGuard slot.guard ++ assignment "prologue" .enter ++ assignment "epilogue" .exit ++
    closeGuard slot.guard

/-- The lines that register a function's shims by themselves. -/
def renderSingleRegistration (functionStart : String) (naming : Naming) (function : Function) :
    String :=
  let register :=
    naming.registerStart ++ function.shortName functionStart ++ naming.registerEnd
  let call (flag : String) (moment : Moment) : String :=
    "  status = " ++ register ++ "(tracer, " ++ flag ++ ", " ++ function.name ++ moment.shimEnd ++
      ");\n" ++ statusCheck naming
  "\n" ++ call naming.prologueFlag .enter ++ call naming.epilogueFlag .exit

/-- The routine that installs all shims. -/
def renderRegistration (table : SymbolTable) (functionStart : String) (naming : Naming) : String :=
  let statusType := (table.functions.head?.map Function.returnType).getD "ze_result_t"
  "static void " ++ naming.registrationFunction ++ "(" ++ naming.tracerHandle ++
    " tracer) \x7b\n" ++
    "  " ++ naming.callbacksType ++ " prologue = \x7b\x7d;\n" ++
    "  " ++ naming.callbacksType ++ " epilogue = \x7b\x7d;\n\n" ++
    String.join (table.mapped.map fun (function, slot) => renderSlot function slot) ++
    "\n  " ++ statusType ++ " status = " ++ naming.successValue ++ ";\n" ++
    "  status = " ++ naming.setPrologues ++ "(tracer, &prologue);\n" ++ statusCheck naming ++
    "  status = " ++ naming.setEpilogues ++ "(tracer, &epilogue);\n" ++ statusCheck naming ++
    String.join ((table.uncovered.filterMap table.function?).map
      (renderSingleRegistration functionStart naming)) ++
    "\x7d\n"

/-- The tracing source: converters, shims and the registration routine. -/
def renderTracing (table : SymbolTable) (hooks : HookSet)
    (converters : List (Enumeration × String)) (functionStart : String) (naming : Naming) :
    String :=
  generatedMark ++ "\n" ++
    String.join (converters.map fun (enumeration, function) =>
      renderConverter enumeration function) ++
    renderShims table hooks functionStart naming ++
    renderRegistration table functionStart naming

end ApiTrace
