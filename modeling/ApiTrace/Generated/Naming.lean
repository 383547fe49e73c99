import ApiTrace.Identity.Category

/-!
# Names in generated code

The names that generated code uses for its tables and hooks and for the tracer it installs itself
in.
-/

namespace ApiTrace

/-- The names in generated code. The defaults are those of the Level Zero tracing layer. -/
structure Naming where
  /-- What generated id enumerations and tables start with. -/
  idStart : String := "pti"
  /-- What hooks that run before a call start with. -/
  enterHookStart : String := "OnEnter"
  /-- What hooks that run after a call start with. -/
  exitHookStart : String := "OnExit"
  registrationFunction : String := "SetTracingAPIs"
  tracerHandle : String := "zel_tracer_handle_t"
  callbacksType : String := "zet_core_callbacks_t"
  setPrologues : String := "zelTracerSetPrologues"
  setEpilogues : String := "zelTracerSetEpilogues"
  successValue : String := "ZE_RESULT_SUCCESS"
  assertMacro : String := "PTI_ASSERT"
  /-- What stands before a function's short name where it is registered by itself. -/
  registerStart : String := "zelTracer"
  /-- What stands after it. -/
  registerEnd : String := "RegisterCallback"
  prologueFlag : String := "ZEL_REGISTER_PROLOGUE"
  epilogueFlag : String := "ZEL_REGISTER_EPILOGUE"
  deriving DecidableEq, Repr

/-- The id enumeration of a category. -/
def Naming.idEnum (naming : Naming) (category : Category) : String :=
  naming.idStart ++ "_api_id_" ++ category.key

/-- The line that marks a file as generated. -/
def generatedMark : String :=
  "// ========= This file is autogenerated - do not modify ========\n"

end ApiTrace
