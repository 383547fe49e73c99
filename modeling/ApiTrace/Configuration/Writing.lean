import ApiTrace.Configuration.Basic
import ApiTrace.Json

/-!
# Writing configurations

A configuration as JSON, with the field names of the configuration file.
-/

namespace ApiTrace

/-- A replaced spelling as JSON. -/
def Acronym.toJson (acronym : Acronym) : Json :=
  .record [("from", .text acronym.written), ("to", .text acronym.folded)]

/-- The naming conventions of the headers as JSON. -/
def Dialect.toJson (dialect : Dialect) : Json :=
  .record [
    ("api_call_marker", .text dialect.callMarker),
    ("callback_prefix", .text dialect.callbackStart),
    ("callback_suffix", .text dialect.callbackEnd),
    ("function_prefix", .text dialect.functionStart),
    ("dispatch_table", .text dialect.dispatchTable),
    ("param_struct_suffix", .text dialect.parameterStructEnd),
    ("result_type", .text dialect.resultType),
    ("acronyms", .list (dialect.acronyms.map Acronym.toJson)),
    ("version_marker", .text dialect.versionMarker)]

/-- The names in generated code as JSON. -/
def Naming.toJson (naming : Naming) : Json :=
  .record [
    ("id_prefix", .text naming.idStart),
    ("hook_enter_prefix", .text naming.enterHookStart),
    ("hook_exit_prefix", .text naming.exitHookStart),
    ("registration_fn", .text naming.registrationFunction),
    ("tracer_handle", .text naming.tracerHandle),
    ("core_callbacks_type", .text naming.callbacksType),
    ("set_prologues_fn", .text naming.setPrologues),
    ("set_epilogues_fn", .text naming.setEpilogues),
    ("success_value", .text naming.successValue),
    ("assert_macro", .text naming.assertMacro),
    ("register_callback_prefix", .text naming.registerStart),
    ("register_callback_suffix", .text naming.registerEnd),
    ("prologue_flag", .text naming.prologueFlag),
    ("epilogue_flag", .text naming.epilogueFlag)]

/-- Where the functions of a category come from, as JSON. -/
def FunctionSource.toJson : FunctionSource → Json
  | .callbacks => .record [("kind", .text "callbacks")]
  | .vendorNumbers spec =>
    .record [
      ("kind", .text "id_enum"),
      ("enum_name", .text spec.enumName),
      ("entry_prefix", .text spec.entryStart),
      ("name_marker", .text spec.nameMarker),
      ("terminator", .text spec.terminator)]

/-- A category as JSON; the include directory is left out if it is that of the run. -/
def CategorySource.toJson (source : CategorySource) : Json :=
  .record ([
    ("domain", .text source.category.domain),
    ("subdomain", .text source.category.subdomain),
    ("source", source.functions.toJson),
    ("headers", .texts source.headers)] ++
    (source.includeDirectory.map fun directory => ("include_dir", .text directory.text)).toList ++
    [("extra_functions", .texts source.extraFunctions)])

/-- A requested converter as JSON. -/
def ConverterRequest.toJson (request : ConverterRequest) : Json :=
  .record [("enum_name", .text request.enumName), ("function", .text request.function)]

/-- A configuration as JSON. -/
def Configuration.toJson (configuration : Configuration) : Json :=
  .record [
    ("dialect", configuration.dialect.toJson),
    ("scan", .record [
      ("tolerate_partial_coverage", .boolean configuration.toleratesPartial)]),
    ("output", configuration.naming.toJson),
    ("category", .list (configuration.categories.map CategorySource.toJson)),
    ("converter", .list (configuration.converters.map ConverterRequest.toJson))]

end ApiTrace
