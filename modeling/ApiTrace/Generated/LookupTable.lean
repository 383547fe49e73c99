import ApiTrace.Generated.Naming
import ApiTrace.Identity.Assignment

/-!
# Lookup tables

Tables in generated code from a number to the name of its function and to its state, and the lookups
that a test suite runs against the names.
-/

namespace ApiTrace

/-- The table from every number to the name of its function, without version tags. -/
def renderNameTable (assignment : Assignment) (naming : Naming) : String :=
  let idEnum := naming.idEnum assignment.category
  let entry (record : Record) : String :=
    "    \x7b" ++ idEnum ++ "::" ++ record.enumerator ++ ", \"" ++ record.function ++ "\"\x7d,\n"
  "inline static std::map<uint32_t, const char*> " ++ idEnum ++ "_func_name =\n  \x7b\n" ++
    String.join (assignment.records.map entry) ++ "  \x7d; \n\n"

/-- The table from every number to its state, all enabled, and the mutex of the subdomain. -/
def renderStateTable (assignment : Assignment) (naming : Naming) : String :=
  let idEnum := naming.idEnum assignment.category
  let entry (record : Record) : String :=
    "    \x7b" ++ idEnum ++ "::" ++ record.enumerator ++ ", 1\x7d,\n"
  "std::mutex " ++ assignment.category.subdomain ++ "_set_granularity_map_mtx;\n" ++
    "inline static std::map<uint32_t, uint32_t> " ++ idEnum ++ "_state =\n  \x7b\n" ++
    String.join (assignment.records.map entry) ++ "  \x7d; \n\n"

/-- The header that holds the state tables of all categories. -/
def renderStateMaps (tables : List String) : String :=
  let guard := "PTI_API_IDS_STATE_MAPS_H_"
  "#ifndef " ++ guard ++ "\n#define " ++ guard ++ "\n\n" ++ generatedMark ++ "\n" ++
    "#include <cstdint>\n#include <map>\n#include <mutex>\n\n" ++
    String.join tables ++ "#endif  // " ++ guard ++ "\n"

/-- The lookup of one name and its comparison. -/
def lookupCheck (group : String) (record : Record) : String :=
  "PTI_CHECK_SUCCESS(ptiViewGetApiIdName(pti_api_group_id::PTI_API_GROUP_" ++ group ++ "," ++
    Text.showNat record.number ++ ",&api_name));\n" ++
    "EXPECT_EQ((std::strcmp(api_name, \"" ++ record.function ++ "\") == 0), true);\n"

/-- The lookups of all functions that the header still declares. -/
def renderLookupChecks (assignment : Assignment) : String :=
  let current := assignment.records.filter fun record => record.origin = .current
  String.join (current.map (lookupCheck assignment.category.apiGroup))

end ApiTrace
