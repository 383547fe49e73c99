import ApiTrace.Generated.Naming
import ApiTrace.Header.Dialect
import ApiTrace.Header.VendorNumbers
import ApiTrace.Workspace.Path

/-!
# Configurations

A configuration says which headers make up which category, how their names are built, and how names
in generated code are built. The defaults describe Level Zero.
-/

namespace ApiTrace

/-- Where the functions of a category come from. -/
inductive FunctionSource where
  /-- From the callback types of the headers. -/
  | callbacks
  /-- From an enumeration in which the vendor numbers them. -/
  | vendorNumbers (spec : NumberEnum)
  deriving DecidableEq, Repr

/-- A category with what it is made of. -/
structure CategorySource where
  category : Category
  functions : FunctionSource := .callbacks
  /-- The headers, relative to the include directory, the primary one first. -/
  headers : List String := []
  /-- The include directory, unless it is that of the run. -/
  includeDirectory : Option Path := none
  /-- Functions that belong to the category even if no header declares them. -/
  extraFunctions : List String := []
  deriving DecidableEq, Repr

/-- An enumeration with the name of its converter. -/
structure ConverterRequest where
  enumName : String
  function : String
  deriving DecidableEq, Repr

namespace CategorySource

/-- The category of the Level Zero driver. -/
def levelZero : CategorySource where
  category := ⟨"driver", "levelzero"⟩
  headers := ["ze_api.h", "layers/zel_tracing_register_cb.h"]
  extraFunctions := [
    "zeEventPoolGetFlags",
    "zeCommandListGetDeviceHandle",
    "zeCommandListGetContextHandle",
    "zeCommandListIsImmediate",
    "zeCommandListImmediateGetIndex",
    "zeCommandListGetOrdinal",
    "zeCommandQueueGetIndex",
    "zeCommandQueueGetOrdinal",
    "zelTracerSetEnabled",
    "zelTracerCreate"]

/-- Whether the functions are traced through callbacks. -/
def isTraced (source : CategorySource) : Bool :=
  source.functions == .callbacks

/-- The directory in which the headers lie. -/
def directory (source : CategorySource) (fallback : Path) : Path :=
  source.includeDirectory.getD fallback

end CategorySource

/-- The configuration of a run. -/
structure Configuration where
  dialect : Dialect := {}
  /-- Whether functions without a slot are registered one by one instead of refused. -/
  toleratesPartial : Bool := false
  naming : Naming := {}
  categories : List CategorySource := [.levelZero]
  converters : List ConverterRequest :=
    [⟨"ze_result_t", "GetResultString"⟩, ⟨"ze_structure_type_t", "GetStructureTypeString"⟩]
  deriving DecidableEq, Repr

end ApiTrace
