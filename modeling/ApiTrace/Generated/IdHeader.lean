import ApiTrace.Generated.Naming
import ApiTrace.Identity.Assignment

/-!
# Id headers

The id header of a category lists its enumerators by ascending number, one on a line, so that the
next run can read them back. The banner above them says where the numbers come from.
-/

namespace ApiTrace

/-- Where the numbers of an id header come from. -/
structure Banner where
  /-- The header that was scanned. -/
  apiFile : String := ""
  /-- Its version line. -/
  apiVersion : Option String := none
  /-- The digest of the scanned text. -/
  digest : Option String := none
  deriving DecidableEq, Repr

/-- The line of a provenance fact that may be absent. -/
def bannerLine (label : String) : Option String → String
  | some fact => label ++ fact ++ "\n"
  | none => ""

/-- The comment lines of a banner. -/
def Banner.render (banner : Banner) : String :=
  generatedMark ++ "//    ApiFile: " ++ banner.apiFile ++ "\n" ++
    bannerLine "// ApiVersion: " banner.apiVersion ++
    bannerLine "//     Digest: sha256:" banner.digest

/-- The line of one enumerator. -/
def enumeratorLine (record : Record) : String :=
  "    " ++ record.enumerator ++ "=" ++ Text.showNat record.number ++ ",\n"

/-- The include guard of an id header. -/
def includeGuard (idEnum : String) : String :=
  String.ofList (Text.upper idEnum.toList) ++ "_H_"

/-- The text of the id header of an assignment. -/
def renderIdHeader (assignment : Assignment) (banner : Banner) (naming : Naming) : String :=
  let idEnum := naming.idEnum assignment.category
  let guard := includeGuard idEnum
  "#ifndef " ++ guard ++ "\n#define " ++ guard ++ "\n\n" ++ banner.render ++ "\n" ++
    "typedef enum _" ++ idEnum ++ " \x7b\n" ++
    "    reserved_" ++ assignment.category.key ++ "_id=0,\n" ++
    String.join (assignment.records.map enumeratorLine) ++
    " \x7d " ++ idEnum ++ ";\n\n#endif\n"

end ApiTrace
