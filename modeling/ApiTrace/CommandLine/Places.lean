import ApiTrace.CommandLine.Invocation

/-!
# Places of an invocation

The paths that an invocation reads or writes. Nothing else of the file system can influence it, so a
workspace that holds these paths and the headers directly below them is enough to carry it out.
-/

namespace ApiTrace.CommandLine

/-- Where the configuration of an invocation may stand. -/
def Invocation.configurationPlace (invocation : Invocation) (directory : Path) : Path :=
  invocation.configuration.getD (directory.join Configuration.fileName)

/-- A directory with some headers below it. -/
def headerPlaces (directory : Path) (headers : List String) : List Path :=
  directory :: headers.map fun name => directory.join ⟨name⟩

/-- The places of one category. -/
def categoryPlaces (configuration : Configuration) (options : GenerateOptions)
    (source : CategorySource) : List Path :=
  options.idHeader configuration.naming source.category ::
    headerPlaces (source.directory options.includeDirectory) source.headers

/-- The places of a generating run. -/
def generatePlaces (configuration : Configuration) (options : GenerateOptions) : List Path :=
  [options.tracing, options.nameTables, options.stateMaps, options.lookupChecks] ++
    options.hooks.toList ++ options.report.toList ++
    configuration.categories.flatMap (categoryPlaces configuration options)

/-- The places of a scan. -/
def scanPlaces (configuration : Configuration) (options : ScanOptions) : List Path :=
  headerPlaces options.includeDirectory
    (options.headers ++ configuration.categories.flatMap CategorySource.headers)

/-- The places of a command under a configuration. -/
def Command.places (configuration : Configuration) : Command → List Path
  | .generate options => generatePlaces configuration options
  | .validate options _ => [options.idFile, options.vendorHeader]
  | .scan options _ => scanPlaces configuration options

end ApiTrace.CommandLine
