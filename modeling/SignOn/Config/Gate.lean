import SignOn.Config.Parameter
import SignOn.Environment
import SignOn.OAuth.Client
import SignOn.Text.Quoted

/-!
# Settings of the authentication gate
-/

namespace SignOn

/-- What the authentication gate is told. -/
structure GateSettings where
  storageMethod : StorageMethod := .cookie
  /-- The paths that need no authentication. -/
  excludedPaths : List String := ["/logout"]
  /-- The version of the provider's interface that session endpoints name. -/
  apiVersion : String := defaultApiVersion
  deriving DecidableEq

namespace GateSettings

/-- Whether a path needs no authentication. -/
def isExcluded (s : GateSettings) (path : String) : Bool := s.excludedPaths.contains path

theorem isExcluded_iff {s : GateSettings} {path : String} :
    s.isExcluded path = true ↔ path ∈ s.excludedPaths := List.contains_iff_mem

/-- The settings after one more parameter. -/
def update (s : GateSettings) (parameter : String × String) : Except Error GateSettings :=
  let (name, value) := parameter
  if name = Parameter.storageMethodName then
    (StorageMethod.ofText value).map fun method => { s with storageMethod := method }
  else if name = Parameter.excludedPathsName then
    .ok { s with excludedPaths := Parameter.listed value }
  else if name = Parameter.apiVersionName then
    (Parameter.filled name value).map fun version => { s with apiVersion := version }
  else .ok s

/-- The settings that a list of parameters gives. -/
def ofParameters (parameters : List (String × String)) : Except Error GateSettings :=
  parameters.foldlM update {}

/-- The environment variables that hold parameters, each with the parameter it holds. -/
def environmentNames : List (String × String) := [
  ("FORCE_SECURITY_CONTEXT_STORAGE_METHOD", Parameter.storageMethodName),
  ("FORCE_EXCLUDED_PATHS", Parameter.excludedPathsName),
  ("FORCE_API_VERSION", Parameter.apiVersionName)]

/-- The settings that an environment gives. -/
def ofEnvironment (env : Environment) : Except Error GateSettings :=
  ofParameters (env.renamed environmentNames)

/-- The settings as diagnostics show them. -/
def describe (s : GateSettings) : String :=
  Text.showRecord "AuthFilterConfig" [
    ("storage_method", s.storageMethod.describe),
    ("excluded_paths", Text.showList (s.excludedPaths.map Text.quote)),
    ("api_version", Text.quote s.apiVersion)]

end GateSettings

end SignOn
