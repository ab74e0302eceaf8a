import SignOn.Config.Parameter
import SignOn.Environment
import SignOn.Text.Quoted

/-!
# Settings of the logout filter
-/

namespace SignOn

/-- What the logout filter is told. -/
structure LogoutSettings where
  /-- Whether the browser leaves through the provider's logout page. -/
  fromProvider : Bool := true
  /-- Where the browser goes after logging out. -/
  target : String := "/"
  storageMethod : StorageMethod := .cookie
  deriving DecidableEq

namespace LogoutSettings

/-- The settings after one more parameter. -/
def update (s : LogoutSettings) (parameter : String × String) : Except Error LogoutSettings :=
  let (name, value) := parameter
  if name = Parameter.logoutFromProviderName then
    (Parameter.truth name value).map fun enabled => { s with fromProvider := enabled }
  else if name = Parameter.logoutTargetName then
    (Parameter.filled name value).map fun target => { s with target }
  else if name = Parameter.storageMethodName then
    (StorageMethod.ofText value).map fun method => { s with storageMethod := method }
  else .ok s

/-- The settings that a list of parameters gives. -/
def ofParameters (parameters : List (String × String)) : Except Error LogoutSettings :=
  parameters.foldlM update {}

/-- The environment variables that hold parameters, each with the parameter it holds. -/
def environmentNames : List (String × String) := [
  ("FORCE_LOGOUT_FROM_FORCE_DOT_COM", Parameter.logoutFromProviderName),
  ("FORCE_LOGOUT_SUCCESS_URL", Parameter.logoutTargetName),
  ("FORCE_SECURITY_CONTEXT_STORAGE_METHOD", Parameter.storageMethodName)]

/-- The settings that an environment gives. -/
def ofEnvironment (env : Environment) : Except Error LogoutSettings :=
  ofParameters (env.renamed environmentNames)

/-- The settings as diagnostics show them. -/
def describe (s : LogoutSettings) : String :=
  Text.showRecord "LogoutFilterConfig" [
    ("logout_from_force_dot_com", Text.showBool s.fromProvider),
    ("logout_success_url", Text.quote s.target),
    ("storage_method", s.storageMethod.describe)]

end LogoutSettings

end SignOn
