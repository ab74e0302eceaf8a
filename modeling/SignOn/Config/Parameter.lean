import SignOn.Storage.Method

/-!
# Parameters

Filters are configured by named texts. Each name that a filter knows has a rule for its values; the
last value of a name counts, the first value that breaks its rule is the error, and other names are
ignored.
-/

namespace SignOn.Parameter

/-- Whether logging out ends the browser session at the provider too. -/
def logoutFromProviderName : String := "logoutFromForceDotCom"

/-- Where a browser goes after logging out. -/
def logoutTargetName : String := "logoutSuccessUrl"

/-- How security contexts are kept. -/
def storageMethodName : String := "securityContextStorageMethod"

/-- The paths that need no authentication, with commas between them. -/
def excludedPathsName : String := "excludedPaths"

/-- The version of the provider's interface. -/
def apiVersionName : String := "apiVersion"

/-- The error of a value that breaks the rule of its name. -/
def invalid (name reason : String) : Error where
  kind := .config (name ++ ": " ++ reason)

/-- A truth value, in any letter case and with white space around it. -/
def truth (name value : String) : Except Error Bool :=
  let spelling := Text.lower (Text.trim value)
  if spelling = "true" then .ok true
  else if spelling = "false" then .ok false
  else .error (invalid name "expected 'true' or 'false'")

/-- A text that is not blank, without the white space around it. -/
def filled (name value : String) : Except Error String :=
  let text := Text.trim value
  if text = "" then .error (invalid name "must not be empty") else .ok text

/-- The parts of a text between commas, without the white space around them; blank parts do not
count. -/
def listed (value : String) : List String :=
  ((Text.splitOn ',' value.toList).map (Text.trimBy Text.isBlank)).filterMap fun part =>
    if part = [] then none else some (String.ofList part)

end SignOn.Parameter
