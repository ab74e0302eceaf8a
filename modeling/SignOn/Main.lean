import SignOn.Startup

/-!
# The command

The command reads its configuration from the environment and starts the application. A fault is
reported on standard error, and the exit code is 1.
-/

/-- The variables that the configuration is read from. -/
def SignOn.Startup.variableNames : List String := [
  "FORCE_CONSUMER_KEY", "FORCE_CONSUMER_SECRET", "FORCE_LOGIN_URL", "FORCE_CALLBACK_PATH",
  "FORCE_COOKIE_SECRET", "FORCE_TRUST_PROXY", "FORCE_PUBLIC_ORIGIN",
  "FORCE_SECURITY_CONTEXT_STORAGE_METHOD", "FORCE_EXCLUDED_PATHS", "FORCE_API_VERSION",
  "FORCE_LOGOUT_FROM_FORCE_DOT_COM", "FORCE_LOGOUT_SUCCESS_URL", "FORCE_BIND_ADDR"]

/-- The report of a failure. -/
def SignOn.Startup.Failure.report (f : SignOn.Startup.Failure) : String :=
  let causes := match f.causes with
    | [cause] => ["    " ++ cause]
    | causes => causes.zipIdx.map fun (cause, i) => "    " ++ toString i ++ ": " ++ cause
  SignOn.Text.join "\n" (["Error: " ++ f.doing, "", "Caused by:"] ++ causes)

def main : IO UInt32 := do
  let entries ← SignOn.Startup.variableNames.filterMapM fun name => do
    let value ← IO.getEnv name
    pure (value.map fun text => (name, SignOn.Octets.ofText text))
  match SignOn.Startup.start { entries } with
  | .error failure =>
    IO.eprintln failure.report
    pure 1
  | .ok (app, address) =>
    IO.println ("Listening at " ++ address ++ " as " ++ app.site.describe)
    pure 0
