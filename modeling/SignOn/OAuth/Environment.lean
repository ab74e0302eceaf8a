import SignOn.Environment
import SignOn.OAuth.Client

/-!
# The OAuth client of an environment

Only the key has to be set; what is not set keeps its usual value.
-/

namespace SignOn.OAuthClient

/-- The variable that holds the client's key. -/
def keyVariable : String := "FORCE_CONSUMER_KEY"

/-- The client that an environment describes. -/
def ofEnvironment (env : Environment) : Except Error OAuthClient :=
  match env.text? keyVariable with
  | none => .error { kind := .envVar keyVariable }
  | some key =>
    let client : OAuthClient := {
      key
      secret := env.text? "FORCE_CONSUMER_SECRET"
      callbackPath := (env.text? "FORCE_CALLBACK_PATH").getD defaultCallbackPath }
    .ok ((env.text? "FORCE_LOGIN_URL").elim client client.withLoginUrl)

end SignOn.OAuthClient
