import SignOn.Application
import SignOn.Config.Gate
import SignOn.Config.Logout
import SignOn.OAuth.Environment

/-!
# Starting up

The stand-alone application takes its whole configuration from environment variables. They are
checked in a fixed order, and the first fault ends the start: it is reported as what was being done,
the error and the text of what set the error off.
-/

namespace SignOn.Startup

/-- Why the application does not start: what was being done, then the error and its sources. -/
structure Failure where
  doing : String
  causes : List String
  deriving DecidableEq

/-- All texts of a failure, from the outermost to the root cause. -/
def Failure.chain (f : Failure) : List String := f.doing :: f.causes

/-- A failure with the texts of an error. -/
def failure (doing : String) (e : Error) : Failure where
  doing
  causes := e.message :: e.source.toList

/-- A result with what was being done. -/
def during {α : Type} (doing : String) (result : Except Error α) : Except Failure α :=
  result.mapError (failure doing)

/-- The client that the environment describes. -/
def client (env : Environment) : Except Failure OAuthClient :=
  during "reading OAuth configuration" (OAuthClient.ofEnvironment env)

/-- The cipher of the environment's secret. -/
def cipher (env : Environment) : Except Failure Cipher :=
  match env.text? "FORCE_COOKIE_SECRET" with
  | none => .error ⟨"FORCE_COOKIE_SECRET is not set", ["environment variable not found"]⟩
  | some secret => during "invalid FORCE_COOKIE_SECRET" (Cipher.ofSecret secret)

/-- Whether proxies are trusted. Letter case counts here. -/
def trustsProxy (env : Environment) : Except Failure Bool :=
  match (env.text? "FORCE_TRUST_PROXY").map Text.trim with
  | none => .ok false
  | some spelling =>
    if spelling = "true" then .ok true
    else if spelling = "false" then .ok false
    else
      .error ⟨"FORCE_TRUST_PROXY must be 'true' or 'false'",
        ["provided string was not `true` or `false`"]⟩

/-- The origin that the application is published under. -/
def publicOrigin (env : Environment) : Except Failure (Option SiteOrigin) :=
  match env.text? "FORCE_PUBLIC_ORIGIN" with
  | none => .ok none
  | some text => during "invalid FORCE_PUBLIC_ORIGIN" ((SiteOrigin.ofText text).map some)

/-- The paths of the application that need no authentication. -/
def excludedPaths : List String := ["/logout", "/signed-out"]

/-- The settings of the gate. -/
def gate (env : Environment) : Except Failure GateSettings :=
  during "reading auth filter configuration" ((GateSettings.ofEnvironment env).map fun settings =>
    { settings with excludedPaths })

/-- The settings of the logout filter. -/
def logout (env : Environment) : Except Failure LogoutSettings :=
  during "reading logout configuration" (LogoutSettings.ofEnvironment env)

/-- The application that an environment describes. -/
def application (env : Environment) : Except Failure Application := do
  let client ← client env
  let cipher ← cipher env
  let trustsProxy ← trustsProxy env
  let publicOrigin ← publicOrigin env
  let gate ← gate env
  let logout ← logout env
  pure { site := { client, cipher, trustsProxy, publicOrigin }, gate := some gate, logout }

/-- The address to listen at. -/
def address (env : Environment) : String := (env.text? "FORCE_BIND_ADDR").getD "127.0.0.1:8080"

/-- Both sides of the last colon. -/
def cutAtLastColon (cs : List Char) : Option (List Char × List Char) :=
  (Text.cutAt ':' cs.reverse).map fun (after, before) => (before.reverse, after.reverse)

/-- Whether a text is a port: decimal digits, perhaps after a plus sign, that stand for at most
65535. -/
def isPort (cs : List Char) : Bool :=
  let digits := match cs with
    | '+' :: digits => digits
    | _ => cs
  digits ≠ [] && digits.all (fun c => (Text.decimalDigit? c).isSome) &&
    digits.foldl (fun n c => n * 10 + (Text.decimalDigit? c).getD 0) 0 ≤ 65535

/-- An address to listen at has a host, a colon and a port. -/
def checkAddress (address : String) : Except Failure Unit :=
  match cutAtLastColon address.toList with
  | none => .error ⟨"binding " ++ address, ["invalid socket address"]⟩
  | some (_, port) =>
    if isPort port then .ok () else .error ⟨"binding " ++ address, ["invalid port value"]⟩

/-- Start up to the point where the application listens. -/
def start (env : Environment) : Except Failure (Application × String) := do
  let app ← application env
  checkAddress (address env)
  pure (app, address env)

end SignOn.Startup
