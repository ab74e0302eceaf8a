import SignOn.Encoding.Percent
import SignOn.OAuth.SiteOrigin

/-!
# The OAuth client

A client is what the application is to the identity provider: its key and secret, where users log
in, the local path that receives authorization codes and the scopes to ask for. This module builds
the URLs that send a browser to the provider. Diagnostics never show the secret.
-/

namespace SignOn

/-- The provider's login endpoint. -/
def productionLoginUrl : String := "https://login.salesforce.com"

/-- The provider's login endpoint for tests. -/
def sandboxLoginUrl : String := "https://test.salesforce.com"

/-- The version of the provider's interface that session endpoints name. -/
def defaultApiVersion : String := "62.0"

/-- The local path that receives authorization codes unless another one is set. -/
def defaultCallbackPath : String := "/_auth"

/-- A client of the identity provider. -/
structure OAuthClient where
  key : String
  secret : Option String := none
  loginUrl : String := productionLoginUrl
  /-- The local path that receives authorization codes. -/
  callbackPath : String := defaultCallbackPath
  scopes : List String := ["api", "id"]

namespace OAuthClient

/-- The path of the provider's logout page. -/
def logoutPath : String := "/secur/logout.jsp"

/-- The query parameter by which the logout page is told where to go next. -/
def logoutTargetName : String := "retUrl"

/-- The client with another login endpoint; slashes at its end do not count. -/
def withLoginUrl (c : OAuthClient) (url : String) : OAuthClient :=
  { c with loginUrl := String.ofList (Text.trimEndBy (· = '/') url.toList) }

/-- The absolute URL of the local callback. -/
def redirectUri (c : OAuthClient) (origin : SiteOrigin) : Except Error String :=
  origin.absolute c.callbackPath

/-- The parameters of an authorization request, in order. Scopes are left out if there are none. -/
def authorizationPairs (c : OAuthClient) (redirectUri : String) (state : Option String) :
    List (String × String) :=
  let scopes := Text.join " " c.scopes
  [("response_type", "code"), ("client_id", c.key), ("redirect_uri", redirectUri)] ++
    (if scopes = "" then [] else [("scope", scopes)]) ++ (state.map ("state", ·)).toList

/-- A query of named values, the values percent-encoded. -/
def queryText (pairs : List (String × String)) : String :=
  Text.join "&" (pairs.map fun (name, value) => name ++ "=" ++ Percent.component value)

/-- What stands between the login endpoint and the parameters of an authorization request. -/
def authorizationPath : String := "/services/oauth2/authorize?"

/-- The URL that asks the provider to authorize a user, with a state to come back with. -/
def authorizationUrl (c : OAuthClient) (origin : SiteOrigin) (state : Option String) :
    Except Error String :=
  match c.redirectUri origin with
  | .error e => .error e
  | .ok redirectUri =>
    .ok (c.loginUrl ++ authorizationPath ++ queryText (c.authorizationPairs redirectUri state))

/-- The URL of the provider's logout page at an endpoint, which sends the browser on to a target of
the site. -/
def logoutUrl (origin : SiteOrigin) (endpoint : Url) (target : String) : Except Error Url :=
  match endpoint.join logoutPath with
  | .error e => .error (.ofParseError e)
  | .ok page =>
    match origin.absolute target with
    | .error e => .error e
    | .ok target =>
      .ok (page.withoutFragment.withQuery (some (queryText [(logoutTargetName, target)])))

/-- The client as diagnostics show it. -/
def describe (c : OAuthClient) : String :=
  Text.showRecord "OAuthConfig" [
    ("consumer_key", Text.quote c.key),
    ("consumer_secret", Text.redacted),
    ("login_url", Text.quote c.loginUrl),
    ("callback_path", Text.quote c.callbackPath),
    ("scopes", Text.showList (c.scopes.map Text.quote))]

end OAuthClient

end SignOn
