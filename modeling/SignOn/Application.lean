import SignOn.Gate
import SignOn.Logout

/-!
# Applications

An application serves four pages that show the signed-in user and the logout path, behind the
authentication gate. Paths match exactly as they were sent. A page answers `GET` and `HEAD`, the
logout path `POST` too.
-/

namespace SignOn

/-- An application: its site, the settings of its filters and the path to log out at. -/
structure Application where
  site : Site
  /-- The settings of the gate; without them there is no gate. -/
  gate : Option GateSettings := some {}
  logout : LogoutSettings := {}
  logoutPath : String := "/logout"

namespace Application

/-- The pages of an application. -/
inductive Page where
  /-- The attached context's user name. -/
  | home
  /-- The held context's user id. -/
  | whoami
  /-- The held context's endpoint. -/
  | endpoint
  /-- Releases the holder. -/
  | release
  /-- Logs out. -/
  | logout
  deriving DecidableEq

/-- The page at a path. -/
def page? (app : Application) (path : String) : Option Page :=
  if path = app.logoutPath then some .logout
  else if path = "/" then some .home
  else if path = "/whoami" then some .whoami
  else if path = "/endpoint" then some .endpoint
  else if path = "/release" then some .release
  else none

/-- The methods that a page answers. -/
def Page.methods : Page → List String
  | .logout => ["GET", "HEAD", "POST"]
  | _ => ["GET", "HEAD"]

/-- The answer to a request that needs an attached context and has none. -/
def notAuthenticated : Http.Response := Http.plainResponse 401 "not authenticated"

/-- Serve a page. -/
def servePage (app : Application) (occasion : Occasion) (page : Page) : Handler :=
  fun delivery holder state =>
    match page with
    | .logout => Logout.serve app.logout app.site occasion delivery holder state
    | .home =>
      { response := delivery.attached.elim notAuthenticated fun context =>
          Http.plainResponse 200 context.userName
        state, holder }
    | .whoami =>
      { response := Http.plainResponse 200 (holder.context?.elim "" (·.userId)), state, holder }
    | .endpoint =>
      { response := Http.plainResponse 200 (holder.context?.elim "" (·.endpoint.text ++ "\n"))
        state, holder }
    | .release =>
      match delivery.attached with
      | none => { response := notAuthenticated, state, holder }
      | some context =>
        { response := Http.plainResponse 200 (Text.join " " [context.orgId,
            Text.showBool holder.context?.isSome, Text.showBool holder.release.context?.isSome])
          state, holder := holder.release }

/-- Serve a request behind the gate. -/
def dispatch (app : Application) (occasion : Occasion) : Handler := fun delivery holder state =>
  match app.page? delivery.request.target.path with
  | none => { response := { status := 404 }, state, holder }
  | some page =>
    if page.methods.contains delivery.request.method then
      app.servePage occasion page delivery holder state
    else { response := { status := 405 }, state, holder }

/-- The methods to report for a request: those of its page if they do not include its own. -/
def reportedMethods? (app : Application) (request : Http.Request) : Option (List String) :=
  (app.page? request.target.path).bind fun page =>
    if page.methods.contains request.method then none else some page.methods

/-- Whether an answer to `HEAD` for a target loses its body: there is a page, or the target is not a
path at all. -/
def cutsBody (app : Application) (target : Http.Target) : Bool :=
  (app.page? target.path).isSome || target.path.toList.head? ≠ some '/'

/-- A response as it is sent: methods are reported whoever answered, and an answer to `HEAD` may
lose its body. -/
def finish (app : Application) (request : Http.Request) (response : Http.Response) :
    Http.Response :=
  let allow := (app.reportedMethods? request).bind fun methods =>
    Http.FieldValue.ofText? (Text.join "," methods)
  { response with
    headers := response.headers.concat (Http.Headers.single "allow" allow)
    body := if request.method = "HEAD" ∧ app.cutsBody request.target then "" else response.body }

/-- Serve a request in a task that is in no scope. -/
def serve (app : Application) (occasion : Occasion) (request : Http.Request) (state : SharedState) :
    Served :=
  let handler := match app.gate with
    | some settings => Gate.serve settings app.site occasion (app.dispatch occasion)
    | none => app.dispatch occasion
  let served := handler { request } .outside state
  { served with response := app.finish request served.response }

end Application

end SignOn
