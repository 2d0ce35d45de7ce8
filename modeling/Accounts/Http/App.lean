import Accounts.Http.Form
import Accounts.Service.Operations

/-! # The HTTP front

Each operation of the service has an endpoint, and there is one for the user behind a token and one
for the health of the stores. Every failure the service answers for becomes a response of its kind;
every POST below the common path that is answered leaves one note in the log.
-/
namespace Accounts.Http

inductive Endpoint where
  | signUp
  | login
  | forgotPassword
  | resetPassword
  | validateToken
  | me
  | health
  deriving DecidableEq, Repr

def accountPath : String := "/api/v1/auth/"

namespace Endpoint

def all : List Endpoint :=
  [.signUp, .login, .forgotPassword, .resetPassword, .validateToken, .me, .health]

def path : Endpoint → String
  | .signUp => accountPath ++ "signup"
  | .login => accountPath ++ "login"
  | .forgotPassword => accountPath ++ "forgot-password"
  | .resetPassword => accountPath ++ "reset-password"
  | .validateToken => accountPath ++ "validate-token"
  | .me => accountPath ++ "me"
  | .health => "/api/health"

def method : Endpoint → String
  | .me | .health => "GET"
  | _ => "POST"

def fields : Endpoint → List String
  | .signUp => ["email", "password", "first_name", "last_name"]
  | .login => ["email", "password"]
  | .forgotPassword => ["email"]
  | .resetPassword => ["token", "new_password"]
  | .validateToken => ["access_token"]
  | .me | .health => []

/-- The endpoint at a path. A line end behind its own path does not matter. -/
def at? (path : String) : Option Endpoint :=
  all.find? fun e => path == e.path || path == e.path ++ "\n"

end Endpoint

/-- The service behind the front, with the lifetimes as they are configured. -/
structure App where
  base : Service
  accessMinutes : Int
  refreshHours : Int
  resetMinutes : Int

/-- The service for a request. Lifetimes beyond all durations break it. -/
def App.service (app : App) : Except Breakage Service :=
  (Lifetimes.ofCounts app.accessMinutes app.refreshHours app.resetMinutes).map fun l =>
    { app.base with lifetimes := l }

def userJson (u : PublicUser) : Json :=
  .object [("id", .text u.id), ("email", .text u.email), ("first_name", .text u.firstName),
    ("last_name", .text u.lastName)]

def signedUpJson (r : SignedUp) : Json :=
  .object [("success", .bool r.success), ("message", .text r.message), ("user", userJson r.user)]

def loggedInJson (r : LoggedIn) : Json :=
  .object [("access_token", .text r.accessToken), ("refresh_token", .text r.refreshToken),
    ("token_type", .text "bearer"), ("expires_in", .int r.expiresIn), ("user", userJson r.user)]

def statusJson (r : Status) : Json :=
  .object [("success", .bool r.success), ("message", .text r.message)]

def validatedJson (r : Validated) : Json :=
  .object [("valid", .bool r.valid), ("user", userJson r.user), ("message", .text r.message)]

def faultResponse (f : Fault) : Response :=
  .ofJson f.kind.status
    (.object [("detail", .text (f.kind.publicMessage f.message)), ("code", .text f.kind.code)])
    (if f.kind.status = 401 then [("www-authenticate", "Bearer")] else [])

def detailResponse (status : Nat) (detail : String) (headers : List (String × String)) : Response :=
  .ofJson status (.object [("detail", .text detail)]) headers

def reachable (b : Bool) : String :=
  if b then "ok" else "unavailable"

def healthResponse (database sessions : Bool) : Response :=
  let healthy := database && sessions
  .ofJson (if healthy then 200 else 503)
    (.object [("status", .text (if healthy then "ok" else "degraded")), ("app", .text "gatekeeper"),
      ("version", .text "0.1.0"), ("database", .text (reachable database)),
      ("session_store", .text (reachable sessions))]) []

def submit (s : Service) (ms : Json.Members) : Endpoint → Plan Response
  | .signUp => do
    let r ← s.signUp (fieldOf ms "email") (fieldOf ms "password") (fieldOf ms "first_name")
      (fieldOf ms "last_name")
    pure (.ofJson 201 (signedUpJson r) [])
  | .login => do
    let r ← s.login (fieldOf ms "email") (fieldOf ms "password")
    pure (.ofJson 200 (loggedInJson r) [])
  | .forgotPassword => do
    let r ← s.forgotPassword (fieldOf ms "email")
    pure (.ofJson 200 (statusJson r) [])
  | .resetPassword => do
    let r ← s.resetPassword (fieldOf ms "token") (fieldOf ms "new_password")
    pure (.ofJson 200 (statusJson r) [])
  | .validateToken => do
    let r ← s.validateToken (fieldOf ms "access_token")
    pure (.ofJson 200 (validatedJson r) [])
  | .me | .health => pure (detailResponse 404 "Not Found" [])

def bearerToken? (r : Request) : Option String :=
  match (r.header? "authorization").map String.toList with
  | some ('B' :: 'e' :: 'a' :: 'r' :: 'e' :: 'r' :: ' ' :: token) => some (String.ofList token)
  | _ => none

def currentUser (s : Service) (r : Request) : Plan Response :=
  match bearerToken? r with
  | none => .fail .notAuthenticated
  | some token => do
    let v ← s.validateToken (some token)
    pure (.ofJson 200 (userJson v.user) [])

def health : Plan Response := do
  let database ← Plan.ask .probeDatabase
  if database then pure () else Plan.log .databaseUnreachable
  let sessions ← Plan.ask .pingSessions
  pure (healthResponse database sessions)

/-- The response to a fault. One that is the server's is logged with the path. -/
def answerFault (r : Request) (f : Fault) : Plan Reply :=
  if 500 ≤ f.kind.status then
    match r.addressPath with
    | .error b => pure (.crash b)
    | .ok path => do
      Plan.log (.requestFailed r.method path f)
      pure (.response (faultResponse f))
  else pure (.response (faultResponse f))

def guarded (r : Request) (p : Plan Response) : Plan Reply := do
  match ← p.attempt with
  | .ok response => pure (.response response)
  | .error (.broken b) => pure (.crash b)
  | .error (.fault f) => answerFault r f

/-- Handles a form: the body must be JSON, then the service must be in order, then the fields. -/
def handleForm (app : App) (e : Endpoint) (r : Request) : Plan Reply :=
  let nesting := app.base.suite.nesting
  match r.payload nesting.body with
  | .notJson refusal => pure (complaintReply nesting.reply [.notJson refusal.position refusal.flaw])
  | .unreadable =>
    pure (.response (detailResponse 400 "There was an error parsing the body" []))
  | payload =>
    match app.service with
    | .error b => pure (.crash b)
    | .ok s =>
      match payload with
      | .value v =>
        match formOf e.fields v with
        | .ok ms => guarded r (submit s ms e)
        | .error cs => pure (complaintReply nesting.reply cs)
      | _ => pure (complaintReply nesting.reply [.bodyMissing])

def handle (app : App) (e : Endpoint) (r : Request) : Plan Reply :=
  match e with
  | .health => guarded r health
  | .me =>
    match app.service with
    | .error b => pure (.crash b)
    | .ok s => guarded r (currentUser s r)
  | e => handleForm app e r

/-- The path with a slash at its end taken away or added. -/
def otherSlash (path : String) : String :=
  match path.toList.reverse with
  | '/' :: r => String.ofList (r.dropWhile (· == '/')).reverse
  | _ => path ++ "/"

def locationPath (path : String) : String :=
  String.ofList (path.toList.flatMap fun c => if c == '\n' then ['%', '0', 'A'] else [c])

/-- The response at a path that has no endpoint: a redirection if only the slash is wrong. -/
def strayResponse (r : Request) : Response :=
  let path := otherSlash r.path
  if (Endpoint.at? path).isSome && r.path != "/" then
    ⟨307, [("location", "http://" ++ r.host ++ locationPath path)], .text ""⟩
  else detailResponse 404 "Not Found" []

def dispatch (app : App) (r : Request) : Plan Reply :=
  match Endpoint.at? r.path with
  | none => pure (.response (strayResponse r))
  | some e =>
    if r.method = e.method then handle app e r
    else pure (.response (detailResponse 405 "Method Not Allowed" [("allow", e.method)]))

def isAudited (method path : String) : Bool :=
  method == "POST" && accountPath.toList.isPrefixOf path.toList

/-- Replies to a request. Responses are secured and, where that is due, noted; a request without a
path in its address breaks here at the latest. -/
def respond (app : App) (r : Request) : Plan Reply := do
  match ← dispatch app r with
  | .crash b => pure (.crash b)
  | .response response =>
    match r.addressPath with
    | .error b => pure (.crash b)
    | .ok path =>
      if isAudited r.method path then
        Plan.log (.audit r.method path response.status r.took (r.client.getD "unknown"))
      pure (.response response.secured)

end Accounts.Http
