/-
# BondTrading.Auth.Access -- who is let in, and the routes about accounts

`api/auth_dependencies.py`, the routers `auth` and `admin` of `api/v1`, and the pages of
`presentation/router.py` about sessions and accounts.  A route checks who asks and what he
sends; what passes is one call of `AuthService`.  `accessMachine` takes the requests of
everybody, in any order, and the starts of the process between them.
-/
import BondTrading.Auth.Validity
import BondTrading.Portfolio.Answers

namespace BondTrading

open Py (Instant raiseIf orRaise)
open Machines (Machine)

/-! ## Credentials of a request -/

/-- What a request presents.  `csrf` is the header `X-CSRF-Token`, or the form field
`csrf_token` of a page. -/
structure Presented where
  authorization : Option String
  sessionCookie : Option String
  csrf : Option String
  deriving DecidableEq, Repr

/-- The credentials of `authorization.partition(" ")`, when the scheme is `bearer`. -/
def bearerCredentials (env : AuthEnv) (authorization : Option String) : Option String :=
  match Py.Text.given authorization with
  | none => none
  | some header =>
      let credentials := String.ofList ((header.toList.dropWhile (· ≠ ' ')).drop 1)
      if env.lower (Py.Text.before ' ' header) = "bearer" ∧ ¬ credentials.isEmpty then
        some credentials
      else none

/-- The token of an API request: the bearer credentials, or else the cookie. -/
def Presented.token (env : AuthEnv) (p : Presented) : Option String :=
  Py.Text.given ((bearerCredentials env p.authorization).or p.sessionCookie)

/-- `AuthenticatedSession`. -/
structure AuthenticatedSession where
  user : UserModel
  session : AuthSessionModel
  viaBearer : Bool
  deriving DecidableEq, Repr

/-- `verify_csrf`. -/
def verifyCsrf (env : AuthEnv) (session : AuthSessionModel) (csrf : Option String) :
    Except PyError Unit :=
  raiseIf ((Py.Text.given csrf).map env.tokenHash ≠ some session.csrfTokenHash)
    (.domain .authorizationFailed "The CSRF token is missing or invalid" .none)

/-! ## Answers -/

inductive AccessAnswer where
  /-- The body of a login, or its cookies. -/
  | credentials (user : UserId) (token csrfToken : String)
  | user (user : UserModel)
  | users (users : List UserModel)
  /-- `204`, or a redirect after a form. -/
  | done
  /-- A page rendered again, with an error. -/
  | page (status : ℕ) (error : String)
  /-- `303` to the login page. -/
  | seeLogin
  /-- Another route answers the user. -/
  | letIn (user : UserId)
  | error (answer : ApiAnswer)
  deriving DecidableEq, Repr

namespace AccessAnswer

def http (status : ℕ) (detail : String) : AccessAnswer := .error (.http status detail)

/-- `RequestValidationError`. -/
def invalid : AccessAnswer :=
  .error (.error 422 "validation_error" "Request validation failed" .none)

/-- `except DomainError as exc: raise HTTPException(status, exc.message)`. -/
def domainAs (status : ℕ) (e : PyError) : AccessAnswer := .error (.domainAs status e)

def unhandled (e : PyError) : AccessAnswer := .error (.unhandled e)

end AccessAnswer

/-! ## Dependencies -/

/-- `get_authenticated_session`.  `isSafe` says whether the method is `GET`, `HEAD` or
`OPTIONS`. -/
def getAuthenticatedSession (env : AuthEnv) (db : AuthDatabase) (p : Presented) (isSafe : Bool)
    (now : Instant) : Except AccessAnswer AuthenticatedSession :=
  match p.token env with
  | none => .error (.http 401 "Authentication is required")
  | some token =>
      let viaBearer := (bearerCredentials env p.authorization).isSome
      match resolve env db token now with
      | .error e => .error (.domainAs 401 e)
      | .ok (session, user) =>
          if isSafe = false ∧ viaBearer = false then
            match verifyCsrf env session p.csrf with
            | .error e => .error (.domainAs 403 e)
            | .ok () => .ok ⟨user, session, viaBearer⟩
          else .ok ⟨user, session, viaBearer⟩

/-- `get_current_web_auth`. -/
def getCurrentWebAuth (env : AuthEnv) (db : AuthDatabase) (p : Presented) (now : Instant) :
    Except AccessAnswer AuthenticatedSession :=
  match Py.Text.given p.sessionCookie with
  | none => .error .seeLogin
  | some token =>
      match resolve env db token now with
      | .error _ => .error .seeLogin
      | .ok (session, user) => .ok ⟨user, session, false⟩

/-- `require_admin` and `_require_web_admin`. -/
def requireAdministrator (auth : AuthenticatedSession) : Except AccessAnswer Unit :=
  raiseIf (auth.user.role ≠ .admin) (.http 403 "Administrator privileges are required")

/-- The fields of a form: `csrf_token` and the others are required, and an empty one is
missing. -/
def requireForm (p : Presented) (fields : List String) : Except AccessAnswer Unit :=
  raiseIf (Py.Text.given p.csrf = none ∨ "" ∈ fields) .invalid

/-- `verify_csrf` of a page, outside of any handler. -/
def verifyForm (env : AuthEnv) (auth : AuthenticatedSession) (p : Presented) :
    Except AccessAnswer Unit :=
  (verifyCsrf env auth.session p.csrf).mapError .unhandled

/-- `Field(min_length=.., max_length=..)`. -/
def hasLength (s : String) (least most : ℕ) : Bool := least ≤ s.length && s.length ≤ most

/-! ## Routes -/

/-- What passes the checks of a route: a call of the service, and what the route makes of
its outcome. -/
structure ServiceUse where
  call : AuthEvent
  handler : PyError → AccessAnswer
  body : AuthDatabase → AuthResponse → AccessAnswer

/-- A request answered without a call, or the call it comes to. -/
inductive Checked where
  | answered (answer : AccessAnswer)
  | calls (use : ServiceUse)

/-- A check that refuses answers the request. -/
def Checked.of : Except AccessAnswer Checked → Checked
  | .ok checked => checked
  | .error answer => .answered answer

inductive ApiRequest where
  | me
  | logout
  | changePassword (currentPassword newPassword : String) (salt : ℕ)
  | listUsers
  | createUser (username email password : String) (role : UserRole) (draw : AccountDraw)
  | updateUser (user : UserId) (isActive : Bool)
  /-- A route of another router. -/
  | other (isSafe : Bool)

inductive WebRequest where
  | logoutSubmit
  | accountChangePassword (currentPassword newPassword : String) (salt : ℕ)
  | adminPage
  | adminCreateUser (username email password : String) (role : UserRole) (draw : AccountDraw)
  | adminToggleUser (user : UserId)
  /-- Another page. -/
  | other (isSafe : Bool)

/-- The method is `GET`. -/
def ApiRequest.isSafe : ApiRequest → Bool
  | .me | .listUsers => true
  | .other isSafe => isSafe
  | _ => false

def WebRequest.isSafe : WebRequest → Bool
  | .adminPage => true
  | .other isSafe => isSafe
  | _ => false

/-- `LoginOut`, or the two cookies. -/
def credentialsBody (csrfToken : String) (_ : AuthDatabase) : AuthResponse → AccessAnswer
  | .credentials session token => .credentials session.userId token csrfToken
  | _ => .done

def doneBody (_ : AuthDatabase) (_ : AuthResponse) : AccessAnswer := .done

/-- `UserOut` of a row. -/
def userBody (user : UserId) (db : AuthDatabase) (_ : AuthResponse) : AccessAnswer :=
  match db.val.user? user with
  | some row => .user row
  | none => .done

/-- `list_users`: ordered by name. -/
def listUsers (db : AuthDatabase) : List UserModel :=
  db.val.users.insertionSort fun a b => a.username ≤ b.username

/-- The routes of `auth` and `admin` once the session is there. -/
def authenticatedApi (db : AuthDatabase) (auth : AuthenticatedSession) (now : Instant) :
    ApiRequest → Except AccessAnswer Checked
  | .me => return .answered (.user auth.user)
  | .logout =>
      return .calls ⟨.revoke auth.session.id now, .unhandled, doneBody⟩
  | .changePassword current new salt => do
      raiseIf (hasLength current 1 1024 = false ∨ hasLength new 12 1024 = false) .invalid
      return .calls ⟨.changePassword auth.user.id current new salt now, .domainAs 422, doneBody⟩
  | .listUsers => do
      requireAdministrator auth
      return .answered (.users (listUsers db))
  | .createUser username email password role draw => do
      requireAdministrator auth
      raiseIf (hasLength username 1 64 = false ∨ hasLength email 3 320 = false ∨
        hasLength password 12 1024 = false) .invalid
      return .calls ⟨.createUser username email password role true draw, .domainAs 422,
        userBody draw.id⟩
  | .updateUser user isActive => do
      requireAdministrator auth
      let row ← orRaise (db.val.user? user) (.http 404 "User not found")
      raiseIf (row.id = auth.user.id ∧ isActive = false)
        (.http 422 "An administrator cannot disable the current account")
      return .calls ⟨.setActive row.id isActive now, .domainAs 422, userBody row.id⟩
  | .other _ => return .answered (.letIn auth.user.id)

def checkApi (env : AuthEnv) (db : AuthDatabase) (p : Presented) (now : Instant)
    (request : ApiRequest) : Checked :=
  .of do
    let auth ← getAuthenticatedSession env db p request.isSafe now
    authenticatedApi db auth now request

/-- The `except` of `login_submit`. -/
def loginRefused : PyError → AccessAnswer
  | .domain .authenticationFailed message _ => .page 401 message
  | e => .unhandled e

/-- The pages once the session is there. -/
def authenticatedWeb (env : AuthEnv) (db : AuthDatabase) (p : Presented)
    (auth : AuthenticatedSession) (now : Instant) : WebRequest → Except AccessAnswer Checked
  | .logoutSubmit => do
      requireForm p []
      verifyForm env auth p
      return .calls ⟨.revoke auth.session.id now, .unhandled, doneBody⟩
  | .accountChangePassword current new salt => do
      requireForm p [current, new]
      verifyForm env auth p
      return .calls ⟨.changePassword auth.user.id current new salt now,
        fun e => .page 422 e.str, doneBody⟩
  | .adminPage => do
      requireAdministrator auth
      return .answered (.users (listUsers db))
  | .adminCreateUser username email password role draw => do
      requireForm p [username, email, password]
      requireAdministrator auth
      verifyForm env auth p
      return .calls ⟨.createUser username email password role true draw,
        fun e => .page 422 e.str, doneBody⟩
  | .adminToggleUser user => do
      requireForm p []
      requireAdministrator auth
      verifyForm env auth p
      let row ← orRaise (db.val.user? user) (.http 404 "User not found")
      raiseIf (row.id = auth.user.id)
        (.http 422 "Нельзя отключить текущую учётную запись администратора")
      return .calls ⟨.setActive row.id (!row.isActive) now, .unhandled, doneBody⟩
  | .other isSafe => do
      if isSafe = false then
        requireForm p []
        verifyForm env auth p
      return .answered (.letIn auth.user.id)

def checkWeb (env : AuthEnv) (db : AuthDatabase) (p : Presented) (now : Instant)
    (request : WebRequest) : Checked :=
  .of do
    let auth ← getCurrentWebAuth env db p now
    authenticatedWeb env db p auth now request

/-! ## The machine -/

inductive AccessEvent where
  | login (login password : String) (userAgent : Option String) (draw : SessionDraw)
      (now : Instant)
  | loginSubmit (login password : String) (userAgent : Option String) (draw : SessionDraw)
      (now : Instant)
  | api (p : Presented) (request : ApiRequest) (now : Instant)
  | web (p : Presented) (request : WebRequest) (now : Instant)
  /-- The process starts with this configuration: `ensure_bootstrap_users`. -/
  | started (settings : AuthSettings) (admin user1 user2 : AccountDraw) (now : Instant)

def AccessEvent.check (env : AuthEnv) (db : AuthDatabase) : AccessEvent → Checked
  | .login name password userAgent draw now =>
      if hasLength name 1 320 && hasLength password 1 1024 then
        .calls ⟨.authenticate name password userAgent draw now, .domainAs 401,
          credentialsBody draw.csrfToken⟩
      else .answered .invalid
  | .loginSubmit name password userAgent draw now =>
      if "" ∈ [name, password] then .answered .invalid
      else
        .calls ⟨.authenticate name password userAgent draw now,
          loginRefused,
          credentialsBody draw.csrfToken⟩
  | .api p request now => checkApi env db p now request
  | .web p request now => checkWeb env db p now request
  | .started settings admin user1 user2 now =>
      .calls ⟨.ensureBootstrapUsers settings admin user1 user2 now, .unhandled, doneBody⟩

/-- What the route makes of the outcome. -/
def ServiceUse.answer (use : ServiceUse) (db : AuthDatabase) : AuthResponse → AccessAnswer
  | .failed e => use.handler e
  | response => use.body db response

def accessMachine (env : AuthEnv) : Machine AuthDatabase AccessEvent AccessAnswer where
  step db e :=
    match e.check env db with
    | .answered answer => (db, answer)
    | .calls use =>
        let (db', response) := (authMachine env).step db use.call
        (db', use.answer db' response)

/-- The call of the service that an event comes to. -/
def AccessEvent.call (env : AuthEnv) (db : AuthDatabase) (e : AccessEvent) : Option AuthEvent :=
  match e.check env db with
  | .answered _ => none
  | .calls use => some use.call

end BondTrading
