/-
# BondTrading.Auth.Service -- users, sessions and `AuthService`

`application/services/auth.py` over the tables `users` and `auth_sessions`.  Every
method is one transaction: it returns the committed tables, or raises and leaves the
database as it was.  What the service draws at random (identifiers, tokens, salts) and
the clock are parameters of each call; hashing, `str.lower` and `str.isalnum` come from
outside the repository and are fields of `AuthEnv`.
-/
import BondTrading.Db.Models
import BondTrading.Py.Outcome
import BondTrading.Py.Text
import BondTrading.Sql.Rows

namespace BondTrading

open Py (Instant raiseIf orRaise)
open Sql (UniqueOn updateWhere)

/-! ## Tables -/

structure AuthTables where
  users : List UserModel
  sessions : List AuthSessionModel
  deriving DecidableEq, Repr

/-- Primary keys, unique indexes and the foreign key of the two tables. -/
def AuthTables.Constraints (t : AuthTables) : Prop :=
  UniqueOn UserModel.id t.users ∧ UniqueOn UserModel.username t.users ∧
    UniqueOn UserModel.email t.users ∧ UniqueOn AuthSessionModel.id t.sessions ∧
    UniqueOn AuthSessionModel.tokenHash t.sessions ∧
    ∀ s ∈ t.sessions, ∃ u ∈ t.users, u.id = s.userId

instance : DecidablePred AuthTables.Constraints := fun t => by
  unfold AuthTables.Constraints
  infer_instance

/-- A committed state of the two tables. -/
abbrev AuthDatabase := { t : AuthTables // t.Constraints }

/-- `session.commit()`. -/
def AuthTables.commit (t : AuthTables) : Except PyError AuthDatabase :=
  Sql.commit AuthTables.Constraints (.database "IntegrityError") t

def AuthTables.user? (t : AuthTables) (id : UserId) : Option UserModel :=
  t.users.find? fun u => u.id = id

/-! ## Settings and what comes from outside -/

/-- A starting account of the `[auth]` section, as `ensure_bootstrap_users` lists it. -/
structure BootstrapAccount where
  username : String
  email : String
  password : String
  role : UserRole
  syncPassword : Bool
  deriving DecidableEq, Repr

/-- The starting accounts of the configuration. -/
structure AuthSettings where
  bootstrapAdminUsername : String
  bootstrapAdminEmail : String
  bootstrapAdminPassword : String
  bootstrapUser1Username : String
  bootstrapUser1Email : String
  bootstrapUser1Password : String
  bootstrapUser2Username : String
  bootstrapUser2Email : String
  bootstrapUser2Password : String
  deriving DecidableEq, Repr

def AuthSettings.bootstrapAdmin (s : AuthSettings) : BootstrapAccount :=
  ⟨s.bootstrapAdminUsername, s.bootstrapAdminEmail, s.bootstrapAdminPassword, .admin, true⟩

def AuthSettings.bootstrapUser1 (s : AuthSettings) : BootstrapAccount :=
  ⟨s.bootstrapUser1Username, s.bootstrapUser1Email, s.bootstrapUser1Password, .user, false⟩

def AuthSettings.bootstrapUser2 (s : AuthSettings) : BootstrapAccount :=
  ⟨s.bootstrapUser2Username, s.bootstrapUser2Email, s.bootstrapUser2Password, .user, false⟩

/-- `session_ttl_seconds`, `PasswordHash.recommended()`, SHA-256 and the Unicode tables.
`hash salt password` is the text stored for a password, and `verify password hash` may
raise on a text it did not produce. -/
structure AuthEnv where
  sessionTtlSeconds : ℕ
  hash : ℕ → String → String
  verify : String → String → Except PyError Bool
  tokenHash : String → String
  lower : String → String
  isalnum : Char → Bool

def authenticationError (message : String) : PyError :=
  .domain .authenticationFailed message .none

namespace AuthEnv

variable (env : AuthEnv)

/-- `_normalize_username`. -/
def normalizeUsername (username : String) : Except PyError String := do
  let value := env.lower (Py.Text.strip username)
  raiseIf (value.isEmpty ∨ 64 < value.length ∨
      ¬ value.toList.all fun c => env.isalnum c || c ∈ ['-', '_', '.'])
    (.domain .domain "Username must contain only letters, numbers, dot, dash or underscore" .none)
  return value

/-- `_password_matches`: an exception of `verify` is a mismatch. -/
def passwordMatches (password passwordHash : String) : Bool :=
  match env.verify password passwordHash with
  | .ok valid => valid
  | .error _ => false

/-- `expires_at` of a session opened at `now`. -/
def expiresAt (now : Instant) : Instant :=
  now + Py.seconds env.sessionTtlSeconds

end AuthEnv

/-- `_validate_password`. -/
def validatePassword (password : String) : Except PyError Unit :=
  raiseIf (password.length < 12)
    (.domain .domain "Password must contain at least 12 characters" .none)

/-! ## `AuthService` -/

/-- Revoke the open sessions of one user: `UPDATE auth_sessions SET revoked_at`. -/
def AuthTables.revokeUserSessions (t : AuthTables) (user : UserId) (now : Instant) : AuthTables :=
  { t with
    sessions := updateWhere (fun s => s.userId = user ∧ s.revokedAt = none)
      (fun s => { s with revokedAt := some now }) t.sessions }

/-- Write the columns of one user row. -/
def AuthTables.updateUser (t : AuthTables) (user : UserId) (f : UserModel → UserModel) :
    AuthTables :=
  { t with users := updateWhere (fun u => u.id = user) f t.users }

/-- The identifier and salt drawn for one bootstrap account. -/
structure AccountDraw where
  id : UserId
  salt : ℕ
  deriving DecidableEq, Repr

/-- The local state of the loop of `ensure_bootstrap_users`.  The session factory turns
autoflush off, so the rows in `added` are not seen by the queries of later rounds. -/
structure BootstrapPass where
  tables : AuthTables
  added : List UserModel
  changed : Bool

/-- One round of that loop. -/
def bootstrapStep (env : AuthEnv) (now : Instant) (acc : BootstrapPass)
    (item : BootstrapAccount × AccountDraw) : Except PyError BootstrapPass := do
  let (account, draw) := item
  validatePassword account.password
  let username ← env.normalizeUsername account.username
  match acc.tables.users.find? fun u => u.username = username with
  | some existing =>
      if account.syncPassword ∧ env.passwordMatches account.password existing.passwordHash = false then
        let rotated := acc.tables.updateUser existing.id fun u =>
          { u with
            passwordHash := env.hash draw.salt account.password
            mustChangePassword := false }
        return { acc with
          tables := rotated.revokeUserSessions existing.id now
          changed := true }
      else return acc
  | none =>
      let row : UserModel :=
        { id := draw.id
          username
          email := env.lower (Py.Text.strip account.email)
          passwordHash := env.hash draw.salt account.password
          role := account.role
          isActive := true
          mustChangePassword := true
          lastLoginAt := none }
      return { acc with added := acc.added ++ [row], changed := true }

def ensureBootstrapUsers (env : AuthEnv) (settings : AuthSettings) (db : AuthDatabase)
    (admin user1 user2 : AccountDraw) (now : Instant) : Except PyError AuthDatabase := do
  let accounts := [(settings.bootstrapAdmin, admin), (settings.bootstrapUser1, user1),
    (settings.bootstrapUser2, user2)]
  let pass ← accounts.foldlM (bootstrapStep env now) ⟨db.val, [], false⟩
  if pass.changed then
    AuthTables.commit { pass.tables with users := pass.tables.users ++ pass.added }
  else return db

def createUser (env : AuthEnv) (db : AuthDatabase) (username email password : String)
    (role : UserRole) (mustChangePassword : Bool) (draw : AccountDraw) :
    Except PyError AuthDatabase := do
  let normalizedUsername ← env.normalizeUsername username
  let normalizedEmail := env.lower (Py.Text.strip email)
  validatePassword password
  let existing := db.val.users.find? fun u =>
    u.username = normalizedUsername ∨ u.email = normalizedEmail
  raiseIf existing.isSome
    (.domain .domain "A user with this username or email already exists" .none)
  let row : UserModel :=
    { id := draw.id
      username := normalizedUsername
      email := normalizedEmail
      passwordHash := env.hash draw.salt password
      role
      isActive := true
      mustChangePassword
      lastLoginAt := none }
  AuthTables.commit { db.val with users := db.val.users ++ [row] }

/-- What `authenticate` draws: a row identifier and the two tokens. -/
structure SessionDraw where
  id : SessionId
  token : String
  csrfToken : String
  deriving DecidableEq, Repr

/-- The committed tables and the new session row; the token returned to the client is
the drawn one. -/
def authenticate (env : AuthEnv) (db : AuthDatabase) (login password : String)
    (userAgent : Option String) (draw : SessionDraw) (now : Instant) :
    Except PyError (AuthDatabase × AuthSessionModel) := do
  let normalized := env.lower (Py.Text.strip login)
  let user ← orRaise
    (db.val.users.find? fun u => u.username = normalized ∨ u.email = normalized)
    (authenticationError "Invalid username or password")
  raiseIf (user.isActive = false) (authenticationError "Invalid username or password")
  raiseIf (env.passwordMatches password user.passwordHash = false)
    (authenticationError "Invalid username or password")
  let agent := Py.Text.take 512 (userAgent.getD "")
  let row : AuthSessionModel :=
    { id := draw.id
      userId := user.id
      tokenHash := env.tokenHash draw.token
      csrfTokenHash := env.tokenHash draw.csrfToken
      expiresAt := env.expiresAt now
      lastSeenAt := now
      revokedAt := none
      userAgent := if agent.isEmpty then none else some agent }
  let tables := db.val.updateUser user.id fun u => { u with lastLoginAt := some now }
  let committed ← AuthTables.commit { tables with sessions := tables.sessions ++ [row] }
  return (committed, row)

/-- The session row and its user, if the token is good at `now`. -/
def resolve (env : AuthEnv) (db : AuthDatabase) (token : String) (now : Instant) :
    Except PyError (AuthSessionModel × UserModel) := do
  let row ← orRaise (db.val.sessions.find? fun s => s.tokenHash = env.tokenHash token)
    (authenticationError "Authentication is required")
  let user ← orRaise (db.val.user? row.userId)
    (authenticationError "Authentication is required")
  raiseIf (row.revokedAt.isSome ∨ row.expiresAt ≤ now ∨ user.isActive = false)
    (authenticationError "Authentication is required")
  return (row, user)

def revoke (db : AuthDatabase) (session : SessionId) (now : Instant) :
    Except PyError AuthDatabase :=
  AuthTables.commit { db.val with
    sessions := updateWhere (fun s => s.id = session)
      (fun s => { s with revokedAt := some now }) db.val.sessions }

/-- The row a caller holds is the committed one: both routes load it in the same
session. -/
def loadUser (db : AuthDatabase) (user : UserId) : Except PyError UserModel :=
  orRaise (db.val.user? user) (.external "User not found")

def changePassword (env : AuthEnv) (db : AuthDatabase) (user : UserId)
    (currentPassword newPassword : String) (salt : ℕ) (now : Instant) :
    Except PyError AuthDatabase := do
  let row ← loadUser db user
  let valid ← env.verify currentPassword row.passwordHash
  raiseIf (valid = false) (authenticationError "The current password is invalid")
  validatePassword newPassword
  let tables := db.val.updateUser row.id fun u =>
    { u with
      passwordHash := env.hash salt newPassword
      mustChangePassword := false }
  (tables.revokeUserSessions row.id now).commit

def setActive (db : AuthDatabase) (user : UserId) (active : Bool) (now : Instant) :
    Except PyError AuthDatabase := do
  let row ← loadUser db user
  let activeAdmins := db.val.users.filter fun u => u.role = .admin ∧ u.isActive ∧ u.id ≠ row.id
  raiseIf ((row.role = .admin ∧ active = false) ∧ activeAdmins.isEmpty)
    (.domain .domain "The last active administrator cannot be disabled" .none)
  let tables := db.val.updateUser row.id fun u => { u with isActive := active }
  if active then tables.commit
  else (tables.revokeUserSessions row.id now).commit

end BondTrading
