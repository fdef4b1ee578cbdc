/-
# BondTrading.Auth.Logins -- whom a login names

`authenticate` looks a login up among the usernames and the e-mail addresses at once;
`create_user` keeps each of the two columns free of repetitions, and an address may be any
text.  A login names one user as long as no username is another user's address.
-/
import BondTrading.Auth.Validity
import BondTrading.Py.Names

namespace BondTrading

open Py (Instant bind_eq_ok raiseIf_eq_ok orRaise_eq_ok)
open Machines (Machine)

/-- `AdminUserCreate`. -/
structure AdminUserCreate where
  username : String
  email : String
  password : String
  role : UserRole
  usernameLength : 1 ≤ username.length ∧ username.length ≤ 64
  emailLength : 3 ≤ email.length ∧ email.length ≤ 320
  passwordLength : 12 ≤ password.length ∧ password.length ≤ 1024

/-- A call of `create_user`. -/
structure UserCreation where
  payload : AdminUserCreate
  mustChangePassword : Bool
  draw : AccountDraw

section Logins

variable (env : AuthEnv)

def UserCreation.create (e : UserCreation) (db : AuthDatabase) : Except PyError AuthDatabase :=
  createUser env db e.payload.username e.payload.email e.payload.password e.payload.role
    e.mustChangePassword e.draw

/-- The database after a call that may have failed. -/
def settleCreation (db : AuthDatabase) :
    Except PyError AuthDatabase → AuthDatabase × Option PyError
  | .ok next => (next, none)
  | .error error => (db, some error)

/-- The calls of `create_user` one after the other. -/
def creationMachine : Machine AuthDatabase UserCreation (Option PyError) where
  step db e := settleCreation db (e.create env db)

/-- `login.strip().lower()`. -/
def AuthEnv.normalizedLogin (login : String) : String := env.lower (Py.Text.strip login)

/-- A user whom the query of `authenticate` finds. -/
def AuthEnv.Names (login : String) (user : UserModel) : Prop :=
  user.username = env.normalizedLogin login ∨ user.email = env.normalizedLogin login

/-- **A login is unambiguous**: it names one user at most, and the username of a user who may
log in opens a session of that user, with that user's password. -/
structure AuthEnv.Unambiguous (db : AuthDatabase) : Prop where
  one : ∀ login, ∀ user ∈ db.val.users, ∀ user' ∈ db.val.users,
    env.Names login user → env.Names login user' → user = user'
  checksOwn : ∀ user ∈ db.val.users, user.isActive = true →
    ∀ login, env.normalizedLogin login = user.username → ∀ password userAgent draw now,
      (env.passwordMatches password user.passwordHash = false →
        authenticate env db login password userAgent draw now =
          .error (authenticationError "Invalid username or password")) ∧
      ∀ db' row, authenticate env db login password userAgent draw now = .ok (db', row) →
        row.userId = user.id

/-- A new username that is nobody's address, and a new address that is nobody's username. -/
def UserCreation.Apart (db : AuthDatabase) (e : UserCreation) : Prop :=
  ∀ user ∈ db.val.users, user.email ≠ env.normalizedLogin e.payload.username ∧
    user.username ≠ env.normalizedLogin e.payload.email

instance (db : AuthDatabase) (e : UserCreation) : Decidable (e.Apart env db) := by
  unfold UserCreation.Apart
  infer_instance

end Logins

section Rules

variable {env : AuthEnv} {db db' : AuthDatabase} {e : UserCreation}

/-! ## One call -/

/-- The row that `create_user` adds. -/
theorem create_eq_ok (h : e.create env db = .ok db') :
    ∃ row : UserModel, db'.val = { db.val with users := db.val.users ++ [row] } ∧
      row.username = env.normalizedLogin e.payload.username ∧
      row.email = env.normalizedLogin e.payload.email ∧
      ∀ user ∈ db.val.users, user.username ≠ row.username ∧ user.email ≠ row.email := by
  simp only [UserCreation.create, createUser, bind_eq_ok, raiseIf_eq_ok] at h
  obtain ⟨name, hname, -, -, -, hfree, hcommit⟩ := h
  have hnormalized : name = env.normalizedLogin e.payload.username := by
    simp only [AuthEnv.normalizeUsername, bind_eq_ok] at hname
    obtain ⟨-, -, hname⟩ := hname
    exact (Except.ok.inj hname).symm
  refine ⟨_, Sql.commit_eq_ok.mp hcommit, hnormalized, rfl, ?_⟩
  intro user huser
  have hnone := List.find?_eq_none.mp (Option.not_isSome_iff_eq_none.mp hfree) user huser
  simpa [AuthEnv.normalizedLogin] using hnone

theorem creationMachine_next (h : e.create env db = .ok db') :
    (creationMachine env).next db e = db' := by
  show (settleCreation db (e.create env db)).1 = db'
  rw [h]
  rfl

/-! ## What `authenticate` finds -/

/-- Where a login names one user at most, `authenticate` finds that user. -/
theorem find?_of_one
    (hone : ∀ login, ∀ user ∈ db.val.users, ∀ user' ∈ db.val.users,
      env.Names login user → env.Names login user' → user = user')
    {user : UserModel} (huser : user ∈ db.val.users) {login : String}
    (hlogin : env.normalizedLogin login = user.username) :
    (db.val.users.find? fun u => u.username = env.lower (Py.Text.strip login) ∨
      u.email = env.lower (Py.Text.strip login)) = some user := by
  cases hfound : db.val.users.find? fun u => u.username = env.lower (Py.Text.strip login) ∨
      u.email = env.lower (Py.Text.strip login) with
  | none =>
      have hnot := List.find?_eq_none.mp hfound user huser
      simp only [decide_eq_true_eq, not_or] at hnot
      exact absurd hlogin.symm hnot.1
  | some found =>
      have hnames := List.find?_some hfound
      rw [decide_eq_true_eq] at hnames
      rw [hone login found (List.mem_of_find?_eq_some hfound) user huser hnames
        (Or.inl hlogin.symm)]

/-- One user for a login is all there is to show. -/
theorem unambiguous_of_one
    (hone : ∀ login, ∀ user ∈ db.val.users, ∀ user' ∈ db.val.users,
      env.Names login user → env.Names login user' → user = user') :
    env.Unambiguous db := by
  refine ⟨hone, ?_⟩
  intro user huser hactive login hlogin password userAgent draw now
  have hfound := find?_of_one hone huser hlogin
  constructor
  · intro hmismatch
    unfold authenticate
    dsimp only
    rw [hfound]
    simp [Py.orRaise, Py.raiseIf, hactive, hmismatch]
  · intro db' row h
    simp only [authenticate, bind_eq_ok, orRaise_eq_ok] at h
    obtain ⟨found, hsome, -, -, -, -, committed, -, hreturn⟩ := h
    obtain rfl := Option.some.inj (hfound.symm.trans hsome)
    obtain ⟨-, rfl⟩ := Prod.mk.inj (Except.ok.inj hreturn)
    rfl

/-! ## A step and a run -/

/-- **What a new user does to the logins**: they stay unambiguous exactly if the user's two
names stay clear of the other column. -/
theorem unambiguous_next_iff (hdb : env.Unambiguous db) (h : e.create env db = .ok db') :
    env.Unambiguous db' ↔ e.Apart env db := by
  obtain ⟨row, hval, husername, hemail, hfree⟩ := create_eq_ok h
  have hmem : ∀ user, user ∈ db'.val.users ↔ user ∈ db.val.users ∨ user = row := by
    intro user
    rw [hval, List.mem_append, List.mem_singleton]
  constructor
  · -- a shared name would be a login of both users
    intro hunambiguous user huser
    have hother : user ≠ row := fun hsame => (hfree user huser).1 (by rw [hsame])
    constructor
    · intro hshared
      refine hother (hunambiguous.one e.payload.username user ((hmem user).mpr (Or.inl huser)) row
        ((hmem row).mpr (Or.inr rfl)) (Or.inr hshared) (Or.inl husername))
    · intro hshared
      refine hother (hunambiguous.one e.payload.email user ((hmem user).mpr (Or.inl huser)) row
        ((hmem row).mpr (Or.inr rfl)) (Or.inl hshared) (Or.inr hemail))
  · intro hapart
    -- a login of the new user is one of its two names, and no other user has it in a column
    have hnew : ∀ login, ∀ user ∈ db.val.users, env.Names login row →
        ¬ env.Names login user := by
      intro login user huser hrow huser'
      obtain ⟨hfreeName, hfreeEmail⟩ := hfree user huser
      obtain ⟨hcrossEmail, hcrossName⟩ := hapart user huser
      rcases hrow with hrow | hrow <;> rcases huser' with hother | hother
      · exact hfreeName (hother.trans hrow.symm)
      · exact hcrossEmail (hother.trans (hrow.symm.trans husername))
      · exact hcrossName (hother.trans (hrow.symm.trans hemail))
      · exact hfreeEmail (hother.trans hrow.symm)
    refine unambiguous_of_one ?_
    intro login user huser user' huser' hnames hnames'
    rcases (hmem user).mp huser with huser | rfl <;>
      rcases (hmem user').mp huser' with huser' | rfl
    · exact hdb.one login user huser user' huser' hnames hnames'
    · exact absurd hnames (hnew login user huser hnames')
    · exact absurd hnames' (hnew login user' huser' hnames)
    · rfl

/-- A call that adds a user. -/
def UserCreation.Succeeds (env : AuthEnv) (db : AuthDatabase) (e : UserCreation) : Prop :=
  ∃ db', e.create env db = .ok db'

/-- **When logins are unambiguous in every state** that calls of `create_user` lead to. -/
theorem always_unambiguous_iff (hdb : env.Unambiguous db) (es : List UserCreation)
    (hsucceed : (creationMachine env).Along (fun db e => e.Succeeds env db) db es) :
    (creationMachine env).Always env.Unambiguous db es ↔
      (creationMachine env).Along (fun db e => e.Apart env db) db es := by
  have hstep : ∀ db e, env.Unambiguous db →
      (env.Unambiguous ((creationMachine env).next db e) ↔
        (e.Succeeds env db → e.Apart env db)) := by
    intro db e hdb
    cases hcreate : e.create env db with
    | ok db' =>
        rw [creationMachine_next hcreate, unambiguous_next_iff hdb hcreate]
        exact ⟨fun hapart _ => hapart, fun hapart => hapart ⟨db', hcreate⟩⟩
    | error error =>
        have hnext : (creationMachine env).next db e = db := by
          show (settleCreation db (e.create env db)).1 = db
          rw [hcreate]
          rfl
        rw [hnext]
        refine iff_of_true hdb ?_
        rintro ⟨db', hok⟩
        cases hcreate.symm.trans hok
  rw [(creationMachine env).always_iff_along (W := fun _ => True) (fun _ _ _ => trivial)
    (fun db e _ hdb => hstep db e hdb) trivial hdb es]
  exact Machine.Along.given_iff _ hsucceed

theorem unambiguous_empty : env.Unambiguous emptyAuthDatabase :=
  unambiguous_of_one fun _ _ huser => absurd huser List.not_mem_nil

end Rules

/-! ## An address without an at sign -/

/-- Texts in place of the hashes, and the case mapping of `str.lower`. -/
def caseEnv : AuthEnv := { plainEnv with lower := Py.Text.lower }

/-- The creation of a user. -/
def newUser (id : UserId) (username email password : String)
    (husername : 1 ≤ username.length ∧ username.length ≤ 64)
    (hemail : 3 ≤ email.length ∧ email.length ≤ 320)
    (hpassword : 12 ≤ password.length ∧ password.length ≤ 1024) : UserCreation where
  payload := ⟨username, email, password, .user, husername, hemail, hpassword⟩
  mustChangePassword := true
  draw := ⟨id, 0⟩

/-- Two users with addresses of their own. -/
def apartCreations : List UserCreation :=
  [newUser 1 "Alice" "alice@example.org" "alice-password" (by decide) (by decide) (by decide),
    newUser 2 "Bob" "bob@example.org" "bob-password" (by decide) (by decide) (by decide)]

theorem always_unambiguous_apart :
    (creationMachine caseEnv).Always caseEnv.Unambiguous emptyAuthDatabase apartCreations := by
  refine (always_unambiguous_iff unambiguous_empty apartCreations ?_).mpr ?_
  · exact ⟨⟨_, rfl⟩, ⟨_, rfl⟩, trivial⟩
  · decide +kernel

/-- A user whose address is the username of the next one. -/
def crossedCreations : List UserCreation :=
  [newUser 1 "Alice" "Bob" "alice-password" (by decide) (by decide) (by decide),
    newUser 2 "Bob" "bob@example.org" "bob-password" (by decide) (by decide) (by decide)]

/-- The two users, as they are stored. -/
def crossedUsers : List UserModel :=
  [⟨1, "alice", "bob", "alice-password", .user, true, true, none⟩,
    ⟨2, "bob", "bob@example.org", "bob-password", .user, true, true, none⟩]

/-- **A login of two users**: both calls succeed, `bob` names both users, and is refused with
the password of the user who is called so. -/
theorem crossed_login_names_both :
    (creationMachine caseEnv).Along (fun db e => e.Succeeds caseEnv db) emptyAuthDatabase
        crossedCreations ∧
      ¬ caseEnv.Unambiguous ((creationMachine caseEnv).run emptyAuthDatabase crossedCreations) ∧
      (authenticate caseEnv ((creationMachine caseEnv).run emptyAuthDatabase crossedCreations)
        "bob" "bob-password" none ⟨1, "token", "csrf"⟩ 0).isOk = false := by
  have husers : ((creationMachine caseEnv).run emptyAuthDatabase crossedCreations).val.users =
      crossedUsers := by decide +kernel
  refine ⟨⟨⟨_, rfl⟩, ⟨_, rfl⟩, trivial⟩, ?_, by decide +kernel⟩
  intro h
  have hsame := h.one "bob" (crossedUsers.get ⟨0, by decide⟩) (by rw [husers]; decide)
    (crossedUsers.get ⟨1, by decide⟩) (by rw [husers]; decide) (Or.inr (by decide +kernel))
    (Or.inl (by decide +kernel))
  revert hsame
  decide

end BondTrading
