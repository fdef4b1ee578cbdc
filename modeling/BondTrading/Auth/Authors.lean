/-
# BondTrading.Auth.Authors -- who writes the accounts

`call_authored` says once what passes the checks of a route: a call on the session or the
account of the user that was let in, or an administrator's call.  With what each call writes to
the users (`authMachine_users`) every change of an account in a history has its author.
-/
import BondTrading.Auth.Access

namespace BondTrading

open Py (Instant)
open Machines (Machine Entry)

/-! ## Let in -/

namespace AccessEvent

variable (env : AuthEnv) (db : AuthDatabase)

/-- The token an event presents. -/
def token : AccessEvent → Option String
  | .api p _ _ => p.token env
  | .web p _ _ => Py.Text.given p.sessionCookie
  | _ => none

/-- The event has to present the CSRF token as well. -/
def needsCsrf : AccessEvent → Bool
  | .api p request _ => !request.isSafe && (bearerCredentials env p.authorization).isNone
  | .web _ request _ => !request.isSafe
  | _ => false

def csrf : AccessEvent → Option String
  | .api p _ _ | .web p _ _ => Py.Text.given p.csrf
  | _ => none

def now : AccessEvent → Instant
  | .login _ _ _ _ now | .loginSubmit _ _ _ _ now | .api _ _ now | .web _ _ now
  | .started _ _ _ _ now => now

/-- The password that a change presents as the old one. -/
def currentPassword : AccessEvent → Option String
  | .api _ (.changePassword current _ _) _ => some current
  | .web _ (.accountChangePassword current _ _) _ => some current
  | _ => none

/-- The role an administrator gives to a new account. -/
def newRole : AccessEvent → Option UserRole
  | .api _ (.createUser _ _ _ role _) _ => some role
  | .web _ (.adminCreateUser _ _ _ role _) _ => some role
  | _ => none

/-- The configuration of a start. -/
def settings : AccessEvent → Option AuthSettings
  | .started settings _ _ _ _ => some settings
  | _ => none

/-- **Whom the checks let in**: the session of the token, and for a request that changes
something the CSRF token. -/
def letIn (e : AccessEvent) : Option AuthenticatedSession :=
  match e with
  | .api p request now => (getAuthenticatedSession env db p request.isSafe now).toOption
  | .web p request now =>
      ((getCurrentWebAuth env db p now).bind fun auth =>
        if request.isSafe = false then
          (requireForm p []).bind fun _ => (verifyForm env auth p).map fun _ => auth
        else .ok auth).toOption
  | _ => none

end AccessEvent

variable {env : AuthEnv} {db : AuthDatabase}

theorem verifyCsrf_eq_ok {session : AuthSessionModel} {csrf : Option String} :
    verifyCsrf env session csrf = .ok () ↔
      (Py.Text.given csrf).map env.tokenHash = some session.csrfTokenHash := by
  rw [verifyCsrf, Py.raiseIf_eq_ok, not_not]

theorem getAuthenticatedSession_eq_ok {p : Presented} {isSafe : Bool} {now : Instant}
    {auth : AuthenticatedSession} :
    getAuthenticatedSession env db p isSafe now = .ok auth ↔
      ∃ token, p.token env = some token ∧
        resolve env db token now = .ok (auth.session, auth.user) ∧
        ((!isSafe && (bearerCredentials env p.authorization).isNone) = true →
          (Py.Text.given p.csrf).map env.tokenHash = some auth.session.csrfTokenHash) ∧
        auth.viaBearer = (bearerCredentials env p.authorization).isSome := by
  have hneeds : (!isSafe && (bearerCredentials env p.authorization).isNone) = true ↔
      isSafe = false ∧ (bearerCredentials env p.authorization).isSome = false := by
    cases isSafe <;> cases bearerCredentials env p.authorization <;> simp
  rw [hneeds]
  obtain ⟨user, session, viaBearer⟩ := auth
  unfold getAuthenticatedSession
  cases htoken : p.token env with
  | none => simp
  | some token =>
      dsimp only
      cases hresolve : resolve env db token now with
      | error e =>
          constructor
          · intro h
            cases h
          · rintro ⟨_, hsame, hother, -⟩
            obtain rfl := Option.some.inj hsame
            cases hresolve.symm.trans hother
      | ok r =>
          obtain ⟨row, found⟩ := r
          dsimp only
          constructor
          · intro h
            split at h
            · -- the CSRF token is asked for
              split at h
              · cases h
              · rename_i hcsrf
                cases h
                exact ⟨token, rfl, hresolve, fun _ => verifyCsrf_eq_ok.mp hcsrf, rfl⟩
            · rename_i hfree
              cases h
              exact ⟨token, rfl, hresolve, fun hasked => absurd hasked hfree, rfl⟩
          · rintro ⟨_, htoken', hsame, hcsrf, rfl⟩
            obtain rfl := Option.some.inj htoken'
            obtain ⟨rfl, rfl⟩ := Prod.mk.inj (Except.ok.inj (hresolve.symm.trans hsame))
            split
            · rename_i hasked
              rw [verifyCsrf_eq_ok.mpr (hcsrf hasked)]
            · rfl

theorem getCurrentWebAuth_eq_ok {p : Presented} {now : Instant} {auth : AuthenticatedSession} :
    getCurrentWebAuth env db p now = .ok auth ↔
      ∃ token, Py.Text.given p.sessionCookie = some token ∧
        resolve env db token now = .ok (auth.session, auth.user) ∧ auth.viaBearer = false := by
  obtain ⟨user, session, viaBearer⟩ := auth
  unfold getCurrentWebAuth
  cases htoken : Py.Text.given p.sessionCookie with
  | none => simp
  | some token =>
      dsimp only
      cases hresolve : resolve env db token now with
      | error e =>
          constructor
          · intro h
            cases h
          · rintro ⟨_, hsame, hother, -⟩
            obtain rfl := Option.some.inj hsame
            cases hresolve.symm.trans hother
      | ok r =>
          obtain ⟨row, found⟩ := r
          dsimp only
          constructor
          · intro h
            cases h
            exact ⟨token, rfl, hresolve, rfl⟩
          · rintro ⟨_, htoken', hsame, rfl⟩
            obtain rfl := Option.some.inj htoken'
            obtain ⟨rfl, rfl⟩ := Prod.mk.inj (Except.ok.inj (hresolve.symm.trans hsame))
            rfl

theorem toOption_eq_some {ε α : Type} {x : Except ε α} {a : α} :
    x.toOption = some a ↔ x = .ok a := by
  cases x <;> simp [Except.toOption]

/-- The checks of a form, for the token of a session. -/
theorem form_eq_ok {auth : AuthenticatedSession} {p : Presented} :
    (requireForm p [] = .ok () ∧ verifyForm env auth p = .ok ()) ↔
      (Py.Text.given p.csrf).map env.tokenHash = some auth.session.csrfTokenHash := by
  have hform : verifyForm env auth p = .ok () ↔ verifyCsrf env auth.session p.csrf = .ok () := by
    unfold verifyForm
    cases verifyCsrf env auth.session p.csrf <;> simp [Except.mapError]
  rw [hform, verifyCsrf_eq_ok, requireForm, Py.raiseIf_eq_ok]
  constructor
  · exact fun h => h.2
  · intro h
    refine ⟨?_, h⟩
    rintro (hnone | hfield)
    · rw [hnone] at h
      cases h
    · exact absurd hfield List.not_mem_nil

theorem letInWeb_eq_ok {p : Presented} {now : Instant} {isSafe : Bool}
    {auth : AuthenticatedSession} :
    ((getCurrentWebAuth env db p now).bind fun auth =>
        if isSafe = false then
          (requireForm p []).bind fun _ => (verifyForm env auth p).map fun _ => auth
        else .ok auth) = .ok auth ↔
      getCurrentWebAuth env db p now = .ok auth ∧
        (isSafe = false →
          (Py.Text.given p.csrf).map env.tokenHash = some auth.session.csrfTokenHash) := by
  cases getCurrentWebAuth env db p now with
  | error answer =>
      constructor
      · intro h
        cases h
      · rintro ⟨h, -⟩
        cases h
  | ok found =>
      show (if isSafe = false then _ else _) = _ ↔ _
      cases isSafe with
      | true =>
          rw [if_neg Bool.noConfusion]
          exact ⟨fun h => ⟨h, fun hfalse => Bool.noConfusion hfalse⟩, fun h => h.1⟩
      | false =>
          rw [if_pos rfl, ← form_eq_ok]
          constructor
          · intro h
            obtain ⟨_, hform, hrest⟩ := Py.bind_eq_ok.mp h
            obtain ⟨_, hverify, rfl⟩ := Py.map_eq_ok.mp hrest
            exact ⟨rfl, fun _ => ⟨hform, hverify⟩⟩
          · rintro ⟨hfound, hcsrf⟩
            obtain rfl := Except.ok.inj hfound
            obtain ⟨hform, hverify⟩ := hcsrf rfl
            rw [hform, hverify]
            rfl

/-- **Letting in, in terms of the tokens.** -/
theorem letIn_eq_some {e : AccessEvent} {auth : AuthenticatedSession} :
    e.letIn env db = some auth ↔
      ∃ token, e.token env = some token ∧
        resolve env db token e.now = .ok (auth.session, auth.user) ∧
        (e.needsCsrf env = true →
          e.csrf.map env.tokenHash = some auth.session.csrfTokenHash) ∧
        auth.viaBearer = match e with
          | .api p _ _ => (bearerCredentials env p.authorization).isSome
          | _ => false := by
  cases e with
  | login | loginSubmit | started => simp [AccessEvent.letIn, AccessEvent.token]
  | api p request now =>
      show (getAuthenticatedSession env db p request.isSafe now).toOption = some auth ↔ _
      rw [toOption_eq_some]
      exact getAuthenticatedSession_eq_ok
  | web p request now =>
      show Except.toOption _ = some auth ↔ _
      rw [toOption_eq_some, letInWeb_eq_ok, getCurrentWebAuth_eq_ok]
      show (∃ token, _) ∧ _ ↔ ∃ token, _ ∧ _ ∧ ((!request.isSafe) = true → _) ∧ _
      rw [Bool.not_eq_true']
      constructor
      · rintro ⟨⟨token, htoken, hresolve, hcookie⟩, hcsrf⟩
        exact ⟨token, htoken, hresolve, hcsrf, hcookie⟩
      · rintro ⟨token, htoken, hresolve, hcsrf, hcookie⟩
        exact ⟨⟨token, htoken, hresolve, hcookie⟩, hcsrf⟩

/-! ## What passes the checks -/

/-- **Whose call it is.** -/
inductive Authored (env : AuthEnv) (db : AuthDatabase) (e : AccessEvent) : AuthEvent → Prop
  | login {name password : String} {userAgent : Option String} {draw : SessionDraw} {now : Instant}
      (h : e = .login name password userAgent draw now ∨
        e = .loginSubmit name password userAgent draw now) :
      Authored env db e (.authenticate name password userAgent draw now)
  | start {settings : AuthSettings} {admin user1 user2 : AccountDraw} {now : Instant}
      (h : e = .started settings admin user1 user2 now) :
      Authored env db e (.ensureBootstrapUsers settings admin user1 user2 now)
  | logout {auth : AuthenticatedSession} (h : e.letIn env db = some auth) :
      Authored env db e (.revoke auth.session.id e.now)
  | password {auth : AuthenticatedSession} (h : e.letIn env db = some auth)
      {current : String} (hcurrent : e.currentPassword = some current) (new : String) (salt : ℕ) :
      Authored env db e (.changePassword auth.user.id current new salt e.now)
  | creation {auth : AuthenticatedSession} (h : e.letIn env db = some auth)
      (hadmin : auth.user.role = .admin) {role : UserRole} (hrole : e.newRole = some role)
      (username email password : String) (draw : AccountDraw) :
      Authored env db e (.createUser username email password role true draw)
  | activity {auth : AuthenticatedSession} (h : e.letIn env db = some auth)
      (hadmin : auth.user.role = .admin) {user : UserId} {active : Bool}
      (hself : user = auth.user.id → active = true) :
      Authored env db e (.setActive user active e.now)

theorem of_eq_calls {x : Except AccessAnswer Checked} {use : ServiceUse}
    (h : Checked.of x = .calls use) : x = .ok (.calls use) := by
  cases x with
  | ok checked => exact congrArg Except.ok h
  | error answer => cases h

theorem requireAdministrator_eq_ok {auth : AuthenticatedSession} :
    requireAdministrator auth = .ok () ↔ auth.user.role = .admin := by
  rw [requireAdministrator, Py.raiseIf_eq_ok, not_not]

theorem authenticatedApi_authored {auth : AuthenticatedSession} {now : Instant}
    {p : Presented} {request : ApiRequest} {use : ServiceUse}
    (hin : (AccessEvent.api p request now).letIn env db = some auth)
    (h : authenticatedApi db auth now request = .ok (.calls use)) :
    Authored env db (.api p request now) use.call := by
  cases request with
  | me | other isSafe => cases h
  | logout =>
      cases h
      exact .logout hin
  | changePassword current new salt =>
      obtain ⟨_, -, hreturn⟩ := Py.bind_eq_ok.mp h
      cases hreturn
      exact .password hin rfl new salt
  | listUsers =>
      obtain ⟨_, -, hreturn⟩ := Py.bind_eq_ok.mp h
      cases hreturn
  | createUser username email password role draw =>
      obtain ⟨_, hadmin, hrest⟩ := Py.bind_eq_ok.mp h
      obtain ⟨_, -, hreturn⟩ := Py.bind_eq_ok.mp hrest
      cases hreturn
      exact .creation hin (requireAdministrator_eq_ok.mp hadmin) rfl username email password draw
  | updateUser user isActive =>
      obtain ⟨_, hadmin, hrest⟩ := Py.bind_eq_ok.mp h
      obtain ⟨row, -, hrest⟩ := Py.bind_eq_ok.mp hrest
      obtain ⟨_, hself, hreturn⟩ := Py.bind_eq_ok.mp hrest
      cases hreturn
      refine .activity hin (requireAdministrator_eq_ok.mp hadmin) fun hsame => ?_
      have hblocked := Py.raiseIf_eq_ok.mp hself
      exact Bool.of_not_eq_false fun hfalse => hblocked ⟨hsame, hfalse⟩

theorem authenticatedWeb_authored {auth : AuthenticatedSession} {now : Instant}
    {p : Presented} {request : WebRequest} {use : ServiceUse}
    (hauth : getCurrentWebAuth env db p now = .ok auth)
    (h : authenticatedWeb env db p auth now request = .ok (.calls use)) :
    Authored env db (.web p request now) use.call := by
  -- a form that passed its checks is let in
  have hin : ∀ fields, request.isSafe = false → requireForm p fields = .ok () →
      verifyForm env auth p = .ok () → (AccessEvent.web p request now).letIn env db = some auth := by
    intro fields _ hform hverify
    refine toOption_eq_some.mpr (letInWeb_eq_ok.mpr ⟨hauth, fun _ => form_eq_ok.mp ⟨?_, hverify⟩⟩)
    have hfields := Py.raiseIf_eq_ok.mp hform
    exact Py.raiseIf_eq_ok.mpr fun hor => hfields (Or.inl (hor.resolve_right List.not_mem_nil))
  cases request with
  | adminPage =>
      obtain ⟨_, -, hreturn⟩ := Py.bind_eq_ok.mp h
      cases hreturn
  | other isSafe =>
      cases isSafe with
      | true => cases h
      | false =>
          obtain ⟨_, -, hrest⟩ := Py.bind_eq_ok.mp h
          obtain ⟨_, -, hreturn⟩ := Py.bind_eq_ok.mp hrest
          cases hreturn
  | logoutSubmit =>
      obtain ⟨_, hform, hrest⟩ := Py.bind_eq_ok.mp h
      obtain ⟨_, hverify, hreturn⟩ := Py.bind_eq_ok.mp hrest
      cases hreturn
      exact .logout (hin _ rfl hform hverify)
  | accountChangePassword current new salt =>
      obtain ⟨_, hform, hrest⟩ := Py.bind_eq_ok.mp h
      obtain ⟨_, hverify, hreturn⟩ := Py.bind_eq_ok.mp hrest
      cases hreturn
      exact .password (hin _ rfl hform hverify) rfl new salt
  | adminCreateUser username email password role draw =>
      obtain ⟨_, hform, hrest⟩ := Py.bind_eq_ok.mp h
      obtain ⟨_, hadmin, hrest⟩ := Py.bind_eq_ok.mp hrest
      obtain ⟨_, hverify, hreturn⟩ := Py.bind_eq_ok.mp hrest
      cases hreturn
      exact .creation (hin _ rfl hform hverify) (requireAdministrator_eq_ok.mp hadmin) rfl username
        email password draw
  | adminToggleUser user =>
      obtain ⟨_, hform, hrest⟩ := Py.bind_eq_ok.mp h
      obtain ⟨_, hadmin, hrest⟩ := Py.bind_eq_ok.mp hrest
      obtain ⟨_, hverify, hrest⟩ := Py.bind_eq_ok.mp hrest
      obtain ⟨row, -, hrest⟩ := Py.bind_eq_ok.mp hrest
      obtain ⟨_, hself, hreturn⟩ := Py.bind_eq_ok.mp hrest
      cases hreturn
      exact .activity (hin _ rfl hform hverify) (requireAdministrator_eq_ok.mp hadmin)
        fun hsame => absurd hsame (Py.raiseIf_eq_ok.mp hself)

/-- **Every call of the service has its author.** -/
theorem call_authored {e : AccessEvent} {c : AuthEvent} (h : e.call env db = some c) :
    Authored env db e c := by
  unfold AccessEvent.call at h
  split at h
  · cases h
  · rename_i use hcheck
    obtain rfl := Option.some.inj h
    cases e with
    | login name password userAgent draw now =>
        dsimp only [AccessEvent.check] at hcheck
        split at hcheck
        · cases hcheck
          exact .login (Or.inl rfl)
        · cases hcheck
    | loginSubmit name password userAgent draw now =>
        dsimp only [AccessEvent.check] at hcheck
        split at hcheck
        · cases hcheck
        · cases hcheck
          exact .login (Or.inr rfl)
    | started admin user1 user2 now =>
        cases hcheck
        exact .start rfl
    | api p request now =>
        obtain ⟨auth, hauth, hrest⟩ := Py.bind_eq_ok.mp (of_eq_calls hcheck)
        exact authenticatedApi_authored (toOption_eq_some.mpr hauth) hrest
    | web p request now =>
        obtain ⟨auth, hauth, hrest⟩ := Py.bind_eq_ok.mp (of_eq_calls hcheck)
        exact authenticatedWeb_authored hauth hrest

/-! ## What a call writes to the accounts -/

/-- The account after the call: its names and its role are what they were; another password
comes from its owner, who knows the old one, or from the configuration; and only `set_active`
blocks or unblocks it. -/
structure Alters (env : AuthEnv) (c : AuthEvent) (u u' : UserModel) : Prop where
  id : u'.id = u.id
  username : u'.username = u.username
  email : u'.email = u.email
  role : u'.role = u.role
  password : u'.passwordHash ≠ u.passwordHash →
    (∃ current new salt now, c = .changePassword u.id current new salt now ∧
        env.verify current u.passwordHash = .ok true) ∨
      ∃ settings admin user1 user2 now,
        c = .ensureBootstrapUsers settings admin user1 user2 now
  activity : u'.isActive ≠ u.isActive → ∃ now, c = .setActive u.id u'.isActive now

theorem Alters.refl (env : AuthEnv) (c : AuthEvent) (u : UserModel) : Alters env c u u :=
  ⟨rfl, rfl, rfl, rfl, fun h => absurd rfl h, fun h => absurd rfl h⟩

/-- `users` of `ensure_bootstrap_users`. -/
def AuthSettings.bootstrapAccounts (s : AuthSettings) : List BootstrapAccount :=
  [s.bootstrapAdmin, s.bootstrapUser1, s.bootstrapUser2]

/-- The row is one of the starting accounts. -/
def Starts (env : AuthEnv) (settings : AuthSettings) (u' : UserModel) : Prop :=
  ∃ account ∈ settings.bootstrapAccounts,
    env.normalizeUsername account.username = .ok u'.username ∧ u'.role = account.role

/-- A new account, with its role: of `create_user`, or a starting one. -/
def Creates (env : AuthEnv) (c : AuthEvent) (u' : UserModel) : Prop :=
  (∃ username email password mustChangePassword draw,
    c = .createUser username email password u'.role mustChangePassword draw) ∨
      ∃ settings, (∃ admin user1 user2 now,
        c = .ensureBootstrapUsers settings admin user1 user2 now) ∧ Starts env settings u'

/-- **What a call does to the accounts**: it rewrites the ones there are, creates others under
new identifiers, and removes none. -/
structure Accounts (env : AuthEnv) (c : AuthEvent) (before after : List UserModel) : Prop where
  rows : ∀ u' ∈ after, (∃ u ∈ before, Alters env c u u') ∨
    ((∀ u ∈ before, u.id ≠ u'.id) ∧ Creates env c u')
  kept : ∀ u ∈ before, ∃ u' ∈ after, u'.id = u.id

theorem Accounts.refl (env : AuthEnv) (c : AuthEvent) (users : List UserModel) :
    Accounts env c users users :=
  ⟨fun u hu => Or.inl ⟨u, hu, .refl env c u⟩, fun u hu => ⟨u, hu, rfl⟩⟩

/-- The pass so far: rewritten passwords, and starting accounts. -/
structure PassAccounts (env : AuthEnv) (settings : AuthSettings) (c : AuthEvent)
    (users : List UserModel) (acc : BootstrapPass) : Prop where
  rows : ∀ u' ∈ acc.tables.users, ∃ u ∈ users, Alters env c u u'
  ids : acc.tables.users.map UserModel.id = users.map UserModel.id
  added : ∀ u' ∈ acc.added, Starts env settings u'

theorem PassAccounts.step {settings : AuthSettings} {admin user1 user2 : AccountDraw}
    {now later : Instant} {users : List UserModel} {acc acc' : BootstrapPass}
    {item : BootstrapAccount × AccountDraw}
    (hacc : PassAccounts env settings (.ensureBootstrapUsers settings admin user1 user2 later)
      users acc)
    (hitem : item.1 ∈ settings.bootstrapAccounts)
    (h : bootstrapStep env now acc item = .ok acc') :
    PassAccounts env settings (.ensureBootstrapUsers settings admin user1 user2 later) users
      acc' := by
  simp only [bootstrapStep, Py.bind_eq_ok] at h
  obtain ⟨-, -, name, hname, h⟩ := h
  split at h
  · split at h
    · obtain rfl := Except.ok.inj h
      refine ⟨fun u'' hu'' => ?_, ?_, hacc.added⟩
      · -- the administrator's password is rotated
        obtain ⟨u', hu', rfl⟩ := mem_updateUser.mp hu''
        obtain ⟨u, hu, hrewrites⟩ := hacc.rows u' hu'
        refine ⟨u, hu, ?_⟩
        split
        · exact ⟨hrewrites.id, hrewrites.username, hrewrites.email, hrewrites.role,
            fun _ => Or.inr ⟨_, _, _, _, _, rfl⟩, hrewrites.activity⟩
        · exact hrewrites
      · rw [← hacc.ids]
        refine Sql.map_updateWhere _ _ _ ?_ _
        exact fun _ => rfl
    · obtain rfl := Except.ok.inj h
      exact hacc
  · obtain rfl := Except.ok.inj h
    refine ⟨hacc.rows, hacc.ids, fun u' hu' => ?_⟩
    rcases List.mem_append.mp hu' with hu | hu
    · exact hacc.added u' hu
    · obtain rfl := List.mem_singleton.mp hu
      exact ⟨item.1, hitem, hname, rfl⟩

abbrev AccessEntry := Entry AuthDatabase AccessEvent AccessAnswer

theorem accessMachine_next (env : AuthEnv) (db : AuthDatabase) (e : AccessEvent) :
    (accessMachine env).next db e =
      match e.call env db with
      | none => db
      | some c => (authMachine env).next db c := by
  unfold AccessEvent.call Machine.next accessMachine
  dsimp only
  cases e.check env db <;> rfl

end BondTrading
