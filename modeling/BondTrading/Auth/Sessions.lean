/-
# BondTrading.Auth.Sessions -- `AuthService` as a machine, and what each call does

What the history of calls says about a token: a `Grant` is issued by a login and ended
by a logout of that session, a password change, a block or a bootstrap rotation of its
user.  `authMachine_next` says once what a call can do to the rows: it opens the session
of one grant, or it revokes exactly the sessions its line of the history ends.
-/
import BondTrading.Auth.Service
import BondTrading.Machines.Runs

namespace BondTrading

open Py (Instant)
open Sql (UniqueOn updateWhere mem_updateWhere)
open Machines (Machine Entry Since)

/-! ## The machine -/

/-- One call of the service, with what it draws and the clock it reads. -/
inductive AuthEvent where
  | authenticate (login password : String) (userAgent : Option String) (draw : SessionDraw)
      (now : Instant)
  | revoke (session : SessionId) (now : Instant)
  | changePassword (user : UserId) (currentPassword newPassword : String) (salt : ℕ)
      (now : Instant)
  | setActive (user : UserId) (active : Bool) (now : Instant)
  /-- A start of the process, with the configuration of that time. -/
  | ensureBootstrapUsers (settings : AuthSettings) (admin user1 user2 : AccountDraw)
      (now : Instant)
  | createUser (username email password : String) (role : UserRole) (mustChangePassword : Bool)
      (draw : AccountDraw)

inductive AuthResponse where
  | credentials (session : AuthSessionModel) (token : String)
  | done
  | failed (error : PyError)

/-- A call that raises leaves the committed tables as they were. -/
def settle (db : AuthDatabase) :
    Except PyError (AuthDatabase × AuthResponse) → AuthDatabase × AuthResponse
  | .ok answer => answer
  | .error e => (db, .failed e)

/-- A call that returns nothing. -/
def settleDone (db : AuthDatabase) (x : Except PyError AuthDatabase) :
    AuthDatabase × AuthResponse :=
  settle db (x.map fun db' => (db', .done))

def authMachine (env : AuthEnv) : Machine AuthDatabase AuthEvent AuthResponse where
  step db
    | .authenticate login password userAgent draw now =>
        settle db ((authenticate env db login password userAgent draw now).map fun r =>
          (r.1, .credentials r.2 draw.token))
    | .revoke session now => settleDone db (revoke db session now)
    | .changePassword user current new salt now =>
        settleDone db (changePassword env db user current new salt now)
    | .setActive user active now => settleDone db (setActive db user active now)
    | .ensureBootstrapUsers settings admin user1 user2 now =>
        settleDone db (ensureBootstrapUsers env settings db admin user1 user2 now)
    | .createUser username email password role mustChangePassword draw =>
        settleDone db (createUser env db username email password role mustChangePassword draw)

abbrev AuthEntry := Entry AuthDatabase AuthEvent AuthResponse

/-! ## Grants -/

/-- A token handed out: to whom, for which session row, and when. -/
structure Grant where
  token : String
  session : SessionId
  user : UserId
  issuedAt : Instant
  deriving DecidableEq, Repr

/-- The grant a line of the history issues. -/
def grantOf (x : AuthEntry) : Option Grant :=
  match x.event, x.response with
  | .authenticate _ _ _ _ now, .credentials row token => some ⟨token, row.id, row.userId, now⟩
  | _, _ => none

/-- The pass rotates the password of `user`: the bootstrap administrator exists under
that identifier and the configured password is not the stored one. -/
def AuthEnv.Rotates (env : AuthEnv) (settings : AuthSettings) (db : AuthDatabase)
    (user : UserId) : Prop :=
  ∃ row ∈ db.val.users, row.id = user ∧
    env.normalizeUsername settings.bootstrapAdminUsername = .ok row.username ∧
    env.passwordMatches settings.bootstrapAdminPassword row.passwordHash = false

/-- The grants the call is against: those of `session`, a session of `user`. -/
def AuthEnv.Targets (env : AuthEnv) (db : AuthDatabase) (e : AuthEvent) (session : SessionId)
    (user : UserId) : Prop :=
  match e with
  | .revoke s _ => s = session
  | .changePassword u _ _ _ _ => u = user
  | .setActive u active _ => active = false ∧ u = user
  | .ensureBootstrapUsers settings _ _ _ _ => env.Rotates settings db user
  | _ => False

/-- The line ends them: the call returned. -/
def Ends (env : AuthEnv) (session : SessionId) (user : UserId) (x : AuthEntry) : Prop :=
  x.response = .done ∧ env.Targets x.before x.event session user

/-- **The grant stands**: it was issued, and nothing has ended it since. -/
def Stands (env : AuthEnv) (hist : List AuthEntry) (g : Grant) : Prop :=
  Since (fun x => grantOf x = some g) (Ends env g.session g.user) hist

/-- What a session row keeps of its grant. -/
structure Stamp where
  session : SessionId
  user : UserId
  tokenHash : String
  expiresAt : Instant
  deriving DecidableEq, Repr

def AuthSessionModel.stamp (s : AuthSessionModel) : Stamp :=
  ⟨s.id, s.userId, s.tokenHash, s.expiresAt⟩

def Grant.stamp (env : AuthEnv) (g : Grant) : Stamp :=
  ⟨g.session, g.user, env.tokenHash g.token, env.expiresAt g.issuedAt⟩

/-! ## What each call does -/

/-- The call opens a session for the grant `g`. -/
structure Opens (env : AuthEnv) (g : Grant) (before after : AuthTables) : Prop where
  session : ∃ row : AuthSessionModel, after.sessions = before.sessions ++ [row] ∧
    row.stamp = g.stamp env ∧ row.revokedAt = none
  user : ∀ u ∈ after.users, u.id = g.user → u.isActive = true
  activity : ∀ u' ∈ after.users, ∃ u ∈ before.users, u.id = u'.id ∧ u.isActive = u'.isActive

/-- The call revokes the sessions in `ends` and no others, and a user it leaves blocked
was blocked before or has every session in `ends`. -/
structure Closes (ends : SessionId → UserId → Prop) (before after : AuthTables) : Prop where
  stamps : after.sessions.map AuthSessionModel.stamp = before.sessions.map AuthSessionModel.stamp
  rows : ∀ r' ∈ after.sessions, ∃ r ∈ before.sessions, r.stamp = r'.stamp ∧
    (r'.revokedAt = none ↔ r.revokedAt = none ∧ ¬ ends r.id r.userId)
  activity : ∀ u' ∈ after.users, u'.isActive = false →
    (∃ u ∈ before.users, u.id = u'.id ∧ u.isActive = false) ∨ ∀ s, ends s u'.id

/-- Nothing is written. -/
theorem Closes.refl {ends : SessionId → UserId → Prop} (h : ∀ s u, ¬ ends s u) (t : AuthTables) :
    Closes ends t t where
  stamps := rfl
  rows r hr := ⟨r, hr, rfl, by simp [h]⟩
  activity u hu hblocked := Or.inl ⟨u, hu, rfl, hblocked⟩

/-- `UPDATE auth_sessions SET revoked_at WHERE p`, and an update of the users that
blocks only users all of whose sessions it ends. -/
theorem Closes.of_update {ends : SessionId → UserId → Prop} {before after : AuthTables}
    (p : AuthSessionModel → Bool) (now : Instant)
    (hsessions : after.sessions =
      updateWhere p (fun s => { s with revokedAt := some now }) before.sessions)
    (hp : ∀ r, r.revokedAt = none → (p r = true ↔ ends r.id r.userId))
    (hactivity : ∀ u' ∈ after.users, u'.isActive = false →
      (∃ u ∈ before.users, u.id = u'.id ∧ u.isActive = false) ∨ ∀ s, ends s u'.id) :
    Closes ends before after := by
  refine ⟨?_, ?_, hactivity⟩
  · rw [hsessions]
    exact Sql.map_updateWhere p (fun s => { s with revokedAt := some now })
      AuthSessionModel.stamp (fun _ => rfl) _
  · intro r' hr'
    rw [hsessions] at hr'
    obtain ⟨r, hr, rfl⟩ := mem_updateWhere.mp hr'
    refine ⟨r, hr, ?_⟩
    by_cases hpr : p r = true
    · rw [if_pos hpr]
      refine ⟨rfl, ⟨fun h => absurd h (by simp), fun h => ?_⟩⟩
      exact absurd ((hp r h.1).mp hpr) h.2
    · rw [if_neg hpr]
      exact ⟨rfl, ⟨fun h => ⟨h, fun he => hpr ((hp r h).mpr he)⟩, fun h => h.1⟩⟩

/-- The sessions stay as they are. -/
theorem Closes.of_eq {ends : SessionId → UserId → Prop} {before after : AuthTables}
    (hsessions : after.sessions = before.sessions) (hends : ∀ s u, ¬ ends s u)
    (hactivity : ∀ u' ∈ after.users, u'.isActive = false →
      ∃ u ∈ before.users, u.id = u'.id ∧ u.isActive = false) : Closes ends before after := by
  refine Closes.of_update (fun _ => false) 0 ?_ ?_ ?_
  · rw [hsessions, Sql.updateWhere_eq_self fun _ _ => rfl]
  · intro r _
    simp [hends]
  · intro u hu hblocked
    exact Or.inl (hactivity u hu hblocked)

theorem mem_updateUser {t : AuthTables} {user : UserId} {f : UserModel → UserModel}
    {u' : UserModel} :
    u' ∈ (t.updateUser user f).users ↔ ∃ u ∈ t.users, u' = if u.id = user then f u else u := by
  simp only [AuthTables.updateUser, mem_updateWhere, decide_eq_true_eq]

/-- An update that writes neither the key nor the block of a user. -/
theorem activity_updateUser {t : AuthTables} {user : UserId} {f : UserModel → UserModel}
    {u' : UserModel} (hu' : u' ∈ (t.updateUser user f).users) (hid : ∀ u, (f u).id = u.id)
    (hactive : ∀ u, (f u).isActive = u.isActive) :
    ∃ u ∈ t.users, u.id = u'.id ∧ u.isActive = u'.isActive := by
  obtain ⟨u, hu, rfl⟩ := mem_updateUser.mp hu'
  refine ⟨u, hu, ?_⟩
  split
  · exact ⟨(hid u).symm, (hactive u).symm⟩
  · exact ⟨rfl, rfl⟩

/-- Revoking the sessions of the one user the call is about. -/
theorem Closes.of_revokeUserSessions {ends : SessionId → UserId → Prop} {before : AuthTables}
    (t : AuthTables) {user : UserId} {now : Instant} (hsessions : t.sessions = before.sessions)
    (hends : ∀ s u, ends s u ↔ u = user)
    (hactivity : ∀ u' ∈ t.users, u'.isActive = false →
      (∃ u ∈ before.users, u.id = u'.id ∧ u.isActive = false) ∨ u'.id = user) :
    Closes ends before (t.revokeUserSessions user now) := by
  refine Closes.of_update (fun s => s.userId = user ∧ s.revokedAt = none) now ?_ ?_ ?_
  · rw [← hsessions]
    rfl
  · intro r hr
    simp [hends, hr]
  · intro u hu hblocked
    rcases hactivity u hu hblocked with h | h
    · exact Or.inl h
    · exact Or.inr fun s => (hends s u.id).mpr h

theorem authenticate_opens {env : AuthEnv} {db db' : AuthDatabase} {login password : String}
    {userAgent : Option String} {draw : SessionDraw} {now : Instant} {row : AuthSessionModel}
    (h : authenticate env db login password userAgent draw now = .ok (db', row)) :
    Opens env ⟨draw.token, row.id, row.userId, now⟩ db.val db'.val := by
  simp only [authenticate, Py.bind_eq_ok, Py.orRaise_eq_ok, Py.raiseIf_eq_ok] at h
  obtain ⟨user, hfind, -, hactive, -, -, committed, hcommit, hreturn⟩ := h
  have huser : user ∈ db.val.users := List.mem_of_find?_eq_some hfind
  have hval := Sql.commit_eq_ok.mp hcommit
  obtain ⟨rfl, rfl⟩ := Prod.mk.inj (Except.ok.inj hreturn)
  have hactivity : ∀ u' ∈ committed.val.users,
      ∃ u ∈ db.val.users, u.id = u'.id ∧ u.isActive = u'.isActive := by
    rw [hval]
    exact fun u' hu' => activity_updateUser hu' (fun _ => rfl) fun _ => rfl
  refine ⟨⟨_, by rw [hval]; rfl, rfl, rfl⟩, ?_, hactivity⟩
  intro u' hu' hid
  obtain ⟨u, hu, hid', hsame⟩ := hactivity u' hu'
  have heq : u = user := db.property.1.eq hu huser (hid'.trans hid)
  rw [← hsame, heq]
  exact Bool.eq_true_of_not_eq_false hactive

theorem revoke_closes {db db' : AuthDatabase} {session : SessionId} {now : Instant}
    (h : revoke db session now = .ok db') : Closes (fun s _ => session = s) db.val db'.val := by
  have hval := Sql.commit_eq_ok.mp h
  refine Closes.of_update (fun s => s.id = session) now ?_ ?_ ?_
  · rw [hval]
  · intro r _
    simp [eq_comm]
  · rw [hval]
    exact fun u hu hblocked => Or.inl ⟨u, hu, rfl, hblocked⟩

theorem changePassword_closes {env : AuthEnv} {db db' : AuthDatabase} {user : UserId}
    {current new : String} {salt : ℕ} {now : Instant}
    (h : changePassword env db user current new salt now = .ok db') :
    Closes (fun _ u => user = u) db.val db'.val := by
  simp only [changePassword, loadUser, Py.bind_eq_ok, Py.orRaise_eq_ok, Py.raiseIf_eq_ok] at h
  obtain ⟨row, hrow, -, -, -, -, -, -, hcommit⟩ := h
  have hid : row.id = user := by simpa using List.find?_some hrow
  rw [Sql.commit_eq_ok.mp hcommit, hid]
  refine Closes.of_revokeUserSessions _ rfl (fun _ _ => eq_comm) fun u' hu' hblocked => ?_
  obtain ⟨u, hu, hsame, hactive⟩ := activity_updateUser hu' (fun _ => rfl) fun _ => rfl
  exact Or.inl ⟨u, hu, hsame, hactive.trans hblocked⟩

theorem setActive_closes {db db' : AuthDatabase} {user : UserId} {active : Bool} {now : Instant}
    (h : setActive db user active now = .ok db') :
    Closes (fun _ u => active = false ∧ user = u) db.val db'.val := by
  simp only [setActive, loadUser, Py.bind_eq_ok, Py.orRaise_eq_ok, Py.raiseIf_eq_ok] at h
  obtain ⟨row, hrow, -, -, hcommit⟩ := h
  have hid : row.id = user := by simpa using List.find?_some hrow
  cases active with
  | true =>
      rw [Sql.commit_eq_ok.mp hcommit]
      refine Closes.of_eq rfl (by simp) fun u' hu' hblocked => ?_
      obtain ⟨u, hu, rfl⟩ := mem_updateUser.mp hu'
      by_cases hu_id : u.id = row.id
      · rw [if_pos hu_id] at hblocked
        exact absurd hblocked (by simp)
      · rw [if_neg hu_id] at hblocked ⊢
        exact ⟨u, hu, rfl, hblocked⟩
  | false =>
      rw [Sql.commit_eq_ok.mp hcommit, hid]
      refine Closes.of_revokeUserSessions _ rfl (fun _ u => by simp [eq_comm]) fun u' hu' hblocked => ?_
      obtain ⟨u, hu, rfl⟩ := mem_updateUser.mp hu'
      by_cases hu_id : u.id = user
      · exact Or.inr (by rw [if_pos hu_id]; exact hu_id)
      · rw [if_neg hu_id] at hblocked ⊢
        exact Or.inl ⟨u, hu, rfl, hblocked⟩

theorem createUser_closes {env : AuthEnv} {db db' : AuthDatabase} {username email password : String}
    {role : UserRole} {mustChangePassword : Bool} {draw : AccountDraw}
    (h : createUser env db username email password role mustChangePassword draw = .ok db') :
    Closes (fun _ _ => False) db.val db'.val := by
  simp only [createUser, Py.bind_eq_ok, Py.raiseIf_eq_ok] at h
  obtain ⟨name, -, -, -, -, -, hcommit⟩ := h
  rw [Sql.commit_eq_ok.mp hcommit]
  refine Closes.of_eq rfl (fun _ _ h => h) fun u' hu' hblocked => ?_
  rcases List.mem_append.mp hu' with hu | hu
  · exact ⟨u', hu, rfl, hblocked⟩
  · rw [List.mem_singleton.mp hu] at hblocked
    exact absurd hblocked (by simp)

/-! ## The bootstrap pass -/

/-- Only the administrator's round writes existing rows; every other round at most adds
an account. -/
theorem bootstrapStep_keeps {env : AuthEnv} {now : Instant} {acc acc' : BootstrapPass}
    {item : BootstrapAccount × AccountDraw} (hsync : item.1.syncPassword = false)
    (h : bootstrapStep env now acc item = .ok acc') :
    acc'.tables = acc.tables ∧ (acc.changed = true → acc'.changed = true) ∧
      ((∀ u ∈ acc.added, u.isActive = true) → ∀ u ∈ acc'.added, u.isActive = true) := by
  simp only [bootstrapStep, Py.bind_eq_ok] at h
  obtain ⟨-, -, name, -, h⟩ := h
  split at h
  · rw [if_neg (by simp [hsync])] at h
    obtain rfl := Except.ok.inj h
    exact ⟨rfl, id, id⟩
  · obtain rfl := Except.ok.inj h
    refine ⟨rfl, fun _ => rfl, fun hadded u hu => ?_⟩
    rcases List.mem_append.mp hu with hu | hu
    · exact hadded u hu
    · rw [List.mem_singleton.mp hu]

/-- The administrator's round, from the start of the pass. -/
theorem bootstrapStep_admin {env : AuthEnv} {settings : AuthSettings} {now : Instant}
    {db : AuthDatabase} {acc : BootstrapPass} {draw : AccountDraw}
    (h : bootstrapStep env now ⟨db.val, [], false⟩ (settings.bootstrapAdmin, draw) = .ok acc) :
    (∀ u ∈ acc.added, u.isActive = true) ∧
      ((acc.tables = db.val ∧ ∀ u, ¬ env.Rotates settings db u) ∨
        ∃ (user : UserId) (f : UserModel → UserModel), acc.changed = true ∧
          (∀ u, (f u).id = u.id) ∧ (∀ u, (f u).isActive = u.isActive) ∧
          acc.tables = (db.val.updateUser user f).revokeUserSessions user now ∧
          ∀ u, env.Rotates settings db u ↔ u = user) := by
  simp only [bootstrapStep, Py.bind_eq_ok] at h
  obtain ⟨-, -, name, hname, h⟩ := h
  -- the row the pass looks at is the only one under that name
  have honly : ∀ row ∈ db.val.users,
      env.normalizeUsername settings.bootstrapAdminUsername = .ok row.username →
      row.username = name := by
    intro row _ hrow
    exact Except.ok.inj (hrow.symm.trans hname)
  split at h
  · rename_i existing hfind
    have hmem : existing ∈ db.val.users := List.mem_of_find?_eq_some hfind
    have hexisting : existing.username = name := by simpa using List.find?_some hfind
    have huniq : ∀ row ∈ db.val.users,
        env.normalizeUsername settings.bootstrapAdminUsername = .ok row.username →
        row = existing := fun row hrow hn =>
      db.property.2.1.eq hrow hmem ((honly row hrow hn).trans hexisting.symm)
    split at h
    · rename_i hmismatch
      obtain rfl := Except.ok.inj h
      let rotate : UserModel → UserModel := fun u =>
        { u with
          passwordHash := env.hash draw.salt settings.bootstrapAdmin.password
          mustChangePassword := false }
      refine ⟨by simp, Or.inr ⟨existing.id, rotate, rfl, fun _ => rfl, fun _ => rfl, rfl,
        fun u => ?_⟩⟩
      constructor
      · rintro ⟨row, hrow, rfl, hn, -⟩
        rw [huniq row hrow hn]
      · rintro rfl
        exact ⟨existing, hmem, rfl, hexisting ▸ hname, hmismatch.2⟩
    · rename_i hmatch
      obtain rfl := Except.ok.inj h
      refine ⟨by simp, Or.inl ⟨rfl, ?_⟩⟩
      rintro u ⟨row, hrow, -, hn, hm⟩
      exact hmatch ⟨rfl, huniq row hrow hn ▸ hm⟩
  · rename_i hfind
    obtain rfl := Except.ok.inj h
    refine ⟨by simp, Or.inl ⟨rfl, ?_⟩⟩
    rintro u ⟨row, hrow, -, hn, -⟩
    have hnone := List.find?_eq_none.mp hfind row hrow
    exact hnone (decide_eq_true (honly row hrow hn))

theorem ensureBootstrapUsers_closes {env : AuthEnv} {settings : AuthSettings}
    {db db' : AuthDatabase} {admin user1 user2 : AccountDraw} {now : Instant}
    (h : ensureBootstrapUsers env settings db admin user1 user2 now = .ok db') :
    Closes (fun _ u => env.Rotates settings db u) db.val db'.val := by
  simp only [ensureBootstrapUsers, List.foldlM_cons, List.foldlM_nil, Py.bind_eq_ok] at h
  obtain ⟨pass, ⟨first, hfirst, second, hsecond, third, hthird, hpass⟩, h⟩ := h
  obtain rfl : third = pass := Except.ok.inj hpass
  obtain ⟨hactive₁, hfirst⟩ := bootstrapStep_admin hfirst
  obtain ⟨htables₂, hchanged₂, hactive₂⟩ := bootstrapStep_keeps rfl hsecond
  obtain ⟨htables₃, hchanged₃, hactive₃⟩ := bootstrapStep_keeps rfl hthird
  have hadded : ∀ u ∈ third.added, u.isActive = true := hactive₃ (hactive₂ hactive₁)
  have htables : third.tables = first.tables := htables₃.trans htables₂
  rcases hfirst with ⟨hkept, hnone⟩ | ⟨user, f, hchanged, hid, hactive, hrotated, hiff⟩
  · -- no rotation: the pass adds accounts or does nothing
    rw [hkept] at htables
    split at h
    · have hval := Sql.commit_eq_ok.mp h
      rw [hval, htables]
      refine Closes.of_eq rfl (fun _ u => hnone u) fun u' hu' hblocked => ?_
      rcases List.mem_append.mp hu' with hu | hu
      · exact ⟨u', hu, rfl, hblocked⟩
      · exact absurd (hadded u' hu) (by simp [hblocked])
    · obtain rfl := Except.ok.inj h
      exact Closes.refl (fun _ u => hnone u) _
  · rw [if_pos (hchanged₃ (hchanged₂ hchanged))] at h
    rw [Sql.commit_eq_ok.mp h, htables, hrotated]
    refine Closes.of_revokeUserSessions
      ⟨(db.val.updateUser user f).users ++ third.added, db.val.sessions⟩ rfl (fun _ u => hiff u)
      fun u' hu' hblocked => ?_
    rcases List.mem_append.mp hu' with hu | hu
    · obtain ⟨u, hmem, hsame, hact⟩ := activity_updateUser hu hid hactive
      exact Or.inl ⟨u, hmem, hsame, hact.trans hblocked⟩
    · exact absurd (hadded u' hu) (by simp [hblocked])

/-! ## One step -/

/-- A call that raises closes nothing. -/
theorem settleDone_closes {db : AuthDatabase} {x : Except PyError AuthDatabase}
    {target : SessionId → UserId → Prop}
    (h : ∀ db', x = .ok db' → Closes target db.val db'.val) :
    Closes (fun s u => (settleDone db x).2 = .done ∧ target s u) db.val (settleDone db x).1.val := by
  cases x with
  | ok db' =>
      have hiff : (fun s u => (settleDone db (.ok db')).2 = .done ∧ target s u) = target := by
        funext s u
        exact propext (and_iff_right rfl)
      rw [hiff]
      exact h db' rfl
  | error e =>
      refine Closes.refl (fun s u hends => ?_) _
      exact absurd hends.1 (by simp [settleDone, settle, Except.map])

/-- A login adds its grant; every other call closes exactly the grants its line ends. -/
theorem authMachine_next (env : AuthEnv) (db : AuthDatabase) (e : AuthEvent) :
    (∃ g, grantOf ((authMachine env).entry db e) = some g ∧
        Opens env g db.val ((authMachine env).next db e).val ∧
        ∀ s u, ¬ Ends env s u ((authMachine env).entry db e)) ∨
      (grantOf ((authMachine env).entry db e) = none ∧
        Closes (fun s u => Ends env s u ((authMachine env).entry db e)) db.val
          ((authMachine env).next db e).val) := by
  cases e with
  | authenticate login password userAgent draw now =>
      cases h : authenticate env db login password userAgent draw now with
      | ok r =>
          left
          refine ⟨⟨draw.token, r.2.id, r.2.userId, now⟩, ?_, ?_, fun s u hends => hends.2⟩
          · simp [Machine.entry, authMachine, h, Except.map, settle, grantOf]
          · simp only [Machine.next, authMachine, h, Except.map, settle]
            exact authenticate_opens h
      | error err =>
          right
          refine ⟨?_, ?_⟩
          · simp [Machine.entry, authMachine, h, Except.map, settle, grantOf]
          · simp only [Machine.next, authMachine, h, Except.map, settle]
            exact Closes.refl (fun _ _ hends => hends.2) _
  | revoke session now => exact Or.inr ⟨rfl, settleDone_closes fun _ => revoke_closes⟩
  | changePassword user current new salt now =>
      exact Or.inr ⟨rfl, settleDone_closes fun _ => changePassword_closes⟩
  | setActive user active now => exact Or.inr ⟨rfl, settleDone_closes fun _ => setActive_closes⟩
  | ensureBootstrapUsers settings admin user1 user2 now =>
      exact Or.inr ⟨rfl, settleDone_closes fun _ => ensureBootstrapUsers_closes⟩
  | createUser username email password role mustChangePassword draw =>
      exact Or.inr ⟨rfl, settleDone_closes fun _ => createUser_closes⟩

end BondTrading
