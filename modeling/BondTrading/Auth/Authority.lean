/-
# BondTrading.Auth.Authority -- which requests a whole history lets in

The routes come to calls of the service, so what the service says of its tokens holds of the
requests: `let_in_iff` tells as whom a request is let in by the logins of the history, with the
CSRF token that each of them answered.
-/
import BondTrading.Auth.Authors

namespace BondTrading

open Py (Instant)
open Sql (UniqueOn)
open Machines (Machine Entry Since since_snoc)

variable {env : AuthEnv} {db : AuthDatabase}

/-! ## Logins -/

/-- What a login hands out. -/
structure Credentials extends Grant where
  csrfToken : String
  deriving DecidableEq, Repr

/-- The session that a login draws, and when. -/
def AccessEvent.opens : AccessEvent → Option (SessionId × Instant)
  | .login _ _ _ draw now | .loginSubmit _ _ _ draw now => some (draw.id, now)
  | _ => none

/-- The line is a login that answered the credentials. -/
def Issues (c : Credentials) (x : AccessEntry) : Prop :=
  x.event.opens = some (c.session, c.issuedAt) ∧
    x.response = .credentials c.user c.token c.csrfToken

/-- The line comes to a call that ends them: a logout of the session, a change of the password,
a block, or a rotation at the start of the process. -/
def Revokes (env : AuthEnv) (c : Credentials) (x : AccessEntry) : Prop :=
  ∃ call, x.event.call env x.before = some call ∧
    Ends env c.session c.user ((authMachine env).entry x.before call)

/-- **The login holds**: it answered the credentials, and nothing has ended them since. -/
def LoginHolds (env : AuthEnv) (hist : List AccessEntry) (c : Credentials) : Prop :=
  Since (Issues c) (Revokes env c) hist

/-! ## The service behind the routes -/

/-- The line of the service in a line of the routes. -/
def serviceEntry (env : AuthEnv) (x : AccessEntry) : Option AuthEntry :=
  (x.event.call env x.before).map ((authMachine env).entry x.before)

theorem serviceEntry_entry (e : AccessEvent) :
    serviceEntry env ((accessMachine env).entry db e) =
      (e.call env db).map ((authMachine env).entry db) := rfl

/-- The credentials that a line of the service hands out. -/
def handedOut (x : AuthEntry) : Option Credentials :=
  match x.event, x.response with
  | .authenticate _ _ _ draw now, .credentials row token =>
      some ⟨⟨token, row.id, row.userId, now⟩, draw.csrfToken⟩
  | _, _ => none

theorem handedOut_grant (x : AuthEntry) : (handedOut x).map Credentials.toGrant = grantOf x := by
  unfold handedOut grantOf
  split <;> simp_all

theorem filterMap_handedOut (hist : List AuthEntry) :
    (hist.filterMap handedOut).map Credentials.toGrant = grants hist := by
  unfold grants
  rw [List.map_filterMap]
  exact List.filterMap_congr fun x _ => handedOut_grant x

theorem authenticate_row {login password : String} {userAgent : Option String}
    {draw : SessionDraw} {now : Instant} {r : AuthDatabase × AuthSessionModel}
    (h : authenticate env db login password userAgent draw now = .ok r) :
    r.2.id = draw.id ∧ r.2.csrfTokenHash = env.tokenHash draw.csrfToken ∧
      r.1.val.sessions = db.val.sessions ++ [r.2] := by
  simp only [authenticate, Py.bind_eq_ok, Py.orRaise_eq_ok, Py.raiseIf_eq_ok] at h
  obtain ⟨user, -, -, -, -, -, committed, hcommit, hreturn⟩ := h
  cases hreturn
  exact ⟨rfl, rfl, by rw [Sql.commit_eq_ok.mp hcommit]; rfl⟩

/-- The answer to a login, when its handler answers no credentials. -/
theorem answer_eq_credentials (env : AuthEnv) (db : AuthDatabase)
    (handler : PyError → AccessAnswer)
    (hhandler : ∀ e user token csrfToken, handler e ≠ .credentials user token csrfToken)
    (name password : String) (userAgent : Option String) (draw : SessionDraw) (now : Instant)
    (c : Credentials) :
    let call : AuthEvent := .authenticate name password userAgent draw now
    let use : ServiceUse := ⟨call, handler, credentialsBody draw.csrfToken⟩
    (some (draw.id, now) = some (c.session, c.issuedAt) ∧
        use.answer ((authMachine env).next db call) ((authMachine env).step db call).2 =
          .credentials c.user c.token c.csrfToken) ↔
      handedOut ((authMachine env).entry db call) = some c := by
  intro call use
  cases h : authenticate env db name password userAgent draw now with
  | error err =>
      have hstep : (authMachine env).step db call = (db, .failed err) := by
        show settle db _ = _
        rw [h]
        rfl
      have hnone : handedOut ((authMachine env).entry db call) = none := by
        unfold handedOut Machine.entry
        rw [hstep]
      rw [hnone, hstep]
      exact ⟨fun hanswer => absurd hanswer.2 (hhandler _ _ _ _), fun hsome => by cases hsome⟩
  | ok r =>
      obtain ⟨hid, -, -⟩ := authenticate_row h
      have hstep : (authMachine env).step db call = (r.1, .credentials r.2 draw.token) := by
        show settle db _ = _
        rw [h]
        rfl
      have hsome : handedOut ((authMachine env).entry db call) =
          some ⟨⟨draw.token, r.2.id, r.2.userId, now⟩, draw.csrfToken⟩ := by
        unfold handedOut Machine.entry
        rw [hstep]
      rw [hsome, hstep, hid]
      obtain ⟨⟨token, session, user, issuedAt⟩, csrfToken⟩ := c
      show some (draw.id, now) = some (session, issuedAt) ∧
        AccessAnswer.credentials r.2.userId draw.token draw.csrfToken = .credentials user token csrfToken ↔ _
      constructor
      · rintro ⟨hopens, hanswer⟩
        cases hopens
        cases hanswer
        rfl
      · intro hsame
        cases hsame
        exact ⟨rfl, rfl⟩

theorem handedOut_none {e : AccessEvent} (hopens : e.opens = none) {call : AuthEvent}
    (hcall : e.call env db = some call) :
    handedOut ((authMachine env).entry db call) = none := by
  cases call_authored hcall with
  | login h => rcases h with rfl | rfl <;> cases hopens
  | start | logout | password | creation | activity => rfl

/-- A login answers what its call hands out, and no other request answers credentials. -/
theorem issues_entry_iff (e : AccessEvent) (c : Credentials) :
    Issues c ((accessMachine env).entry db e) ↔
      ∃ call, e.call env db = some call ∧
        handedOut ((authMachine env).entry db call) = some c := by
  cases e with
  | login name password userAgent draw now =>
      unfold Issues AccessEvent.call Machine.entry accessMachine
      dsimp only [AccessEvent.check]
      cases hasLength name 1 320 && hasLength password 1 1024 with
      | false => simp [AccessAnswer.invalid]
      | true =>
          rw [if_pos rfl]
          dsimp only
          have hanswer := answer_eq_credentials env db (AccessAnswer.domainAs 401)
            (fun e _ _ _ h => by cases h) name password userAgent draw now c
          exact hanswer.trans ⟨fun h => ⟨_, rfl, h⟩, by rintro ⟨_, ⟨⟩, h⟩; exact h⟩
  | loginSubmit name password userAgent draw now =>
      unfold Issues AccessEvent.call Machine.entry accessMachine
      dsimp only [AccessEvent.check]
      by_cases hempty : "" ∈ [name, password]
      · rw [if_pos hempty]
        simp [AccessAnswer.invalid]
      · rw [if_neg hempty]
        dsimp only
        have hanswer := answer_eq_credentials env db loginRefused
          (fun e _ _ _ h => by unfold loginRefused at h; split at h <;> cases h)
          name password userAgent draw now c
        exact hanswer.trans ⟨fun h => ⟨_, rfl, h⟩, by rintro ⟨_, ⟨⟩, h⟩; exact h⟩
  | api | web | started =>
      constructor
      · rintro ⟨hopens, -⟩
        cases hopens
      · rintro ⟨call, hcall, hout⟩
        rw [handedOut_none rfl hcall] at hout
        cases hout

/-! ## The sessions of a history -/

/-- **The session rows say what the logins answered**, both tokens of each. -/
def Secrets (env : AuthEnv) (db : AuthDatabase) (hist : List AuthEntry) : Prop :=
  db.val.sessions.map (fun s => (s.stamp, s.csrfTokenHash)) =
    (hist.filterMap handedOut).map fun c => (c.toGrant.stamp env, env.tokenHash c.csrfToken)

/-- The sessions with the token hashes, which no update writes. -/
def sessionSecrets (t : AuthTables) : List (Stamp × String) :=
  t.sessions.map fun s => (s.stamp, s.csrfTokenHash)

theorem secrets_updateWhere {t t' : AuthTables} {p : AuthSessionModel → Bool} {now : Instant}
    (h : t'.sessions = Sql.updateWhere p (fun s => { s with revokedAt := some now }) t.sessions) :
    sessionSecrets t' = sessionSecrets t := by
  unfold sessionSecrets
  rw [h]
  refine Sql.map_updateWhere _ _ _ ?_ _
  exact fun _ => rfl

theorem bootstrapStep_secrets {now : Instant} {acc acc' : BootstrapPass}
    {item : BootstrapAccount × AccountDraw} (h : bootstrapStep env now acc item = .ok acc') :
    sessionSecrets acc'.tables = sessionSecrets acc.tables := by
  simp only [bootstrapStep, Py.bind_eq_ok] at h
  obtain ⟨-, -, name, -, h⟩ := h
  split at h
  · split at h
    · obtain rfl := Except.ok.inj h
      exact secrets_updateWhere rfl
    · obtain rfl := Except.ok.inj h
      rfl
  · obtain rfl := Except.ok.inj h
    rfl

theorem settleDone_secrets {x : Except PyError AuthDatabase}
    (h : ∀ db', x = .ok db' → sessionSecrets db'.val = sessionSecrets db.val) :
    sessionSecrets (settleDone db x).1.val = sessionSecrets db.val := by
  cases x with
  | ok db' => exact h db' rfl
  | error e => rfl

/-- A call hands out the secrets it stores, and changes no others. -/
theorem authMachine_secrets (env : AuthEnv) (db : AuthDatabase) (call : AuthEvent) :
    sessionSecrets ((authMachine env).next db call).val = sessionSecrets db.val ++
      ((handedOut ((authMachine env).entry db call)).map fun c =>
        (c.toGrant.stamp env, env.tokenHash c.csrfToken)).toList := by
  cases call with
  | authenticate login password userAgent draw now =>
      cases h : authenticate env db login password userAgent draw now with
      | error err =>
          have hstep : (authMachine env).step db
              (.authenticate login password userAgent draw now) = (db, .failed err) := by
            show settle db _ = _
            rw [h]
            rfl
          unfold handedOut Machine.entry Machine.next
          rw [hstep]
          exact (List.append_nil _).symm
      | ok r =>
          have hstep : (authMachine env).step db
              (.authenticate login password userAgent draw now) =
                (r.1, .credentials r.2 draw.token) := by
            show settle db _ = _
            rw [h]
            rfl
          obtain ⟨-, hcsrf, hsessions⟩ := authenticate_row h
          obtain ⟨row, hrow, hstamp, -⟩ := (authenticate_opens h).session
          obtain rfl : row = r.2 :=
            (List.singleton_inj.mp (List.append_cancel_left (hrow.symm.trans hsessions)))
          unfold handedOut Machine.entry Machine.next
          rw [hstep]
          show sessionSecrets r.1.val = _
          unfold sessionSecrets
          rw [hsessions, List.map_append, List.map_singleton, hcsrf, hstamp]
          rfl
  | revoke session now =>
      refine (settleDone_secrets fun db' h => ?_).trans (List.append_nil _).symm
      exact secrets_updateWhere (by rw [Sql.commit_eq_ok.mp h])
  | changePassword user current new salt now =>
      refine (settleDone_secrets fun db' h => ?_).trans (List.append_nil _).symm
      simp only [changePassword, loadUser, Py.bind_eq_ok] at h
      obtain ⟨row, -, valid, -, -, -, -, -, hcommit⟩ := h
      exact secrets_updateWhere (by rw [Sql.commit_eq_ok.mp hcommit]; rfl)
  | setActive user active now =>
      refine (settleDone_secrets fun db' h => ?_).trans (List.append_nil _).symm
      simp only [setActive, loadUser, Py.bind_eq_ok] at h
      obtain ⟨row, -, -, -, hcommit⟩ := h
      cases active with
      | true =>
          rw [Sql.commit_eq_ok.mp hcommit]
          rfl
      | false => exact secrets_updateWhere (by rw [Sql.commit_eq_ok.mp hcommit]; rfl)
  | ensureBootstrapUsers settings admin user1 user2 now =>
      refine (settleDone_secrets fun db' h => ?_).trans (List.append_nil _).symm
      simp only [ensureBootstrapUsers, List.foldlM_cons, List.foldlM_nil, Py.bind_eq_ok] at h
      obtain ⟨pass, ⟨first, hfirst, second, hsecond, third, hthird, hpass⟩, h⟩ := h
      obtain rfl : third = pass := Except.ok.inj hpass
      have hpass : sessionSecrets third.tables = sessionSecrets db.val :=
        ((bootstrapStep_secrets hthird).trans (bootstrapStep_secrets hsecond)).trans
          (bootstrapStep_secrets hfirst)
      split at h
      · rw [Sql.commit_eq_ok.mp h]
        exact hpass
      · obtain rfl := Except.ok.inj h
        rfl
  | createUser username email password role mustChangePassword draw =>
      refine (settleDone_secrets fun db' h => ?_).trans (List.append_nil _).symm
      simp only [createUser, Py.bind_eq_ok] at h
      obtain ⟨name, -, -, -, -, -, hcommit⟩ := h
      rw [Sql.commit_eq_ok.mp hcommit]
      rfl

/-- What the rows say of a history of requests, through the lines of the service. -/
structure Entitled (env : AuthEnv) (db : AuthDatabase) (hist : List AccessEntry) : Prop where
  tracks : Tracks env db (hist.filterMap (serviceEntry env))
  secrets : Secrets env db (hist.filterMap (serviceEntry env))
  holds : ∀ c, LoginHolds env hist c ↔
    Since (fun y => handedOut y = some c) (Ends env c.session c.user)
      (hist.filterMap (serviceEntry env))

theorem Entitled.step (db : AuthDatabase) (hist : List AccessEntry) (e : AccessEvent)
    (h : Entitled env db hist) :
    Entitled env ((accessMachine env).next db e) (hist ++ [(accessMachine env).entry db e]) := by
  have hservice : (hist ++ [(accessMachine env).entry db e]).filterMap (serviceEntry env) =
      hist.filterMap (serviceEntry env) ++
        ((e.call env db).map ((authMachine env).entry db)).toList := by
    rw [List.filterMap_append]
    show _ ++ List.filterMap _ [_] = _
    cases hcall : e.call env db with
    | none => rw [List.filterMap_cons_none (by rw [serviceEntry_entry, hcall]; rfl)]; rfl
    | some call => rw [List.filterMap_cons_some (by rw [serviceEntry_entry, hcall]; rfl)]; rfl
  have hrevokes : ∀ c, Revokes env c ((accessMachine env).entry db e) ↔
      ∃ call, e.call env db = some call ∧
        Ends env c.session c.user ((authMachine env).entry db call) := fun _ => Iff.rfl
  rw [accessMachine_next]
  refine ⟨?_, ?_, fun c => ?_⟩
  · rw [hservice]
    cases e.call env db with
    | none => simpa using h.tracks
    | some call => exact h.tracks.step db _ call
  · unfold Secrets
    rw [hservice]
    cases e.call env db with
    | none =>
        rw [Option.map_none, Option.toList_none, List.append_nil]
        exact h.secrets
    | some call =>
        have hsecrets := authMachine_secrets env db call
        have hbefore : sessionSecrets db.val = _ := h.secrets
        rw [hbefore] at hsecrets
        refine hsecrets.trans ?_
        rw [List.filterMap_append, List.map_append]
        show _ = _ ++ List.map _ (List.filterMap _ [_])
        cases hout : handedOut ((authMachine env).entry db call) with
        | none => rw [List.filterMap_cons_none hout]; rfl
        | some c => rw [List.filterMap_cons_some hout]; rfl
  · unfold LoginHolds
    rw [hservice, since_snoc, issues_entry_iff, hrevokes]
    have hbefore := h.holds c
    unfold LoginHolds at hbefore
    cases e.call env db with
    | none => simpa using hbefore
    | some call =>
        have hsnoc : Since (fun y => handedOut y = some c) (Ends env c.session c.user)
            (hist.filterMap (serviceEntry env) ++ [(authMachine env).entry db call]) ↔ _ :=
          since_snoc _ _
        simp only [Option.map_some, Option.toList_some, hsnoc, hbefore, Option.some.injEq,
          exists_eq_left']

theorem Entitled.of_run (env : AuthEnv) {db : AuthDatabase} (h : db.val.sessions = [])
    (es : List AccessEvent) :
    Entitled env ((accessMachine env).run db es) ((accessMachine env).history db es) := by
  refine (accessMachine env).history_induction Entitled.step ⟨Tracks.of_empty h, ?_, fun c => ?_⟩ es
  · unfold Secrets
    rw [h]
    rfl
  · constructor
    · intro hholds
      obtain ⟨x, hx, -⟩ := Machines.Since.mem hholds
      exact absurd hx List.not_mem_nil
    · intro hholds
      obtain ⟨x, hx, -⟩ := Machines.Since.mem hholds
      exact absurd hx List.not_mem_nil

/-- Each grant is handed out once, so a standing one is the one of its credentials. -/
theorem Tracks.stands_iff {hist : List AuthEntry} (h : Tracks env db hist) {c : Credentials}
    (hc : c ∈ hist.filterMap handedOut) :
    Stands env hist c.toGrant ↔
      Since (fun y => handedOut y = some c) (Ends env c.session c.user) hist := by
  have hunique : UniqueOn (fun c : Credentials => c.session) (hist.filterMap handedOut) := by
    have hnodup := h.grants_nodup
    rw [← filterMap_handedOut, List.map_map] at hnodup
    exact hnodup
  constructor
  · rintro ⟨pre, y, post, rfl, hgrant, hends⟩
    refine ⟨pre, y, post, rfl, ?_, hends⟩
    rw [← handedOut_grant] at hgrant
    obtain ⟨c', hout, hsame⟩ := Option.map_eq_some_iff.mp hgrant
    have hc' : c' ∈ (pre ++ y :: post).filterMap handedOut :=
      List.mem_filterMap.mpr ⟨y, by simp, hout⟩
    rw [hout, hunique.eq hc' hc (congrArg Grant.session hsame)]
  · rintro ⟨pre, y, post, rfl, hout, hends⟩
    refine ⟨pre, y, post, rfl, ?_, hends⟩
    show grantOf y = _
    rw [← handedOut_grant, hout]
    rfl

/-- A login that holds has an open row, and an open row has a login that holds. -/
theorem Entitled.row_iff {hist : List AccessEntry} (h : Entitled env db hist)
    (stamp : Stamp) (csrfTokenHash : String) :
    (∃ row ∈ db.val.sessions, row.stamp = stamp ∧ row.csrfTokenHash = csrfTokenHash ∧
        row.revokedAt = none) ↔
      ∃ c, LoginHolds env hist c ∧ c.toGrant.stamp env = stamp ∧
        env.tokenHash c.csrfToken = csrfTokenHash := by
  have hgrants : ∀ c ∈ (hist.filterMap (serviceEntry env)).filterMap handedOut,
      c.toGrant ∈ grants (hist.filterMap (serviceEntry env)) := by
    intro c hc
    rw [← filterMap_handedOut]
    exact List.mem_map_of_mem hc
  constructor
  · rintro ⟨row, hrow, hstamp, hcsrf, hopen⟩
    have hmem : (row.stamp, row.csrfTokenHash) ∈
        db.val.sessions.map fun s => (s.stamp, s.csrfTokenHash) :=
      List.mem_map.mpr ⟨row, hrow, rfl⟩
    rw [h.secrets] at hmem
    obtain ⟨c, hc, hsame⟩ := List.mem_map.mp hmem
    obtain ⟨hsameStamp, hsameCsrf⟩ := Prod.mk.inj hsame
    have hstands := (h.tracks.live row hrow _ (hgrants c hc) hsameStamp.symm).mp hopen
    exact ⟨c, (h.holds c).mpr ((h.tracks.stands_iff hc).mp hstands), hsameStamp.trans hstamp,
      hsameCsrf.trans hcsrf⟩
  · rintro ⟨c, hholds, hstamp, hcsrf⟩
    have hsince := (h.holds c).mp hholds
    have hc : c ∈ (hist.filterMap (serviceEntry env)).filterMap handedOut := by
      obtain ⟨y, hy, hout⟩ := hsince.mem
      exact List.mem_filterMap.mpr ⟨y, hy, hout⟩
    have hmem : (c.toGrant.stamp env, env.tokenHash c.csrfToken) ∈
        db.val.sessions.map fun s => (s.stamp, s.csrfTokenHash) := by
      rw [h.secrets]
      exact List.mem_map.mpr ⟨c, hc, rfl⟩
    obtain ⟨row, hrow, hsame⟩ := List.mem_map.mp hmem
    obtain ⟨hsameStamp, hsameCsrf⟩ := Prod.mk.inj hsame
    refine ⟨row, hrow, hsameStamp.trans hstamp, hsameCsrf.trans hcsrf, ?_⟩
    exact (h.tracks.live row hrow _ (hgrants c hc) hsameStamp).mpr
      ((h.tracks.stands_iff hc).mpr hsince)

/-! ## Whom a request is let in as -/

/-- **Who is let in, after any history.**  On a database without sessions, after any requests of
anybody and any starts of the process: a request is let in as a user exactly if it presents the
token of a login of that user that holds and has not expired, and, where it changes something and
comes with a cookie, the CSRF token that the same login answered. -/
theorem let_in_iff (env : AuthEnv) {db : AuthDatabase} (hempty : db.val.sessions = [])
    (es : List AccessEvent) (e : AccessEvent) (user : UserId) :
    (∃ auth, e.letIn env ((accessMachine env).run db es) = some auth ∧ auth.user.id = user) ↔
      ∃ c token, LoginHolds env ((accessMachine env).history db es) c ∧ c.user = user ∧
        e.token env = some token ∧ env.tokenHash token = env.tokenHash c.token ∧
        e.now < env.expiresAt c.issuedAt ∧
        (e.needsCsrf env = true →
          e.csrf.map env.tokenHash = some (env.tokenHash c.csrfToken)) := by
  have h := Entitled.of_run env hempty es
  generalize (accessMachine env).history db es = hist at h
  generalize (accessMachine env).run db es = t at h
  constructor
  · rintro ⟨auth, hin, rfl⟩
    obtain ⟨token, htoken, hresolve, hcsrf, -⟩ := letIn_eq_some.mp hin
    obtain ⟨hfind, huser, hopen, htime, -⟩ := resolve_eq_ok.mp hresolve
    have hrow := List.mem_of_find?_eq_some hfind
    have hhash : auth.session.tokenHash = env.tokenHash token := by
      simpa using List.find?_some hfind
    have hid : auth.user.id = auth.session.userId := by
      have hsame := List.find?_some huser
      exact of_decide_eq_true hsame
    obtain ⟨c, hholds, hstamp, hsecret⟩ :=
      (h.row_iff auth.session.stamp auth.session.csrfTokenHash).mp ⟨_, hrow, rfl, rfl, hopen⟩
    refine ⟨c, token, hholds, ?_, htoken, ?_, ?_, fun hneeds => ?_⟩
    · exact (congrArg Stamp.user hstamp).trans hid.symm
    · exact hhash.symm.trans (congrArg Stamp.tokenHash hstamp).symm
    · have hexpires : env.expiresAt c.issuedAt = auth.session.expiresAt :=
        congrArg Stamp.expiresAt hstamp
      rw [hexpires]
      exact htime
    · rw [hcsrf hneeds, hsecret]
  · rintro ⟨c, token, hholds, rfl, htoken, hhash, htime, hcsrf⟩
    obtain ⟨row, hrow, hstamp, hsecret, hopen⟩ := (h.row_iff _ _).mpr ⟨c, hholds, rfl, rfl⟩
    obtain ⟨user, huser, hid⟩ := t.property.2.2.2.2.2 row hrow
    have hrowHash : row.tokenHash = env.tokenHash token :=
      (congrArg Stamp.tokenHash hstamp).trans hhash.symm
    have hrowUser : row.userId = c.user := congrArg Stamp.user hstamp
    have hexpires : row.expiresAt = env.expiresAt c.issuedAt := congrArg Stamp.expiresAt hstamp
    have hfind : t.val.sessions.find? (fun s => s.tokenHash = env.tokenHash token) = some row := by
      rw [← hrowHash]
      exact t.property.2.2.2.2.1.find hrow
    have hfound : t.val.user? row.userId = some user := by
      rw [AuthTables.user?, ← hid]
      exact t.property.1.find huser
    have hactive := h.tracks.active row hrow hopen user huser hid
    have hresolve : resolve env t token e.now = .ok (row, user) :=
      resolve_eq_ok.mpr ⟨hfind, hfound, hopen, hexpires ▸ htime, hactive⟩
    refine ⟨⟨user, row, _⟩, letIn_eq_some.mpr ⟨token, htoken, hresolve, fun hneeds => ?_, rfl⟩,
      hid.trans hrowUser⟩
    rw [hcsrf hneeds, hsecret]

/-- The process starts, and `user1` logs in. -/
def loginRun : List AccessEvent :=
  [.started plainSettings ⟨1, 0⟩ ⟨2, 0⟩ ⟨3, 0⟩ 0,
    .loginSubmit "user1" "first-password" none ⟨10, "token", "csrf"⟩ 1]

/-- A form with the cookie of `user1`. -/
def sendsForm (csrf : String) : AccessEvent :=
  .web ⟨none, some "token", some csrf⟩ (.accountChangePassword "first-password" "another-password" 0) 2

/-- The form with the CSRF token of the login is let in, a forged one is not. -/
theorem let_in_iff_form :
    (∃ c token, LoginHolds plainEnv ((accessMachine plainEnv).history emptyAuthDatabase loginRun) c ∧
        c.user = 2 ∧ (sendsForm "csrf").token plainEnv = some token ∧
        plainEnv.tokenHash token = plainEnv.tokenHash c.token ∧
        (sendsForm "csrf").now < plainEnv.expiresAt c.issuedAt ∧
        ((sendsForm "csrf").needsCsrf plainEnv = true →
          (sendsForm "csrf").csrf.map plainEnv.tokenHash = some (plainEnv.tokenHash c.csrfToken))) ∧
      (sendsForm "forged").letIn plainEnv
        ((accessMachine plainEnv).run emptyAuthDatabase loginRun) = none := by
  refine ⟨(let_in_iff plainEnv rfl loginRun (sendsForm "csrf") 2).mp ?_, by decide +kernel⟩
  have hin : ((sendsForm "csrf").letIn plainEnv
      ((accessMachine plainEnv).run emptyAuthDatabase loginRun)).map (·.user.id) = some 2 := by
    decide +kernel
  exact Option.map_eq_some_iff.mp hin

end BondTrading
