/-
# BondTrading.Auth.Validity -- which tokens a whole history leaves valid

`Tracks` relates the session rows to the history line by line, and every call keeps it.
A token then resolves exactly when its grant stands: issued, unexpired, and ended by
nothing since.
-/
import BondTrading.Auth.Sessions
import Mathlib.Data.Set.Function

namespace BondTrading

open Py (Instant)
open Sql (UniqueOn)

/-! ## The history and the rows -/

/-- The grants a history issued, in order. -/
def grants (hist : List AuthEntry) : List Grant := hist.filterMap grantOf

/-- **The session rows say what the history says.** -/
structure Tracks (env : AuthEnv) (db : AuthDatabase) (hist : List AuthEntry) : Prop where
  stamps : db.val.sessions.map AuthSessionModel.stamp = (grants hist).map (Grant.stamp env)
  live : ∀ row ∈ db.val.sessions, ∀ g ∈ grants hist, row.stamp = g.stamp env →
    (row.revokedAt = none ↔ Stands env hist g)
  active : ∀ row ∈ db.val.sessions, row.revokedAt = none →
    ∀ u ∈ db.val.users, u.id = row.userId → u.isActive = true

theorem grants_snoc (hist : List AuthEntry) (x : AuthEntry) :
    grants (hist ++ [x]) = grants hist ++ (grantOf x).toList := by
  cases h : grantOf x <;> simp [grants, h]

theorem Tracks.of_empty {env : AuthEnv} {db : AuthDatabase} (h : db.val.sessions = []) :
    Tracks env db [] where
  stamps := by simp [h, grants]
  live := by simp [h]
  active := by simp [h]

theorem Tracks.mem_row {env : AuthEnv} {db : AuthDatabase} {hist : List AuthEntry}
    (h : Tracks env db hist) {g : Grant} (hg : g ∈ grants hist) :
    ∃ row ∈ db.val.sessions, row.stamp = g.stamp env := by
  have hmem : g.stamp env ∈ (grants hist).map (Grant.stamp env) := List.mem_map_of_mem hg
  rw [← h.stamps] at hmem
  exact List.mem_map.mp hmem

theorem Tracks.mem_grant {env : AuthEnv} {db : AuthDatabase} {hist : List AuthEntry}
    (h : Tracks env db hist) {row : AuthSessionModel} (hrow : row ∈ db.val.sessions) :
    ∃ g ∈ grants hist, g.stamp env = row.stamp := by
  have hmem : row.stamp ∈ db.val.sessions.map AuthSessionModel.stamp := List.mem_map_of_mem hrow
  rw [h.stamps] at hmem
  exact List.mem_map.mp hmem

/-- One step keeps the rows in line with the history. -/
theorem Tracks.step {env : AuthEnv} (db : AuthDatabase) (hist : List AuthEntry) (e : AuthEvent)
    (h : Tracks env db hist) :
    Tracks env ((authMachine env).next db e) (hist ++ [(authMachine env).entry db e]) := by
  have hnext := authMachine_next env db e
  set db' := (authMachine env).next db e
  set x := (authMachine env).entry db e
  rcases hnext with ⟨g, hgrant, hopens, hends⟩ | ⟨hgrant, hcloses⟩
  · obtain ⟨row, hsessions, hstamp, hopen⟩ := hopens.session
    have hgrants : grants (hist ++ [x]) = grants hist ++ [g] := by
      rw [grants_snoc, hgrant]
      rfl
    have huniq : UniqueOn AuthSessionModel.id db'.val.sessions := db'.property.2.2.2.1
    have hfresh : ∀ r ∈ db.val.sessions, r.id ≠ row.id := by
      rw [hsessions] at huniq
      exact (Sql.uniqueOn_append_singleton.mp huniq).2
    refine ⟨?_, ?_, ?_⟩
    · rw [hsessions, hgrants, List.map_append, List.map_append, h.stamps, List.map_cons,
        List.map_cons, hstamp]
      rfl
    · intro r hr g' hg' hsame
      rw [hsessions] at hr
      rw [hgrants] at hg'
      rcases List.mem_append.mp hr with hr | hr
      · -- an older row: the new line neither ends its grant nor issues it again
        rcases List.mem_append.mp hg' with hg' | hg'
        · have hne : some g ≠ some g' := by
            intro hsome
            obtain rfl := Option.some.inj hsome
            obtain ⟨r₀, hr₀, hr₀g⟩ := h.mem_row hg'
            exact hfresh r₀ hr₀ (congrArg Stamp.session (hr₀g.trans hstamp.symm))
          rw [h.live r hr g' hg' hsame, Stands, Stands, Machines.since_snoc, hgrant]
          exact ⟨fun hs => Or.inr ⟨hs, hends _ _⟩, fun hs => (hs.resolve_left hne).1⟩
        · rw [List.mem_singleton.mp hg', ← hstamp] at hsame
          exact absurd (congrArg Stamp.session hsame) (hfresh r hr)
      · rw [List.mem_singleton.mp hr] at hsame ⊢
        have hg : g' ∈ grants hist ∨ g' = g := by simpa using hg'
        rcases hg with hg | rfl
        · obtain ⟨r₀, hr₀, hr₀g⟩ := h.mem_row hg
          exact absurd (congrArg Stamp.session (hr₀g.trans hsame.symm)) (hfresh r₀ hr₀)
        · refine ⟨fun _ => ?_, fun _ => hopen⟩
          exact (Machines.since_snoc _ _).mpr (Or.inl hgrant)
    · intro r hr hlive u' hu' hid
      rw [hsessions] at hr
      rcases List.mem_append.mp hr with hr | hr
      · obtain ⟨u, hu, hsame, hact⟩ := hopens.activity u' hu'
        rw [← hact]
        exact h.active r hr hlive u hu (hsame.trans hid)
      · rw [List.mem_singleton.mp hr] at hid
        exact hopens.user u' hu' (hid.trans (congrArg Stamp.user hstamp))
  · have hgrants : grants (hist ++ [x]) = grants hist := by
      rw [grants_snoc, hgrant]
      exact List.append_nil _
    refine ⟨by rw [hcloses.stamps, hgrants, h.stamps], ?_, ?_⟩
    · intro r' hr' g hg hsame
      obtain ⟨r, hr, hstamp, hlive⟩ := hcloses.rows r' hr'
      rw [hgrants] at hg
      have hrg : r.stamp = g.stamp env := hstamp.trans hsame
      have hsession : r.id = g.session := congrArg Stamp.session hrg
      have huser : r.userId = g.user := congrArg Stamp.user hrg
      rw [hlive, h.live r hr g hg hrg, hsession, huser, Stands, Stands, Machines.since_snoc, hgrant]
      exact ⟨Or.inr, fun hs => hs.resolve_left (by simp)⟩
    · intro r' hr' hlive' u' hu' hid
      obtain ⟨r, hr, hstamp, hlive⟩ := hcloses.rows r' hr'
      obtain ⟨hopen, hnot⟩ := hlive.mp hlive'
      have huser : r.userId = r'.userId := congrArg Stamp.user hstamp
      by_contra hblocked
      rcases hcloses.activity u' hu' (Bool.eq_false_of_not_eq_true hblocked) with
        ⟨u, hu, hsame, hinactive⟩ | hall
      · have hact := h.active r hr hopen u hu (hsame.trans (hid.trans huser.symm))
        exact absurd hact (by simp [hinactive])
      · rw [huser, ← hid] at hnot
        exact hnot (hall r.id)

theorem Tracks.of_run (env : AuthEnv) {db : AuthDatabase} (h : db.val.sessions = [])
    (es : List AuthEvent) :
    Tracks env ((authMachine env).run db es) ((authMachine env).history db es) :=
  (authMachine env).history_induction Tracks.step (Tracks.of_empty h) es

/-! ## Which tokens resolve -/

theorem resolve_eq_ok {env : AuthEnv} {db : AuthDatabase} {token : String} {now : Instant}
    {row : AuthSessionModel} {user : UserModel} :
    resolve env db token now = .ok (row, user) ↔
      db.val.sessions.find? (fun s => s.tokenHash = env.tokenHash token) = some row ∧
        db.val.user? row.userId = some user ∧ row.revokedAt = none ∧ now < row.expiresAt ∧
        user.isActive = true := by
  simp only [resolve, Py.bind_eq_ok, Py.orRaise_eq_ok, Py.raiseIf_eq_ok, not_or, not_le]
  constructor
  · rintro ⟨r, hfind, u, huser, -, ⟨hopen, htime, hactive⟩, hreturn⟩
    obtain ⟨rfl, rfl⟩ := Prod.mk.inj (Except.ok.inj hreturn)
    exact ⟨hfind, huser, by simpa using hopen, htime, by simpa using hactive⟩
  · rintro ⟨hfind, huser, hopen, htime, hactive⟩
    exact ⟨row, hfind, user, huser, (), ⟨by simp [hopen], htime, by simp [hactive]⟩, rfl⟩

/-- A grant resolves while it stands and has not expired. -/
theorem Tracks.resolve {env : AuthEnv} {db : AuthDatabase} {hist : List AuthEntry}
    (h : Tracks env db hist) {g : Grant} (hg : Stands env hist g) {now : Instant}
    (hnow : now < env.expiresAt g.issuedAt) : ∃ r, resolve env db g.token now = .ok r := by
  have hmem : g ∈ grants hist := by
    obtain ⟨x, hx, hgrant⟩ := Machines.Since.mem hg
    exact List.mem_filterMap.mpr ⟨x, hx, hgrant⟩
  obtain ⟨row, hrow, hstamp⟩ := h.mem_row hmem
  have hopen : row.revokedAt = none := (h.live row hrow g hmem hstamp).mpr hg
  obtain ⟨user, huser, hid⟩ := db.property.2.2.2.2.2 row hrow
  have hfind := db.property.2.2.2.2.1.find hrow
  have htoken : row.tokenHash = env.tokenHash g.token := congrArg Stamp.tokenHash hstamp
  have hexpires : row.expiresAt = env.expiresAt g.issuedAt := congrArg Stamp.expiresAt hstamp
  refine ⟨(row, user), resolve_eq_ok.mpr ⟨htoken ▸ hfind, ?_, hopen, hexpires ▸ hnow, ?_⟩⟩
  · rw [AuthTables.user?, ← hid]
    exact db.property.1.find huser
  · exact h.active row hrow hopen user huser hid

/-- The tokens of a history, and one more. -/
def tokensOf (hist : List AuthEntry) (token : String) : Set String :=
  insert token {t | ∃ g ∈ grants hist, g.token = t}

/-- A token that resolves is the token of a standing grant. -/
theorem Tracks.of_resolve {env : AuthEnv} {db : AuthDatabase} {hist : List AuthEntry}
    (h : Tracks env db hist) {token : String} (hinj : Set.InjOn env.tokenHash (tokensOf hist token))
    {now : Instant} {r : AuthSessionModel × UserModel}
    (hr : BondTrading.resolve env db token now = .ok r) :
    ∃ g, Stands env hist g ∧ g.token = token ∧ now < env.expiresAt g.issuedAt := by
  obtain ⟨row, user⟩ := r
  obtain ⟨hfind, -, hopen, htime, -⟩ := resolve_eq_ok.mp hr
  have hrow := List.mem_of_find?_eq_some hfind
  have hhash : row.tokenHash = env.tokenHash token := by simpa using List.find?_some hfind
  obtain ⟨g, hg, hstamp⟩ := h.mem_grant hrow
  have htoken : g.token = token := by
    refine hinj ?_ ?_ ((congrArg Stamp.tokenHash hstamp).trans hhash)
    · exact Set.mem_insert_of_mem _ ⟨g, hg, rfl⟩
    · exact Set.mem_insert _ _
  have hexpires : env.expiresAt g.issuedAt = row.expiresAt := congrArg Stamp.expiresAt hstamp
  exact ⟨g, (h.live row hrow g hg hstamp.symm).mp hopen, htoken, hexpires ▸ htime⟩

/-- Each grant is issued once: its session identifier is a primary key. -/
theorem Tracks.grants_nodup {env : AuthEnv} {db : AuthDatabase} {hist : List AuthEntry}
    (h : Tracks env db hist) : ((grants hist).map Grant.session).Nodup := by
  have hids : (db.val.sessions.map AuthSessionModel.stamp).map Stamp.session =
      db.val.sessions.map AuthSessionModel.id := by
    rw [List.map_map]
    rfl
  have hgrants : ((grants hist).map (Grant.stamp env)).map Stamp.session =
      (grants hist).map Grant.session := by
    rw [List.map_map]
    rfl
  rw [← hgrants, ← h.stamps, hids]
  exact db.property.2.2.2.1

/-- What a line has ended stays ended. -/
theorem Tracks.not_resolve {env : AuthEnv} {db : AuthDatabase} {pre post : List AuthEntry}
    {x : AuthEntry} {g : Grant} (h : Tracks env db (pre ++ x :: post)) (hg : g ∈ grants pre)
    (hends : Ends env g.session g.user x)
    (hinj : Set.InjOn env.tokenHash (tokensOf (pre ++ x :: post) g.token)) (now : Instant) :
    ¬ ∃ r, BondTrading.resolve env db g.token now = .ok r := by
  rintro ⟨r, hr⟩
  obtain ⟨g', hstands, htoken, -⟩ := h.of_resolve hinj hr
  have hsplit : grants (pre ++ x :: post) = grants pre ++ grants (x :: post) :=
    List.filterMap_append
  have hmem' : g' ∈ grants (pre ++ x :: post) := by
    obtain ⟨y, hy, hgrant⟩ := Machines.Since.mem hstands
    exact List.mem_filterMap.mpr ⟨y, hy, hgrant⟩
  have hmem : g ∈ grants (pre ++ x :: post) := by
    rw [hsplit]
    exact List.mem_append_left _ hg
  -- one token, one row: both grants are the same
  have hsame : g'.stamp env = g.stamp env := by
    obtain ⟨r', hr', hstamp'⟩ := h.mem_row hmem'
    obtain ⟨r, hr, hstamp⟩ := h.mem_row hmem
    have hhash : r'.tokenHash = r.tokenHash := by
      have h' : r'.tokenHash = env.tokenHash g'.token := congrArg Stamp.tokenHash hstamp'
      have h'' : r.tokenHash = env.tokenHash g.token := congrArg Stamp.tokenHash hstamp
      rw [h', h'', htoken]
    rw [← hstamp', ← hstamp, db.property.2.2.2.2.1.eq hr' hr hhash]
  have hsession : g'.session = g.session := congrArg Stamp.session hsame
  have huser : g'.user = g.user := congrArg Stamp.user hsame
  have hlater : ∃ y ∈ x :: post, grantOf y = some g' := by
    refine Machines.Since.start_after hstands List.mem_cons_self ?_
    rw [hsession, huser]
    exact hends
  obtain ⟨y, hy, hgrant⟩ := hlater
  have hnodup := h.grants_nodup
  rw [hsplit, List.map_append] at hnodup
  refine (List.nodup_append.mp hnodup).2.2 g.session (List.mem_map_of_mem hg) g'.session
    (List.mem_map_of_mem (List.mem_filterMap.mpr ⟨y, hy, hgrant⟩)) hsession.symm

/-- **Token validity over whole runs.**  After any calls on a database without sessions,
a token resolves exactly when it is the token of an unexpired grant that nothing has
ended since it was issued; and once a grant is ended (by a block of its user, for one)
its token resolves at no time, whatever follows. -/
theorem resolve_iff_stands (env : AuthEnv) (db : AuthDatabase) (hempty : db.val.sessions = [])
    (es : List AuthEvent) (token : String)
    (hinj : Set.InjOn env.tokenHash (tokensOf ((authMachine env).history db es) token)) :
    (∀ now, (∃ r, resolve env ((authMachine env).run db es) token now = .ok r) ↔
      ∃ g, Stands env ((authMachine env).history db es) g ∧ g.token = token ∧
        now < env.expiresAt g.issuedAt) ∧
    ∀ pre x post g, (authMachine env).history db es = pre ++ x :: post → g ∈ grants pre →
      g.token = token → Ends env g.session g.user x →
      ∀ now, ¬ ∃ r, resolve env ((authMachine env).run db es) token now = .ok r := by
  have h := Tracks.of_run env hempty es
  refine ⟨fun now => ⟨?_, ?_⟩, ?_⟩
  · rintro ⟨r, hr⟩
    exact h.of_resolve hinj hr
  · rintro ⟨g, hstands, rfl, hnow⟩
    exact h.resolve hstands hnow
  · rintro pre x post g hhist hg rfl hends now
    rw [hhist] at h hinj
    exact h.not_resolve hg hends hinj now

/-! ## A run -/

def plainSettings : AuthSettings where
  bootstrapAdminUsername := "admin"
  bootstrapAdminEmail := "admin@local"
  bootstrapAdminPassword := "administrator"
  bootstrapUser1Username := "user1"
  bootstrapUser1Email := "user1@local"
  bootstrapUser1Password := "first-password"
  bootstrapUser2Username := "user2"
  bootstrapUser2Email := "user2@local"
  bootstrapUser2Password := "second-password"

/-- Texts in place of the hashes: a password is stored as it is typed. -/
def plainEnv : AuthEnv where
  sessionTtlSeconds := 300
  hash _ password := password
  verify password passwordHash := .ok (password = passwordHash)
  tokenHash token := token
  lower s := s
  isalnum := Char.isAlphanum

def emptyAuthDatabase : AuthDatabase := ⟨⟨[], []⟩, by decide⟩

/-- `user1` logs in, is blocked, unblocked, and logs in again. -/
def blockedRun : List AuthEvent :=
  [.ensureBootstrapUsers plainSettings ⟨1, 0⟩ ⟨2, 0⟩ ⟨3, 0⟩ 0,
    .authenticate "user1" "first-password" none ⟨10, "old", "csrf"⟩ 1,
    .setActive 2 false 2,
    .setActive 2 true 3,
    .authenticate "user1" "first-password" none ⟨11, "new", "csrf"⟩ 4]

theorem resolve_iff_stands_blockedRun :
    ∃ g, Stands plainEnv ((authMachine plainEnv).history emptyAuthDatabase blockedRun) g ∧
      g.token = "new" ∧ 5 < plainEnv.expiresAt g.issuedAt :=
  ((resolve_iff_stands plainEnv emptyAuthDatabase rfl blockedRun "new"
    (fun _ _ _ _ h => h)).1 5).mp
    (Py.exists_of_isOk (by decide +kernel))

end BondTrading
