/-
# BondTrading.Auth.Administrators -- concurrent requests to block and unblock users

`set_active` reads the other active administrators and writes the row of its target, so
two requests of two administrators against each other each read what the other is about
to write.  `adminMachine` runs the two steps of any number of requests in any order.
-/
import BondTrading.Auth.Sessions

namespace BondTrading

open Py (Instant raiseIf orRaise)
open Sql (UniqueOn updateWhere)
open Machines (Machine)

/-! ## The two steps of `set_active` -/

/-- `role == ADMIN` and `is_active`. -/
def UserModel.IsActiveAdmin (u : UserModel) : Prop := u.role = .admin ∧ u.isActive = true

instance (u : UserModel) : Decidable u.IsActiveAdmin := inferInstanceAs (Decidable (_ ∧ _))

/-- The reads of `set_active`: the target, and the other active administrators if one is
to be blocked. -/
def readActive (db : AuthDatabase) (user : UserId) (active : Bool) : Except PyError UserModel := do
  let row ← loadUser db user
  let activeAdmins := db.val.users.filter fun u => u.role = .admin ∧ u.isActive ∧ u.id ≠ row.id
  raiseIf ((row.role = .admin ∧ active = false) ∧ activeAdmins.isEmpty)
    (.domain .domain "The last active administrator cannot be disabled" .none)
  return row

/-- The writes of `set_active`.  An assignment of the value the row was loaded with is no
change, so nothing of the row is written. -/
def writeActive (t : AuthTables) (row : UserModel) (active : Bool) (now : Instant) : AuthTables :=
  let tables :=
    if row.isActive = active then t
    else t.updateUser row.id fun u => { u with isActive := active }
  if active then tables else tables.revokeUserSessions row.id now

/-- Run without a break, the two steps are `set_active`. -/
theorem setActive_eq (db : AuthDatabase) (user : UserId) (active : Bool) (now : Instant) :
    setActive db user active now =
      (readActive db user active >>= fun row => (writeActive db.val row active now).commit) := by
  unfold setActive readActive
  cases hload : loadUser db user with
  | error e => rfl
  | ok row =>
      have hrow : row ∈ db.val.users :=
        List.mem_of_find?_eq_some (Py.orRaise_eq_ok.mp hload)
      -- the assignment of the stored value changes nothing
      have hsame : row.isActive = active →
          db.val.updateUser row.id (fun u => { u with isActive := active }) = db.val := by
        rintro rfl
        unfold AuthTables.updateUser updateWhere
        have hmap : db.val.users.map (fun u => if decide (u.id = row.id) = true
            then { u with isActive := row.isActive } else u) = db.val.users := by
          refine (List.map_congr_left fun u hu => ?_).trans (List.map_id _)
          split
          · rename_i hid
            rw [db.property.1.eq hu hrow (of_decide_eq_true hid)]
            rfl
          · rfl
        rw [hmap]
      have htables : (if row.isActive = active then db.val
          else db.val.updateUser row.id fun u => { u with isActive := active }) =
            db.val.updateUser row.id fun u => { u with isActive := active } := by
        split
        · rename_i heq
          exact (hsame heq).symm
        · rfl
      have hwrite : (writeActive db.val row active now).commit =
          if active then (db.val.updateUser row.id fun u => { u with isActive := active }).commit
          else ((db.val.updateUser row.id fun u => { u with isActive := active }).revokeUserSessions
            row.id now).commit := by
        unfold writeActive
        rw [htables]
        cases active <;> rfl
      simp only [Py.ok_bind]
      cases raiseIf ((row.role = .admin ∧ active = false) ∧
          (db.val.users.filter fun u => u.role = .admin ∧ u.isActive ∧ u.id ≠ row.id).isEmpty)
          (PyError.domain .domain "The last active administrator cannot be disabled" .none) with
      | error e => rfl
      | ok _ => exact hwrite.symm

/-! ## The machine -/

abbrev RequestId := ℕ

/-- A request that has read and not committed yet. -/
structure ActiveRequest where
  row : UserModel
  active : Bool

structure AdminState where
  db : AuthDatabase
  pending : List (RequestId × ActiveRequest)

inductive AdminStep where
  /-- The route checks who asks and for whom, and `set_active` reads. -/
  | read (request : RequestId) (actor user : UserId) (active : Bool)
  | commit (request : RequestId) (now : Instant)

/-- What the request has read. -/
def AdminState.request? (s : AdminState) (request : RequestId) : Option ActiveRequest :=
  (s.pending.find? fun p => p.1 = request).map Prod.snd

/-- `require_admin`: the user of the caller's session. -/
def requireAdmin (db : AuthDatabase) (actor : UserId) : Except PyError UserModel := do
  let admin ← orRaise (db.val.user? actor) (authenticationError "Authentication is required")
  raiseIf (admin.isActive = false) (authenticationError "Authentication is required")
  raiseIf (admin.role ≠ .admin) (.external "Administrator privileges are required")
  return admin

/-- What `update_user` does before it writes. -/
def readRequest (db : AuthDatabase) (actor user : UserId) (active : Bool) :
    Except PyError UserModel := do
  let admin ← requireAdmin db actor
  let row ← loadUser db user
  raiseIf (row.id = admin.id ∧ active = false)
    (.external "An administrator cannot disable the current account")
  readActive db row.id active

def adminMachine : Machine AdminState AdminStep (Option PyError) where
  step s
    | .read request actor user active =>
        match readRequest s.db actor user active with
        | .error e => (s, some e)
        | .ok row =>
            ({ s with pending := (request, ⟨row, active⟩) ::
                s.pending.filter fun p => p.1 ≠ request }, none)
    | .commit request now =>
        match s.request? request with
        | none => (s, none)
        | some r =>
            match (writeActive s.db.val r.row r.active now).commit with
            | .error e => ({ s with pending := s.pending.filter fun p => p.1 ≠ request }, some e)
            | .ok db =>
                ({ db, pending := s.pending.filter fun p => p.1 ≠ request }, none)

/-! ## The last administrator -/

/-- Somebody can still administrate. -/
def HasActiveAdmin (t : AuthTables) : Prop := ∃ u ∈ t.users, u.IsActiveAdmin

instance : DecidablePred HasActiveAdmin := fun t =>
  inferInstanceAs (Decidable (∃ u ∈ t.users, u.IsActiveAdmin))

/-- A commit that blocks an administrator still finds another active one. -/
def BlocksNotTheLast (s : AdminState) : AdminStep → Prop
  | .commit request _ =>
      ∀ r ∈ s.request? request, r.row.IsActiveAdmin → r.active = false →
        ∃ u ∈ s.db.val.users, u.IsActiveAdmin ∧ u.id ≠ r.row.id
  | .read .. => True

instance (s : AdminState) : (e : AdminStep) → Decidable (BlocksNotTheLast s e)
  | .commit request _ =>
      inferInstanceAs (Decidable (∀ r ∈ s.request? request, r.row.IsActiveAdmin →
        r.active = false → ∃ u ∈ s.db.val.users, u.IsActiveAdmin ∧ u.id ≠ r.row.id))
  | .read .. => isTrue trivial

/-- The rows the open requests have loaded are rows of the table; their roles do not
change. -/
def AdminState.Loaded (s : AdminState) : Prop :=
  ∀ p ∈ s.pending, ∃ u ∈ s.db.val.users, u.id = p.2.row.id ∧ u.role = p.2.row.role

/-- The users after `set_active` has written. -/
theorem writeActive_users (t : AuthTables) (row : UserModel) (active : Bool) (now : Instant) :
    (writeActive t row active now).users =
      if row.isActive = active then t.users
      else updateWhere (fun u => u.id = row.id) (fun u => { u with isActive := active }) t.users := by
  unfold writeActive
  by_cases hsame : row.isActive = active
  · rw [if_pos hsame, if_pos hsame]
    cases active <;> rfl
  · rw [if_neg hsame, if_neg hsame]
    cases active <;> rfl

/-- An update that writes no key of a user. -/
theorem AuthTables.Constraints.updateUser {t : AuthTables} (h : t.Constraints) (user : UserId)
    (f : UserModel → UserModel)
    (hf : ∀ u, (f u).id = u.id ∧ (f u).username = u.username ∧ (f u).email = u.email) :
    (t.updateUser user f).Constraints := by
  obtain ⟨hid, hname, hemail, hsession, htoken, hforeign⟩ := h
  refine ⟨(Sql.uniqueOn_updateWhere fun u => (hf u).1).mpr hid,
    (Sql.uniqueOn_updateWhere fun u => (hf u).2.1).mpr hname,
    (Sql.uniqueOn_updateWhere fun u => (hf u).2.2).mpr hemail, hsession, htoken, ?_⟩
  intro r hr
  obtain ⟨u, hu, huid⟩ := hforeign r hr
  refine ⟨if u.id = user then f u else u, mem_updateUser.mpr ⟨u, hu, rfl⟩, ?_⟩
  split
  · exact (hf u).1.trans huid
  · exact huid

theorem AuthTables.Constraints.revokeUserSessions {t : AuthTables} (h : t.Constraints)
    (user : UserId) (now : Instant) : (t.revokeUserSessions user now).Constraints := by
  obtain ⟨hid, hname, hemail, hsession, htoken, hforeign⟩ := h
  let revoked : AuthSessionModel → AuthSessionModel := fun r => { r with revokedAt := some now }
  refine ⟨hid, hname, hemail, (Sql.uniqueOn_updateWhere (f := revoked) fun _ => rfl).mpr hsession,
    (Sql.uniqueOn_updateWhere (f := revoked) fun _ => rfl).mpr htoken, ?_⟩
  intro r hr
  obtain ⟨r₀, hr₀, rfl⟩ := Sql.mem_updateWhere.mp hr
  obtain ⟨u, hu, huid⟩ := hforeign r₀ hr₀
  refine ⟨u, hu, huid.trans ?_⟩
  split <;> rfl

/-- `set_active` writes no key, so it commits. -/
theorem writeActive_commit (db : AuthDatabase) (row : UserModel) (active : Bool) (now : Instant) :
    ∃ db', (writeActive db.val row active now).commit = .ok db' ∧
      db'.val = writeActive db.val row active now := by
  have hwritten : (if row.isActive = active then db.val
      else db.val.updateUser row.id fun u => { u with isActive := active }).Constraints := by
    split
    · exact db.property
    · exact db.property.updateUser row.id _ fun _ => ⟨rfl, rfl, rfl⟩
  have hconstraints : (writeActive db.val row active now).Constraints := by
    cases active with
    | true => exact hwritten
    | false => exact hwritten.revokeUserSessions row.id now
  exact ⟨⟨_, hconstraints⟩, Sql.commit_of _ hconstraints, rfl⟩

/-- A write leaves every user's identifier and role. -/
theorem writeActive_roles {t : AuthTables} (row : UserModel) (active : Bool) (now : Instant)
    {u : UserModel} (hu : u ∈ t.users) :
    ∃ u' ∈ (writeActive t row active now).users, u'.id = u.id ∧ u'.role = u.role := by
  rw [writeActive_users]
  split
  · exact ⟨u, hu, rfl, rfl⟩
  · refine ⟨_, Sql.mem_updateWhere.mpr ⟨u, hu, rfl⟩, ?_⟩
    split <;> exact ⟨rfl, rfl⟩

/-- What a request has loaded it found in the table. -/
theorem readRequest_loaded {db : AuthDatabase} {actor user : UserId} {active : Bool}
    {row : UserModel} (h : readRequest db actor user active = .ok row) : row ∈ db.val.users := by
  simp only [readRequest, readActive, Py.bind_eq_ok] at h
  obtain ⟨_, -, _, -, _, -, row', hload, _, -, hreturn⟩ := h
  obtain rfl := Except.ok.inj hreturn
  exact List.mem_of_find?_eq_some (Py.orRaise_eq_ok.mp hload)

theorem loaded_next (s : AdminState) (e : AdminStep) (h : s.Loaded) :
    (adminMachine.next s e).Loaded := by
  cases e with
  | read request actor user active =>
      unfold Machine.next adminMachine
      cases hread : readRequest s.db actor user active with
      | error e =>
          simp only [hread]
          exact h
      | ok row =>
          simp only [hread]
          intro p hp
          rcases List.mem_cons.mp hp with rfl | hp
          · exact ⟨row, readRequest_loaded hread, rfl, rfl⟩
          · exact h p (List.mem_filter.mp hp).1
  | commit request now =>
      unfold Machine.next adminMachine
      cases hrequest : s.request? request with
      | none =>
          simp only [hrequest]
          exact h
      | some r =>
          obtain ⟨db', hcommit, hval⟩ := writeActive_commit s.db r.row r.active now
          simp only [hrequest, hcommit]
          intro p hp
          obtain ⟨u, hu, hid, hrole⟩ := h p (List.mem_filter.mp hp).1
          obtain ⟨u', hu', hid', hrole'⟩ := writeActive_roles r.row r.active now hu
          refine ⟨u', ?_, hid'.trans hid, hrole'.trans hrole⟩
          show u' ∈ db'.val.users
          rw [hval]
          exact hu'

/-- What a write leaves of the active administrators. -/
theorem hasActiveAdmin_write_iff (db : AuthDatabase) {row : UserModel} {active : Bool}
    (hloaded : ∃ u ∈ db.val.users, u.id = row.id ∧ u.role = row.role) (now : Instant)
    (h : HasActiveAdmin db.val) {db' : AuthDatabase}
    (hval : db'.val = writeActive db.val row active now) :
    HasActiveAdmin db'.val ↔ (row.IsActiveAdmin → active = false →
      ∃ u ∈ db.val.users, u.IsActiveAdmin ∧ u.id ≠ row.id) := by
  unfold HasActiveAdmin
  rw [hval, writeActive_users]
  by_cases hsame : row.isActive = active
  · -- nothing is written
    rw [if_pos hsame]
    refine iff_of_true h ?_
    intro hadmin hblock
    rw [hblock, hadmin.2] at hsame
    cases hsame
  · rw [if_neg hsame]
    cases active with
    | true =>
        refine iff_of_true ?_ (fun _ hblock => nomatch hblock)
        obtain ⟨u, hu, hrole, hactive⟩ := h
        refine ⟨_, Sql.mem_updateWhere.mpr ⟨u, hu, rfl⟩, ?_⟩
        split
        · exact ⟨hrole, rfl⟩
        · exact ⟨hrole, hactive⟩
    | false =>
        have hactive : row.isActive = true := by
          cases hrow : row.isActive with
          | true => rfl
          | false => exact absurd hrow hsame
        -- a user that is not the target keeps its row
        have hkeeps : ∀ u ∈ db.val.users, u.id ≠ row.id →
            u ∈ updateWhere (fun u => u.id = row.id) (fun u => { u with isActive := false })
              db.val.users := by
          intro u hu hne
          exact Sql.mem_updateWhere.mpr ⟨u, hu, (if_neg (by simpa using hne)).symm⟩
        constructor
        · rintro ⟨u', hu', hadmin⟩ - -
          obtain ⟨u, hu, rfl⟩ := Sql.mem_updateWhere.mp hu'
          by_cases hid : u.id = row.id
          · rw [if_pos (decide_eq_true hid)] at hadmin
            cases hadmin.2
          · rw [if_neg (by simpa using hid)] at hadmin
            exact ⟨u, hu, hadmin, hid⟩
        · intro hother
          by_cases hrole : row.role = .admin
          · obtain ⟨u, hu, hadmin, hne⟩ := hother ⟨hrole, hactive⟩ rfl
            exact ⟨u, hkeeps u hu hne, hadmin⟩
          · -- the target is no administrator
            obtain ⟨u, hu, hadmin⟩ := h
            refine ⟨u, hkeeps u hu ?_, hadmin⟩
            intro hid
            obtain ⟨u₀, hu₀, hid₀, hrole₀⟩ := hloaded
            obtain rfl := db.property.1.eq hu hu₀ (hid.trans hid₀.symm)
            exact hrole (hrole₀.symm.trans hadmin.1)

/-- **One step leaves an active administrator** exactly if a commit that blocks one finds
another. -/
theorem hasActiveAdmin_next_iff (s : AdminState) (e : AdminStep) (hs : s.Loaded)
    (h : HasActiveAdmin s.db.val) :
    HasActiveAdmin (adminMachine.next s e).db.val ↔ BlocksNotTheLast s e := by
  cases e with
  | read request actor user active =>
      refine iff_of_true ?_ trivial
      unfold Machine.next adminMachine
      cases hread : readRequest s.db actor user active with
      | error e =>
          simp only [hread]
          exact h
      | ok row =>
          simp only [hread]
          exact h
  | commit request now =>
      unfold BlocksNotTheLast Machine.next adminMachine
      cases hrequest : s.request? request with
      | none =>
          simp only [hrequest]
          exact iff_of_true h (fun _ hnone => nomatch hnone)
      | some r =>
          obtain ⟨db', hcommit, hval⟩ := writeActive_commit s.db r.row r.active now
          simp only [hrequest, hcommit]
          have hloaded : ∃ u ∈ s.db.val.users, u.id = r.row.id ∧ u.role = r.row.role := by
            obtain ⟨p, hp, rfl⟩ := Option.map_eq_some_iff.mp hrequest
            exact hs p (List.mem_of_find?_eq_some hp)
          refine (hasActiveAdmin_write_iff s.db hloaded now h hval).trans ?_
          constructor
          · rintro hother _ heq
            obtain rfl := Option.some.inj heq
            exact hother
          · intro hother
            exact hother r rfl

/-- **The last active administrator.**  From every state with an active administrator and
no open request, every state a run visits has one if and only if every commit that blocks
an administrator finds another active one in the table, as its request had read. -/
theorem always_hasActiveAdmin_iff (db : AuthDatabase) (h : HasActiveAdmin db.val)
    (es : List AdminStep) :
    adminMachine.Always (fun s => HasActiveAdmin s.db.val) ⟨db, []⟩ es ↔
      adminMachine.Along BlocksNotTheLast ⟨db, []⟩ es := by
  refine adminMachine.always_iff_along (W := AdminState.Loaded) loaded_next
    hasActiveAdmin_next_iff ?_ h es
  intro p hp
  exact absurd hp List.not_mem_nil

/-- Two administrators and a user. -/
def staff : AuthDatabase :=
  ⟨⟨[⟨1, "admin", "admin@local", "", .admin, true, false, none⟩,
      ⟨2, "second", "second@local", "", .admin, true, false, none⟩,
      ⟨3, "user", "user@local", "", .user, true, false, none⟩], []⟩, by decide⟩

/-- The administrators block each other: both read before either commits. -/
theorem mutual_block_leaves_none :
    HasActiveAdmin staff.val ∧
      ¬ HasActiveAdmin (adminMachine.run ⟨staff, []⟩
        [.read 1 1 2 false, .read 2 2 1 false, .commit 1 10, .commit 2 11]).db.val := by
  decide +kernel

/-- One after the other: the second request is refused, its sender is blocked. -/
theorem always_hasActiveAdmin_sequential :
    adminMachine.Always (fun s => HasActiveAdmin s.db.val) ⟨staff, []⟩
      [.read 1 1 2 false, .commit 1 10, .read 2 2 1 false, .commit 2 11, .read 3 1 3 false,
        .commit 3 12] :=
  (always_hasActiveAdmin_iff staff (by decide) _).mpr (by decide +kernel)

end BondTrading
