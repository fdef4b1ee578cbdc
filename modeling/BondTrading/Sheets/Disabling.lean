/-
# BondTrading.Sheets.Disabling -- automatic jobs and disabled connections

Every enqueue reads `enabled`; the claim does not.  A job that waits, or that may come
back to the queue after a failed attempt, is claimed whatever `configure` has stored in
between.
-/
import BondTrading.Sheets.Effects

namespace BondTrading

open Py (Instant)
open Sql (UniqueOn updateWhere)
open Machines (Machine)

/-- The job waits, or a worker has it and will put it back if the attempt fails. -/
def SheetSyncJobModel.MayStart (j : SheetSyncJobModel) (s : QueueState) : Prop :=
  j.status = .queued ∨ (j.id ∈ s.executing ∧ j.attemptCount < maxAttempts)

instance (j : SheetSyncJobModel) (s : QueueState) : Decidable (j.MayStart s) :=
  inferInstanceAs (Decidable (_ ∨ _))

/-- No automatic job of a disabled connection is on its way to a worker. -/
def AutomaticEnabled (s : QueueState) : Prop :=
  ∀ j ∈ s.db.val.jobs, j.trigger ≠ .manual → j.MayStart s →
    ∀ c ∈ s.db.val.connections, c.id = j.connectionId → c.enabled = true

/-- The step claims no automatic job of a disabled connection. -/
def ClaimsEnabled (s : QueueState) (e : QueueEvent) : Prop :=
  ∀ id ∈ claimOf s e, ∀ r ∈ s.db.val.jobs, r.id = id → r.trigger ≠ .manual →
    ∀ c ∈ s.db.val.connections, c.id = r.connectionId → c.enabled = true

instance (s : QueueState) (e : QueueEvent) : Decidable (ClaimsEnabled s e) :=
  inferInstanceAs (Decidable (∀ id ∈ claimOf s e, _))

/-- A `configure` that leaves the connection disabled meets no automatic job of it on its
way to a worker. -/
def DisablesIdle (s : QueueState) : QueueEvent → Prop
  | .configure owner values _ _ =>
      values.enabled = false → values.normalize.isOk = true →
        ∀ c ∈ s.db.val.connectionOf owner, ∀ j ∈ s.db.val.jobs, j.connectionId = c.id →
          j.trigger ≠ .manual → ¬ j.MayStart s
  | _ => True

instance (s : QueueState) : (e : QueueEvent) → Decidable (DisablesIdle s e)
  | .configure owner values _ _ =>
      inferInstanceAs (Decidable (values.enabled = false → values.normalize.isOk = true →
        ∀ c ∈ s.db.val.connectionOf owner, ∀ j ∈ s.db.val.jobs, j.connectionId = c.id →
          j.trigger ≠ .manual → ¬ j.MayStart s))
  | .enqueue .. => isTrue trivial
  | .enqueueSheetSync .. => isTrue trivial
  | .enqueueDueSheetSyncs .. => isTrue trivial
  | .claim .. => isTrue trivial
  | .succeed .. => isTrue trivial
  | .fail .. => isTrue trivial
  | .kill .. => isTrue trivial

/-! ## Where the rows come from -/

/-- Apart from `configure`, a step leaves the settings of every connection alone. -/
theorem connection_before {s s' : QueueState} {e : QueueEvent} (h : Effect s e s')
    (he : e.isConfigure = false) {c : SheetConnectionModel} (hc : c ∈ s'.db.val.connections) :
    ∃ k ∈ s.db.val.connections, k.id = c.id ∧ k.enabled = c.enabled ∧
      k.syncIntervalSeconds = c.syncIntervalSeconds := by
  have hupdate : ∀ (p : SheetConnectionModel → Bool) (f : SheetConnectionModel → SheetConnectionModel),
      (∀ k, (f k).id = k.id ∧ (f k).enabled = k.enabled ∧
        (f k).syncIntervalSeconds = k.syncIntervalSeconds) →
      c ∈ updateWhere p f s.db.val.connections →
      ∃ k ∈ s.db.val.connections, k.id = c.id ∧ k.enabled = c.enabled ∧
        k.syncIntervalSeconds = c.syncIntervalSeconds := by
    intro p f hf hc
    obtain ⟨k, hk, rfl⟩ := Sql.mem_updateWhere.mp hc
    refine ⟨k, hk, ?_⟩
    split
    · exact ⟨(hf k).1.symm, (hf k).2.1.symm, (hf k).2.2.symm⟩
    · exact ⟨rfl, rfl, rfl⟩
  have hsame : ∀ t, s'.db.val = t → t.connections = s.db.val.connections →
      ∃ k ∈ s.db.val.connections, k.id = c.id ∧ k.enabled = c.enabled ∧
        k.syncIntervalSeconds = c.syncIntervalSeconds := by
    intro t hval hconnections
    rw [hval, hconnections] at hc
    exact ⟨c, hc, rfl, rfl, rfl⟩
  cases h with
  | idle => exact hsame _ rfl rfl
  | reconfigured => cases he
  | connected => cases he
  | enqueued owner trigger id now db hval =>
      obtain ⟨c, -, -, hval⟩ := hval
      exact hsame _ hval rfl
  | followed owner trigger id now db hval =>
      obtain ⟨c, -, -, hval⟩ := hval
      exact hsame _ hval rfl
  | scheduled ids now db hval => exact hsame _ hval rfl
  | claimed locked now r db hr hclaimable hclaim hval =>
      exact hsame _ hval rfl
  | succeeded report r db hr hmine hval =>
      rw [hval] at hc
      exact hupdate _ (·.succeed report) (fun _ => ⟨rfl, rfl, rfl⟩) hc
  | failed rowsRead error now r db hr hmine hval =>
      rw [hval] at hc
      exact hupdate _ (·.recordFailure (Py.Text.take 2000 error) now)
        (fun _ => ⟨rfl, rfl, rfl⟩) hc
  | killed progress r db hr hmine hval =>
      cases progress with
      | none => exact hsame _ hval rfl
      | some p =>
          rw [hval] at hc
          exact hupdate _ (fun c => { c with lastAttemptAt := some p.1 })
            (fun _ => ⟨rfl, rfl, rfl⟩) hc

/-- A job on its way to a worker was on its way before, or was enqueued by the step. -/
theorem mayStart_before {s s' : QueueState} {e : QueueEvent} (h : Effect s e s')
    {j : SheetSyncJobModel} (hj : j ∈ s'.db.val.jobs) (hmay : j.MayStart s') :
    (∃ r ∈ s.db.val.jobs, r.MayStart s ∧ r.connectionId = j.connectionId ∧
        r.trigger = j.trigger) ∨
      ∃ c ∈ s.db.val.connections, c.id = j.connectionId ∧
        (c.enabled = true ∨ j.trigger = .manual) := by
  have hold : s'.executing = s.executing → j ∈ s.db.val.jobs →
      ∃ r ∈ s.db.val.jobs, r.MayStart s ∧ r.connectionId = j.connectionId ∧
        r.trigger = j.trigger := by
    intro hexecuting hj
    unfold SheetSyncJobModel.MayStart at hmay
    rw [hexecuting] at hmay
    exact ⟨j, hj, hmay, rfl, rfl⟩
  have hcreated : ∀ trigger id now t, s'.executing = s.executing →
      Enqueues s.db.val trigger id now t → j ∈ t.jobs →
      (∃ r ∈ s.db.val.jobs, r.MayStart s ∧ r.connectionId = j.connectionId ∧
        r.trigger = j.trigger) ∨
      ∃ c ∈ s.db.val.connections, c.id = j.connectionId ∧
        (c.enabled = true ∨ j.trigger = .manual) := by
    rintro trigger id now t hexecuting ⟨c, hc, hallowed, rfl⟩ hj
    rcases List.mem_append.mp hj with hj | hj
    · exact Or.inl (hold hexecuting hj)
    · obtain rfl := List.mem_singleton.mp hj
      exact Or.inr ⟨c, hc, rfl, hallowed⟩
  -- a row its worker lets go: it was in execution, and the others are where they were
  have hreleased : ∀ r ∈ s.db.val.jobs, r.id ∈ s.executing →
      s'.executing = s.executing.filter (· ≠ r.id) →
      ∀ f : SheetSyncJobModel → SheetSyncJobModel, (f r).connectionId = r.connectionId →
        (f r).trigger = r.trigger → (f r).id = r.id →
        ((f r).status = .queued → r.MayStart s) →
        j ∈ updateWhere (fun k => k.id = r.id) f s.db.val.jobs →
        ∃ r ∈ s.db.val.jobs, r.MayStart s ∧ r.connectionId = j.connectionId ∧
          r.trigger = j.trigger := by
    intro r hr hmine hexecuting f hconnection htrigger hid hretry hj
    rcases (UniqueOn.mem_updateWhere s.db.property.2.2.1 hr f).mp hj with rfl | ⟨hj, hne⟩
    · refine ⟨r, hr, ?_, hconnection.symm, htrigger.symm⟩
      rcases hmay with hqueued | ⟨hexec, -⟩
      · exact hretry hqueued
      · rw [hexecuting, List.mem_filter, hid] at hexec
        exact absurd rfl (of_decide_eq_true hexec.2)
    · refine ⟨j, hj, ?_, rfl, rfl⟩
      rcases hmay with hqueued | ⟨hexec, hattempts⟩
      · exact Or.inl hqueued
      · rw [hexecuting] at hexec
        exact Or.inr ⟨(List.mem_filter.mp hexec).1, hattempts⟩
  cases h with
  | idle => exact Or.inl (hold rfl hj)
  | reconfigured owner values normalized id now c db hnormalized hconnection hval =>
      rw [hval] at hj
      exact Or.inl (hold rfl hj)
  | connected owner values normalized id now db hconnection hval =>
      rw [hval] at hj
      exact Or.inl (hold rfl hj)
  | enqueued owner trigger id now db hval => exact hcreated trigger id now _ rfl hval hj
  | followed owner trigger id now db hval => exact hcreated trigger id now _ rfl hval hj
  | scheduled ids now db hval =>
      rw [hval] at hj
      rcases List.mem_append.mp hj with hj | hj
      · exact Or.inl (hold rfl hj)
      · obtain ⟨c, hc, hneeds, rfl⟩ := mem_dueJobs.mp hj
        exact Or.inr ⟨c, hc, rfl, Or.inl (needsJob_iff.mp hneeds).1⟩
  | claimed locked now r db hr hclaimable hclaim hval =>
      rw [hval] at hj
      left
      rcases (UniqueOn.mem_updateWhere s.db.property.2.2.1 hr (·.claim now)).mp hj with
        rfl | ⟨hj, hne⟩
      · exact ⟨r, hr, Or.inl (isClaimable_iff.mp hclaimable).1, rfl, rfl⟩
      · refine ⟨j, hj, ?_, rfl, rfl⟩
        rcases hmay with hqueued | ⟨hexec, hattempts⟩
        · exact Or.inl hqueued
        · exact Or.inr ⟨List.mem_of_ne_of_mem hne hexec, hattempts⟩
  | succeeded report r db hr hmine hval =>
      rw [hval] at hj
      exact Or.inl (hreleased r hr hmine rfl (·.succeed report) rfl rfl rfl (nomatch ·) hj)
  | failed rowsRead error now r db hr hmine hval =>
      rw [hval] at hj
      let record : SheetSyncJobModel → SheetSyncJobModel := fun j =>
        { j with rowsRead := rowsRead.getD r.rowsRead }.recordFailure
          (Py.Text.take 2000 error) now
      have htrigger : (record r).trigger = r.trigger := by
        show SheetSyncJobModel.trigger (SheetSyncJobModel.recordFailure _ _ _) = _
        unfold SheetSyncJobModel.recordFailure
        split <;> rfl
      refine Or.inl (hreleased r hr hmine rfl record (recordFailure_connectionId _ _ _) htrigger
        (recordFailure_id _ _ _) ?_ hj)
      intro hqueued
      rw [recordFailure_status] at hqueued
      split at hqueued
      · rename_i hattempts
        exact Or.inr ⟨hmine, hattempts⟩
      · cases hqueued
  | killed progress r db hr hmine hval =>
      rw [hval] at hj
      cases progress with
      | none =>
          refine Or.inl ⟨j, hj, ?_, rfl, rfl⟩
          rcases hmay with hqueued | ⟨hexec, hattempts⟩
          · exact Or.inl hqueued
          · exact Or.inr ⟨(List.mem_filter.mp hexec).1, hattempts⟩
      | some p =>
          exact Or.inl (hreleased r hr hmine rfl (fun j => { j with rowsRead := p.2 }) rfl rfl rfl
            Or.inl hj)

theorem ConnectionValues.normalize_enabled {v n : ConnectionValues} (h : v.normalize = .ok n) :
    n.enabled = v.enabled := by
  simp only [ConnectionValues.normalize, Py.bind_eq_ok] at h
  obtain ⟨_, -, _, -, _, -, _, -, _, -, -, -, -, -, -, -, hreturn⟩ := h
  obtain rfl := Except.ok.inj hreturn
  rfl

/-! ## Steps and runs -/

/-- **One step keeps automatic jobs off disabled connections** exactly if it disables none
that has such a job. -/
theorem automaticEnabled_next_iff (s : QueueState) (e : QueueEvent) (h : AutomaticEnabled s) :
    AutomaticEnabled (queueMachine.next s e) ↔ DisablesIdle s e := by
  have heffect := queueMachine_effect s e
  generalize queueMachine.next s e = s' at heffect ⊢
  cases hconfigure : e.isConfigure with
  | false =>
      refine iff_of_true ?_ ?_
      · intro j hj hautomatic hmay c hc hconnection
        obtain ⟨k, hk, hid, henabled, -⟩ := connection_before heffect hconfigure hc
        rw [← henabled]
        rcases mayStart_before heffect hj hmay with
          ⟨r, hr, hrmay, hrconnection, hrtrigger⟩ | ⟨c₀, hc₀, hc₀id, hallowed⟩
        · refine h r hr (hrtrigger ▸ hautomatic) hrmay k hk ?_
          rw [hid, hconnection, hrconnection]
        · -- the step created the job, so it read `enabled`
          have hsame : k = c₀ := s.db.property.1.eq hk hc₀ (hid.trans (hconnection.trans hc₀id.symm))
          rw [hsame]
          exact hallowed.resolve_right hautomatic
      · cases e with
        | configure => cases hconfigure
        | _ => trivial
  | true =>
      cases heffect with
      | idle _ hclaim hrefused =>
          refine iff_of_true h ?_
          cases e with
          | configure owner values id now =>
              intro _ hok c hc
              obtain ⟨n, hn⟩ := Py.exists_of_isOk hok
              exact absurd hn (hrefused owner values id now rfl c hc n)
          | _ => cases hconfigure
      | connected owner values normalized id now db hconnection hval =>
          refine iff_of_true ?_ ?_
          · intro j hj hautomatic hmay c hc hid
            obtain ⟨k, hk, hkid⟩ := s.db.property.2.2.2 j (by rw [hval] at hj; exact hj)
            -- the job has a connection already, and no other has its identifier
            have hk' : k ∈ db.val.connections := by
              rw [hval]
              exact List.mem_append_left _ hk
            obtain rfl : k = c := db.property.1.eq hk' hc (hkid.trans hid.symm)
            rw [hval] at hj
            exact h j hj hautomatic hmay k hk hid
          · intro _ _ c hc
            rw [hconnection] at hc
            cases hc
      | reconfigured owner values normalized id now c db hnormalized hconnection hval =>
          have hc : c ∈ s.db.val.connections := List.mem_of_find?_eq_some hconnection
          have henabled := ConnectionValues.normalize_enabled hnormalized
          have hmem : ∀ k, k ∈ db.val.connections ↔
              k = c.assign normalized ∨ (k ∈ s.db.val.connections ∧ k.id ≠ c.id) := by
            intro k
            rw [hval]
            exact UniqueOn.mem_updateWhere s.db.property.1 hc (·.assign normalized)
          have hjobs : db.val.jobs = s.db.val.jobs := by rw [hval]
          constructor
          · intro hnext hdisabled _ k hk j hj hid hautomatic hmay
            obtain rfl := Option.some.inj (hconnection.symm.trans hk)
            have hstill : normalized.enabled = true :=
              hnext j (show j ∈ db.val.jobs from hjobs ▸ hj) hautomatic hmay
                (c.assign normalized) ((hmem _).mpr (Or.inl rfl)) hid.symm
            rw [henabled, hdisabled] at hstill
            cases hstill
          · intro hidle j hj hautomatic hmay k hk hid
            have hj' : j ∈ s.db.val.jobs := hjobs ▸ hj
            rcases (hmem k).mp hk with rfl | ⟨hk, -⟩
            · show normalized.enabled = true
              rw [henabled]
              by_contra hdisabled
              refine hidle (Bool.eq_false_of_not_eq_true hdisabled) ?_ c hconnection j hj' hid.symm
                hautomatic hmay
              rw [hnormalized]
              rfl
            · exact h j hj' hautomatic hmay k hk hid
      | _ => cases hconfigure

/-- A claim takes a waiting job. -/
theorem claimsEnabled_of_automaticEnabled {s : QueueState} (h : AutomaticEnabled s)
    (e : QueueEvent) : ClaimsEnabled s e := by
  intro id hid r hr hrid hautomatic c hc hconnection
  obtain ⟨_, _, -, k, hk, hkid, hqueued, -⟩ := (queueMachine_effect s e).claimed_row hid
  obtain rfl : k = r := s.db.property.2.2.1.eq hk hr (hkid.trans hrid.symm)
  exact h k hr hautomatic (Or.inl hqueued) c hc hconnection

/-- **Disabled connections over whole runs.**  Starting with an empty queue: no state a
run visits has an automatic job of a disabled connection on its way to a worker if and
only if no `configure` disables a connection with such a job; and then no claim ever
starts an automatic job of a disabled connection. -/
theorem claims_enabled_of_disablesIdle (db : SheetDatabase) (hempty : db.val.jobs = [])
    (es : List QueueEvent) :
    (queueMachine.Along DisablesIdle (QueueState.initial db) es →
      queueMachine.Along ClaimsEnabled (QueueState.initial db) es) ∧
    (queueMachine.Always AutomaticEnabled (QueueState.initial db) es ↔
      queueMachine.Along DisablesIdle (QueueState.initial db) es) := by
  have hnone : AutomaticEnabled (QueueState.initial db) := by
    intro j hj
    rw [show (QueueState.initial db).db.val.jobs = [] from hempty] at hj
    exact absurd hj List.not_mem_nil
  constructor
  · intro hidle
    refine hidle.imp queueMachine (W := AutomaticEnabled) ?_ ?_ hnone
    · intro s e hs hG
      exact (automaticEnabled_next_iff s e hs).mpr hG
    · intro s e hs _
      exact claimsEnabled_of_automaticEnabled hs e
  · exact queueMachine.always_iff_along (W := fun _ => True) (fun _ _ _ => trivial)
      (fun s e _ hs => automaticEnabled_next_iff s e hs) trivial hnone es

/-- A lot is created, the connection is disabled while the job waits, and a worker claims
the job. -/
def disabledRun : List QueueEvent :=
  [.enqueueSheetSync 1 .lotCreated 20 1,
    .configure 1 ⟨"customer-sheet-0123456789", "Портфель", 1, "A", "C", none, some "D",
      .bestOfferCleanRub, false, 300⟩ 11 2,
    .claim [] 3]

theorem disabledRun_claims_disabled :
    ¬ queueMachine.Along ClaimsEnabled (QueueState.initial customerDatabase) disabledRun := by
  decide +kernel

/-- The connection is disabled after its job has succeeded. -/
theorem claims_enabled_after_success :
    queueMachine.Along ClaimsEnabled (QueueState.initial customerDatabase)
      [.enqueueSheetSync 1 .lotCreated 20 1, .claim [] 2,
        .succeed 20 ⟨2, 1, 1, 1, [], "hash", 4⟩,
        .configure 1 ⟨"customer-sheet-0123456789", "Портфель", 1, "A", "C", none, some "D",
          .bestOfferCleanRub, false, 300⟩ 11 5,
        .enqueueSheetSync 1 .lotUpdated 21 6, .claim [] 7] :=
  (claims_enabled_of_disablesIdle customerDatabase rfl _).1 (by decide +kernel)

end BondTrading
