/-
# BondTrading.Instruments.Quotes -- quotes are only added

A run of refreshes, of any ISINs, each of which returns or fails in the client.  What a
snapshot says of the market is never changed; a refresh that returned adds one snapshot of
its instrument; one that failed writes the status and the error message of the latest
snapshot of its instrument, and nothing else.
-/
import BondTrading.Instruments.Outcomes
import BondTrading.Machines.Runs
import Mathlib.Data.List.Infix

namespace BondTrading

open Machines (Machine Entry)
open Py (Routine)
open Sql (Fault World)

/-! ## What a snapshot says -/

/-- A snapshot without what `_record_refresh_error` writes. -/
def MarketSnapshotModel.quote (m : MarketSnapshotModel) : MarketSnapshotModel :=
  { m with status := "", errorMessage := none }

/-- The quotes, in the order in which they were stored. -/
def MarketTables.quotes (t : MarketTables) : List MarketSnapshotModel :=
  t.markets.map MarketSnapshotModel.quote

/-- **A failed refresh**: only the latest snapshot of the instrument shows it. -/
inductive RefreshFailed (isin : String) (error : PyError) (t : Tables) : Tables → Prop where
  | unseen (hnone : t.market.snapshotsOf isin = []) : RefreshFailed isin error t t
  | marked (latest : MarketSnapshotModel) (hmem : latest ∈ t.market.snapshotsOf isin)
      (hlatest : ∀ m ∈ t.market.snapshotsOf isin, m.receivedAt ≤ latest.receivedAt) :
      RefreshFailed isin error t
        { t with market := { t.market with
          markets := Sql.updateWhere (fun m => m.id = latest.id)
            (fun m => { m with
              status := "refresh_error"
              errorMessage := some (Py.Text.take 2000 error.str) }) t.market.markets } }

/-! ## The machine -/

structure RefreshCall where
  isin : String
  client : MoexClient
  draw : RefreshDraw
  faults : RefreshOperation → Fault

inductive QuoteEvent where
  | refresh (call : RefreshCall)
  /-- The calls that follow have a session of their own. -/
  | newSession

/-- What a call returned or raised. -/
abbrev RefreshOutcome := Except PyError (BondInstrumentModel × MarketSnapshotModel)

def RefreshCall.run (call : RefreshCall) : Service (BondInstrumentModel × MarketSnapshotModel) :=
  refresh call.faults call.client call.draw call.isin

def quoteMachine : Machine ServiceWorld QuoteEvent (Option RefreshOutcome) where
  step w
    | .refresh call => ((call.run w).2, some (call.run w).1)
    | .newSession => (World.opened w.committed, none)

/-- The call raises in `client.refresh`, and the database refuses none of what follows. -/
def RefreshCall.Fails (call : RefreshCall) (isin : String) (error : PyError) : Prop :=
  normalizeIsin call.isin = .ok isin ∧ call.client.refresh isin = .error error ∧
    ∀ operation ∈ [RefreshOperation.lookup, .latestSnapshot, .storeError],
      call.faults operation = .none

/-- Every call returns, or fails in the client. -/
def Settles (w : ServiceWorld) : QuoteEvent → Prop
  | .refresh call => (∃ pair, (call.run w).1 = .ok pair) ∨ ∃ isin error, call.Fails isin error
  | .newSession => True

/-- A line of the history where a refresh of the ISIN returned. -/
def isRefreshed (isin : String) (entry : Entry ServiceWorld QuoteEvent (Option RefreshOutcome)) :
    Bool :=
  match entry.event, entry.response with
  | .refresh call, some (.ok _) => (normalizeIsin call.isin).toOption = some isin
  | _, _ => false

/-- A usable session that has nothing to commit. -/
structure Idle (w : ServiceWorld) : Prop where
  usable : w.broken = false
  clean : w.work = w.committed.val

/-! ## A call that returned -/

section Stored

variable {t : MarketTables} {isin other : String} {draw : RefreshDraw}
  {result : MoexRefreshResult ℚ}

theorem refreshed_markets : (t.refreshed isin draw result).markets =
    t.markets ++ [newSnapshot (t.refreshedInstrument isin draw result).id draw result.market] := by
  show (t.withInstrument isin draw result).markets ++ _ = _
  rw [withInstrument_markets]

theorem quotes_refreshed : t.quotes <+: (t.refreshed isin draw result).quotes := by
  unfold MarketTables.quotes
  rw [refreshed_markets, List.map_append]
  exact List.prefix_append _ _

theorem snapshotsOf_refreshed (ht : t.Constraints) (hisin : result.instrument.isin = isin)
    (hC : (t.refreshed isin draw result).Constraints) :
    (t.refreshed isin draw result).snapshotsOf isin = t.snapshotsOf isin ++
      [newSnapshot (t.refreshedInstrument isin draw result).id draw result.market] := by
  have hfound : (t.refreshed isin draw result).instrumentOf isin =
      some (t.refreshedInstrument isin draw result) := instrumentOf_withInstrument hisin hC.isins
  unfold MarketTables.snapshotsOf
  rw [rowsOf_of_found hfound, refreshed_markets, List.filter_append,
    rows_of_refreshed ht.marketInstruments hC.instrumentIds, List.filter_singleton]
  simp [newSnapshot]

theorem snapshotsOf_refreshed_of_ne (ht : t.Constraints) (hisin : result.instrument.isin = isin)
    (hC : (t.refreshed isin draw result).Constraints) (hother : other ≠ isin) :
    (t.refreshed isin draw result).snapshotsOf other = t.snapshotsOf other := by
  have hinstrument : (t.refreshed isin draw result).instrumentOf other = t.instrumentOf other :=
    instrumentOf_withInstrument_of_ne ht hisin hother
  unfold MarketTables.snapshotsOf
  apply rowsOf_congr hinstrument
  intro i hi
  rw [refreshed_markets, List.filter_append, List.append_right_eq_self, List.filter_singleton]
  -- the two instruments are stored, so they differ in their identifiers
  have hne : (t.refreshedInstrument isin draw result).id ≠ i.id := by
    intro hid
    obtain ⟨hmem, hsame⟩ := instrumentOf_isin (hinstrument.trans hi)
    have hi' := hC.instrumentIds.eq hmem mem_withInstrument hid.symm
    rw [hi', refreshedInstrument_isin hisin] at hsame
    exact hother hsame.symm
  simp [newSnapshot, hne]

end Stored

section Calls

variable {call : RefreshCall} {w w' : ServiceWorld} {isin : String} {error : PyError}
  {pair : BondInstrumentModel × MarketSnapshotModel}

/-- The last select went through. -/
theorem run_endsUsable (call : RefreshCall) : World.EndsUsable call.run := by
  apply World.EndsUsable.after
  intro normalizedIsin
  apply World.EndsUsable.after
  intro instrument
  apply World.EndsUsable.after
  intro result
  apply World.EndsUsable.after
  intro _
  apply World.EndsUsable.after
  intro _
  apply World.EndsUsable.after
  intro existingHashes
  apply World.EndsUsable.after
  intro _
  apply World.EndsUsable.after
  intro _
  apply World.EndsUsable.after
  intro _
  exact (World.EndsUsable.query _ _).andReturn _

/-- **A refresh that returned** stored the answer under the ISIN that was asked for. -/
theorem run_returned (hw : Idle w) (h : (call.run w).1 = .ok pair) :
    ∃ isin result, normalizeIsin call.isin = .ok isin ∧ call.client.refresh isin = .ok result ∧
      result.instrument.isin = isin ∧ Idle (call.run w).2 ∧
      (call.run w).2.committed.val = { w.committed.val with
        market := w.committed.val.market.refreshed isin call.draw result } := by
  obtain ⟨instrument, snapshot⟩ := pair
  have hrun : call.run w = (.ok (instrument, snapshot), (call.run w).2) := by rw [← h]
  obtain ⟨isin, result, hnormalized, hanswer, -, -, hwork, hcommitted⟩ := refresh_eq_ok hrun
  have hisin : result.instrument.isin = isin := Except.ok.inj
    ((call.client.answersIsin isin result hanswer).symm.trans (normalizeIsin_idem hnormalized))
  have husable := run_endsUsable call w _ _ hrun
  refine ⟨isin, result, hnormalized, hanswer, hisin, ⟨husable, hcommitted.symm⟩, ?_⟩
  rw [hcommitted, hwork, hw.clean]

/-! ## A call that failed -/

/-- The failure is recorded at the latest snapshot, if there is one. -/
theorem recordRefreshError_fails {faults : RefreshOperation → Fault} (draw : RefreshDraw)
    (error : PyError) (hw : Idle w)
    (hselect : faults .latestSnapshot = .none) (hstore : faults .storeError = .none) :
    ∃ w', recordRefreshError faults (w.work.market.instrumentOf isin) error w = (.ok (), w') ∧
      Idle w' ∧ RefreshFailed isin error w.committed.val w'.committed.val := by
  have hC : w.work.Constraints := hw.clean ▸ w.committed.property
  rw [← hw.clean]
  cases hfound : w.work.market.instrumentOf isin with
  | none =>
      have hunseen : w.work.market.snapshotsOf isin = [] := by
        unfold MarketTables.snapshotsOf MarketTables.rowsOf
        rw [hfound]
      refine ⟨w, rfl, hw, ?_⟩
      rw [← hw.clean]
      exact .unseen hunseen
  | some instrument =>
      have hselected := World.query_none (ε := PyError) hw.usable fun t : Tables =>
        t.market.latestOf instrument.id
      show ∃ w', (World.query _ _ >>= _) w = _ ∧ _
      rw [hselect, Routine.bind_of_ok hselected]
      cases hlatest : w.work.market.latestOf instrument.id with
      | none =>
          refine ⟨w, rfl, hw, ?_⟩
          rw [← hw.clean]
          exact .unseen ((latestOf_eq_none hfound).mp hlatest)
      | some latest =>
          have hstep : MarketStep isin draw w.work.market
              (w.work.market.markError latest error) :=
            marketStep_markError hC.market hfound hlatest error
          have hkept : (Tables.editMarket (·.markError latest error) w.work).Constraints :=
            hstep.tables hC
          show ∃ w', (World.edit _ >>= fun _ => World.commit _) w = _ ∧ _
          rw [hstore, Routine.bind_of_ok (World.edit_apply _ _)]
          refine ⟨_, World.commit_none (by exact hw.usable) hkept, ⟨hw.usable, rfl⟩, ?_⟩
          have hsnapshots : w.work.market.snapshotsOf isin =
              w.work.market.markets.filter fun m => m.instrumentId = instrument.id :=
            rowsOf_of_found hfound
          obtain ⟨hmem, hinstrument⟩ := latestOf_eq_some hlatest
          refine .marked latest ?_ ?_
          · rw [hsnapshots]
            exact List.mem_filter.mpr ⟨hmem, decide_eq_true hinstrument⟩
          · intro m hm
            rw [hsnapshots] at hm
            obtain ⟨hm, hinstrument⟩ := List.mem_filter.mp hm
            unfold MarketTables.latestOf at hlatest
            have hle := Sql.le_of_firstBy hlatest hm hinstrument
            exact neg_le_neg_iff.mp hle

/-- The text of a call matters through its ISIN. -/
theorem refresh_of_same {faults : RefreshOperation → Fault} {client : MoexClient}
    {draw : RefreshDraw} {text : String} (h : normalizeIsin text = .ok isin) :
    refresh faults client draw text = refresh faults client draw isin := by
  unfold refresh
  rw [h, normalizeIsin_idem h]

/-- **A refresh that failed in the client** raises its error, and the latest snapshot shows
it. -/
theorem run_fails (hw : Idle w) (h : call.Fails isin error) :
    ∃ w', call.run w = (.error error, w') ∧ Idle w' ∧
      RefreshFailed isin error w.committed.val w'.committed.val := by
  obtain ⟨hnormalized, hanswer, hfaults⟩ := h
  have hlookup := World.query_none (ε := PyError) hw.usable fun t : Tables =>
    t.market.instrumentOf isin
  obtain ⟨w', hrecord, hw', hfailed⟩ := recordRefreshError_fails call.draw error
    (w := { w with calls := w.calls ++ [.refresh isin] }) ⟨hw.usable, hw.clean⟩
    (hfaults .latestSnapshot (by decide)) (hfaults .storeError (by decide))
  refine ⟨w', ?_, hw', hfailed⟩
  unfold RefreshCall.run
  rw [refresh_of_same hnormalized, refresh_of_normalized (normalizeIsin_idem hnormalized),
    hfaults .lookup (by decide), Routine.bind_of_ok hlookup, hanswer,
    Routine.attempt_bind_of_error (World.call_apply _ _ _), Routine.bind_assoc,
    Routine.bind_of_ok hrecord]
  rfl

/-- A failed refresh changes no quote. -/
theorem RefreshFailed.quotes {t t' : Tables} (h : RefreshFailed isin error t t') :
    t'.market.quotes = t.market.quotes := by
  cases h with
  | unseen => rfl
  | marked latest =>
      apply Sql.map_updateWhere
      intro m
      rfl

theorem RefreshFailed.instruments {t t' : Tables} (h : RefreshFailed isin error t t') :
    t'.market.instruments = t.market.instruments := by
  cases h with
  | unseen => rfl
  | marked latest => rfl

/-- How many snapshots an instrument has can be read off the quotes. -/
theorem rowsOf_quotes (t : MarketTables) (other : String) :
    t.rowsOf other MarketSnapshotModel.instrumentId t.quotes =
      (t.snapshotsOf other).map MarketSnapshotModel.quote := by
  unfold MarketTables.snapshotsOf MarketTables.rowsOf MarketTables.quotes
  cases t.instrumentOf other with
  | none => rfl
  | some instrument => exact List.filter_map

theorem RefreshFailed.snapshots {t t' : Tables} (h : RefreshFailed isin error t t')
    (other : String) :
    (t'.market.snapshotsOf other).length = (t.market.snapshotsOf other).length := by
  have hinstrument : t'.market.instrumentOf other = t.market.instrumentOf other := by
    unfold MarketTables.instrumentOf
    rw [h.instruments]
  rw [← List.length_map MarketSnapshotModel.quote, ← rowsOf_quotes, h.quotes,
    rowsOf_congr hinstrument fun _ _ => rfl, rowsOf_quotes, List.length_map]

end Calls

/-! ## A step -/

section Steps

variable {w : ServiceWorld} {e : QuoteEvent}

theorem next_refresh (call : RefreshCall) (w : ServiceWorld) :
    quoteMachine.next w (.refresh call) = (call.run w).2 := by
  simp only [Machine.next, quoteMachine]

theorem entry_refresh (call : RefreshCall) (w : ServiceWorld) :
    quoteMachine.entry w (.refresh call) = ⟨w, .refresh call, some (call.run w).1⟩ := by
  simp only [Machine.entry, quoteMachine]

theorem idle_next (hw : Idle w) (he : Settles w e) : Idle (quoteMachine.next w e) := by
  cases e with
  | newSession => exact ⟨rfl, rfl⟩
  | refresh call =>
      rw [next_refresh]
      rcases he with ⟨pair, hreturned⟩ | ⟨isin, error, hfails⟩
      · obtain ⟨isin, result, -, -, -, hidle, hstored⟩ := run_returned hw hreturned
        exact hidle
      · obtain ⟨w', hrun, hidle, hfailed⟩ := run_fails hw hfails
        rw [hrun]
        exact hidle

theorem quotes_next (hw : Idle w) (he : Settles w e) :
    w.committed.val.market.quotes <+: (quoteMachine.next w e).committed.val.market.quotes := by
  cases e with
  | newSession => exact List.prefix_refl _
  | refresh call =>
      rw [next_refresh]
      rcases he with ⟨pair, hreturned⟩ | ⟨isin, error, hfails⟩
      · obtain ⟨isin, result, -, -, -, hidle, hstored⟩ := run_returned hw hreturned
        rw [hstored]
        exact quotes_refreshed
      · obtain ⟨w', hrun, hidle, hfailed⟩ := run_fails hw hfails
        rw [hrun, ← hfailed.quotes]

theorem snapshots_next (hw : Idle w) (he : Settles w e) (isin : String) :
    ((quoteMachine.next w e).committed.val.market.snapshotsOf isin).length =
      (w.committed.val.market.snapshotsOf isin).length +
        (isRefreshed isin (quoteMachine.entry w e)).toNat := by
  cases e with
  | newSession => rfl
  | refresh call =>
      rw [next_refresh, entry_refresh]
      rcases he with ⟨pair, hreturned⟩ | ⟨failed, error, hfails⟩
      · obtain ⟨asked, result, hnormalized, -, hisin, hidle, hstored⟩ := run_returned hw hreturned
        have hkept := (call.run w).2.committed.property.market
        have hentry : isRefreshed isin ⟨w, .refresh call, some (call.run w).1⟩ =
            decide (asked = isin) := by
          rw [hreturned]
          simp [isRefreshed, hnormalized, Except.toOption]
        rw [hentry]
        rw [hstored] at hkept ⊢
        by_cases hsame : isin = asked
        · subst hsame
          rw [snapshotsOf_refreshed w.committed.property.market hisin hkept]
          simp
        · rw [snapshotsOf_refreshed_of_ne w.committed.property.market hisin hkept hsame]
          simp [eq_comm, hsame]
      · obtain ⟨w', hrun, hidle, hfailed⟩ := run_fails hw hfails
        have hentry : isRefreshed isin ⟨w, .refresh call, some (call.run w).1⟩ = false := by
          rw [hrun]
          rfl
        rw [hentry, hrun]
        exact hfailed.snapshots isin

end Steps

/-! ## A run -/

section Runs

variable {w : ServiceWorld} {events : List QuoteEvent}

theorem idle_run (hw : Idle w) (h : quoteMachine.Along Settles w events) :
    Idle (quoteMachine.run w events) :=
  quoteMachine.invariant_along (fun _ _ => idle_next) hw h

/-- Quotes are only added, by every run. -/
theorem quotes_run (hw : Idle w) (h : quoteMachine.Along Settles w events) :
    w.committed.val.market.quotes <+:
      (quoteMachine.run w events).committed.val.market.quotes := by
  induction events generalizing w with
  | nil => exact List.prefix_refl _
  | cons e events ih => exact (quotes_next hw h.1).trans (ih (idle_next hw h.1) h.2)

/-- Every successful refresh added its snapshot. -/
theorem snapshots_run (hw : Idle w) (h : quoteMachine.Along Settles w events) (isin : String) :
    ((quoteMachine.run w events).committed.val.market.snapshotsOf isin).length =
      (w.committed.val.market.snapshotsOf isin).length +
        (quoteMachine.history w events).countP (isRefreshed isin) := by
  induction events generalizing w with
  | nil => rfl
  | cons e events ih =>
      have hrest := ih (idle_next hw h.1) h.2
      have hstep := snapshots_next hw h.1 isin
      rw [Machine.run_cons, hrest, hstep, Machine.history_cons, List.countP_cons]
      cases isRefreshed isin (quoteMachine.entry w e) with
      | false => simp
      | true =>
          simp
          omega

end Runs

/-- The committed tables after a run that starts with a session on `db`. -/
def tablesAfter (db : Database) (events : List QuoteEvent) : Tables :=
  (quoteMachine.run (World.opened db) events).committed.val

/-- **Quotes are append-only**, along every run of refreshes that return or fail in the client:
what was stored stays as it was, every refresh that returned added one snapshot of its
instrument, and one that failed shows at the latest snapshot of its instrument alone. -/
theorem quotes_append_only (db : Database) {events : List QuoteEvent}
    (h : quoteMachine.Along Settles (World.opened db) events) :
    (∀ es fs, events = es ++ fs →
      (tablesAfter db es).market.quotes <+: (tablesAfter db events).market.quotes) ∧
    (∀ isin, ((tablesAfter db events).market.snapshotsOf isin).length =
      (db.val.market.snapshotsOf isin).length +
        (quoteMachine.history (World.opened db) events).countP (isRefreshed isin)) ∧
    ∀ es call fs isin error, events = es ++ .refresh call :: fs → call.Fails isin error →
      RefreshFailed isin error (tablesAfter db es) (tablesAfter db (es ++ [.refresh call])) := by
  have hopened : Idle (World.opened db : ServiceWorld) := ⟨rfl, rfl⟩
  refine ⟨?_, snapshots_run hopened h, ?_⟩
  · rintro es fs rfl
    obtain ⟨hes, hfs⟩ := quoteMachine.along_append.mp h
    unfold tablesAfter
    rw [Machine.run_append]
    exact quotes_run (idle_run hopened hes) hfs
  · rintro es call fs isin error rfl hfails
    have hes := (quoteMachine.along_append.mp h).1
    obtain ⟨w', hrun, -, hfailed⟩ := run_fails (idle_run hopened hes) hfails
    unfold tablesAfter
    rw [Machine.run_append, Machine.run_cons, Machine.run_nil, next_refresh, hrun]
    exact hfailed

/-- MOEX out of reach. -/
def deadClient : MoexClient where
  refresh _ := .error (.external "MOEX is not available")
  accruedInterestOn _ _ _ := .error (.external "MOEX is not available")
  answersIsin _ _ h := by cases h

/-- A refresh of one bond by the `n`-th call, in lower case. -/
def quoteCall (client : MoexClient) (n : ℕ) : RefreshCall :=
  ⟨" ru000a107sx3", client, ⟨n, fun k => 10 * n + k, 50 + n, 0⟩, fun _ => .none⟩

theorem quotes_append_only_of_failure :
    let events := [.refresh (quoteCall deadClient 1),
      .refresh (quoteCall (parClient (40, "coupon-40")) 2), .newSession,
      .refresh (quoteCall deadClient 3)]
    ((tablesAfter Database.empty events).market.snapshotsOf "RU000A107SX3").length = 1 := by
  have hreturns := Py.exists_of_isOk (x := ((quoteCall (parClient (40, "coupon-40")) 2).run
    (quoteMachine.run (World.opened Database.empty) [.refresh (quoteCall deadClient 1)])).1)
    (by decide +kernel)
  have hnormalized : normalizeIsin " ru000a107sx3" = .ok "RU000A107SX3" := by decide +kernel
  have hfails : ∀ n, (quoteCall deadClient n).Fails "RU000A107SX3"
      (.external "MOEX is not available") := fun n => ⟨hnormalized, rfl, fun _ _ => rfl⟩
  refine ((quotes_append_only Database.empty ?_).2.1 "RU000A107SX3").trans (by decide +kernel)
  exact ⟨.inr ⟨_, _, hfails 1⟩, .inl hreturns, trivial, .inr ⟨_, _, hfails 3⟩, trivial⟩

end BondTrading
