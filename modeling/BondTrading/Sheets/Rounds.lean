/-
# BondTrading.Sheets.Rounds -- the loop over the ISINs when the database refuses nothing

One thing still breaks the session: an answer of MOEX that repeats an action, which the
commit refuses.  The loop gets to the ISINs before it and to no other, and what it knows
and stores of an ISIN is told from the ISIN's view before the loop.  After a commit that was
refused the connection cannot be read, so only a loop that gets to every ISIN is followed by
a write.
-/
import BondTrading.Sheets.Refreshes

namespace BondTrading

open Py (Decimal Instant Routine)
open Sql (Fault World)

/-- The database refuses nothing. -/
def SyncEnvironment.Unrefused (env : SyncEnvironment) : Prop :=
  ∀ operation, env.faults operation = .none

/-- The new actions of an ISIN are distinct, if MOEX answers. -/
def MarketTables.takes (t : MarketTables) (moex : MoexClient) (isin : String) : Bool :=
  match moex.refresh isin with
  | .ok result => decide (DistinctActions (t.view isin).actions result.actions)
  | .error _ => true

/-- The ISINs whose rounds go before the first that breaks the session. -/
def MarketTables.reached (t : MarketTables) (moex : MoexClient) (isins : List String) :
    List String :=
  isins.takeWhile (t.takes moex)

/-- **What the loop knows of an ISIN.** -/
def loopValue (env : SyncEnvironment) (connection : SheetConnectionModel) (t : MarketTables)
    (isins : List String) (isin : String) : Option RefreshedInstrument :=
  if isin ∈ t.reached env.moex isins then refreshedValue env connection (t.view isin) isin
  else none

/-- The view of an ISIN holds the instrument of an answer, and its new actions. -/
structure InstrumentView.Stored (view view' : InstrumentView) (draw : RefreshDraw)
    (result : MoexRefreshResult ℚ) : Prop where
  instrument : view'.instrument = some (refreshedInstrument view.instrument draw result.instrument)
  actions : view'.actions = view.actions ++
    newActions (refreshedInstrument view.instrument draw result.instrument).id
      (view.actions.map CorporateActionModel.sourcePayloadHash) draw result.actions

/-- Nothing of the market tables is still to be committed. -/
def ServiceWorld.MarketCommitted (w : ServiceWorld) : Prop :=
  w.committed.val.market = w.work.market

/-! ## One round -/

section Round

variable {env : SyncEnvironment} {connection : SheetConnectionModel} {isin : String}
  {faults : RefreshOperation → Fault} {draw : RefreshDraw} {result : MoexRefreshResult ℚ}
  {w : ServiceWorld}

/-- Without refusals a round leaves the session usable exactly when the tables take its
answer. -/
theorem isinKept_iff (henv : env.Unrefused) (t : MarketTables) :
    IsinKept env (t.view isin) isin ↔ t.takes env.moex isin = true := by
  have hfaults : env.faultsOf isin = fun _ => .none := by
    funext operation
    exact henv _
  unfold IsinKept MarketTables.takes
  rw [hfaults, henv]
  have hcashflows : refreshResult env (t.view isin) isin ≠ none → Fault.none ≠ Fault.aborted :=
    fun _ => Fault.noConfusion
  rw [and_iff_left hcashflows]
  cases env.moex.refresh isin with
  | ok result =>
      show (Fault.none = Fault.none ∧ ((Fault.none = Fault.none ∧ _) ∧ Fault.none ≠ Fault.aborted)) ↔
        decide _ = true
      rw [decide_eq_true_eq]
      constructor
      · intro h
        exact h.2.1.2
      · intro h
        exact ⟨rfl, ⟨rfl, h⟩, Fault.noConfusion⟩
  | error e => exact iff_of_true (Or.inr (Or.inr rfl)) rfl

/-- A round that breaks the session commits nothing, and expires what was loaded. -/
theorem storeRefresh_refused (faults : RefreshOperation → Fault)
    (hfaults : ∀ operation, faults operation = .none)
    (hw : w.broken = false) (hC : w.work.Constraints) (hfresh : draw.Fresh w.work.market)
    (hisin : result.instrument.isin = isin)
    (hrepeated : ¬ DistinctActions (w.work.market.view isin).actions result.actions) :
    ∃ e w', storeRefresh faults draw (w.work.market.instrumentOf isin) result w = (.error e, w') ∧
      w'.expired = true ∧ w'.committed = w.committed := by
  have hflushed := (marketStep_withInstrument hC.market hfresh hisin).tables hC
  have hrefused : ¬ (faults .store = .none ∧
      ({ w.work with market := w.work.market.refreshed isin draw result } : Tables).Constraints) := by
    rintro ⟨-, hrefreshed⟩
    exact hrepeated ((refreshed_constraints_iff hC.market hfresh hisin).mp hrefreshed.market)
  unfold storeRefresh
  rw [hfaults .flush, hfaults .hashes]
  rw [Routine.bind_of_ok (World.edit_apply _ _)]
  rw [Routine.bind_of_ok (World.flush_none (by exact hw) (by exact hflushed))]
  rw [Routine.bind_of_ok (World.query_none (by exact hw) _)]
  rw [Routine.bind_of_ok (World.edit_apply _ _)]
  rw [Routine.bind_of_error (World.commit_refused (by exact hw) (by exact hrefused))]
  exact ⟨_, _, rfl, rfl, rfl⟩

/-- The record of a failed refresh is committed. -/
theorem recordRefreshError_settles (faults : RefreshOperation → Fault) (isin : String)
    (draw : RefreshDraw) (hfaults : ∀ operation, faults operation = .none)
    (hw : w.broken = false) (hC : w.work.Constraints) (hclean : w.MarketCommitted)
    (error : PyError) :
    ∃ w', recordRefreshError faults (w.work.market.instrumentOf isin) error w = (.ok (), w') ∧
      w'.broken = false ∧ ServiceWorld.MarketCommitted w' := by
  cases hfound : w.work.market.instrumentOf isin with
  | none => exact ⟨w, rfl, hw, hclean⟩
  | some instrument =>
      show ∃ w', (World.query (faults .latestSnapshot) _ >>= _) w = _ ∧ _
      rw [hfaults, Routine.bind_of_ok (World.query_none hw _)]
      cases hlatest : w.work.market.latestOf instrument.id with
      | none => exact ⟨w, rfl, hw, hclean⟩
      | some latest =>
          have hstep : MarketStep isin draw w.work.market (w.work.market.markError latest error) :=
            marketStep_markError hC.market hfound hlatest error
          have hmarked : (Tables.editMarket (·.markError latest error) w.work).Constraints :=
            hstep.tables hC
          show ∃ w', (World.edit _ >>= fun _ => World.commit (faults .storeError)) w = _ ∧ _
          rw [hfaults, Routine.bind_of_ok (World.edit_apply _ _),
            World.commit_none (by exact hw) (by exact hmarked)]
          exact ⟨_, rfl, hw, rfl⟩

/-- How a round ends when the database refuses nothing. -/
structure RoundEnd (env : SyncEnvironment) (connection : SheetConnectionModel) (isin : String)
    (w : ServiceWorld) (outcome : Except PyError RefreshedInstrument) (w' : ServiceWorld) :
    Prop where
  usable : w'.broken = false ↔ w.work.market.takes env.moex isin = true
  value : outcome.toOption = refreshedValue env connection (w.work.market.view isin) isin
  tables : w'.broken = false → ∃ market, w'.work = { w.work with market } ∧
    MarketStep isin (env.draw.refresh isin) w.work.market market
  committed : w'.broken = false → w'.MarketCommitted
  refused : w'.broken = true →
    outcome.toOption = none ∧ w'.expired = true ∧ w'.committed = w.committed
  stored : w'.broken = false → ∀ result, env.moex.refresh isin = .ok result →
    (w.work.market.view isin).Stored (w'.work.market.view isin) (env.draw.refresh isin) result

/-- A refresh that MOEX does not answer leaves nothing to be committed. -/
theorem refreshInstrument_unanswered (connection : SheetConnectionModel) (henv : env.Unrefused)
    (hw : w.broken = false) (hC : w.work.Constraints) (hclean : w.MarketCommitted)
    (hnormalized : normalizeIsin isin = .ok isin) {e : PyError}
    (hanswer : env.moex.refresh isin = .error e) :
    ServiceWorld.MarketCommitted (refreshInstrument env connection isin w).2 := by
  obtain ⟨w', hrecord, -, hclean'⟩ := recordRefreshError_settles
    (fun operation => env.faults (.refresh isin operation)) isin (env.draw.refresh isin)
    (fun operation => henv _) (w := { w with calls := w.calls ++ [.refresh isin] }) hw hC hclean e
  have hrefresh : refresh (fun operation => env.faults (.refresh isin operation)) env.moex
      (env.draw.refresh isin) isin w = (.error e, w') := by
    rw [refresh_of_normalized hnormalized, henv, Routine.bind_of_ok (World.query_none hw _),
      Routine.attempt_bind_of_error (by rw [hanswer]; exact World.call_apply _ _ _),
      Routine.bind_of_error]
    rw [Routine.bind_of_ok hrecord]
    rfl
  unfold refreshInstrument
  rw [Routine.bind_of_error hrefresh]
  exact hclean'

/-- A round that returned has committed its answer. -/
theorem refreshInstrument_eq_ok {value : RefreshedInstrument} {w' : ServiceWorld}
    (hnormalized : normalizeIsin isin = .ok isin)
    (h : refreshInstrument env connection isin w = (.ok value, w')) :
    ∃ result, env.moex.refresh isin = .ok result ∧ w'.broken = false ∧
      w'.work = { w.work with
        market := w.work.market.refreshed isin (env.draw.refresh isin) result } ∧
      w'.committed.val = w'.work := by
  simp only [refreshInstrument, Routine.bind_eq_ok] at h
  obtain ⟨⟨instrument, market⟩, w₁, hrefresh, actions, w₂, hquery, hreturn⟩ := h
  obtain ⟨-, rfl⟩ := Prod.mk.inj hreturn
  obtain ⟨-, hw₁, -, rfl⟩ := World.query_eq_ok hquery
  obtain ⟨normalized, result, hsame, hanswer, -, -, hwork, hcommitted⟩ := refresh_eq_ok hrefresh
  obtain rfl := Except.ok.inj (hnormalized.symm.trans hsame)
  exact ⟨result, hanswer, hw₁, hwork, hcommitted⟩

/-- A round whose answer repeats an action expires the session, and commits nothing. -/
theorem refreshInstrument_refused (connection : SheetConnectionModel) (henv : env.Unrefused)
    (hw : w.broken = false) (hC : w.work.Constraints) (hfresh : (env.draw.refresh isin).Fresh w.work.market)
    (hnormalized : normalizeIsin isin = .ok isin) (hanswer : env.moex.refresh isin = .ok result)
    (hrepeated : ¬ DistinctActions (w.work.market.view isin).actions result.actions) :
    ∃ e w', refreshInstrument env connection isin w = (.error e, w') ∧
      w'.expired = true ∧ w'.committed = w.committed := by
  have hisin : result.instrument.isin = isin :=
    Except.ok.inj ((env.moex.answersIsin isin result hanswer).symm.trans hnormalized)
  obtain ⟨e, w', hstore, hexpired, hcommitted⟩ := storeRefresh_refused
    (fun operation => env.faults (.refresh isin operation)) (fun operation => henv _)
    (w := { w with calls := w.calls ++ [.refresh isin] }) hw hC hfresh hisin hrepeated
  have hrefresh : refresh (fun operation => env.faults (.refresh isin operation)) env.moex
      (env.draw.refresh isin) isin w = (.error e, w') := by
    rw [refresh_of_normalized hnormalized, henv, Routine.bind_of_ok (World.query_none hw _),
      Routine.bind_of_ok (Routine.attempt_of_ok (by rw [hanswer]; exact World.call_apply _ _ _))]
    exact hstore
  unfold refreshInstrument
  exact ⟨e, w', Routine.bind_of_error hrefresh, hexpired, hcommitted⟩

/-- What a round that stored an answer leaves of its ISIN. -/
theorem view_stored {t : MarketTables} (ht : t.Constraints) (hfresh : draw.Fresh t)
    (hisin : result.instrument.isin = isin)
    (hdistinct : DistinctActions (t.view isin).actions result.actions) :
    (t.view isin).Stored ((t.refreshed isin draw result).view isin) draw result := by
  have hC := (refreshed_constraints_iff ht hfresh hisin).mpr hdistinct
  exact ⟨instrumentOf_withInstrument hisin hC.isins, actionsOf_refreshed ht hisin hC⟩

/-- **How a round ends** when the database refuses nothing. -/
theorem refreshInstrument_round (connection : SheetConnectionModel) (henv : env.Unrefused)
    (hw : w.broken = false) (hC : w.work.Constraints) (hclean : w.MarketCommitted)
    (hfresh : (env.draw.refresh isin).Fresh w.work.market)
    (hnormalized : normalizeIsin isin = .ok isin) :
    RoundEnd env connection isin w (refreshInstrument env connection isin w).1
      (refreshInstrument env connection isin w).2 := by
  have hruns : World.Runs (refreshInstrument env connection isin) w _ _ :=
    refreshInstrument_runs connection hw hC hfresh hnormalized
  have husable := hruns.usable.trans (isinKept_iff henv w.work.market)
  have hpost := hruns.outcome
  have hunanswered := fun e => refreshInstrument_unanswered connection henv hw hC
    hclean hnormalized (e := e)
  rcases hrun : refreshInstrument env connection isin w with ⟨outcome, w'⟩
  rw [hrun] at husable hpost hunanswered
  dsimp only at husable hpost hunanswered ⊢
  cases hanswer : env.moex.refresh isin with
  | error e =>
      have htakes : w.work.market.takes env.moex isin = true := by
        unfold MarketTables.takes
        rw [hanswer]
      have hw' := husable.mpr htakes
      refine ⟨husable, (hpost hw').value, fun _ => (hpost hw').tables, fun _ => ?_,
        fun hbroken => ?_, fun _ result hresult => ?_⟩
      · exact hunanswered e hanswer
      · exact Bool.noConfusion (hw'.symm.trans hbroken)
      · cases hanswer.symm.trans hresult
  | ok result =>
      have hisin : result.instrument.isin = isin :=
        Except.ok.inj ((env.moex.answersIsin isin result hanswer).symm.trans hnormalized)
      have htakes : w.work.market.takes env.moex isin = true ↔
          DistinctActions (w.work.market.view isin).actions result.actions := by
        unfold MarketTables.takes
        rw [hanswer]
        exact decide_eq_true_iff
      by_cases hdistinct : DistinctActions (w.work.market.view isin).actions result.actions
      · have hw' := husable.mpr (htakes.mpr hdistinct)
        have hvalue := (hpost hw').value
        obtain ⟨value, rfl⟩ : ∃ value, outcome = .ok value := by
          cases outcome with
          | ok value => exact ⟨value, rfl⟩
          | error e =>
              -- the database refuses nothing, so the refresh returns
              exfalso
              have hreturns : RefreshReturns (env.faultsOf isin) (w.work.market.view isin) result :=
                ⟨fun operation _ => henv _, hdistinct⟩
              unfold refreshedValue refreshResult refreshValue at hvalue
              rw [hanswer, henv] at hvalue
              simp [Except.toOption, hreturns] at hvalue
        obtain ⟨result', hanswer', -, hwork, hcommitted⟩ := refreshInstrument_eq_ok hnormalized hrun
        obtain rfl := Except.ok.inj (hanswer.symm.trans hanswer')
        refine ⟨husable, hvalue, fun _ => (hpost hw').tables, fun _ => ?_, fun hbroken => ?_,
          fun _ result' hresult => ?_⟩
        · exact congrArg Tables.market hcommitted
        · exact Bool.noConfusion (hw'.symm.trans hbroken)
        · obtain rfl := Except.ok.inj (hanswer.symm.trans hresult)
          rw [hwork]
          exact view_stored hC.market hfresh hisin hdistinct
      · have hbroken : w'.broken = true := by
          cases hw' : w'.broken with
          | true => rfl
          | false => exact absurd (htakes.mp (husable.mp hw')) hdistinct
        obtain ⟨e, w'', hrun', hexpired, hcommitted⟩ := refreshInstrument_refused connection
          henv hw hC hfresh hnormalized hanswer hdistinct
        obtain ⟨rfl, rfl⟩ := Prod.mk.inj (hrun.symm.trans hrun')
        have hnone : refreshedValue env connection (w.work.market.view isin) isin = none := by
          have hreturns :
              ¬ RefreshReturns (env.faultsOf isin) (w.work.market.view isin) result :=
            fun h => hdistinct h.2
          unfold refreshedValue refreshResult refreshValue
          rw [hanswer]
          simp [Except.toOption, hreturns]
        have husable' : ∀ {P : Prop}, w'.broken = false → P := fun hw' =>
          Bool.noConfusion (hw'.symm.trans hbroken)
        exact ⟨husable, hnone.symm, husable', husable', fun _ => ⟨rfl, hexpired, hcommitted⟩,
          husable'⟩

end Round

/-! ## The loop -/

/-- **How the loop ends** when the database refuses nothing. -/
structure LoopEnd (env : SyncEnvironment) (connection : SheetConnectionModel)
    (isins : List String) (w : ServiceWorld) (outcome : Except PyError Refreshes)
    (w' : ServiceWorld) : Prop where
  entries : ∃ errors : List SheetRowError, outcome = .ok (isins.map fun isin =>
    (isin, loopValue env connection w.work.market isins isin), errors)
  committed : w'.broken = false → w'.MarketCommitted
  readable : w'.expired = false ↔ w.work.market.reached env.moex isins = isins
  stored : ∀ isin ∈ w.work.market.reached env.moex isins, ∀ result,
    env.moex.refresh isin = .ok result → (w.work.market.view isin).Stored
      (w'.committed.val.market.view isin) (env.draw.refresh isin) result
  others : ∀ isin ∉ w.work.market.reached env.moex isins,
    w'.committed.val.market.view isin = w.work.market.view isin

section Loop

variable {env : SyncEnvironment} {connection : SheetConnectionModel} {isin : String}
  {isins : List String} {w : ServiceWorld} {t t' : MarketTables} {moex : MoexClient}

/-- In a broken session no instrument is refreshed. -/
theorem refreshAll_broken (env : SyncEnvironment) (connection : SheetConnectionModel)
    (hw : w.broken = true) (hnormalized : ∀ isin ∈ isins, normalizeIsin isin = .ok isin) :
    ∃ errors, refreshAll env connection isins w =
      (.ok (isins.map fun isin => (isin, none), errors), w) := by
  induction isins with
  | nil => exact ⟨[], rfl⟩
  | cons isin isins ih =>
      obtain ⟨errors, hrest⟩ := ih fun other hother =>
        hnormalized other (List.mem_cons_of_mem _ hother)
      have hround : refreshInstrument env connection isin w =
          (.error Sql.SessionErrors.pendingRollback, w) := by
        unfold refreshInstrument
        rw [refresh_of_normalized (hnormalized isin List.mem_cons_self), Routine.bind_of_error]
        exact Routine.bind_of_error (World.query_broken hw _ _)
      rw [refreshAll, Routine.bind_of_ok (Routine.outcome_apply _ _), hround,
        Routine.bind_of_ok hrest]
      exact ⟨_, rfl⟩

theorem reached_congr (h : ∀ isin ∈ isins, t'.view isin = t.view isin) :
    t'.reached moex isins = t.reached moex isins := by
  unfold MarketTables.reached
  induction isins with
  | nil => rfl
  | cons isin isins ih =>
      have htakes : t'.takes moex isin = t.takes moex isin := by
        unfold MarketTables.takes
        rw [h isin List.mem_cons_self]
      rw [List.takeWhile_cons, List.takeWhile_cons, htakes,
        ih fun other hother => h other (List.mem_cons_of_mem _ hother)]

theorem reached_of_takes (isins : List String) (h : t.takes moex isin = true) :
    t.reached moex (isin :: isins) = isin :: t.reached moex isins :=
  List.takeWhile_cons_of_pos h

theorem reached_of_not_takes (isins : List String) (h : t.takes moex isin = false) :
    t.reached moex (isin :: isins) = [] :=
  List.takeWhile_cons_of_neg (by simp [h])

/-- What the loop knows, after a round that left the session usable. -/
theorem loopValue_cons (htakes : t.takes env.moex isin = true) (hnotin : isin ∉ isins)
    (hview : ∀ other ∈ isins, t'.view other = t.view other) :
    (isin :: isins).map (fun other => (other, loopValue env connection t (isin :: isins) other)) =
      (isin, refreshedValue env connection (t.view isin) isin) ::
        isins.map fun other => (other, loopValue env connection t' isins other) := by
  have hreached := reached_of_takes isins htakes
  rw [List.map_cons]
  unfold loopValue
  rw [hreached, reached_congr hview, if_pos List.mem_cons_self]
  refine congrArg (List.cons _) (List.map_congr_left fun other hother => ?_)
  have hne : other ≠ isin := fun hsame => hnotin (hsame ▸ hother)
  simp only [hview other hother, List.mem_cons, hne, false_or]

/-- **The loop over the ISINs**, when the database refuses nothing. -/
theorem refreshAll_end (henv : env.Unrefused) (hw : w.broken = false) (hC : w.work.Constraints)
    (hclean : w.MarketCommitted) (hnodup : isins.Nodup)
    (hfresh : env.draw.Fresh isins w.work.market)
    (hnormalized : ∀ isin ∈ isins, normalizeIsin isin = .ok isin) :
    LoopEnd env connection isins w (refreshAll env connection isins w).1
      (refreshAll env connection isins w).2 := by
  induction isins generalizing w with
  | nil =>
      refine ⟨⟨[], rfl⟩, fun _ => hclean, iff_of_true (World.expired_of_usable hw) rfl, ?_, ?_⟩
      · intro isin hisin
        exact absurd hisin List.not_mem_nil
      · intro isin _
        show w.committed.val.market.view isin = _
        rw [hclean]
  | cons isin isins ih =>
      obtain ⟨hnotin, hrest⟩ := List.nodup_cons.mp hnodup
      have hrestNormalized : ∀ other ∈ isins, normalizeIsin other = .ok other :=
        fun other hother => hnormalized other (List.mem_cons_of_mem _ hother)
      have hround := refreshInstrument_round connection henv hw hC hclean
        (hfresh.new isin List.mem_cons_self) (hnormalized isin List.mem_cons_self)
      rw [refreshAll, Routine.bind_of_ok (Routine.outcome_apply _ _)]
      rcases hrun : refreshInstrument env connection isin w with ⟨outcome, w₁⟩
      rw [hrun] at hround
      dsimp only at hround ⊢
      cases hw₁ : w₁.broken with
      | true =>
          -- the round broke the session, and the loop ends here
          have htakes : w.work.market.takes env.moex isin = false := by
            rw [← Bool.not_eq_true, ← hround.usable, hw₁]
            exact Bool.noConfusion
          have hreached := reached_of_not_takes isins htakes
          obtain ⟨hnone, hexpired, hcommitted⟩ := hround.refused hw₁
          obtain ⟨errors, hall⟩ := refreshAll_broken env connection hw₁ hrestNormalized
          rw [Routine.bind_of_ok hall]
          refine ⟨⟨_, congrArg Except.ok (Prod.ext ?_ rfl)⟩, fun h => ?_, iff_of_false ?_ ?_, ?_, ?_⟩
          · rw [refreshEntry_fst, hnone]
            unfold loopValue
            rw [hreached]
            simp
          · exact Bool.noConfusion (hw₁.symm.trans h)
          · exact fun h => Bool.noConfusion (hexpired.symm.trans h)
          · rw [hreached]
            exact List.cons_ne_nil _ _ ∘ Eq.symm
          · intro other hother
            rw [hreached] at hother
            exact absurd hother List.not_mem_nil
          · intro other _
            show w₁.committed.val.market.view other = _
            rw [hcommitted, hclean]
      | false =>
          have htakes := hround.usable.mp hw₁
          obtain ⟨market, hwork, hstep⟩ := hround.tables hw₁
          have hC₁ : w₁.work.Constraints := by
            rw [hwork]
            exact hstep.tables hC
          have hview : ∀ other, other ≠ isin →
              w₁.work.market.view other = w.work.market.view other := by
            intro other hother
            rw [hwork]
            exact hstep.others other hother
          have hfresh₁ : env.draw.Fresh isins w₁.work.market := by
            rw [hwork]
            exact hfresh.rest hstep
          have hne : ∀ other ∈ isins, other ≠ isin := fun other hother hsame =>
            hnotin (hsame ▸ hother)
          have hreached : w.work.market.reached env.moex (isin :: isins) =
              isin :: w₁.work.market.reached env.moex isins := by
            rw [reached_of_takes isins htakes,
              reached_congr fun other hother => hview other (hne other hother)]
          have hout : isin ∉ w₁.work.market.reached env.moex isins := fun h =>
            hnotin (List.takeWhile_subset _ h)
          have hend := ih hw₁ hC₁ (hround.committed hw₁) hrest hfresh₁ hrestNormalized
          obtain ⟨errors, hentries⟩ := hend.entries
          rcases hall : refreshAll env connection isins w₁ with ⟨rest, w₂⟩
          rw [hall] at hend hentries
          obtain rfl : rest = _ := hentries
          rw [Routine.bind_of_ok hall]
          refine ⟨⟨_, congrArg Except.ok (Prod.ext ?_ rfl)⟩, hend.committed, ?_, ?_, ?_⟩
          · rw [refreshEntry_fst, hround.value]
            exact (loopValue_cons htakes hnotin fun other hother =>
              hview other (hne other hother)).symm
          · rw [hreached, List.cons_inj_right]
            exact hend.readable
          · intro other hother result hresult
            rw [hreached] at hother
            rcases List.mem_cons.mp hother with rfl | hother
            · have hstored := hround.stored hw₁ result hresult
              rw [← hend.others other hout] at hstored
              exact hstored
            · have hmem : other ∈ isins := List.takeWhile_subset _ hother
              have hstored := hend.stored other hother result hresult
              rw [hview other (hne other hmem)] at hstored
              exact hstored
          · intro other hother
            rw [hreached, List.mem_cons, not_or] at hother
            rw [← hview other hother.1]
            exact hend.others other hother.2

end Loop

end BondTrading
