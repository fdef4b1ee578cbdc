/-
# BondTrading.Sheets.SameAnswers -- the loop over the ISINs, run again

A second run that gets the same answers of MOEX, over the tables the first run committed,
gets to the same ISINs and shows the same of each: the actions of an answer are stored
already, and the latest of them are those the first run read.
-/
import BondTrading.Sheets.RowCells
import BondTrading.Sheets.Rounds
import Mathlib.Data.List.TakeWhile

namespace BondTrading

open Py (Agrees Decimal Dict Instant Routine Zone)
open Sql (Fault World)

/-! ## Answers -/

/-- The same answer, received at another time. -/
structure MoexRefreshResult.Same (r r' : MoexRefreshResult ℚ) : Prop where
  instrument : ∃ sourceUpdatedAt, r'.instrument = { r.instrument with sourceUpdatedAt }
  actions : r'.actions = r.actions
  market : ∃ receivedAt, r'.market = { r.market with receivedAt }

/-- Two runs of MOEX that answer the same. -/
structure MoexClient.SameAnswers (moex moex' : MoexClient) : Prop where
  refresh : ∀ isin, Agrees MoexRefreshResult.Same (moex.refresh isin) (moex'.refresh isin)
  accrued : moex'.accruedInterestOn = moex.accruedInterestOn

/-- A quote that has no time of its own was received at the same time. -/
def MoexClient.SameTimes (moex moex' : MoexClient) : Prop :=
  ∀ isin r r', moex.refresh isin = .ok r → moex'.refresh isin = .ok r' →
    r.market.marketTimestamp = none → r'.market.receivedAt = r.market.receivedAt

/-! ## What a row reads -/

/-- What a row reads of a refreshed instrument. -/
structure ShownInstrument where
  secid : String
  primaryBoardId : Option String
  accruedInterestRubPerBond : Option ℚ
  bidRubPerBond : Option ℚ
  offerRubPerBond : Option ℚ
  time : Instant
  cashflows : List (CorporateCashFlow Decimal)
  price : Option Decimal
  marketTime : Instant
  status : String

def RefreshedInstrument.shown (value : RefreshedInstrument) : ShownInstrument where
  secid := value.instrument.secid
  primaryBoardId := value.instrument.primaryBoardId
  accruedInterestRubPerBond := value.market.accruedInterestRubPerBond
  bidRubPerBond := value.market.bidRubPerBond
  offerRubPerBond := value.market.offerRubPerBond
  time := value.market.time
  cashflows := value.cashflows
  price := value.price
  marketTime := value.marketTime
  status := value.status

section Shown

variable {connection : SheetConnectionModel} {zone : Zone} {moex : MoexClient}
  {value value' : RefreshedInstrument}

theorem quoteUpdates_shown (h : value'.shown = value.shown) :
    quoteUpdates connection zone value' = quoteUpdates connection zone value := by
  have haccrued := congrArg ShownInstrument.accruedInterestRubPerBond h
  have hprice := congrArg ShownInstrument.price h
  have htime := congrArg ShownInstrument.marketTime h
  have hstatus := congrArg ShownInstrument.status h
  dsimp only [RefreshedInstrument.shown] at haccrued hprice htime hstatus
  unfold quoteUpdates
  rw [haccrued, hprice, htime, hstatus]

theorem historicalAccruedOn_shown (h : value'.shown = value.shown) (date : Date) :
    historicalAccruedOn moex value' date = historicalAccruedOn moex value date := by
  have hsecid := congrArg ShownInstrument.secid h
  have hboard := congrArg ShownInstrument.primaryBoardId h
  dsimp only [RefreshedInstrument.shown] at hsecid hboard
  unfold historicalAccruedOn
  rw [hsecid, hboard]

theorem purchaseUpdates_shown [Py.Context] (h : value'.shown = value.shown)
    (purchase : SheetPurchaseInput) (updates : RowUpdates) :
    purchaseUpdates connection zone value' purchase updates =
      purchaseUpdates connection zone value purchase updates := by
  have haccrued := congrArg ShownInstrument.accruedInterestRubPerBond h
  have hbid := congrArg ShownInstrument.bidRubPerBond h
  have hoffer := congrArg ShownInstrument.offerRubPerBond h
  have htime := congrArg ShownInstrument.time h
  have hcashflows := congrArg ShownInstrument.cashflows h
  dsimp only [RefreshedInstrument.shown] at haccrued hbid hoffer htime hcashflows
  unfold purchaseUpdates marketRubPrice valuationDateOf
  rw [haccrued, hbid, hoffer, htime, hcashflows]

end Shown

/-! ## One ISIN -/

section Isin

variable {env env' : SyncEnvironment} {connection : SheetConnectionModel} {isin : String}
  {view view' : InstrumentView} {draw draw' : RefreshDraw} {r r' : MoexRefreshResult ℚ}

/-- What is known of an ISIN when the database refuses nothing. -/
theorem refreshedValue_of_unrefused (henv : env.Unrefused) (hanswer : env.moex.refresh isin = .ok r) :
    refreshedValue env connection view isin =
      if DistinctActions view.actions r.actions then
        let instrument := refreshedInstrument view.instrument (env.draw.refresh isin) r.instrument
        some (refreshedFrom connection instrument
          (newSnapshot instrument.id (env.draw.refresh isin) r.market)
          (view.latestActions instrument.id (env.draw.refresh isin) r))
      else none := by
  have hreturns : RefreshReturns (env.faultsOf isin) view r ↔
      DistinctActions view.actions r.actions :=
    and_iff_right fun operation _ => henv _
  unfold refreshedValue refreshResult refreshValue
  rw [hanswer, henv]
  by_cases hdistinct : DistinctActions view.actions r.actions
  · simp [Except.toOption, hreturns, hdistinct]
  · simp [Except.toOption, hreturns, hdistinct]

theorem refreshedValue_of_error {e : PyError} (hanswer : env.moex.refresh isin = .error e) :
    refreshedValue env connection view isin = none := by
  unfold refreshedValue
  rw [hanswer]
  rfl

/-- Actions whose hash is stored are not new. -/
theorem newActions_of_stored {id : InstrumentId} {hashes : List String}
    {actions : List (MoexCorporateActionData ℚ)}
    (h : ∀ a ∈ actions, a.sourcePayloadHash ∈ hashes) : newActions id hashes draw actions = [] := by
  have hnone : (actions.filter fun a => a.sourcePayloadHash ∉ hashes) = [] := by
    rw [List.filter_eq_nil_iff]
    intro a ha hnew
    exact of_decide_eq_true hnew (h a ha)
  unfold newActions
  rw [hnone]
  rfl

/-- **The actions of an answer that was stored are stored.** -/
theorem InstrumentView.Stored.hashes (h : view.Stored view' draw r) :
    ∀ a ∈ r.actions, a.sourcePayloadHash ∈
      view'.actions.map CorporateActionModel.sourcePayloadHash := by
  intro a ha
  rw [h.actions, List.map_append, List.mem_append, newActions_map (g :=
    MoexCorporateActionData.sourcePayloadHash) _ _ _ _ fun _ _ => rfl]
  by_cases hold : a.sourcePayloadHash ∈ view.actions.map CorporateActionModel.sourcePayloadHash
  · exact Or.inl hold
  · exact Or.inr (List.mem_map_of_mem (List.mem_filter.mpr ⟨ha, decide_eq_true hold⟩))

theorem InstrumentView.Stored.distinct (h : view.Stored view' draw r) (hsame : r.Same r') :
    DistinctActions view'.actions r'.actions := by
  have hnone : (r'.actions.filter fun a => a.sourcePayloadHash ∉
      view'.actions.map CorporateActionModel.sourcePayloadHash) = [] := by
    rw [List.filter_eq_nil_iff]
    intro a ha hnew
    rw [hsame.actions] at ha
    exact of_decide_eq_true hnew (h.hashes a ha)
  unfold DistinctActions
  rw [hnone]
  exact List.nodup_nil

/-- The second run reads the actions the first run read. -/
theorem InstrumentView.Stored.latestActions (h : view.Stored view' draw r) (hsame : r.Same r')
    (id : InstrumentId) :
    view'.latestActions id draw' r' =
      view.latestActions (refreshedInstrument view.instrument draw r.instrument).id draw r := by
  unfold InstrumentView.latestActions
  rw [newActions_of_stored (hsame.actions ▸ h.hashes), List.append_nil, h.actions]

/-- The same quote, at the same time, shows the same. -/
theorem refreshedFrom_shown {instrument instrument' : BondInstrumentModel} {id id' : InstrumentId}
    {d d' : MoexMarketData ℚ} {actions : List CorporateActionModel}
    (hsecid : instrument'.secid = instrument.secid)
    (hboard : instrument'.primaryBoardId = instrument.primaryBoardId)
    (hmarket : ∃ receivedAt, d' = { d with receivedAt })
    (htime : d.marketTimestamp = none → d'.receivedAt = d.receivedAt) :
    (refreshedFrom connection instrument' (newSnapshot id' draw' d') actions).shown =
      (refreshedFrom connection instrument (newSnapshot id draw d) actions).shown := by
  obtain ⟨receivedAt, rfl⟩ := hmarket
  have hprice : ∀ mode, marketPrice (newSnapshot id' draw' { d with receivedAt }) mode =
      marketPrice (newSnapshot id draw d) mode := by
    intro mode
    cases mode <;> rfl
  have hsameTime : (newSnapshot id' draw' { d with receivedAt }).time =
      (newSnapshot id draw d).time := by
    show d.marketTimestamp.getD receivedAt = d.marketTimestamp.getD d.receivedAt
    cases hstamp : d.marketTimestamp with
    | none => exact htime hstamp
    | some stamp => rfl
  unfold refreshedFrom RefreshedInstrument.shown
  dsimp only
  rw [hsecid, hboard, hprice, hsameTime]
  rfl

/-- **An ISIN whose answer was stored shows the same** in the second run. -/
theorem refreshedValue_shown (henv : env.Unrefused) (henv' : env'.Unrefused)
    (hanswer : env.moex.refresh isin = .ok r) (hanswer' : env'.moex.refresh isin = .ok r')
    (hsame : r.Same r')
    (htime : r.market.marketTimestamp = none → r'.market.receivedAt = r.market.receivedAt)
    (hdistinct : DistinctActions view.actions r.actions)
    (hstored : view.Stored view' (env.draw.refresh isin) r) :
    (refreshedValue env' connection view' isin).map RefreshedInstrument.shown =
      (refreshedValue env connection view isin).map RefreshedInstrument.shown := by
  obtain ⟨sourceUpdatedAt, hinstrument⟩ := hsame.instrument
  rw [refreshedValue_of_unrefused henv hanswer, refreshedValue_of_unrefused henv' hanswer',
    if_pos hdistinct, if_pos (hstored.distinct hsame)]
  dsimp only
  rw [hstored.latestActions hsame]
  refine congrArg some (refreshedFrom_shown ?_ ?_ hsame.market htime)
  · rw [hinstrument]
    rfl
  · rw [hinstrument]
    rfl

end Isin

/-! ## The loop -/

section Loop

variable {env env' : SyncEnvironment} {connection : SheetConnectionModel} {t t' : MarketTables}
  {isins : List String}

/-- What the first run leaves for the second. -/
structure MarketTables.Repeatable (t t' : MarketTables) (env : SyncEnvironment)
    (isins : List String) : Prop where
  stored : ∀ isin ∈ t.reached env.moex isins, ∀ result, env.moex.refresh isin = .ok result →
    (t.view isin).Stored (t'.view isin) (env.draw.refresh isin) result
  others : ∀ isin ∉ t.reached env.moex isins, t'.view isin = t.view isin

theorem takes_again (hsame : env.moex.SameAnswers env'.moex) (h : t.Repeatable t' env isins)
    (isin : String) : t'.takes env'.moex isin = t.takes env.moex isin := by
  have hagrees := hsame.refresh isin
  unfold MarketTables.takes
  cases hanswer : env.moex.refresh isin with
  | error e =>
      rw [hanswer] at hagrees
      rw [hagrees.of_error]
  | ok r =>
      rw [hanswer] at hagrees
      obtain ⟨r', hanswer', hr⟩ := hagrees.of_ok
      rw [hanswer']
      by_cases hreached : isin ∈ t.reached env.moex isins
      · have hdistinct : t.takes env.moex isin = true := List.mem_takeWhile_imp hreached
        have hstored := h.stored isin hreached r hanswer
        unfold MarketTables.takes at hdistinct
        rw [hanswer] at hdistinct
        exact (decide_eq_true (hstored.distinct hr)).trans hdistinct.symm
      · rw [h.others isin hreached]
        show decide (DistinctActions _ r'.actions) = decide (DistinctActions _ r.actions)
        rw [hr.actions]

/-- The loop of the second run gets as far as that of the first. -/
theorem reached_again (hsame : env.moex.SameAnswers env'.moex) (h : t.Repeatable t' env isins) :
    t'.reached env'.moex isins = t.reached env.moex isins :=
  congrArg (List.takeWhile · isins) (funext (takes_again hsame h))

/-- **The second run shows the same of every ISIN.** -/
theorem loopValue_again (henv : env.Unrefused) (henv' : env'.Unrefused)
    (hsame : env.moex.SameAnswers env'.moex) (htimes : env.moex.SameTimes env'.moex)
    (h : t.Repeatable t' env isins) (isin : String) :
    (loopValue env' connection t' isins isin).map RefreshedInstrument.shown =
      (loopValue env connection t isins isin).map RefreshedInstrument.shown := by
  unfold loopValue
  rw [reached_again hsame h]
  split
  · rename_i hmem
    have hagrees := hsame.refresh isin
    cases hanswer : env.moex.refresh isin with
    | error e =>
        rw [hanswer] at hagrees
        rw [refreshedValue_of_error hanswer, refreshedValue_of_error hagrees.of_error]
    | ok r =>
        rw [hanswer] at hagrees
        obtain ⟨r', hanswer', hr⟩ := hagrees.of_ok
        have htakes : t.takes env.moex isin = true := List.mem_takeWhile_imp hmem
        unfold MarketTables.takes at htakes
        rw [hanswer] at htakes
        exact refreshedValue_shown henv henv' hanswer hanswer' hr (htimes isin r r' hanswer hanswer')
          (of_decide_eq_true htakes) (h.stored isin hmem r hanswer)
  · rfl

end Loop

end BondTrading
