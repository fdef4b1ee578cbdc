/-
# BondTrading.Lots.Revisions -- amounts that MOEX revises

A refresh appends a row whenever the hash of a payload row is new and retires none, so
the stored actions of an instrument are all the amounts MOEX ever sent for its events.
The engine counts every amount of an event once, and `_target_redemption` takes the first
row the database returns; the sheets take the latest.
-/
import BondTrading.Instruments.Cashflows
import BondTrading.Instruments.Stored
import BondTrading.Lots.Calculation
import BondTrading.Sums.Selection

namespace BondTrading

open Py (Decimal Instant Zone)
open Sql (World)

/-! ## Payloads -/

/-- The actions of one answer of MOEX. -/
abbrev Payload := List (MoexCorporateActionData ℚ)

/-- `(action_type, event_date)`. -/
abbrev Event := ActionType × Date

def MoexCorporateActionData.event (a : MoexCorporateActionData ℚ) : Event :=
  (a.actionType, a.eventDate)

/-- Some payload carried this amount for the event. -/
def Carried (payloads : List Payload) (event : Event) (amount : ℚ) : Prop :=
  ∃ payload ∈ payloads, ∃ a ∈ payload, a.event = event ∧ a.amountRubPerBond = some amount

/-- The hash of a row tells rows apart: SHA-256 has no collision among them. -/
def HashesIdentify (payloads : List Payload) : Prop :=
  ∀ a ∈ payloads.flatten, ∀ b ∈ payloads.flatten, a.sourcePayloadHash = b.sourcePayloadHash → a = b

instance : DecidablePred HashesIdentify := fun payloads =>
  inferInstanceAs (Decidable (∀ a ∈ payloads.flatten, ∀ b ∈ payloads.flatten, _))

section Payloads

variable {payloads : List Payload} {event : Event} {amount : ℚ}

end Payloads

/-! ## Histories -/

/-- What an instrument went through: refreshes that succeeded, with the actions MOEX sent
each time, and anything else that leaves its stored actions alone. -/
inductive RefreshHistory (isin : String) : List Payload → Database → Prop where
  | start (db : Database) (fresh : db.val.market.actionsOf isin = []) : RefreshHistory isin [] db
  | refresh {payloads : List Payload} {db : Database} (history : RefreshHistory isin payloads db)
      {faults : RefreshOperation → Sql.Fault} {client : MoexClient} {draw : RefreshDraw}
      {text : String} {result : MoexRefreshResult ℚ} {instrument : BondInstrumentModel}
      {snapshot : MarketSnapshotModel} {w : ServiceWorld}
      (asked : normalizeIsin text = .ok isin) (answered : client.refresh isin = .ok result)
      (returned : BondTrading.refresh faults client draw text (World.opened db) =
        (.ok (instrument, snapshot), w)) :
      RefreshHistory isin (payloads ++ [result.actions]) w.committed
  | other {payloads : List Payload} {db db' : Database}
      (history : RefreshHistory isin payloads db)
      (same : db'.val.market.actionsOf isin = db.val.market.actionsOf isin) :
      RefreshHistory isin payloads db'

/-- A stored row is a row of a payload. -/
def CorporateActionModel.Stores (row : CorporateActionModel) (a : MoexCorporateActionData ℚ) :
    Prop :=
  row.actionType = a.actionType ∧ row.eventDate = a.eventDate ∧
    row.amountRubPerBond = a.amountRubPerBond ∧ row.sourcePayloadHash = a.sourcePayloadHash

/-- **The log of an instrument**: it stores rows that were sent, and every row that was. -/
structure StoresPayloads (payloads : List Payload) (rows : List CorporateActionModel) : Prop where
  sent : ∀ row ∈ rows, ∃ a ∈ payloads.flatten, row.Stores a
  stored : ∀ a ∈ payloads.flatten, ∃ row ∈ rows, row.Stores a

theorem mem_newActions {id : InstrumentId} {hashes : List String} {draw : RefreshDraw}
    {actions : Payload} {row : CorporateActionModel} (h : row ∈ newActions id hashes draw actions) :
    ∃ a ∈ actions, row.Stores a := by
  obtain ⟨⟨a, k⟩, ha, rfl⟩ := List.mem_map.mp h
  have hmem : a ∈ actions.filter fun a => a.sourcePayloadHash ∉ hashes :=
    List.fst_mem_of_mem_zipIdx ha
  exact ⟨a, List.mem_of_mem_filter hmem, rfl, rfl, rfl, rfl⟩

theorem newActions_stores {id : InstrumentId} {hashes : List String} {draw : RefreshDraw}
    {actions : Payload} {a : MoexCorporateActionData ℚ} (ha : a ∈ actions)
    (hnew : a.sourcePayloadHash ∉ hashes) :
    ∃ row ∈ newActions id hashes draw actions, row.Stores a := by
  have hmem : a ∈ actions.filter fun a => a.sourcePayloadHash ∉ hashes :=
    List.mem_filter.mpr ⟨ha, decide_eq_true hnew⟩
  obtain ⟨k, hk⟩ := List.getElem?_of_mem hmem
  refine ⟨newAction id draw k a, ?_, rfl, rfl, rfl, rfl⟩
  exact List.mem_map.mpr ⟨(a, k), List.mk_mem_zipIdx_iff_getElem?.mpr hk, rfl⟩

/-- One refresh keeps the log: a row whose hash is stored is stored. -/
theorem StoresPayloads.append {payloads : List Payload} {actions : Payload}
    {rows : List CorporateActionModel} (h : StoresPayloads payloads rows)
    (hhash : HashesIdentify (payloads ++ [actions])) (id : InstrumentId) (draw : RefreshDraw) :
    StoresPayloads (payloads ++ [actions])
      (rows ++ newActions id (rows.map CorporateActionModel.sourcePayloadHash) draw actions) := by
  have hflatten : (payloads ++ [actions]).flatten = payloads.flatten ++ actions := by
    rw [List.flatten_append, List.flatten_singleton]
  unfold HashesIdentify at hhash
  rw [hflatten] at hhash
  constructor
  · intro row hrow
    rw [hflatten]
    rcases List.mem_append.mp hrow with hrow | hrow
    · obtain ⟨a, ha, hstores⟩ := h.sent row hrow
      exact ⟨a, List.mem_append_left _ ha, hstores⟩
    · obtain ⟨a, ha, hstores⟩ := mem_newActions hrow
      exact ⟨a, List.mem_append_right _ ha, hstores⟩
  · intro a ha
    rw [hflatten] at ha
    rcases List.mem_append.mp ha with hold | hnew
    · obtain ⟨row, hrow, hstores⟩ := h.stored a hold
      exact ⟨row, List.mem_append_left _ hrow, hstores⟩
    · by_cases hseen : a.sourcePayloadHash ∈ rows.map CorporateActionModel.sourcePayloadHash
      · -- the stored row with this hash is the row of an earlier payload, and the same
        obtain ⟨row, hrow, hsame⟩ := List.mem_map.mp hseen
        obtain ⟨b, hb, hstores⟩ := h.sent row hrow
        obtain rfl : b = a := by
          apply hhash b (List.mem_append_left _ hb) a ha
          rw [← hsame, hstores.2.2.2]
        exact ⟨row, List.mem_append_left _ hrow, hstores⟩
      · obtain ⟨row, hrow, hstores⟩ := newActions_stores hnew hseen
        exact ⟨row, List.mem_append_right _ hrow, hstores⟩

theorem HashesIdentify.init {payloads : List Payload} {actions : Payload}
    (h : HashesIdentify (payloads ++ [actions])) : HashesIdentify payloads := by
  intro a ha b hb
  apply h
  · rw [List.flatten_append]
    exact List.mem_append_left _ ha
  · rw [List.flatten_append]
    exact List.mem_append_left _ hb

/-- **Every history keeps the log**, by induction on its steps. -/
theorem RefreshHistory.stores {isin : String} {payloads : List Payload} {db : Database}
    (h : RefreshHistory isin payloads db) (hhash : HashesIdentify payloads) :
    StoresPayloads payloads (db.val.market.actionsOf isin) := by
  induction h with
  | start db fresh =>
      rw [fresh]
      exact ⟨fun _ h => absurd h List.not_mem_nil, fun _ h => absurd h List.not_mem_nil⟩
  | @refresh payloads db history faults client draw text result instrument snapshot w asked answered
      returned ih =>
      obtain ⟨normalized, result', hnormalized, hanswer, -, -, hwork, hcommitted⟩ :=
        refresh_eq_ok returned
      obtain rfl : isin = normalized := Except.ok.inj (asked.symm.trans hnormalized)
      obtain rfl : result = result' := Except.ok.inj (answered.symm.trans hanswer)
      have hisin : result.instrument.isin = isin :=
        Except.ok.inj ((client.answersIsin isin result answered).symm.trans
          (normalizeIsin_idem asked))
      have hmarket : w.committed.val.market = db.val.market.refreshed isin draw result := by
        rw [hcommitted, hwork]
        rfl
      have hC := w.committed.property.market
      rw [hmarket] at hC
      rw [hmarket, actionsOf_refreshed db.property.market hisin hC]
      exact (ih hhash.init).append hhash _ draw
  | other history same ih =>
      rw [same]
      exact ih hhash

/-! ## What a lot is calculated from -/

section Selected

variable {payloads : List Payload} {rows : List CorporateActionModel}

/-- The amounts of the stored rows of an event are the amounts that were sent for it. -/
theorem StoresPayloads.carried_iff (h : StoresPayloads payloads rows) {event : Event}
    {amount : ℚ} :
    (∃ row ∈ rows, row.event = event ∧ row.amountRubPerBond = some amount) ↔
      Carried payloads event amount := by
  constructor
  · rintro ⟨row, hrow, rfl, hamount⟩
    obtain ⟨a, ha, htype, hdate, hsame, -⟩ := h.sent row hrow
    obtain ⟨payload, hpayload, hmem⟩ := List.mem_flatten.mp ha
    refine ⟨payload, hpayload, a, hmem, ?_, hsame ▸ hamount⟩
    exact Prod.ext htype.symm hdate.symm
  · rintro ⟨payload, hpayload, a, ha, rfl, hamount⟩
    obtain ⟨row, hrow, htype, hdate, hsame, -⟩ :=
      h.stored a (List.mem_flatten.mpr ⟨payload, hpayload, ha⟩)
    exact ⟨row, hrow, Prod.ext htype hdate, hsame.trans hamount⟩

theorem mem_storedCashflows {c : CorporateCashFlow ℚ} :
    c ∈ storedCashflows rows ↔ ∃ row ∈ rows, row.event = (c.actionType, c.eventDate) ∧
      row.amountRubPerBond = some c.amountRubPerBond := by
  unfold storedCashflows
  rw [List.mem_filterMap]
  refine exists_congr fun row => and_congr_right fun _ => ?_
  constructor
  · intro hflow
    obtain ⟨amount, hamount, rfl⟩ := Option.map_eq_some_iff.mp hflow
    exact ⟨rfl, hamount⟩
  · rintro ⟨hevent, hamount⟩
    obtain ⟨htype, hdate⟩ := Prod.mk.inj hevent
    rw [hamount, htype, hdate]
    rfl

/-- The events of a window, with the amounts that were sent for them. -/
theorem StoresPayloads.mem_eventAmounts (h : StoresPayloads payloads rows) {t : ActionType}
    {pd ed : Date} {d : Date} {amount : ℚ} :
    (d, amount) ∈ eventAmounts t pd ed (storedCashflows rows) ↔
      (pd < d ∧ d ≤ ed) ∧ Carried payloads (t, d) amount := by
  rw [BondTrading.mem_eventAmounts]
  constructor
  · rintro ⟨c, hc, rfl, hwindow, hpair⟩
    obtain ⟨rfl, rfl⟩ := Prod.mk.inj hpair
    exact ⟨hwindow, h.carried_iff.mp (mem_storedCashflows.mp hc)⟩
  · rintro ⟨hwindow, hcarried⟩
    refine ⟨⟨t, d, amount⟩, mem_storedCashflows.mpr (h.carried_iff.mpr hcarried), rfl, hwindow, rfl⟩

end Selected

end BondTrading
