/-
# BondTrading.Instruments.Upserts -- which actions a refresh adds

The loop over `result.actions` passes over the hashes that were stored before it started.  The
constraint of the table asks for more: type, date and hash.  So a row that MOEX lists twice is
added twice, and one that is stored under another type or date is not added at all; every other
answer leaves exactly the union of what was stored and what was sent.
-/
import BondTrading.Instruments.Quotes

namespace BondTrading

open Py (Routine)
open Sql (Fault World)

/-! ## Keys -/

/-- The columns of the unique constraint that vary within an instrument. -/
def CorporateActionModel.key (a : CorporateActionModel) : ActionType × Date × String :=
  (a.actionType, a.eventDate, a.sourcePayloadHash)

def MarketTables.actionKeys (t : MarketTables) (isin : String) :
    List (ActionType × Date × String) :=
  (t.actionsOf isin).map CorporateActionModel.key

/-- What is stored under the hash of a row is that row. -/
def StoredAsSent (stored : List CorporateActionModel)
    (actions : List (MoexCorporateActionData ℚ)) : Prop :=
  ∀ a ∈ actions, a.sourcePayloadHash ∈ stored.map CorporateActionModel.sourcePayloadHash →
    a.identity ∈ stored.map CorporateActionModel.key

instance (stored : List CorporateActionModel) (actions : List (MoexCorporateActionData ℚ)) :
    Decidable (StoredAsSent stored actions) := inferInstanceAs (Decidable (∀ a ∈ actions, _))

/-- Keys that are added unless a coarser key is known: all keys are there in the end exactly if
those passed over were there before. -/
theorem mem_append_unknown_iff {α κ η : Type} [DecidableEq η] {key : α → κ} {hash : α → η}
    (hcoarser : ∀ a b, key a = key b → hash a = hash b) {stored : List κ} {known : List η}
    {new : List α} :
    (∀ k, k ∈ stored ++ (new.filter fun a => hash a ∉ known).map key ↔
      k ∈ stored ∨ k ∈ new.map key) ↔ ∀ a ∈ new, hash a ∈ known → key a ∈ stored := by
  constructor
  · intro hunion a ha hknown
    have hadded := (hunion (key a)).mpr (Or.inr (List.mem_map_of_mem ha))
    rcases List.mem_append.mp hadded with hstored | hnew
    · exact hstored
    · obtain ⟨b, hb, hkey⟩ := List.mem_map.mp hnew
      have hunknown := of_decide_eq_true (List.mem_filter.mp hb).2
      exact absurd (hcoarser b a hkey ▸ hknown) hunknown
  · intro hpassed k
    rw [List.mem_append]
    constructor
    · rintro (hstored | hnew)
      · exact Or.inl hstored
      · exact Or.inr ((List.filter_sublist.map key).subset hnew)
    · rintro (hstored | hsent)
      · exact Or.inl hstored
      · obtain ⟨a, ha, rfl⟩ := List.mem_map.mp hsent
        by_cases hknown : hash a ∈ known
        · exact Or.inl (hpassed a ha hknown)
        · right
          exact List.mem_map_of_mem (List.mem_filter.mpr ⟨ha, decide_eq_true hknown⟩)

section Tables

variable {t : MarketTables} {isin : String} {draw : RefreshDraw} {result : MoexRefreshResult ℚ}

theorem actionKeys_refreshed (ht : t.Constraints) (hisin : result.instrument.isin = isin)
    (hC : (t.refreshed isin draw result).Constraints) :
    (t.refreshed isin draw result).actionKeys isin = t.actionKeys isin ++
      (result.actions.filter fun a => a.sourcePayloadHash ∉
        (t.actionsOf isin).map CorporateActionModel.sourcePayloadHash).map
          MoexCorporateActionData.identity := by
  unfold MarketTables.actionKeys
  rw [actionsOf_refreshed ht hisin hC, List.map_append]
  exact congrArg (List.map CorporateActionModel.key (t.actionsOf isin) ++ ·)
    (newActions_map _ _ _ _ fun _ _ => rfl)

/-- An instrument has no key twice. -/
theorem actionKeys_nodup (ht : t.Constraints) (isin : String) : (t.actionKeys isin).Nodup := by
  unfold MarketTables.actionKeys MarketTables.actionsOf MarketTables.rowsOf
  cases hfound : t.instrumentOf isin with
  | none => exact List.nodup_nil
  | some instrument =>
      have hunique := ht.actionIdentities.filter fun a => decide (a.instrumentId = instrument.id)
      refine List.Nodup.of_map (Prod.mk instrument.id) ?_
      rw [List.map_map]
      refine (List.map_congr_left fun a ha => ?_) ▸ hunique
      have hid := of_decide_eq_true (List.mem_filter.mp ha).2
      show a.identity = (instrument.id, a.key)
      rw [← hid]
      rfl

end Tables

/-! ## One refresh, and the same again -/

/-- The client answers, and the database refuses nothing. -/
structure RefreshCall.Answered (call : RefreshCall) (isin : String)
    (result : MoexRefreshResult ℚ) : Prop where
  normalized : normalizeIsin call.isin = .ok isin
  answer : call.client.refresh isin = .ok result
  unrefused : ∀ operation, call.faults operation = .none

/-- **The refresh is an upsert**: it commits, what is stored then is what was stored and what
was sent, without repetition, and the refresh that repeats it adds nothing. -/
structure Upserts (isin : String) (actions : List (MoexCorporateActionData ℚ))
    (w : ServiceWorld) (call again : RefreshCall) : Prop where
  returns : ∃ pair, (call.run w).1 = .ok pair
  union : ∀ k, k ∈ (call.run w).2.committed.val.market.actionKeys isin ↔
    k ∈ w.committed.val.market.actionKeys isin ∨ k ∈ actions.map MoexCorporateActionData.identity
  nodup : ((call.run w).2.committed.val.market.actionKeys isin).Nodup
  returnsAgain : ∃ pair, (again.run (call.run w).2).1 = .ok pair
  addsNothing : (again.run (call.run w).2).2.committed.val.market.actions =
    (call.run w).2.committed.val.market.actions

section Calls

variable {w : ServiceWorld} {call again : RefreshCall} {isin : String}
  {result result' : MoexRefreshResult ℚ}

theorem run_stored (hw : Idle w) (hcall : call.Answered isin result)
    (h : ∃ pair, (call.run w).1 = .ok pair) :
    Idle (call.run w).2 ∧ (call.run w).2.committed.val = { w.committed.val with
      market := w.committed.val.market.refreshed isin call.draw result } := by
  obtain ⟨pair, hreturned⟩ := h
  obtain ⟨isin', result', hnormalized, hanswer, -, hidle, hstored⟩ := run_returned hw hreturned
  have hsame : isin' = isin := Except.ok.inj (hnormalized.symm.trans hcall.normalized)
  subst hsame
  have hresult : result' = result := Except.ok.inj (hanswer.symm.trans hcall.answer)
  subst hresult
  exact ⟨hidle, hstored⟩

theorem RefreshCall.Answered.isin_eq (h : call.Answered isin result) :
    result.instrument.isin = isin :=
  Except.ok.inj ((call.client.answersIsin isin result h.answer).symm.trans
    (normalizeIsin_idem h.normalized))

/-- **A refresh commits exactly if the new actions are distinct.** -/
theorem run_returns_iff (hw : Idle w) (hcall : call.Answered isin result)
    (hfresh : call.draw.Fresh w.committed.val.market) :
    (∃ pair, (call.run w).1 = .ok pair) ↔
      DistinctActions (w.committed.val.market.actionsOf isin) result.actions := by
  have hmarket := w.committed.property.market
  constructor
  · intro hreturns
    have hkept := (call.run w).2.committed.property.market
    rw [(run_stored hw hcall hreturns).2] at hkept
    exact (refreshed_constraints_iff hmarket hfresh hcall.isin_eq).mp hkept
  · intro hdistinct
    rw [← hw.clean] at hdistinct hfresh
    have hC : w.work.Constraints := hw.clean ▸ w.committed.property
    have hruns := refresh_runs call.faults call.client hw.usable hC hfresh
      (normalizeIsin_idem hcall.normalized)
    rw [← refresh_of_same hcall.normalized, hcall.answer] at hruns
    have hreturns : RefreshReturns call.faults (w.work.market.view isin) result :=
      ⟨fun operation _ => hcall.unrefused operation, hdistinct⟩
    have hkept : RefreshKept call.faults (w.work.market.view isin) (.ok result) := by
      unfold RefreshKept StoreKept
      simp only [hcall.unrefused, Fault.Then]
      exact ⟨trivial, ⟨trivial, hdistinct⟩, Fault.noConfusion⟩
    have hvalue := (hruns.outcome (hruns.usable.mpr hkept)).value
    have hsome : refreshValue call.faults call.draw (w.work.market.view isin) (.ok result) ≠
        none := by
      show (if RefreshReturns _ _ _ then _ else _) ≠ _
      rw [if_pos hreturns]
      exact Option.some_ne_none _
    cases houtcome : (call.run w).1 with
    | ok pair => exact ⟨pair, rfl⟩
    | error e =>
        have hnone : (refresh call.faults call.client call.draw call.isin w).1.toOption = none :=
          congrArg Except.toOption houtcome
        exact absurd (hvalue.symm.trans hnone) hsome

/-- After a refresh every hash of its answer is stored, so that all of them are passed over. -/
theorem distinctActions_again {t : MarketTables} {draw : RefreshDraw} (ht : t.Constraints)
    (hisin : result.instrument.isin = isin) (hC : (t.refreshed isin draw result).Constraints) :
    (result.actions.filter fun a => a.sourcePayloadHash ∉
      ((t.refreshed isin draw result).actionsOf isin).map
        CorporateActionModel.sourcePayloadHash) = [] := by
  rw [List.filter_eq_nil_iff]
  intro a ha hunknown
  have hunknown := of_decide_eq_true hunknown
  rw [actionsOf_refreshed ht hisin hC, List.map_append, List.mem_append, not_or] at hunknown
  obtain ⟨hold, hnew⟩ := hunknown
  rw [newActions_map _ _ _ _ (g := MoexCorporateActionData.sourcePayloadHash) fun _ _ => rfl]
    at hnew
  exact hnew (List.mem_map_of_mem (List.mem_filter.mpr ⟨ha, decide_eq_true hold⟩))

/-- **When a refresh is an upsert**: no new row is sent twice, and what is stored under the
hash of a row is that row. -/
theorem upserts_iff (hw : Idle w) (hcall : call.Answered isin result)
    (hagain : again.Answered isin result') (hactions : result'.actions = result.actions)
    (hfresh : call.draw.Fresh w.committed.val.market)
    (hfresh' : again.draw.Fresh (call.run w).2.committed.val.market) :
    Upserts isin result.actions w call again ↔
      DistinctActions (w.committed.val.market.actionsOf isin) result.actions ∧
        StoredAsSent (w.committed.val.market.actionsOf isin) result.actions := by
  have hmarket := w.committed.property.market
  have hkey : ∀ a b : MoexCorporateActionData ℚ, a.identity = b.identity →
      a.sourcePayloadHash = b.sourcePayloadHash := by
    intro a b h
    exact congrArg (fun k : ActionType × Date × String => k.2.2) h
  rw [← run_returns_iff hw hcall hfresh]
  constructor
  · intro h
    have hkept := (call.run w).2.committed.property.market
    have hunion := h.union
    rw [(run_stored hw hcall h.returns).2] at hkept hunion
    rw [actionKeys_refreshed hmarket hcall.isin_eq hkept, mem_append_unknown_iff hkey] at hunion
    exact ⟨h.returns, hunion⟩
  · rintro ⟨hreturns, hstoredAsSent⟩
    have hkept := (call.run w).2.committed.property.market
    obtain ⟨hidle, hstored⟩ := run_stored hw hcall hreturns
    have hagainKept := hkept
    rw [hstored] at hkept
    have hpassed := distinctActions_again hmarket hcall.isin_eq hkept
    have hreturnsAgain : ∃ pair, (again.run (call.run w).2).1 = .ok pair := by
      rw [run_returns_iff hidle hagain hfresh', hactions, hstored]
      unfold DistinctActions
      rw [hpassed]
      exact List.nodup_nil
    refine ⟨hreturns, ?_, actionKeys_nodup hagainKept isin, hreturnsAgain, ?_⟩
    · rw [hstored, actionKeys_refreshed hmarket hcall.isin_eq hkept, mem_append_unknown_iff hkey]
      exact hstoredAsSent
    · have hkeptAgain := (again.run (call.run w).2).2.committed.property.market
      have hstoredAgain := (run_stored hidle hagain hreturnsAgain).2
      rw [hstoredAgain, hstored] at hkeptAgain
      rw [hstoredAgain, hstored]
      refine (refreshed_actions hkept hkeptAgain.instrumentIds).trans ?_
      unfold newActions
      rw [hactions, hpassed]
      exact List.append_nil _

end Calls

/-! ## A coupon that is listed twice -/

/-- The first call, and the one that repeats it. -/
def parCall : RefreshCall := quoteCall (parClient (40, "coupon-40")) 1

def parCallAgain : RefreshCall := quoteCall (parClient (40, "coupon-40")) 2

theorem parCallAgain_fresh :
    parCallAgain.draw.Fresh
      (parCall.run (World.opened Database.empty)).2.committed.val.market := by
  generalize hmarket : (parCall.run (World.opened Database.empty)).2.committed.val.market = t
  have hinstruments : t.instruments.map BondInstrumentModel.id = [1] := by
    rw [← hmarket]
    decide +kernel
  have hactions : t.actions.map CorporateActionModel.id = [10] := by
    rw [← hmarket]
    decide +kernel
  have hmarkets : t.markets.map MarketSnapshotModel.id = [51] := by
    rw [← hmarket]
    decide +kernel
  constructor
  · rw [hinstruments]
    decide
  · intro k
    rw [hactions, List.mem_singleton]
    show ¬ 10 * 2 + k = 10
    omega
  · intro a b h
    exact Nat.add_left_cancel h
  · rw [hmarkets]
    decide

theorem upserts_of_par :
    Upserts "RU000A107SX3" (parBond (40, "coupon-40") "RU000A107SX3").actions
      (World.opened Database.empty) parCall parCallAgain := by
  have hnormalized : normalizeIsin " ru000a107sx3" = .ok "RU000A107SX3" := by decide +kernel
  have hanswer : (parClient (40, "coupon-40")).refresh "RU000A107SX3" =
      .ok (parBond (40, "coupon-40") "RU000A107SX3") := by decide +kernel
  have hanswered : parCall.Answered "RU000A107SX3" (parBond (40, "coupon-40") "RU000A107SX3") :=
    ⟨hnormalized, hanswer, fun _ => rfl⟩
  have hanswered' : parCallAgain.Answered "RU000A107SX3"
      (parBond (40, "coupon-40") "RU000A107SX3") := ⟨hnormalized, hanswer, fun _ => rfl⟩
  have hfresh : parCall.draw.Fresh Database.empty.val.market :=
    ⟨List.not_mem_nil, fun _ => List.not_mem_nil, fun _ _ h => Nat.add_left_cancel h,
      List.not_mem_nil⟩
  exact (upserts_iff ⟨rfl, rfl⟩ hanswered hanswered' rfl hfresh parCallAgain_fresh).mpr
    (by decide +kernel)

/-- MOEX lists the coupon of every bond twice. -/
def doublingClient : MoexClient :=
  answeringClient (fun isin => .ok (repeatedBond isin)) fun _ _ h => by
    obtain rfl := Except.ok.inj h
    rfl

/-- The first refresh of such a bond is refused by the database. -/
theorem repeatedBond_not_upserted :
    ¬ Upserts "RU000A107SX3" (repeatedBond "RU000A107SX3").actions
      (World.opened Database.empty) (quoteCall doublingClient 1) (quoteCall doublingClient 2) := by
  intro h
  obtain ⟨pair, hreturns⟩ := h.returns
  have hrefused : ((quoteCall doublingClient 1).run (World.opened Database.empty)).1 =
      .error (.database "DBAPIError") := by decide +kernel
  cases hreturns.symm.trans hrefused

end BondTrading
