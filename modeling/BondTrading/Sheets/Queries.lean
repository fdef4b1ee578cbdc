/-
# BondTrading.Sheets.Queries -- what a run asks MOEX

The loop over the ISINs asks for each of them once, unless the session has broken before its
turn: then `get_by_isin` raises, and MOEX is not asked.  A run whose session was rolled back
there does not come to its rows.  The loop over the rows asks for the accrued interest of an
ISIN and a date only where its cache has no entry for them.
-/
import BondTrading.Sheets.Rounds
import BondTrading.Sheets.Writes

namespace BondTrading

open Py (Decimal Dict Instant Routine Zone)
open Sql (Fault World)

/-! ## The loop over the ISINs -/

section Isins

variable {env : SyncEnvironment} {connection : SheetConnectionModel} {isin : String}
  {isins : List String} {w : ServiceWorld}

theorem marketCalls_allows : World.Allows (fun w w' : ServiceWorld => w'.calls = w.calls)
    IsMarketEdit (fun _ => False) True :=
  sameCalls_allows.mono (fun _ _ => trivial) fun _ h => h

/-- A refresh asks MOEX, if the instrument can be selected. -/
theorem refresh_calls {faults : RefreshOperation → Fault} {client : MoexClient}
    {draw : RefreshDraw} (hw : w.broken = false) (hnormalized : normalizeIsin isin = .ok isin) :
    (refresh faults client draw isin w).2.calls = w.calls ++
      if faults .lookup = .none then [.refresh isin] else [] := by
  have hallows := marketCalls_allows
  rw [refresh_of_normalized hnormalized]
  cases hfault : faults .lookup with
  | none =>
      have hselected := World.query_none (ε := PyError) hw fun t : Tables =>
        t.market.instrumentOf isin
      have hrecorded : ∀ error, NoCalls (recordRefreshError faults
          (w.work.market.instrumentOf isin) error >>= fun _ =>
            (Routine.raise error : Service (MoexRefreshResult ℚ))) := fun error =>
        hallows.bind (recordRefreshError_within hallows (fun _ _ _ => trivial) _ error) fun _ => hallows.raise error
      have hstored : ∀ result, NoCalls (storeRefresh faults draw
          (w.work.market.instrumentOf isin) result) := fun result =>
        storeRefresh_within hallows (fun _ _ _ => trivial) _ result
      rw [Routine.bind_of_ok hselected, calls_of_bind hstored, calls_of_attempt hrecorded]
      rfl
  | raised =>
      have hrefused := World.query_raised (ε := PyError) hw fun t : Tables =>
        t.market.instrumentOf isin
      rw [Routine.bind_of_error hrefused]
      exact (List.append_nil _).symm
  | aborted =>
      have hrefused := World.query_aborted (ε := PyError) hw fun t : Tables =>
        t.market.instrumentOf isin
      rw [Routine.bind_of_error hrefused]
      exact (List.append_nil _).symm

/-- So does the round of an ISIN. -/
theorem refreshInstrument_calls (env : SyncEnvironment) (connection : SheetConnectionModel)
    (hw : w.broken = false) (hnormalized : normalizeIsin isin = .ok isin) :
    (refreshInstrument env connection isin w).2.calls = w.calls ++
      if env.faults (.refresh isin .lookup) = .none then [.refresh isin] else [] := by
  have hallows := marketCalls_allows
  unfold refreshInstrument
  rw [calls_of_bind]
  · exact refresh_calls hw hnormalized
  · rintro ⟨instrument, market⟩
    apply hallows.bind (hallows.query (fun _ => trivial) _)
    intro actions
    exact hallows.pure _

/-- **The calls of the loop over the ISINs**: each ISIN is asked for at most once, and all of
them are exactly if each can be selected and none but the last breaks the session. -/
theorem refreshAll_calls (connection : SheetConnectionModel) (hw : w.broken = false)
    (hC : w.work.Constraints) (hnodup : isins.Nodup)
    (hfresh : env.draw.Fresh isins w.work.market)
    (hnormalized : ∀ isin ∈ isins, normalizeIsin isin = .ok isin) :
    ∃ asked : List String, (refreshAll env connection isins w).2.calls =
        w.calls ++ asked.map ExternalCall.refresh ∧
      asked.Sublist isins ∧
      (asked = isins ↔ (∀ isin ∈ isins, env.faults (.refresh isin .lookup) = .none) ∧
        ∀ isin ∈ isins.dropLast, IsinKept env (w.work.market.view isin) isin) := by
  induction isins generalizing w with
  | nil => exact ⟨[], (List.append_nil _).symm, List.Sublist.refl _, by simp⟩
  | cons isin isins ih =>
      obtain ⟨hnotin, hrest⟩ := List.nodup_cons.mp hnodup
      have hrestNormalized : ∀ other ∈ isins, normalizeIsin other = .ok other :=
        fun other hother => hnormalized other (List.mem_cons_of_mem _ hother)
      have hround : World.Runs (refreshInstrument env connection isin) w _ _ :=
        refreshInstrument_runs connection hw hC (hfresh.new isin List.mem_cons_self)
          (hnormalized isin List.mem_cons_self)
      have hcalls := refreshInstrument_calls env connection hw
        (hnormalized isin List.mem_cons_self)
      rw [refreshAll, Routine.bind_of_ok (Routine.outcome_apply _ _)]
      obtain ⟨husable, hpost⟩ := hround
      rcases hrun : refreshInstrument env connection isin w with ⟨outcome, w₁⟩
      rw [hrun] at husable hpost hcalls
      dsimp only at husable hpost hcalls ⊢
      cases hw₁ : w₁.broken with
      | true =>
          -- the session is broken, and the loop asks for none of the others
          have hbroken : ¬ IsinKept env (w.work.market.view isin) isin := by
            rw [← husable, hw₁]
            exact Bool.noConfusion
          obtain ⟨errors, hall⟩ := refreshAll_broken env connection hw₁ hrestNormalized
          rw [Routine.bind_of_ok hall]
          show ∃ asked : List String, w₁.calls = _ ∧ _
          rw [hcalls]
          split
          · rename_i hlookup
            refine ⟨[isin], rfl, List.sublist_append_left [isin] isins, ?_⟩
            cases isins with
            | nil => simp [hlookup]
            | cons other isins => simp [hbroken]
          · rename_i hlookup
            exact ⟨[], rfl, List.nil_sublist _, by simp [hlookup]⟩
      | false =>
          have hkept : IsinKept env (w.work.market.view isin) isin := husable.mp hw₁
          obtain ⟨market, hwork, hstep⟩ := (hpost hw₁).tables
          have hC₁ : w₁.work.Constraints := by
            rw [hwork]
            exact hstep.tables hC
          have hview : ∀ other ∈ isins, w₁.work.market.view other = w.work.market.view other := by
            intro other hother
            rw [hwork]
            exact hstep.others other fun hsame => hnotin (hsame ▸ hother)
          have hfresh₁ : env.draw.Fresh isins w₁.work.market := by
            rw [hwork]
            exact hfresh.rest hstep
          obtain ⟨asked, hasked, hsublist, hall⟩ := ih hw₁ hC₁ hrest hfresh₁ hrestNormalized
          have hlater : (∀ other ∈ isins.dropLast,
              IsinKept env (w₁.work.market.view other) other) ↔
                ∀ other ∈ isins.dropLast, IsinKept env (w.work.market.view other) other :=
            forall₂_congr fun other hother => by
              rw [hview other (List.dropLast_subset _ hother)]
          rw [hlater] at hall
          rw [calls_of_bind fun rest => sameCalls_allows.pure (refreshEntry isin rest outcome),
            hasked, hcalls]
          split
          · rename_i hlookup
            refine ⟨isin :: asked, by simp, hsublist.cons_cons isin, ?_⟩
            rw [List.cons_inj_right, hall, List.forall_mem_cons, and_iff_right hlookup]
            refine and_congr_right fun _ => ?_
            cases isins with
            | nil => simp
            | cons other isins =>
                rw [List.dropLast_cons_cons, List.forall_mem_cons, and_iff_right hkept]
          · rename_i hlookup
            refine ⟨asked, by simp, hsublist.cons isin, iff_of_false ?_ ?_⟩
            · intro hsame
              have hlength := hsublist.length_le
              rw [hsame, List.length_cons] at hlength
              omega
            · intro hcond
              exact hlookup (hcond.1 isin List.mem_cons_self)

/-- Every select of a run is answered. -/
def SyncEnvironment.SelectsAnswered (env : SyncEnvironment) : Prop :=
  ∀ operation, operation.isSelect = true → env.faults operation = .none

/-- **A loop after which the connection can be read** has left the session usable, if the
selects are answered: a flush or a commit that fails expires the connection. -/
theorem kept_of_not_expired (connection : SheetConnectionModel) (hanswered : env.SelectsAnswered)
    (hw : w.broken = false) (hC : w.work.Constraints) (hnodup : isins.Nodup)
    (hfresh : env.draw.Fresh isins w.work.market)
    (hnormalized : ∀ isin ∈ isins, normalizeIsin isin = .ok isin)
    (hexpired : (refreshAll env connection isins w).2.expired = false) :
    ∀ isin ∈ isins, IsinKept env (w.work.market.view isin) isin := by
  have hruns : World.Runs (refreshAll env connection isins) w _ _ :=
    refreshAll_runs hw hC hnodup hfresh hnormalized
  have hwithin : Routine.Within (World.NotAborted : ServiceWorld → ServiceWorld → Prop)
      (refreshAll env connection isins) := by
    apply refreshAll_within
    · exact World.NotAborted.allows.mono (fun _ _ => trivial) fun _ _ => trivial
    · intro operation hselect haborted
      exact Fault.noConfusion ((hanswered operation hselect).symm.trans haborted)
  have hfailure := hwithin w (by
    rw [World.failure_of_usable hw]
    exact (Option.some_ne_none _).symm)
  apply hruns.usable.mp
  by_contra hbroken
  rw [Bool.not_eq_false] at hbroken
  exact Bool.noConfusion (hexpired.symm.trans (World.expired_of_broken hbroken hfailure))

end Isins

/-! ## The loop over the rows -/

/-- The question for an ISIN and a date. -/
def accruedQuestion (refreshed : String → Option RefreshedInstrument) (key : String × Date) :
    Option ExternalCall :=
  (refreshed key.1).map fun value =>
    .accruedInterestOn value.instrument.secid value.instrument.primaryBoardId key.2

/-- **What the loop has asked**: one question for each entry of its cache, and the entries are
ISINs and purchase dates of rows. -/
structure RowLoop.Asked (acc : RowLoop) (refreshed : String → Option RefreshedInstrument)
    (entries : List (SheetDataRow × String)) (asked : List (String × Date)) : Prop where
  nodup : asked.Nodup
  cached : ∀ key, key ∈ asked ↔ key ∈ acc.historicalAccrued.keys
  calls : acc.calls.map some = asked.map (accruedQuestion refreshed)
  rows : ∀ key ∈ asked, ∃ entry ∈ entries, entry.2 = key.1 ∧
    parseDate (entry.1.get "E") = .ok (some key.2)

section Rows

variable {connection : SheetConnectionModel} {zone : Zone} {moex : MoexClient}
  {refreshed : String → Option RefreshedInstrument} {acc acc' : RowLoop} {row : SheetDataRow}
  {isin : String} {value : RefreshedInstrument} {entries : List (SheetDataRow × String)}

/-- What a round may have done to the cache: nothing, or one question that was not in it. -/
inductive AskedOnce (refreshed : String → Option RefreshedInstrument) (row : SheetDataRow)
    (isin : String) (acc acc' : RowLoop) : Prop where
  | nothing (calls : acc'.calls = acc.calls)
      (cache : acc'.historicalAccrued = acc.historicalAccrued)
  | question (value : RefreshedInstrument) (date : Date) (accrued : Option Decimal)
      (known : refreshed isin = some value) (purchased : parseDate (row.get "E") = .ok (some date))
      (fresh : (isin, date) ∉ acc.historicalAccrued.keys)
      (calls : acc'.calls = acc.calls ++
        [.accruedInterestOn value.instrument.secid value.instrument.primaryBoardId date])
      (cache : acc'.historicalAccrued = acc.historicalAccrued.set (isin, date) accrued)

theorem lookUp_asked (acc : RowLoop) (moex : MoexClient) (hvalue : refreshed isin = some value)
    {date : Date} (hdate : parseDate (row.get "E") = .ok (some date)) :
    AskedOnce refreshed row isin acc (acc.lookUp moex value row isin date).1 := by
  unfold RowLoop.lookUp
  cases hcache : acc.historicalAccrued.get? (isin, date) with
  | some accrued => exact .nothing rfl rfl
  | none =>
      have hfresh : (isin, date) ∉ acc.historicalAccrued.keys :=
        Dict.not_mem_keys_of_get? hcache
      cases hanswer : moex.accruedInterestOn value.instrument.secid
          value.instrument.primaryBoardId date with
      | ok accrued => exact .question value date _ hvalue hdate hfresh rfl rfl
      | error e => exact .question value date _ hvalue hdate hfresh rfl rfl

theorem purchaseAccrued_asked (hvalue : refreshed isin = some value) {updates updates' : RowUpdates}
    {accrued : Option Decimal}
    (h : acc.purchaseAccrued moex value row isin updates = .ok (acc', accrued, updates')) :
    AskedOnce refreshed row isin acc acc' := by
  simp only [RowLoop.purchaseAccrued, Py.bind_eq_ok] at h
  obtain ⟨purchaseDate, hdate, h⟩ := h
  split at h
  · rename_i date
    split at h
    · have hasked := lookUp_asked acc moex hvalue hdate
      split at h
      · rename_i asked found hlookUp
        rw [hlookUp] at hasked
        obtain ⟨j, -, hreturn⟩ := Py.bind_eq_ok.mp h
        cases hreturn
        exact hasked
      · rename_i asked hlookUp
        rw [hlookUp] at hasked
        cases h
        exact hasked
    · cases h
      exact .nothing rfl rfl
  · cases h
    exact .nothing rfl rfl

/-- **One round asks at most one question.** -/
theorem rowStep_asked [Py.Context]
    (h : rowStep connection zone moex refreshed acc (row, isin) = .ok acc') :
    AskedOnce refreshed row isin acc acc' := by
  simp only [rowStep] at h
  split at h
  · cases h
    exact .nothing rfl rfl
  · rename_i value hvalue
    obtain ⟨quote, -, h⟩ := Py.bind_eq_ok.mp h
    split at h
    · cases h
      exact .nothing rfl rfl
    · obtain ⟨⟨asked, accrued, filled⟩, haccrued, h⟩ := Py.bind_eq_ok.mp h
      have hasked := purchaseAccrued_asked hvalue haccrued
      -- emitting cells and noting errors leave the calls and the cache alone
      have hend : ∀ {last : RowLoop}, last.calls = asked.calls →
          last.historicalAccrued = asked.historicalAccrued →
            AskedOnce refreshed row isin acc last := by
        intro last hcalls hcache
        cases hasked with
        | nothing calls cache => exact .nothing (hcalls.trans calls) (hcache.trans cache)
        | question value date accrued known purchased fresh calls cache =>
            exact .question value date accrued known purchased fresh (hcalls.trans calls)
              (hcache.trans cache)
      obtain ⟨⟨purchase, status⟩, -, h⟩ := Py.bind_eq_ok.mp h
      cases purchase with
      | none =>
          cases h
          exact hend rfl rfl
      | some purchase =>
          obtain ⟨⟨written, error⟩, -, h⟩ := Py.bind_eq_ok.mp h
          cases error with
          | some e =>
              cases h
              exact hend rfl rfl
          | none =>
              cases h
              exact hend rfl rfl

/-- A round keeps the account of the questions. -/
theorem RowLoop.Asked.step {asked : List (String × Date)}
    (h : acc.Asked refreshed entries asked) (hround : AskedOnce refreshed row isin acc acc') :
    ∃ asked', acc'.Asked refreshed (entries ++ [(row, isin)]) asked' := by
  have hrows : ∀ key ∈ asked, ∃ entry ∈ entries ++ [(row, isin)], entry.2 = key.1 ∧
      parseDate (entry.1.get "E") = .ok (some key.2) := by
    intro key hkey
    obtain ⟨entry, hentry, hpair⟩ := h.rows key hkey
    exact ⟨entry, List.mem_append_left _ hentry, hpair⟩
  cases hround with
  | nothing calls cache =>
      refine ⟨asked, h.nodup, ?_, ?_, hrows⟩
      · rw [cache]
        exact h.cached
      · rw [calls]
        exact h.calls
  | question value date accrued known purchased fresh calls cache =>
      have hnew : (isin, date) ∉ asked := fun hkey => fresh ((h.cached _).mp hkey)
      refine ⟨asked ++ [(isin, date)], ?_, ?_, ?_, ?_⟩
      · rw [List.nodup_append]
        refine ⟨h.nodup, List.nodup_singleton _, ?_⟩
        intro key hkey other hother hsame
        rw [List.mem_singleton.mp hother] at hsame
        exact hnew (hsame ▸ hkey)
      · intro key
        rw [cache, Dict.mem_keys_set, List.mem_append, List.mem_singleton, h.cached, or_comm]
      · rw [calls, List.map_append, List.map_append, h.calls]
        simp [accruedQuestion, known]
      · intro key hkey
        rcases List.mem_append.mp hkey with hkey | hkey
        · exact hrows key hkey
        · obtain rfl := List.mem_singleton.mp hkey
          exact ⟨(row, isin), by simp, rfl, purchased⟩

/-- **The loop over the rows asks one question for each entry of its cache.** -/
theorem rowLoop_asked [Py.Context] {env : SyncEnvironment} {errors : List SheetRowError}
    {loop : RowLoop} (h : rowLoop env connection refreshed errors entries = .ok loop) :
    ∃ asked, loop.Asked refreshed entries asked := by
  have hstart : (⟨[], Dict.empty, errors, []⟩ : RowLoop).Asked refreshed [] [] :=
    ⟨List.nodup_nil, fun _ => Iff.rfl, rfl, fun _ hkey => absurd hkey List.not_mem_nil⟩
  unfold rowLoop at h
  suffices hfrom : ∀ (rest done : List (SheetDataRow × String)) (acc : RowLoop),
      (∃ asked, acc.Asked refreshed done asked) →
      rest.foldlM (rowStep connection env.zone env.moex refreshed) acc = .ok loop →
        ∃ asked, loop.Asked refreshed (done ++ rest) asked from
    hfrom entries [] _ ⟨[], hstart⟩ h
  clear h hstart
  intro rest
  induction rest with
  | nil =>
      intro done acc hacc hloop
      obtain rfl := Except.ok.inj hloop
      rw [List.append_nil]
      exact hacc
  | cons entry rest ih =>
      intro done acc hacc hloop
      rw [List.foldlM_cons] at hloop
      obtain ⟨next, hstep, hloop⟩ := Py.bind_eq_ok.mp hloop
      obtain ⟨asked, hasked⟩ := hacc
      have hnext := ih (done ++ [entry]) next (hasked.step (rowStep_asked hstep)) hloop
      rw [List.append_assoc] at hnext
      exact hnext

end Rows

/-! ## A run -/

section Run

variable {env : SyncEnvironment} {connection : SheetConnectionModel} {rows : List SheetDataRow}
  {job : SheetSyncJobModel} {w w' : ServiceWorld}

/-- The calls of the rest: those of the two loops, and the write. -/
theorem writeSheet_calls [Py.Context] {refreshes : Refreshes} {loop : RowLoop}
    (hrefreshes : refreshAll env connection (isinsOf connection rows) w = (.ok refreshes, w'))
    (hw' : w'.expired = false)
    (hloop : rowLoop env connection refreshes.value (isinErrors connection rows ++ refreshes.2)
      (normalizedRows connection rows) = .ok loop) :
    (writeSheet env connection rows w).2.calls = w'.calls ++ loop.calls ++
      [.updateCells connection.spreadsheetId connection.worksheetName
        (batchOf connection (normalizedRows connection rows) loop)] := by
  have hrefreshes : refreshAll env connection
      (Py.distinct ((normalizedRows connection rows).map Prod.snd)) w = (.ok refreshes, w') :=
    hrefreshes
  unfold writeSheet
  dsimp only
  rw [Routine.bind_of_ok hrefreshes, Routine.bind_of_ok (World.readLoaded_of_not_expired hw'),
    hloop, Routine.bind_of_ok (Routine.lift_apply _ _), Routine.modify_bind_apply, calls_of_bind fun _ => sameCalls_allows.pure _]
  rfl

/-- **The calls of a run that gets to the write.** -/
theorem execute_calls [Py.Context] {k : ExternalCall} (hk : k.Writes) (hnew : k ∉ w.calls)
    (h : k ∈ (execute env job w).2.calls) :
    ∃ connection rows w₁ refreshes w₂ loop,
      readSheet env job w = (.ok (connection, rows), w₁) ∧
      refreshAll env connection (isinsOf connection rows) w₁ = (.ok refreshes, w₂) ∧
      w₂.expired = false ∧
      rowLoop env connection refreshes.value (isinErrors connection rows ++ refreshes.2)
        (normalizedRows connection rows) = .ok loop ∧
      (execute env job w).2.calls = w₂.calls ++ loop.calls ++
        [.updateCells connection.spreadsheetId connection.worksheetName
          (batchOf connection (normalizedRows connection rows) loop)] := by
  obtain ⟨⟨connection, rows⟩, w₁, hread, hw₁, h⟩ :=
    World.Silent.call_of_bind (readSheet_within noneNew_writes_allows job) hk hnew h
  have hcalls : (execute env job w).2.calls = (writeSheet env connection rows w₁).2.calls := by
    unfold execute
    rw [Routine.bind_of_ok hread]
    exact calls_of_bind fun report w => completeSheet_calls connection.id report
  rw [hcalls]
  have hwritten : k ∈ (writeSheet env connection rows w₁).2.calls := by
    rw [← hcalls]
    unfold execute
    rw [Routine.bind_of_ok hread]
    exact h
  obtain ⟨refreshes, w₂, hrefreshes, hw₂, hwritten⟩ := World.Silent.call_of_bind
    (refreshAll_within noneNew_writes_allows (fun _ _ _ => trivial) connection _) hk hw₁ hwritten
  -- the run read `header_row` after the loop
  obtain ⟨_, w₃, hloaded, hw₃, hrest⟩ :=
    World.Silent.call_of_bind noneNew_writes_allows.readLoaded hk hw₂ hwritten
  obtain ⟨hexpired, rfl⟩ := World.readLoaded_eq_ok hloaded
  obtain ⟨loop, w₄, hloop, -, -⟩ :=
    World.Silent.call_of_bind (noneNew_writes_allows.lift _) hk hw₃ hrest
  have hloop : rowLoop env connection refreshes.value _ _ = .ok loop := (Prod.mk.inj hloop).1
  exact ⟨connection, rows, w₁, refreshes, w₃, loop, hread, hrefreshes, hexpired, hloop,
    writeSheet_calls hrefreshes hexpired hloop⟩

end Run

end BondTrading
