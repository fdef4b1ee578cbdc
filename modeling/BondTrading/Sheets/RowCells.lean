/-
# BondTrading.Sheets.RowCells -- the cells of a row on its own

The row loop of `execute` threads a cache of historical accrued interest and a list of
errors from row to row.  `rowUpdates` computes the cells of one row without either; the
loop agrees with it row by row, so a row's cells depend on the row and on what is known
of its ISIN, and the batch of a run is told from its rows.
-/
import BondTrading.Sheets.Frame

namespace BondTrading

open Py (Decimal Dict Instant Zone Agrees)

/-! ## One row -/

/-- The accrued interest of the purchase, and J where it is filled in. -/
def rowAccrued (moex : MoexClient) (value : RefreshedInstrument) (row : SheetDataRow)
    (updates : RowUpdates) : Except PyError (Option Decimal × RowUpdates) := do
  let purchaseDate ← parseDate (row.get "E")
  match purchaseDate with
  | some date =>
      if (row.get "J").isBlank then
        match historicalAccruedOn moex value date with
        | some accrued => return (some accrued, updates.set "J" (← money (some accrued)))
        | none => return (none, updates)
      else return (parseDecimal (row.get "J"), updates)
  | none => return (parseDecimal (row.get "J"), updates)

/-- The values of a row whose instrument was refreshed. -/
def valuedRow [Py.Context] (connection : SheetConnectionModel) (zone : Zone) (moex : MoexClient)
    (value : RefreshedInstrument) (row : SheetDataRow) : Except PyError RowUpdates := do
  let updates ← quoteUpdates connection zone value
  match commissionTotal row with
  | none => return updates.blank "НЕКОРРЕКТНАЯ КОМИССИЯ В L"
  | some commission =>
      let (accrued, updates) ← rowAccrued moex value row (commissionUpdates row updates)
      let (purchase, status) ← parseSheetPurchase row accrued commission
      match purchase with
      | none => return updates.blank ((Py.Text.given status).getD "НЕДОСТАТОЧНО ДАННЫХ")
      | some purchase =>
          let (updates, _) ← purchaseUpdates connection zone value purchase
            (updates.update blankCalculationValues)
          return updates

/-- The cells of a row, given what is known of its ISIN. -/
def rowUpdates [Py.Context] (connection : SheetConnectionModel) (zone : Zone) (moex : MoexClient)
    (known : Option RefreshedInstrument) (row : SheetDataRow) : Except PyError (List CellUpdate) :=
  match known with
  | none => .ok (cellUpdates row.rowNumber (failedRowUpdates connection))
  | some value => do
      let values ← valuedRow connection zone moex value row
      return cellUpdates row.rowNumber values

/-! ## The loop agrees -/

/-- The cache of the loop holds what MOEX answers. -/
def RowLoop.Coherent (acc : RowLoop) (moex : MoexClient)
    (refreshed : String → Option RefreshedInstrument) : Prop :=
  ∀ isin date accrued, acc.historicalAccrued.get? (isin, date) = some accrued →
    ∃ value, refreshed isin = some value ∧ accrued = historicalAccruedOn moex value date

section Loop

variable {connection : SheetConnectionModel} {zone : Zone} {moex : MoexClient}
  {refreshed : String → Option RefreshedInstrument} {acc acc' : RowLoop} {row : SheetDataRow}
  {isin : String} {value : RefreshedInstrument}

theorem RowLoop.Coherent.ask (h : acc.Coherent moex refreshed) (hvalue : refreshed isin = some value)
    (date : Date) : (acc.ask moex value isin date).Coherent moex refreshed := by
  intro isin' date' accrued hget
  unfold RowLoop.ask at hget
  rw [Dict.get?_set] at hget
  split at hget
  · rename_i hkey
    obtain ⟨rfl, rfl⟩ := Prod.mk.inj hkey
    exact ⟨value, hvalue, (Option.some.inj hget).symm⟩
  · exact h isin' date' accrued hget

/-- **The cache is transparent.** -/
theorem lookUp_spec (row : SheetDataRow) (h : acc.Coherent moex refreshed)
    (hvalue : refreshed isin = some value) (date : Date) :
    (acc.lookUp moex value row isin date).2 = historicalAccruedOn moex value date ∧
      (acc.lookUp moex value row isin date).1.Coherent moex refreshed := by
  unfold RowLoop.lookUp
  cases hcache : acc.historicalAccrued.get? (isin, date) with
  | some accrued =>
      obtain ⟨value', hvalue', haccrued⟩ := h isin date accrued hcache
      obtain rfl := Option.some.inj (hvalue.symm.trans hvalue')
      exact ⟨haccrued, h⟩
  | none =>
      have hasked := h.ask hvalue date
      cases hanswer : moex.accruedInterestOn value.instrument.secid
          value.instrument.primaryBoardId date with
      | ok accrued =>
          simp only [historicalAccruedOn, hanswer]
          exact ⟨trivial, hasked⟩
      | error e =>
          simp only [historicalAccruedOn, hanswer]
          exact ⟨trivial, hasked⟩

/-- What a round has done so far: it has emitted nothing, and the cache is coherent. -/
def RowLoop.Beside (acc acc' : RowLoop) (moex : MoexClient)
    (refreshed : String → Option RefreshedInstrument) : Prop :=
  acc'.updates = acc.updates ∧ acc'.Coherent moex refreshed

theorem purchaseAccrued_agrees (h : acc.Coherent moex refreshed)
    (hvalue : refreshed isin = some value) (updates : RowUpdates) :
    Agrees (fun asked alone => acc.Beside asked.1 moex refreshed ∧ asked.2 = alone)
      (acc.purchaseAccrued moex value row isin updates) (rowAccrued moex value row updates) := by
  apply Agrees.bind_same
  intro purchaseDate
  cases purchaseDate with
  | none => exact .ok ⟨⟨rfl, h⟩, rfl⟩
  | some date =>
      obtain ⟨hanswer, hcoherent⟩ := lookUp_spec row h hvalue date
      have hupdates := (lookUp_progress acc moex value row isin date).updates
      by_cases hblank : (row.get "J").isBlank = true
      · simp only [hblank, if_true]
        rw [← hanswer]
        rcases hlookUp : acc.lookUp moex value row isin date with ⟨asked, accrued⟩
        rw [hlookUp] at hcoherent hupdates
        cases accrued with
        | none => exact .ok ⟨⟨hupdates, hcoherent⟩, rfl⟩
        | some accrued =>
            apply Agrees.bind_same
            intro j
            exact .ok ⟨⟨hupdates, hcoherent⟩, rfl⟩
      · simp only [hblank]
        exact .ok ⟨⟨rfl, h⟩, rfl⟩

variable [Py.Context]

/-- The round of a row whose instrument was refreshed. -/
theorem valuedRow_agrees (h : acc.Coherent moex refreshed) (hvalue : refreshed isin = some value) :
    Agrees (fun next values => next.updates = acc.updates ++ cellUpdates row.rowNumber values ∧
        next.Coherent moex refreshed)
      (rowStep connection zone moex refreshed acc (row, isin))
      (valuedRow connection zone moex value row) := by
  unfold rowStep valuedRow
  simp only [hvalue]
  apply Agrees.bind_same
  intro updates
  cases commissionTotal row with
  | none => exact .ok (And.intro rfl h)
  | some commission =>
      apply (purchaseAccrued_agrees h hvalue _).bind
      rintro ⟨asked, accrued, filled⟩ ⟨_, _⟩ ⟨⟨hupdates, hcoherent⟩, hsame⟩
      obtain ⟨rfl, rfl⟩ := Prod.mk.inj hsame
      have hemitted : ∀ values : RowUpdates,
          (asked.emit row values).updates = acc.updates ++ cellUpdates row.rowNumber values := by
        intro values
        show asked.updates ++ _ = _
        rw [hupdates]
      apply Agrees.bind_same
      rintro ⟨purchase, status⟩
      cases purchase with
      | none => exact .ok (And.intro (hemitted _) hcoherent)
      | some purchase =>
          apply Agrees.bind_same
          rintro ⟨written, error⟩
          cases error with
          | none => exact .ok (And.intro (hemitted _) hcoherent)
          | some e => exact .ok (And.intro (hemitted _) hcoherent)

/-- **A round emits the cells of its row**, whatever the loop carries. -/
theorem rowStep_agrees (h : acc.Coherent moex refreshed) :
    Agrees (fun next cells => next.updates = acc.updates ++ cells ∧ next.Coherent moex refreshed)
      (rowStep connection zone moex refreshed acc (row, isin))
      (rowUpdates connection zone moex (refreshed isin) row) := by
  cases hvalue : refreshed isin with
  | none =>
      unfold rowStep rowUpdates
      simp only [hvalue]
      exact .ok (And.intro rfl h)
  | some value =>
      rw [← bind_pure (rowStep connection zone moex refreshed acc (row, isin))]
      apply (valuedRow_agrees h hvalue).bind
      intro next values hnext
      exact .ok hnext

/-- **The loop emits the cells of its rows**, one after another. -/
theorem rowLoop_agrees (env : SyncEnvironment) (connection : SheetConnectionModel)
    (refreshed : String → Option RefreshedInstrument) (errors : List SheetRowError)
    (normalized : List (SheetDataRow × String)) :
    Agrees (fun loop cells => loop.updates = cells.flatten)
      (rowLoop env connection refreshed errors normalized)
      (normalized.mapM fun entry =>
        rowUpdates connection env.zone env.moex (refreshed entry.2) entry.1) := by
  have hround : ∀ entry ∈ normalized, ∀ (acc : RowLoop) (cells : List (List CellUpdate)),
      acc.updates = cells.flatten ∧ acc.Coherent env.moex refreshed →
        Agrees (fun next rowCells => next.updates = (cells ++ [rowCells]).flatten ∧
            next.Coherent env.moex refreshed)
          (rowStep connection env.zone env.moex refreshed acc entry)
          (rowUpdates connection env.zone env.moex (refreshed entry.2) entry.1) := by
    rintro ⟨row, isin⟩ - acc cells ⟨hupdates, hcoherent⟩
    apply (rowStep_agrees hcoherent).mono
    rintro next rowCells ⟨hnext, hcoherent⟩
    refine ⟨?_, hcoherent⟩
    rw [hnext, hupdates, List.flatten_append, List.flatten_singleton]
  have hloop := Agrees.foldlM_mapM hround (s := ⟨[], Dict.empty, errors, []⟩)
    ⟨List.flatten_nil.symm, fun _ _ _ hget => nomatch hget⟩
  exact hloop.mono fun loop cells h => h.1

end Loop

/-! ## The batch -/

variable [Py.Context]

/-- The batch of a run, told from its rows and from what is known of their ISINs. -/
def sheetBatch (env : SyncEnvironment) (connection : SheetConnectionModel)
    (refreshed : String → Option RefreshedInstrument) (rows : List SheetDataRow) :
    Except PyError (List CellUpdate) := do
  let normalized := normalizedRows connection rows
  let cells ← normalized.mapM fun entry =>
    rowUpdates connection env.zone env.moex (refreshed entry.2) entry.1
  return headerUpdates connection ++ cells.flatten ++
    invalidRowUpdates connection normalized (isinErrors connection rows)

/-- **The loop and the batch of `execute`.** -/
theorem rowLoop_batch (env : SyncEnvironment) (connection : SheetConnectionModel)
    (refreshed : String → Option RefreshedInstrument) (rows : List SheetDataRow)
    {errors : List SheetRowError} (herrors : ∀ e ∈ errors, ∃ isin message, e = .isin isin message) :
    Agrees (fun loop batch => batchOf connection (normalizedRows connection rows) loop = batch)
      (rowLoop env connection refreshed (isinErrors connection rows ++ errors)
        (normalizedRows connection rows))
      (sheetBatch env connection refreshed rows) := by
  have hagrees := rowLoop_agrees env connection refreshed (isinErrors connection rows ++ errors)
    (normalizedRows connection rows)
  rw [← bind_pure (rowLoop env connection refreshed _ _)]
  apply hagrees.and_left.bind
  rintro loop cells ⟨hupdates, hloop⟩
  refine .ok ?_
  obtain ⟨-, ⟨raised, hrowErrors, hknown⟩, -⟩ := rowLoop_effect hloop
  -- only the rows with an invalid ISIN are marked in the last loop
  have hrowErrors : loop.rowErrors = isinErrors connection rows ++ (errors ++ raised) := by
    rw [hrowErrors, ← List.append_assoc]
  have hothers : invalidRowUpdates connection (normalizedRows connection rows)
      (errors ++ raised) = [] := by
    apply invalidRowUpdates_of_known
    intro e he
    rcases List.mem_append.mp he with he | he
    · exact Or.inr (herrors e he)
    · exact Or.inl (hknown e he)
  unfold batchOf
  rw [hupdates, hrowErrors, invalidRowUpdates_append, hothers, List.append_nil]

end BondTrading
