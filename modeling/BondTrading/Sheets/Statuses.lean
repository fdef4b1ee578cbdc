/-
# BondTrading.Sheets.Statuses -- the status of a row tells what the row holds

Every exit of the row loop writes AL.  The success status stands beside four numbers in
AG to AJ, and any other status beside blanks in AG to AK.  A row with an invalid ISIN gets
its AL in a loop of its own, which runs only for a connection with a status column.
-/
import BondTrading.Sheets.Batches
import BondTrading.Sheets.Numbers
import BondTrading.Sheets.Placement

namespace BondTrading

open Py (Decimal Dict Instant Zone Gives)
open Sql (World)

/-! ## Values of a row -/

/-- The columns of the result. -/
def resultColumns : List String := ["AG", "AH", "AI", "AJ"]

/-- **A status that agrees with its row**: the success status and numbers, or another one
and blanks. -/
inductive Truthful (values : RowUpdates) : Prop where
  | calculated (status : values.get? "AL" = some (.text "РАССЧИТАНО"))
      (numbers : ∀ column ∈ resultColumns,
        ∃ q : ℚ, values.get? column = some (.decimal (.finite q)))
  | blank (message : String) (status : values.get? "AL" = some (.text message))
      (other : message ≠ "РАССЧИТАНО")
      (blanks : ∀ column ∈ resultColumns ++ ["AK"], values.get? column = some .none)

section Values

variable {connection : SheetConnectionModel} {zone : Zone} {moex : MoexClient}
  {known : Option RefreshedInstrument} {row : SheetDataRow} {updates values : RowUpdates}
  {message : String}

/-- The columns of a row without a result hold nothing. -/
theorem get?_blankCalculationValues (updates : RowUpdates) {column : String}
    (hcolumn : column ∈ resultColumns ++ ["AK"]) :
    (updates.update blankCalculationValues).get? column = some .none := by
  have hblank : column ∈ ["AE", "AF", "AG", "AH", "AI", "AJ", "AK"] :=
    (by decide : ∀ c ∈ resultColumns ++ ["AK"], c ∈ ["AE", "AF", "AG", "AH", "AI", "AJ", "AK"])
      column hcolumn
  exact (Dict.get?_update_map updates _ _ column).trans (if_pos hblank)

/-- Blanks, and a status other than the success status. -/
theorem truthful_status (h : ∀ column ∈ resultColumns ++ ["AK"], updates.get? column = some .none)
    (hmessage : message ≠ "РАССЧИТАНО") : Truthful (updates.set "AL" (.text message)) := by
  refine .blank message ?_ hmessage ?_
  · rw [Dict.get?_set, if_pos rfl]
  · intro column hcolumn
    have hother : column ≠ "AL" := by
      rintro rfl
      exact absurd hcolumn (by decide)
    rw [Dict.get?_set, if_neg hother]
    exact h column hcolumn

theorem truthful_blank (updates : RowUpdates) (hmessage : message ≠ "РАССЧИТАНО") :
    Truthful (updates.blank message) :=
  truthful_status (fun _ => get?_blankCalculationValues updates) hmessage

/-- A text that begins otherwise is not the success status. -/
theorem ne_calculated_of_head {c : Char} {rest : List Char}
    (h : message.toList = c :: rest) (hc : c ≠ 'Р') : message ≠ "РАССЧИТАНО" := by
  rintro rfl
  exact hc (List.cons.inj (h.symm.trans rfl)).1

/-! ## The exits of the loop -/

theorem checkPurchase_gives (quantity purchasePrice purchaseAccrued commission : Decimal) :
    Gives (checkPurchase quantity purchasePrice purchaseAccrued commission) fun r =>
      ∀ message, r = some message → message ≠ "РАССЧИТАНО" := by
  unfold checkPurchase
  refine Gives.bind .trivial fun empty _ => ?_
  cases empty with
  | true => exact .ok (by rintro _ ⟨⟩; decide)
  | false =>
      refine Gives.bind .trivial fun negative _ => ?_
      cases negative with
      | true => exact .ok (by rintro _ ⟨⟩; decide)
      | false => exact .ok (by rintro _ ⟨⟩)

/-- What is wrong with a purchase is never the success status. -/
theorem parseSheetPurchase_gives (row : SheetDataRow) (accrued : Option Decimal)
    (commission : Decimal) :
    Gives (parseSheetPurchase row accrued commission) fun r =>
      ∀ message, r.2 = some message → message ≠ "РАССЧИТАНО" := by
  unfold parseSheetPurchase
  refine Gives.bind .trivial fun purchaseDate _ => ?_
  dsimp only
  split
  · refine Gives.bind (checkPurchase_gives _ _ _ _) fun checked hchecked => ?_
    cases checked with
    | some message => exact .ok hchecked
    | none => exact .ok (by rintro _ ⟨⟩)
  · exact .ok (by rintro _ ⟨⟩; decide)
  · refine .ok ?_
    rintro _ ⟨⟩
    exact ne_calculated_of_head String.toList_append (by decide)

theorem given_getD_ne {status : Option String} (h : ∀ message, status = some message →
    message ≠ "РАССЧИТАНО") : (Py.Text.given status).getD "НЕДОСТАТОЧНО ДАННЫХ" ≠ "РАССЧИТАНО" := by
  cases hgiven : Py.Text.given status with
  | none => decide
  | some message => exact h message (Option.filter_eq_some_iff.mp hgiven).1

/-- A calculation that succeeded writes four numbers. -/
theorem calculationUpdates_gives {calculation : SheetCurrentCalculation}
    (hexit : calculation.currentExitTotalRub.isNaN = false)
    (hbefore : calculation.profitBeforeTaxRub.isNaN = false)
    (hafter : calculation.profitAfterTaxRub.isNaN = false)
    (hyield : calculation.annualYieldAfterTaxPercent.isNaN = false) (updates : RowUpdates) :
    Gives (calculationUpdates calculation updates) Truthful := by
  unfold calculationUpdates
  refine Gives.bind .trivial fun af _ => ?_
  refine Gives.bind (money_gives hexit) ?_
  rintro _ ⟨ag, rfl⟩
  refine Gives.bind (money_gives hbefore) ?_
  rintro _ ⟨ah, rfl⟩
  refine Gives.bind (money_gives hafter) ?_
  rintro _ ⟨ai, rfl⟩
  refine Gives.bind (money_gives hyield) ?_
  rintro _ ⟨aj, rfl⟩
  refine Gives.bind .trivial fun ak _ => ?_
  refine .ok (.calculated ?_ ?_)
  · simp [Dict.update, Dict.get?_set]
  · simp [resultColumns, Dict.update, Dict.get?_set]

theorem purchaseUpdates_gives [Py.Context] (value : RefreshedInstrument)
    (purchase : SheetPurchaseInput) (updates : RowUpdates) :
    Gives (purchaseUpdates connection zone value purchase
      (updates.update blankCalculationValues)) fun r => Truthful r.1 := by
  have hcoupons : ∀ ae af, ∀ column ∈ resultColumns ++ ["AK"],
      (((updates.update blankCalculationValues).set "AE" ae).set "AF" af).get? column =
        some .none := by
    intro ae af column hcolumn
    have hAE : column ≠ "AE" := by
      rintro rfl
      exact absurd hcolumn (by decide)
    have hAF : column ≠ "AF" := by
      rintro rfl
      exact absurd hcolumn (by decide)
    rw [Dict.get?_set, if_neg hAF, Dict.get?_set, if_neg hAE]
    exact get?_blankCalculationValues updates hcolumn
  unfold purchaseUpdates
  refine Gives.bind .trivial ?_
  rintro ⟨couponCount, couponTotal⟩ -
  refine Gives.bind .trivial fun af _ => ?_
  have hstatus : ∀ ae message, message ≠ "РАССЧИТАНО" → Truthful
      ((((updates.update blankCalculationValues).set "AE" ae).set "AF" af).set "AL"
        (.text message)) := fun ae _ => truthful_status (hcoupons ae af)
  dsimp only
  split
  · refine Gives.ok ?_
    dsimp only
    refine hstatus _ _ ?_
    unfold missingQuoteCalculationStatus
    split
    · decide
    · decide
  · refine Gives.ok ?_
    dsimp only
    exact hstatus _ _ (by decide)
  · split
    · rename_i calculation hcalculation
      obtain ⟨hexit, hbefore, hafter, hyield⟩ :=
        calculateSheetCurrent_gives _ _ _ _ _ calculation hcalculation
      refine Gives.bind (calculationUpdates_gives hexit hbefore hafter hyield _) ?_
      intro written hwritten
      exact .ok hwritten
    · refine Gives.ok ?_
      dsimp only
      exact hstatus _ _ (ne_calculated_of_head String.toList_append (by decide))

theorem valuedRow_gives [Py.Context] (value : RefreshedInstrument) (row : SheetDataRow) :
    Gives (valuedRow connection zone moex value row) Truthful := by
  unfold valuedRow
  refine Gives.bind .trivial fun quote _ => ?_
  split
  · exact .ok (truthful_blank quote (by decide))
  · refine Gives.bind .trivial ?_
    rintro ⟨accrued, filled⟩ -
    refine Gives.bind (parseSheetPurchase_gives _ _ _) ?_
    rintro ⟨purchase, status⟩ hstatus
    cases purchase with
    | none => exact .ok (truthful_blank filled (given_getD_ne hstatus))
    | some purchase =>
        refine Gives.bind (purchaseUpdates_gives value purchase filled) ?_
        intro written hwritten
        exact .ok hwritten

/-- The columns of a connection are no column of the calculation. -/
theorem WellPlaced.get?_setOptional (hplaced : WellPlaced connection) {used : Option String}
    (hused : ∀ k, used = some k → k ∈ connection.usedColumns) (updates : RowUpdates)
    (content : CellContent) {column : String} (hcolumn : column ∈ calculationColumns) :
    (updates.setOptional used content).get? column = updates.get? column := by
  unfold RowUpdates.setOptional
  split
  · rename_i k hk
    have hapart := hplaced.apart k (hused k (Option.filter_eq_some_iff.mp hk).1)
    rw [Dict.get?_set, if_neg]
    rintro rfl
    exact hapart (List.mem_append_right _ hcolumn)
  · rfl

theorem truthful_failedRow (hplaced : WellPlaced connection) :
    Truthful (failedRowUpdates connection) := by
  have hcells : ∀ column ∈ calculationColumns,
      (failedRowUpdates connection).get? column =
        (Dict.ofList ([(connection.priceColumn, CellContent.none), ("AD", .none)] ++
          blankCalculationValues ++ [("AL", .text "ОШИБКА ОБНОВЛЕНИЯ MOEX")])).get? column := by
    intro column hcolumn
    unfold failedRowUpdates
    rw [hplaced.get?_setOptional _ _ _ hcolumn, hplaced.get?_setOptional _ _ _ hcolumn]
    · intro k hk
      simp [SheetConnectionModel.usedColumns, hk]
    · intro k hk
      simp [SheetConnectionModel.usedColumns, hk]
  refine .blank "ОШИБКА ОБНОВЛЕНИЯ MOEX" ?_ (by decide) ?_
  · rw [hcells "AL" (by decide)]
    simp [Dict.ofList, Dict.update, blankCalculationValues, Dict.get?_set]
  · intro column hcolumn
    rw [hcells column ((by decide : ∀ c ∈ resultColumns ++ ["AK"], c ∈ calculationColumns) column
      hcolumn)]
    revert column
    simp [resultColumns, Dict.ofList, Dict.update, blankCalculationValues, Dict.get?_set]

/-- **Every exit of the loop leaves a truthful row.** -/
theorem rowValues_gives [Py.Context] (hplaced : WellPlaced connection)
    (known : Option RefreshedInstrument)
    (row : SheetDataRow) : Gives (rowValues connection zone moex known row) Truthful := by
  cases known with
  | none => exact .ok (truthful_failedRow hplaced)
  | some value => exact valuedRow_gives value row

end Values

/-! ## The batch -/

/-- The cells a batch writes to a row with a valid ISIN: four numbers beside the success
status, blanks beside any other. -/
structure TruthfulCells (batch : List CellUpdate) (rowNumber : ℕ) : Prop where
  calculated_iff : written batch rowNumber "AL" = [.text "РАССЧИТАНО"] ↔
    ∀ column ∈ ["AG", "AH", "AI", "AJ"],
      ∃ q : ℚ, written batch rowNumber column = [.decimal (.finite q)]
  blank : written batch rowNumber "AL" ≠ [.text "РАССЧИТАНО"] →
    ∀ column ∈ ["AG", "AH", "AI", "AJ", "AK"], written batch rowNumber column = [.none]

/-- Every row gets one status, and a row with a valid ISIN a truthful one. -/
structure EveryStatusTruthful (connection : SheetConnectionModel) (rows : List SheetDataRow)
    (batch : List CellUpdate) : Prop where
  one : ∀ row ∈ rows, (written batch row.rowNumber "AL").length = 1
  truthful : ∀ row ∈ rows, ∀ isin, normalizeIsin (row.rawIsin connection) = .ok isin →
    TruthfulCells batch row.rowNumber

section Batch

variable {env : SyncEnvironment} {connection : SheetConnectionModel}
  {refreshed : String → Option RefreshedInstrument} {rows : List SheetDataRow}
  {batch : List CellUpdate} {row : SheetDataRow}

theorem Truthful.cells {values : RowUpdates} {n : ℕ} (h : Truthful values)
    (hbatch : ∀ column, written batch n column = (values.get? column).toList) :
    (written batch n "AL").length = 1 ∧ TruthfulCells batch n := by
  have hcell : ∀ {column content}, values.get? column = some content →
      written batch n column = [content] := by
    intro column content hget
    rw [hbatch, hget]
    rfl
  cases h with
  | calculated status numbers =>
      have hstatus := hcell status
      refine ⟨by rw [hstatus]; rfl, ?_, fun hother => absurd hstatus hother⟩
      refine iff_of_true hstatus ?_
      intro column hcolumn
      obtain ⟨q, hq⟩ := numbers column hcolumn
      exact ⟨q, hcell hq⟩
  | blank message status other blanks =>
      have hstatus := hcell status
      refine ⟨by rw [hstatus]; rfl, iff_of_false ?_ ?_, ?_⟩
      · intro hsame
        exact other (CellContent.text.inj (List.cons.inj (hstatus.symm.trans hsame)).1)
      · intro hnumbers
        obtain ⟨q, hq⟩ := hnumbers "AG" (by decide)
        have hblank := hcell (blanks "AG" (by decide))
        cases (List.cons.inj (hblank.symm.trans hq)).1
      · intro _ column hcolumn
        exact hcell (blanks column hcolumn)

/-- A row with a valid ISIN. -/
theorem sheetBatch_valid [Py.Context] (hplaced : WellPlaced connection)
    (hbatch : sheetBatch env connection refreshed rows = .ok batch)
    (hrows : (rows.map SheetDataRow.rowNumber).Nodup)
    (hbelow : ∀ row ∈ rows, connection.headerRow < row.rowNumber) (hrow : row ∈ rows)
    {isin : String} (hisin : normalizeIsin (row.rawIsin connection) = .ok isin) :
    (written batch row.rowNumber "AL").length = 1 ∧ TruthfulCells batch row.rowNumber := by
  have hcells := (rowCells_batch hbatch hrows hbelow hrow).1 isin hisin
  obtain ⟨values, hvalues, hown⟩ := rowUpdates_eq_ok.mp hcells
  refine (rowValues_gives hplaced _ row values hvalues).cells fun column => ?_
  rw [← written_rowCells, hown, written_cellUpdates]

/-- A row with an invalid ISIN. -/
theorem sheetBatch_invalid [Py.Context] (hplaced : WellPlaced connection)
    (hbatch : sheetBatch env connection refreshed rows = .ok batch)
    (hrows : (rows.map SheetDataRow.rowNumber).Nodup)
    (hbelow : ∀ row ∈ rows, connection.headerRow < row.rowNumber) (hrow : row ∈ rows)
    {error : PyError} (hraised : normalizeIsin (row.rawIsin connection) = .error error) :
    (written batch row.rowNumber "AL").length = 1 ↔
      Py.Text.given connection.statusColumn ≠ none := by
  have hcells := (rowCells_batch hbatch hrows hbelow hrow).2 error hraised
  rw [← written_rowCells, hcells]
  cases hstatus : Py.Text.given connection.statusColumn with
  | none => exact iff_of_false (fun h => nomatch h) fun h => h rfl
  | some status =>
      refine iff_of_true ?_ fun h => nomatch h
      have hne := hplaced.status_ne hstatus
      simp [written, invalidCells, hne]

/-- **When every status of a batch is truthful.** -/
theorem sheetBatch_truthful_iff [Py.Context] (hplaced : WellPlaced connection)
    (hbatch : sheetBatch env connection refreshed rows = .ok batch)
    (hrows : (rows.map SheetDataRow.rowNumber).Nodup)
    (hbelow : ∀ row ∈ rows, connection.headerRow < row.rowNumber) :
    EveryStatusTruthful connection rows batch ↔
      Py.Text.given connection.statusColumn ≠ none ∨
        ∀ row ∈ rows, ∃ isin, normalizeIsin (row.rawIsin connection) = .ok isin := by
  constructor
  · intro h
    refine Classical.or_iff_not_imp_left.mpr fun hnone row hrow => ?_
    cases hisin : normalizeIsin (row.rawIsin connection) with
    | ok isin => exact ⟨isin, rfl⟩
    | error error =>
        exact absurd ((sheetBatch_invalid hplaced hbatch hrows hbelow hrow hisin).mp (h.one row hrow))
          hnone
  · intro h
    refine ⟨?_, ?_⟩
    · intro row hrow
      cases hisin : normalizeIsin (row.rawIsin connection) with
      | ok isin => exact (sheetBatch_valid hplaced hbatch hrows hbelow hrow hisin).1
      | error error =>
          refine (sheetBatch_invalid hplaced hbatch hrows hbelow hrow hisin).mpr ?_
          rcases h with hgiven | hvalid
          · exact hgiven
          · obtain ⟨isin, hok⟩ := hvalid row hrow
            cases hisin.symm.trans hok
    · intro row hrow isin hisin
      exact (sheetBatch_valid hplaced hbatch hrows hbelow hrow hisin).2

end Batch

/-- **A truthful status for every row**: the batch of a run, over a connection that
`configure` stored, has one exactly when the connection has a status column or no row has an
invalid ISIN. -/
theorem update_cells_truthful_iff [Py.Context] {env : SyncEnvironment} {db db' : SheetDatabase}
    {owner : UserId} {values : ConnectionValues} {id : ConnectionId} {now : Instant}
    {stored : SheetConnectionModel} {lastAttemptAt lastSuccessAt : Option Instant}
    {lastError lastPayloadHash : Option String} {job : SheetSyncJobModel} {w : ServiceWorld}
    {spreadsheetId worksheetName : String} {batch : List CellUpdate} {rows : List SheetDataRow}
    (hstored : configure db owner values id now = .ok (db', stored))
    (hconnection : w.work.sheets.connection? job.connectionId =
      some (stored.noted lastAttemptAt lastSuccessAt lastError lastPayloadHash))
    (hrows : env.ReadsDataRows)
    (hread : env.readRows stored.spreadsheetId stored.worksheetName
      (Py.distinct (stored.isinColumn :: sheetInputColumns)) (stored.headerRow + 1) = .ok rows)
    (hnew : .updateCells spreadsheetId worksheetName batch ∉ w.calls)
    (hcall : .updateCells spreadsheetId worksheetName batch ∈ (execute env job w).2.calls) :
    EveryStatusTruthful stored (dataRows stored rows) batch ↔
      stored.statusColumn ≠ none ∨ ∀ row ∈ dataRows stored rows,
        ∃ isin, normalizeIsin (row.rawIsin stored) = .ok isin := by
  obtain ⟨connection, sheetRows, refreshed, emitted, hfound, hread', hsheet, hbatch⟩ :=
    execute_call_batch ⟨_, _, _, rfl⟩ hnew hcall
  obtain ⟨-, -, rfl⟩ := ExternalCall.updateCells.inj hbatch
  have hplaced : WellPlaced stored := (configure_stored hstored).1
  obtain rfl := Option.some.inj (hconnection.symm.trans hfound)
  obtain rfl := Except.ok.inj (hread.symm.trans hread')
  obtain ⟨hdistinct, hbelow⟩ := hrows _ _ _ _ _ hread
  have hnoted : WellPlaced
      (stored.noted lastAttemptAt lastSuccessAt lastError lastPayloadHash) :=
    hplaced.noted _ _ _ _
  obtain ⟨hdata, hheader⟩ := dataRows_numbered hdistinct hbelow
  have hiff := sheetBatch_truthful_iff hnoted hsheet hdata hheader
  have hgiven := configure_statusColumn hstored
  rw [← hgiven]
  exact ⟨fun h => hiff.mp ⟨h.one, h.truthful⟩,
    fun h => ⟨(hiff.mpr h).one, (hiff.mpr h).truthful⟩⟩

/-! ## A run without a status column -/

/-- The settings without a column for the status. -/
def bareValues : ConnectionValues := { parValues with statusColumn := none }

def bareConnection : SheetConnectionModel := { parConnection with statusColumn := none }

def bareDatabase : Database :=
  ⟨⟨⟨[], [], []⟩, ⟨[], [], [], [], []⟩, ⟨[bareConnection], [parJob]⟩⟩, by decide +kernel⟩

/-- The run over a row to calculate and a row with a wrong ISIN. -/
def bareRun : ServiceWorld :=
  (execute (parEnvironment parRows fun _ => .none) parJob (World.opened bareDatabase)).2

/-- The row with the wrong ISIN gets no status. -/
theorem bareRun_untold :
    configure ⟨⟨[], []⟩, by decide⟩ 1 bareValues 10 0 =
        .ok (⟨⟨[bareConnection], []⟩, by decide⟩, bareConnection) ∧
      .updateCells "1AbCdEfGhIjKlMn" "Портфель" (bareRun.calls.flatMap ExternalCall.batch) ∈
        bareRun.calls ∧
      ¬ EveryStatusTruthful bareConnection (dataRows bareConnection (parRows 2))
        (bareRun.calls.flatMap ExternalCall.batch) := by
  refine ⟨by decide +kernel, by decide +kernel, ?_⟩
  intro h
  have hnone : written (bareRun.calls.flatMap ExternalCall.batch) 3 "AL" = [] := by
    decide +kernel
  have hone := h.one (parRow 3 (.text "RU000A107SX4") .none .none .none .none .none .none)
    (by decide +kernel)
  have hnumber : (parRow 3 (.text "RU000A107SX4") .none .none .none .none .none .none).rowNumber =
    3 := rfl
  rw [hnumber, hnone] at hone
  cases hone

theorem update_cells_truthful_parRun :
    EveryStatusTruthful parConnection (dataRows parConnection (parRows 2))
      (parRun.calls.flatMap ExternalCall.batch) := by
  have hconfigure : configure ⟨⟨[], []⟩, by decide⟩ 1 parValues 10 0 =
      .ok (⟨⟨[parConnection], []⟩, by decide⟩, parConnection) := by decide +kernel
  refine (update_cells_truthful_iff (w := World.opened parDatabase) hconfigure
    (by decide +kernel : _ = some (parConnection.noted none none none none)) ?_
    (by decide +kernel) (List.not_mem_nil) (by decide +kernel : ExternalCall.updateCells
      "1AbCdEfGhIjKlMn" "Портфель" (parRun.calls.flatMap ExternalCall.batch) ∈
        parRun.calls)).mpr (Or.inl (by decide))
  intro _ _ _ firstDataRow rows h
  obtain rfl := Except.ok.inj h
  refine ⟨?_, ?_⟩
  · simp [parRows, parRow]
  · simp [parRows, parRow]

end BondTrading
