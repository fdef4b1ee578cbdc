/-
# BondTrading.Sheets.Repetitions -- a bond in several rows

Rows with one ISIN get the same price, accrued interest, time and status, whatever else
their cells hold: the quote is computed from what is known of the ISIN, and the columns that
are written after it are others.  Every bond is one question to MOEX, unless an earlier one
has broken the session.
-/
import BondTrading.Sheets.FailedRefreshes
import BondTrading.Sheets.Queries

namespace BondTrading

open Py (Decimal Dict Instant Routine Zone Gives)
open Sql (Fault World)

/-! ## The quote of a row -/

/-- The price, AD, the time and the status. -/
def SheetConnectionModel.quoteColumns (connection : SheetConnectionModel) : List String :=
  connection.priceColumn :: "AD" :: ((Py.Text.given connection.updatedAtColumn).toList ++
    (Py.Text.given connection.statusColumn).toList)

/-- What a row gets because of its ISIN alone. -/
def rowQuote (connection : SheetConnectionModel) (zone : Zone) :
    Option RefreshedInstrument → Except PyError RowUpdates
  | none => .ok (failedRowUpdates connection)
  | some value => quoteUpdates connection zone value

/-- The cells of the quote are those of `quote`. -/
def RowUpdates.KeepsQuote (connection : SheetConnectionModel) (quote values : RowUpdates) : Prop :=
  ∀ column ∈ connection.quoteColumns, values.get? column = quote.get? column

/-- The columns that are written after the quote. -/
def laterColumns : List String := ["J", "L", "AE", "AF", "AG", "AH", "AI", "AJ", "AK", "AL"]

section Quote

variable {connection : SheetConnectionModel} {zone : Zone} {moex : MoexClient}
  {value : RefreshedInstrument} {row : SheetDataRow} {quote updates values : RowUpdates}

theorem WellPlaced.not_quote (hplaced : WellPlaced connection) {column : String}
    (hlater : column ∈ laterColumns) : column ∉ connection.quoteColumns := by
  have hreserved : column ∈ reservedColumns ∧ column ≠ "AD" :=
    (by decide : ∀ c ∈ laterColumns, c ∈ reservedColumns ∧ c ≠ "AD") column hlater
  have hused : ∀ used ∈ connection.usedColumns, column ≠ used := by
    rintro used hused rfl
    exact hplaced.apart column hused hreserved.1
  intro hquote
  rcases List.mem_cons.mp hquote with h | h
  · exact hused connection.priceColumn (by simp [SheetConnectionModel.usedColumns]) h
  · rcases List.mem_cons.mp h with h | h
    · exact hreserved.2 h
    · rcases List.mem_append.mp h with h | h
      · have hcolumn := (Option.filter_eq_some_iff.mp (Option.mem_toList.mp h)).1
        exact hused column (by simp [SheetConnectionModel.usedColumns, hcolumn]) rfl
      · have hcolumn := (Option.filter_eq_some_iff.mp (Option.mem_toList.mp h)).1
        exact hused column (by simp [SheetConnectionModel.usedColumns, hcolumn]) rfl

theorem RowUpdates.KeepsQuote.refl (connection : SheetConnectionModel) (quote : RowUpdates) :
    quote.KeepsQuote connection quote := fun _ _ => rfl

theorem RowUpdates.KeepsQuote.set (hplaced : WellPlaced connection)
    (h : quote.KeepsQuote connection updates) {column : String} (hlater : column ∈ laterColumns)
    (content : CellContent) : quote.KeepsQuote connection (updates.set column content) := by
  intro other hother
  have hne : other ≠ column := by
    rintro rfl
    exact hplaced.not_quote hlater hother
  rw [Dict.get?_set, if_neg hne]
  exact h other hother

theorem RowUpdates.KeepsQuote.update (hplaced : WellPlaced connection)
    (h : quote.KeepsQuote connection updates) {other : List (String × CellContent)}
    (hlater : ∀ column ∈ other.map Prod.fst, column ∈ laterColumns) :
    quote.KeepsQuote connection (updates.update other) := by
  intro column hcolumn
  have hnot : column ∉ other.map Prod.fst := fun hmem =>
    hplaced.not_quote (hlater column hmem) hcolumn
  rw [Dict.get?_update_of_not_mem _ hnot]
  exact h column hcolumn

theorem RowUpdates.KeepsQuote.blanks (hplaced : WellPlaced connection)
    (h : quote.KeepsQuote connection updates) :
    quote.KeepsQuote connection (updates.update blankCalculationValues) :=
  h.update hplaced (by decide)

theorem RowUpdates.KeepsQuote.blank (hplaced : WellPlaced connection)
    (h : quote.KeepsQuote connection updates) (status : String) :
    quote.KeepsQuote connection (updates.blank status) :=
  (h.blanks hplaced).set hplaced (by decide) _

theorem RowUpdates.KeepsQuote.commission (hplaced : WellPlaced connection)
    (h : quote.KeepsQuote connection updates) (row : SheetDataRow) :
    quote.KeepsQuote connection (commissionUpdates row updates) := by
  unfold commissionUpdates
  split
  · exact h.set hplaced (by decide) _
  · exact h

theorem RowUpdates.KeepsQuote.accrued (hplaced : WellPlaced connection)
    (h : quote.KeepsQuote connection updates) (row : SheetDataRow) :
    Gives (rowAccrued moex value row updates) fun r => quote.KeepsQuote connection r.2 := by
  unfold rowAccrued
  refine Gives.bind .trivial fun purchaseDate _ => ?_
  cases purchaseDate with
  | none => exact .ok h
  | some date =>
      dsimp only
      split
      · split
        · refine Gives.bind .trivial fun j _ => ?_
          exact .ok (h.set hplaced (by decide) j)
        · exact .ok h
      · exact .ok h

theorem RowUpdates.KeepsQuote.calculation (hplaced : WellPlaced connection)
    (h : quote.KeepsQuote connection updates) (calculation : SheetCurrentCalculation) :
    Gives (calculationUpdates calculation updates) (quote.KeepsQuote connection) := by
  intro written hwritten
  simp only [calculationUpdates, Py.bind_eq_ok] at hwritten
  obtain ⟨af, -, ag, -, ah, -, ai, -, aj, -, ak, -, hreturn⟩ := hwritten
  obtain rfl := Except.ok.inj hreturn
  apply h.update hplaced
  simp [laterColumns]

theorem RowUpdates.KeepsQuote.purchase [Py.Context] (hplaced : WellPlaced connection)
    (h : quote.KeepsQuote connection updates) (purchase : SheetPurchaseInput) :
    Gives (purchaseUpdates connection zone value purchase updates) fun r =>
      quote.KeepsQuote connection r.1 := by
  have hcoupons : ∀ ae af, quote.KeepsQuote connection ((updates.set "AE" ae).set "AF" af) :=
    fun ae af => (h.set hplaced (by decide) ae).set hplaced (by decide) af
  unfold purchaseUpdates
  refine Gives.bind .trivial ?_
  rintro ⟨couponCount, couponTotal⟩ -
  refine Gives.bind .trivial fun af _ => ?_
  dsimp only
  split
  · exact .ok ((hcoupons _ _).set hplaced (by decide) _)
  · exact .ok ((hcoupons _ _).set hplaced (by decide) _)
  · split
    · refine Gives.bind ((hcoupons _ _).calculation hplaced _) fun written hwritten => ?_
      exact .ok hwritten
    · exact .ok ((hcoupons _ _).set hplaced (by decide) _)

theorem valuedRow_quote [Py.Context] (hplaced : WellPlaced connection) (value : RefreshedInstrument)
    (row : SheetDataRow) : Gives (valuedRow connection zone moex value row) fun values =>
      ∃ quote, quoteUpdates connection zone value = .ok quote ∧
        quote.KeepsQuote connection values := by
  cases hquote : quoteUpdates connection zone value with
  | error e =>
      unfold valuedRow
      rw [hquote]
      exact Gives.error e
  | ok quote =>
      have hkept : Gives (valuedRow connection zone moex value row)
          (quote.KeepsQuote connection) := by
        have hstart : quote.KeepsQuote connection quote := .refl connection quote
        unfold valuedRow
        rw [hquote]
        refine Gives.bind (P := fun updates => quote.KeepsQuote connection updates)
          (.ok hstart) fun updates hupdates => ?_
        cases commissionTotal row with
        | none => exact .ok (hupdates.blank hplaced _)
        | some commission =>
            refine Gives.bind ((hupdates.commission hplaced row).accrued hplaced row) ?_
            rintro ⟨accrued, filled⟩ hfilled
            refine Gives.bind .trivial ?_
            rintro ⟨purchase, status⟩ -
            cases purchase with
            | none => exact .ok (hfilled.blank hplaced _)
            | some purchase =>
                refine Gives.bind ((hfilled.blanks hplaced).purchase hplaced purchase) ?_
                intro written hwritten
                exact .ok hwritten
      exact hkept.mono fun values hvalues => ⟨quote, rfl, hvalues⟩

/-- **The values of a row keep the quote of its ISIN.** -/
theorem rowValues_quote [Py.Context] (hplaced : WellPlaced connection)
    (known : Option RefreshedInstrument)
    (row : SheetDataRow) : Gives (rowValues connection zone moex known row) fun values =>
      ∃ quote, rowQuote connection zone known = .ok quote ∧
        quote.KeepsQuote connection values := by
  cases known with
  | none => exact .ok ⟨_, rfl, .refl connection _⟩
  | some value => exact valuedRow_quote hplaced value row

theorem mem_keys_setOptional {updates : RowUpdates} {optional : Option String}
    {content : CellContent} {column : String} :
    column ∈ (updates.setOptional optional content).keys ↔
      column ∈ (Py.Text.given optional).toList ∨ column ∈ updates.keys := by
  unfold RowUpdates.setOptional
  cases Py.Text.given optional with
  | none => simp
  | some given => simp [Dict.mem_keys_set]

/-- The quote fills its columns. -/
theorem rowQuote_given {known : Option RefreshedInstrument}
    (h : rowQuote connection zone known = .ok quote) {column : String}
    (hcolumn : column ∈ connection.quoteColumns) : ∃ content, quote.get? column = some content := by
  have hkeys : column ∈ quote.keys := by
    simp only [SheetConnectionModel.quoteColumns, List.mem_cons, List.mem_append] at hcolumn
    cases known with
    | none =>
        obtain rfl := Except.ok.inj h
        simp only [failedRowUpdates, mem_keys_setOptional, Dict.mem_keys_ofList]
        grind
    | some value =>
        obtain ⟨accrued, -, hreturn⟩ := Py.bind_eq_ok.mp h
        obtain rfl := Except.ok.inj hreturn
        simp only [mem_keys_setOptional, Dict.mem_keys_ofList]
        grind
  cases hget : quote.get? column with
  | some content => exact ⟨content, rfl⟩
  | none => exact absurd hkeys (Dict.not_mem_keys_of_get? hget)

end Quote

/-! ## One query for each bond -/

/-- A call of `accrued_interest_on`. -/
def ExternalCall.asksAccrued : ExternalCall → Bool
  | .accruedInterestOn _ _ _ => true
  | _ => false

/-- **One query for each bond**: each ISIN is refreshed once, each ISIN and purchase date is
asked for at most once, and rows with one ISIN get one quote. -/
structure OneQueryPerBond [Py.Context] (env : SyncEnvironment) (connection : SheetConnectionModel)
    (rows : List SheetDataRow) (calls : List ExternalCall) (batch : List CellUpdate) : Prop where
  refreshes : ∀ isin, calls.count (.refresh isin) = if isin ∈ isinsOf connection rows then 1 else 0
  accrued : ∃ (refreshed : String → Option RefreshedInstrument) (asked : List (String × Date)),
    sheetBatch env connection refreshed rows = .ok batch ∧ asked.Nodup ∧
    (∀ key ∈ asked, ∃ row ∈ rows, normalizeIsin (row.rawIsin connection) = .ok key.1 ∧
      parseDate (row.get "E") = .ok (some key.2)) ∧
    (calls.filter ExternalCall.asksAccrued).map some = asked.map (accruedQuestion refreshed)
  same : ∀ isin, ∀ column ∈ connection.quoteColumns, ∃ content, ∀ row ∈ rows,
    normalizeIsin (row.rawIsin connection) = .ok isin →
      written batch row.rowNumber column = [content]

section Batch

variable {env : SyncEnvironment} {connection : SheetConnectionModel} {rows : List SheetDataRow}
  {refreshed : String → Option RefreshedInstrument} {batch : List CellUpdate}

/-- **Rows with one ISIN get one quote.** -/
theorem sheetBatch_quote [Py.Context] (hplaced : WellPlaced connection)
    (hbatch : sheetBatch env connection refreshed rows = .ok batch)
    (hrows : (rows.map SheetDataRow.rowNumber).Nodup)
    (hbelow : ∀ row ∈ rows, connection.headerRow < row.rowNumber) (isin : String)
    {column : String} (hcolumn : column ∈ connection.quoteColumns) :
    ∃ content, ∀ row ∈ rows, normalizeIsin (row.rawIsin connection) = .ok isin →
      written batch row.rowNumber column = [content] := by
  have hrow : ∀ row ∈ rows, normalizeIsin (row.rawIsin connection) = .ok isin →
      ∃ quote, rowQuote connection env.zone (refreshed isin) = .ok quote ∧
        written batch row.rowNumber column = (quote.get? column).toList := by
    intro row hrow hisin
    have hown := (rowCells_batch hbatch hrows hbelow hrow).1 isin hisin
    obtain ⟨values, hvalues, hcells⟩ := rowUpdates_eq_ok.mp hown
    obtain ⟨quote, hquote, hkept⟩ := rowValues_quote hplaced (refreshed isin) row values hvalues
    refine ⟨quote, hquote, ?_⟩
    rw [← written_rowCells, hcells, written_cellUpdates, hkept column hcolumn]
  cases hquote : rowQuote connection env.zone (refreshed isin) with
  | error e =>
      refine ⟨.none, fun row hmem hisin => ?_⟩
      obtain ⟨quote, hok, -⟩ := hrow row hmem hisin
      cases hquote.symm.trans hok
  | ok quote =>
      obtain ⟨content, hcontent⟩ := rowQuote_given hquote hcolumn
      refine ⟨content, fun row hmem hisin => ?_⟩
      obtain ⟨other, hok, hwritten⟩ := hrow row hmem hisin
      obtain rfl := Except.ok.inj (hquote.symm.trans hok)
      rw [hwritten, hcontent]
      rfl

end Batch

section Calls

variable {env : SyncEnvironment} {connection : SheetConnectionModel} {rows : List SheetDataRow}
  {refreshed : String → Option RefreshedInstrument} {loop : RowLoop}
  {asked isins : List String}

theorem calls_asksAccrued {calls : List ExternalCall} {keys : List (String × Date)}
    (h : calls.map some = keys.map (accruedQuestion refreshed)) :
    ∀ k ∈ calls, k.asksAccrued = true := by
  intro k hk
  have hmem : some k ∈ keys.map (accruedQuestion refreshed) := h ▸ List.mem_map_of_mem hk
  obtain ⟨key, -, hkey⟩ := List.mem_map.mp hmem
  obtain ⟨value, -, rfl⟩ := Option.map_eq_some_iff.mp hkey
  rfl

theorem count_refresh_eq_zero {calls : List ExternalCall}
    (h : ∀ k ∈ calls, k.asksAccrued = true) (isin : String) :
    calls.count (.refresh isin) = 0 := by
  rw [List.count_eq_zero]
  intro hmem
  exact Bool.noConfusion (h _ hmem)

theorem count_map_refresh (hnodup : asked.Nodup) (isin : String) :
    (asked.map ExternalCall.refresh).count (.refresh isin) = if isin ∈ asked then 1 else 0 := by
  have hinjective : Function.Injective ExternalCall.refresh := fun _ _ h =>
    ExternalCall.refresh.inj h
  rw [List.count_map_of_injective _ _ hinjective]
  split
  · rename_i hmem
    exact List.count_eq_one_of_mem hnodup hmem
  · rename_i hmem
    exact List.count_eq_zero_of_not_mem hmem

/-- Each of the ISINs was asked for once exactly if all were. -/
theorem counts_iff (hnodup : isins.Nodup) (hsublist : asked.Sublist isins) :
    (∀ isin, (asked.map ExternalCall.refresh).count (.refresh isin) =
      if isin ∈ isins then 1 else 0) ↔ asked = isins := by
  have hasked : asked.Nodup := hnodup.sublist hsublist
  constructor
  · intro h
    apply hsublist.eq_of_length_le
    refine (List.subperm_of_subset hnodup ?_).length_le
    intro isin hisin
    have hcount := h isin
    rw [count_map_refresh hasked, if_pos hisin] at hcount
    by_contra hnot
    rw [if_neg hnot] at hcount
    omega
  · rintro rfl
    exact count_map_refresh hasked

/-- The calls of a run: what it asked Google first, the ISINs it asked MOEX for, what the loop
over the rows asked, and the write. -/
theorem oneQueryPerBond_iff [Py.Context] {connection : SheetConnectionModel}
    {batch : List CellUpdate}
    {calls before : List ExternalCall} {keys : List (String × Date)} {last : ExternalCall}
    (hplaced : WellPlaced connection)
    (hbatch : sheetBatch env connection refreshed rows = .ok batch)
    (hnumbered : (rows.map SheetDataRow.rowNumber).Nodup)
    (hbelow : ∀ row ∈ rows, connection.headerRow < row.rowNumber)
    (hbefore : ∀ k ∈ before, (∀ isin, k ≠ .refresh isin) ∧ k.asksAccrued = false)
    (hlast : (∀ isin, last ≠ .refresh isin) ∧ last.asksAccrued = false)
    (hsublist : asked.Sublist (isinsOf connection rows))
    (hloop : loop.Asked refreshed (normalizedRows connection rows) keys)
    (hcalls : calls = before ++ asked.map ExternalCall.refresh ++ loop.calls ++ [last]) :
    OneQueryPerBond env connection rows calls batch ↔ asked = isinsOf connection rows := by
  have haccrued := calls_asksAccrued hloop.calls
  have hcount : ∀ isin, calls.count (.refresh isin) =
      (asked.map ExternalCall.refresh).count (.refresh isin) := by
    intro isin
    have hfirst : before.count (.refresh isin) = 0 :=
      List.count_eq_zero_of_not_mem fun hmem => (hbefore _ hmem).1 isin rfl
    have hnone : [last].count (.refresh isin) = 0 :=
      List.count_eq_zero_of_not_mem fun hmem => hlast.1 isin (List.mem_singleton.mp hmem).symm
    rw [hcalls, List.count_append, List.count_append, List.count_append, hfirst, hnone,
      count_refresh_eq_zero haccrued]
    omega
  have hfilter : calls.filter ExternalCall.asksAccrued = loop.calls := by
    have hfirst : before.filter ExternalCall.asksAccrued = [] :=
      List.filter_eq_nil_iff.mpr fun k hk => by simp [(hbefore k hk).2]
    have hmiddle : (asked.map ExternalCall.refresh).filter ExternalCall.asksAccrued = [] := by
      rw [List.filter_map, List.filter_eq_nil_iff.mpr]
      · rfl
      · exact fun isin _ => Bool.false_ne_true
    rw [hcalls, List.filter_append, List.filter_append, List.filter_append, hfirst, hmiddle,
      List.filter_eq_self.mpr haccrued, List.filter_singleton, hlast.2]
    simp
  have hdistinct : (isinsOf connection rows).Nodup := Py.nodup_distinct _
  rw [← counts_iff hdistinct hsublist]
  constructor
  · intro h isin
    rw [← hcount]
    exact h.refreshes isin
  · intro h
    refine ⟨?_, ⟨refreshed, keys, hbatch, hloop.nodup, ?_, ?_⟩, ?_⟩
    · intro isin
      rw [hcount]
      exact h isin
    · intro key hkey
      obtain ⟨entry, hentry, hkeyIsin, hdate⟩ := hloop.rows key hkey
      obtain ⟨row, hrow, hnormalized⟩ := List.mem_filterMap.mp hentry
      obtain ⟨hsame, hisin⟩ := normalizedRow_eq_some hnormalized
      rw [hkeyIsin] at hisin
      rw [hsame] at hdate
      exact ⟨row, hrow, hisin, hdate⟩
    · rw [hfilter]
      exact hloop.calls
    · exact fun isin column hcolumn =>
        sheetBatch_quote hplaced hbatch hnumbered hbelow isin hcolumn

end Calls

/-- A run that gets to the write has read its sheet in a usable session. -/
theorem usable_of_read {env : SyncEnvironment} {job : SheetSyncJobModel} {w w₁ : ServiceWorld}
    {connection found : SheetConnectionModel} {rows sheetRows : List SheetDataRow}
    (hread : sheetRead env w.work.sheets job = some (connection, rows)) (hC : w.work.Constraints)
    (hsheet : readSheet env job w = (.ok (found, sheetRows), w₁)) :
    found = connection ∧ sheetRows = rows ∧ w₁.broken = false ∧ SheetProgress w.work w₁.work := by
  have hreading := readSheet_eq_ok hsheet
  have hruns : World.Runs (readSheet env job) w _ _ := readSheet_runs hreading.usable hC
  obtain ⟨husable, houtcome⟩ := hruns
  rw [hsheet] at husable houtcome
  have hw₁ : w₁.broken = false := husable.mpr (by rw [hreading.answered]; exact Fault.noConfusion)
  obtain ⟨hsame, hprogress⟩ := houtcome hw₁
  obtain ⟨rfl, rfl⟩ := Prod.mk.inj (Option.some.inj (hsame.trans hread))
  exact ⟨rfl, rfl, hw₁, hprogress⟩

/-- **One query for each bond**: a run that gets to the write meets this, over a connection
that `configure` stored, exactly if every instrument can be selected and no ISIN but the last
leaves the session broken. -/
theorem one_query_per_bond_iff [Py.Context] {env : SyncEnvironment} {db db' : SheetDatabase}
    {owner : UserId} {values : ConnectionValues} {id : ConnectionId} {now : Instant}
    {stored connection : SheetConnectionModel} {lastAttemptAt lastSuccessAt : Option Instant}
    {lastError lastPayloadHash : Option String} {job : SheetSyncJobModel} {w : ServiceWorld}
    {spreadsheetId worksheetName : String} {batch : List CellUpdate} {rows : List SheetDataRow}
    (hstored : configure db owner values id now = .ok (db', stored))
    (hnoted : connection = stored.noted lastAttemptAt lastSuccessAt lastError lastPayloadHash)
    (hread : sheetRead env w.work.sheets job = some (connection, rows))
    (hrows : env.ReadsDataRows) (hC : w.work.Constraints) (hcalls : w.calls = [])
    (hfresh : env.draw.Fresh (isinsOf connection rows) w.work.market)
    (hcall : .updateCells spreadsheetId worksheetName batch ∈ (execute env job w).2.calls) :
    OneQueryPerBond env connection rows (execute env job w).2.calls batch ↔
      (∀ isin ∈ isinsOf connection rows, env.faults (.refresh isin .lookup) = .none) ∧
        ∀ isin ∈ (isinsOf connection rows).dropLast,
          IsinKept env (w.work.market.view isin) isin := by
  have hplaced : WellPlaced connection := by
    rw [hnoted]
    exact (configure_stored hstored).1.noted _ _ _ _
  have hnew : .updateCells spreadsheetId worksheetName batch ∉ w.calls := by
    rw [hcalls]
    exact List.not_mem_nil
  obtain ⟨found, sheetRows, w₁, refreshes, w₂, loop, hsheet, hrefreshes, -, hloop, hmade⟩ :=
    execute_calls ⟨_, _, _, rfl⟩ hnew hcall
  have hreading := readSheet_eq_ok hsheet
  obtain ⟨numbered, hnumbered, hdata⟩ := hreading.rows_eq
  obtain ⟨rfl, rfl, hw₁, hprogress⟩ := usable_of_read hread hC hsheet
  obtain ⟨hdistinct, hfirst⟩ := hrows _ _ _ _ _ hnumbered
  have hplacedRows : ((dataRows found numbered).map SheetDataRow.rowNumber).Nodup ∧
      ∀ row ∈ dataRows found numbered, found.headerRow < row.rowNumber :=
    dataRows_numbered hdistinct hfirst
  rw [← hdata] at hplacedRows
  -- the loop over the ISINs
  have hnodup : (isinsOf found sheetRows).Nodup := Py.nodup_distinct _
  have hfresh₁ : env.draw.Fresh (isinsOf found sheetRows) w₁.work.market := by
    rw [hprogress.market]
    exact hfresh
  obtain ⟨asked, hrefreshed, hsublist, hall⟩ := refreshAll_calls found hw₁
    hprogress.constraints hnodup hfresh₁ fun _ h => normalized_of_mem_isinsOf h
  rw [hrefreshes, hreading.calls, hcalls, List.nil_append] at hrefreshed
  rw [hprogress.market] at hall
  -- the loop over the rows, and its batch
  obtain ⟨keys, hkeys⟩ := rowLoop_asked hloop
  have hagrees := rowLoop_batch env found refreshes.value sheetRows (refreshAll_errors hrefreshes)
  rw [hloop] at hagrees
  obtain ⟨emitted, hbatch, hemitted⟩ := hagrees.of_ok
  dsimp only at hrefreshed
  rw [hrefreshed] at hmade
  have hwritten : batch = emitted := by
    rw [hmade] at hcall
    rcases List.mem_append.mp hcall with hbefore | hlast
    · exfalso
      rcases List.mem_append.mp hbefore with hbefore | hloopCall
      · simp at hbefore
      · exact Bool.noConfusion (calls_asksAccrued hkeys.calls _ hloopCall)
    · rw [← hemitted]
      exact (ExternalCall.updateCells.inj (List.mem_singleton.mp hlast)).2.2
  rw [← hall]
  refine oneQueryPerBond_iff hplaced (hwritten ▸ hbatch) hplacedRows.1 hplacedRows.2 ?_ ?_
    hsublist hkeys hmade
  · intro k hk
    rcases List.mem_cons.mp hk with rfl | hk
    · exact ⟨fun _ => ExternalCall.noConfusion, rfl⟩
    · obtain rfl := List.mem_singleton.mp hk
      exact ⟨fun _ => ExternalCall.noConfusion, rfl⟩
  · exact ⟨fun _ => ExternalCall.noConfusion, rfl⟩

/-- **One query for each bond**: so does every run that gets to the write over a connection
that `configure` stored, whatever MOEX answers and whichever flush or commit the database
refuses, if it answers the selects. -/
theorem one_query_per_bond [Py.Context] {env : SyncEnvironment} {db db' : SheetDatabase}
    {owner : UserId} {values : ConnectionValues} {id : ConnectionId} {now : Instant}
    {stored connection : SheetConnectionModel} {lastAttemptAt lastSuccessAt : Option Instant}
    {lastError lastPayloadHash : Option String} {job : SheetSyncJobModel} {w : ServiceWorld}
    {spreadsheetId worksheetName : String} {batch : List CellUpdate} {rows : List SheetDataRow}
    (hstored : configure db owner values id now = .ok (db', stored))
    (hnoted : connection = stored.noted lastAttemptAt lastSuccessAt lastError lastPayloadHash)
    (hread : sheetRead env w.work.sheets job = some (connection, rows))
    (hrows : env.ReadsDataRows) (hC : w.work.Constraints) (hcalls : w.calls = [])
    (hfresh : env.draw.Fresh (isinsOf connection rows) w.work.market)
    (hanswered : env.SelectsAnswered)
    (hcall : .updateCells spreadsheetId worksheetName batch ∈ (execute env job w).2.calls) :
    OneQueryPerBond env connection rows (execute env job w).2.calls batch := by
  have hiff := one_query_per_bond_iff hstored hnoted hread hrows hC hcalls hfresh hcall
  refine hiff.mpr ⟨fun isin _ => hanswered _ rfl, ?_⟩
  have hnew : .updateCells spreadsheetId worksheetName batch ∉ w.calls := by
    rw [hcalls]
    exact List.not_mem_nil
  -- the run came to its rows, so the connection could be read after the loop
  obtain ⟨found, sheetRows, w₁, refreshes, w₂, loop, hsheet, hrefreshes, hexpired, -, -⟩ :=
    execute_calls ⟨_, _, _, rfl⟩ hnew hcall
  obtain ⟨rfl, rfl, hw₁, hprogress⟩ := usable_of_read hread hC hsheet
  have hfresh₁ : env.draw.Fresh (isinsOf found sheetRows) w₁.work.market := by
    rw [hprogress.market]
    exact hfresh
  have hnodup : (isinsOf found sheetRows).Nodup := Py.nodup_distinct _
  have hkept := kept_of_not_expired found hanswered hw₁ hprogress.constraints hnodup hfresh₁
    (fun _ h => normalized_of_mem_isinsOf h) (by rw [hrefreshes]; exact hexpired)
  rw [hprogress.market] at hkept
  exact fun isin hisin => hkept isin (List.dropLast_subset _ hisin)

/-! ## A run over a bond in two rows -/

/-- One bond in two rows, once in small letters and with blanks. -/
def twinRows (firstDataRow : ℕ) : List SheetDataRow :=
  [parRow firstDataRow (.text "RU000A107SX3") (.number "45296") (.number "10") (.text "900,5")
      .none (.text "") (.number "12"),
    parRow (firstDataRow + 1) (.text " ru000a107sx3 ") .none .none .none .none .none .none]

def twinEnvironment : SyncEnvironment := parEnvironment twinRows fun _ => .none

/-- The run over these rows. -/
def twinRun : ServiceWorld := (execute twinEnvironment parJob (World.opened parDatabase)).2

theorem one_query_per_bond_twinRun :
    OneQueryPerBond twinEnvironment parConnection (twinRows 2) twinRun.calls
      (twinRun.calls.flatMap ExternalCall.batch) := by
  have hconfigure : configure ⟨⟨[], []⟩, by decide⟩ 1 parValues 10 0 =
      .ok (⟨⟨[parConnection], []⟩, by decide⟩, parConnection) := by decide +kernel
  have hrows : twinEnvironment.ReadsDataRows := by
    intro _ _ _ firstDataRow rows h
    obtain rfl := Except.ok.inj h
    refine ⟨?_, ?_⟩
    · simp [twinRows, parRow]
    · simp [twinRows, parRow]
  have hisins : isinsOf parConnection (twinRows 2) = ["RU000A107SX3"] := by decide +kernel
  have hfresh : twinEnvironment.draw.Fresh (isinsOf parConnection (twinRows 2))
      parDatabase.val.market := by
    rw [hisins]
    refine ⟨fun isin _ => ⟨List.not_mem_nil, fun _ => List.not_mem_nil, ?_, List.not_mem_nil⟩,
      List.pairwise_singleton _ _⟩
    intro k l hsame
    have hsame : 40 + k = 40 + l := hsame
    omega
  have hread : sheetRead twinEnvironment parDatabase.val.sheets parJob =
      some (parConnection, twinRows 2) := by decide +kernel
  have hcall : .updateCells "1AbCdEfGhIjKlMn" "Портфель" (twinRun.calls.flatMap
      ExternalCall.batch) ∈ twinRun.calls := by decide +kernel
  have hsame : parConnection = parConnection.noted none none none none := rfl
  have hrun : twinRun = (execute twinEnvironment parJob (World.opened parDatabase)).2 := rfl
  rw [hrun] at hcall ⊢
  exact one_query_per_bond hconfigure hsame hread hrows parDatabase.property rfl hfresh
    (fun _ _ => rfl) hcall

end BondTrading
