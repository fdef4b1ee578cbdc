/-
# BondTrading.Sheets.Redeliveries -- retried requests do no harm

For every run of calls, attempts and late requests: the batches take effect once each, a
confirmed batch took effect, and what a read returns are the rows of the memory at that time.
-/
import BondTrading.Sheets.Server

namespace BondTrading

open Py (Decimal Dict)
open Machines (Machine Entry)

/-! ## Reading the sheets and the memory -/

/-- The rows that were read are the rows of the memory that have something in a column, with the
same cells. -/
structure SameRows (float : Decimal → String) (columns : List String)
    (rows held : List SheetDataRow) : Prop where
  numbers : rows.map SheetDataRow.rowNumber =
    (held.filter fun row => columns.any fun column => !(row.get column).isBlank).map
      SheetDataRow.rowNumber
  cells : ∀ row ∈ rows, ∀ row' ∈ held, row.rowNumber = row'.rowNumber → ∀ column ∈ columns,
    SameCell float (row.get column) (row'.get column)

section Reading

variable {σ : Type} {server : SheetsServer σ} {g : GoogleServiceAccountSheetsGateway}
  {has : String → String → Prop} {grid : σ → String → String → SheetGrid} {s : σ}
  {m : MemoryGoogleSheetsGateway} {spreadsheetId worksheetName : String}
  {columns : List String} {firstDataRow : ℕ}

theorem columns_capitals (hcolumns : columns.mapM normalizeColumn = .ok columns) :
    ∀ column ∈ columns, (∀ c ∈ column.toList, c.isUpper) ∧ 1 ≤ columnNumber column ∧
      columnNumber column ≤ 16384 := by
  intro column hcolumn
  obtain ⟨value, -, hvalue⟩ := (Py.exists_of_mem_mapM hcolumns).2 column hcolumn
  exact normalizeColumn_spec hvalue

/-- A cell of a row with something in it is a cell of the memory. -/
theorem MemoryGoogleSheetsGateway.mem_keys_of_get {column : String} {n : ℕ}
    (hcolumn : column ∈ columns)
    (h : ((m.readRow spreadsheetId worksheetName columns n).get column).isBlank = false) :
    (spreadsheetId, worksheetName, n, column) ∈ m.cells.keys := by
  rw [get_readRow hcolumn] at h
  by_contra hkey
  rw [Dict.get?_eq_none hkey] at h
  cases h

/-- Rows that decode the sheet are the rows of its mirror. -/
theorem Mirrors.sameRows {float : Decimal → String} (hm : Mirrors has grid float s m)
    (hhas : has spreadsheetId worksheetName)
    (hcapitals : ∀ column ∈ columns, ∀ c ∈ column.toList, c.isUpper) {rows : List SheetDataRow}
    (hrows : Decodes (grid s spreadsheetId worksheetName) columns firstDataRow rows) :
    ∃ held, m.readRows spreadsheetId worksheetName columns firstDataRow = .ok held ∧
      SameRows float columns rows held := by
  set numbers := m.rowNumbers spreadsheetId worksheetName columns firstDataRow with hnumbers
  set readRow := m.readRow spreadsheetId worksheetName columns with hreadRow
  refine ⟨numbers.map readRow, Py.bind_eq_ok.mpr ⟨(), hm.sheets _ _ hhas, rfl⟩, ?_, ?_⟩
  · have hsublist : (((numbers.map readRow).filter fun row =>
        columns.any fun column => !(row.get column).isBlank).map SheetDataRow.rowNumber).Sublist
          numbers := by
      have hmap := (List.filter_sublist (l := numbers.map readRow)
        (p := fun row => columns.any fun column => !(row.get column).isBlank)).map
          SheetDataRow.rowNumber
      rw [MemoryGoogleSheetsGateway.map_rowNumber_readRow] at hmap
      exact hmap
    have hascending : numbers.Pairwise (· ≤ ·) := List.pairwise_insertionSort _ _
    have hnodup : numbers.Nodup := MemoryGoogleSheetsGateway.nodup_rowNumbers
    refine List.Perm.eq_of_pairwise' (r := (· ≤ ·)) ?_ (hascending.sublist hsublist) ?_
    · exact hrows.ascending.imp Nat.le_of_lt
    · rw [List.perm_ext_iff_of_nodup (hrows.ascending.imp Nat.ne_of_lt) (hnodup.sublist hsublist)]
      intro n
      have hcontent : (∃ column ∈ columns,
          ((grid s spreadsheetId worksheetName).cell n (lettersValue column.toList)).isBlank =
            false) ↔ ∃ column ∈ columns, ((readRow n).get column).isBlank = false := by
        refine exists_congr fun column => and_congr_right fun hcolumn => ?_
        rw [hreadRow, MemoryGoogleSheetsGateway.get_readRow hcolumn,
          (hm.cells _ _ n column hhas (hcapitals column hcolumn)).isBlank_eq]
      rw [hrows.mem_iff, hcontent]
      constructor
      · rintro ⟨hle, column, hcolumn, hblank⟩
        refine List.mem_map.mpr ⟨readRow n, List.mem_filter.mpr ⟨List.mem_map_of_mem ?_, ?_⟩, rfl⟩
        · exact MemoryGoogleSheetsGateway.mem_rowNumbers.mpr
            ⟨hle, column, hcolumn, MemoryGoogleSheetsGateway.mem_keys_of_get hcolumn hblank⟩
        · exact List.any_eq_true.mpr ⟨column, hcolumn, by rw [hblank]; rfl⟩
      · intro hn
        obtain ⟨row, hrow, rfl⟩ := List.mem_map.mp hn
        obtain ⟨hmem, hany⟩ := List.mem_filter.mp hrow
        obtain ⟨k, hk, rfl⟩ := List.mem_map.mp hmem
        obtain ⟨column, hcolumn, hblank⟩ := List.any_eq_true.mp hany
        refine ⟨(MemoryGoogleSheetsGateway.mem_rowNumbers.mp hk).1, column, hcolumn, ?_⟩
        rwa [Bool.not_eq_true'] at hblank
  · intro row hrow row' hrow' hsame column hcolumn
    obtain ⟨n, -, rfl⟩ := List.mem_map.mp hrow'
    have hcell := hm.cells spreadsheetId worksheetName n column hhas (hcapitals column hcolumn)
    have hn : row.rowNumber = n := hsame
    rw [hreadRow, MemoryGoogleSheetsGateway.get_readRow hcolumn]
    exact .of_shows (hn ▸ hrows.shows row hrow column hcolumn) hcell

/-- The request of a read of columns as they are stored. -/
theorem rowsRequest_eq (spreadsheetId worksheetName : String) (firstDataRow : ℕ)
    (hne : columns ≠ [])
    (hcolumns : columns.mapM normalizeColumn = .ok columns) :
    ∃ (first last : ℕ) (firstColumn lastColumn : String),
      (columns.map columnNumber).min? = some first ∧ (columns.map columnNumber).max? = some last ∧
      (∀ c ∈ firstColumn.toList, c.isUpper) ∧ lettersValue firstColumn.toList = first ∧
      (∀ c ∈ lastColumn.toList, c.isUpper) ∧ lettersValue lastColumn.toList = last ∧
      rowsRequest spreadsheetId worksheetName columns firstDataRow =
        .ok (columns, first, .getValues spreadsheetId
          (openRange worksheetName firstColumn lastColumn firstDataRow)) := by
  have hspec := columns_capitals hcolumns
  have hnumbers : columns.map columnNumber ≠ [] := by
    intro h
    exact hne (List.map_eq_nil_iff.mp h)
  cases hfirst : (columns.map columnNumber).min? with
  | none => exact absurd (List.min?_eq_none_iff.mp hfirst) hnumbers
  | some first =>
      cases hlast : (columns.map columnNumber).max? with
      | none => exact absurd (List.max?_eq_none_iff.mp hlast) hnumbers
      | some last =>
          obtain ⟨one, hone, rfl⟩ := List.mem_map.mp (List.min?_eq_some_iff.mp hfirst).1
          obtain ⟨other, hother, rfl⟩ := List.mem_map.mp (List.max?_eq_some_iff.mp hlast).1
          obtain ⟨firstColumn, hfirstName, hfirstLetters, hfirstValue⟩ :=
            columnName_spec (hspec one hone).2.1 (hspec one hone).2.2
          obtain ⟨lastColumn, hlastName, hlastLetters, hlastValue⟩ :=
            columnName_spec (hspec other hother).2.1 (hspec other hother).2.2
          refine ⟨_, _, firstColumn, lastColumn, rfl, rfl, hfirstLetters, hfirstValue,
            hlastLetters, hlastValue, ?_⟩
          exact Py.bind_eq_ok.mpr ⟨_, hcolumns, Py.bind_eq_ok.mpr ⟨_, Py.orRaise_eq_ok.mpr hfirst,
            Py.bind_eq_ok.mpr ⟨_, Py.orRaise_eq_ok.mpr hlast, Py.bind_eq_ok.mpr ⟨_, hfirstName,
              Py.bind_eq_ok.mpr ⟨_, hlastName, rfl⟩⟩⟩⟩⟩

/-- **A read that is answered** decodes the sheet. -/
theorem SheetsServer.Keeps.decodes (h : server.Keeps g has grid) (s : σ) (firstDataRow : ℕ)
    (hhas : has spreadsheetId worksheetName) (hne : columns ≠ [])
    (hcolumns : columns.mapM normalizeColumn = .ok columns) :
    ∃ request, g.requestOf (.readRows spreadsheetId worksheetName columns firstDataRow) =
        some request ∧
      ∀ g' : GoogleServiceAccountSheetsGateway, g'.request request = .ok (server.reply s request) →
        ∃ rows, g'.readRows spreadsheetId worksheetName columns firstDataRow = .ok rows ∧
          Decodes (grid s spreadsheetId worksheetName) columns firstDataRow rows := by
  obtain ⟨first, last, firstColumn, lastColumn, hfirst, hlast, hfirstLetters, rfl, hlastLetters,
    rfl, hrequest⟩ := rowsRequest_eq spreadsheetId worksheetName firstDataRow hne hcolumns
  have hlo : ∀ column ∈ columns, lettersValue firstColumn.toList ≤ columnNumber column :=
    fun column hcolumn => (List.min?_eq_some_iff.mp hfirst).2 _ (List.mem_map_of_mem hcolumn)
  have hhi : ∀ column ∈ columns, columnNumber column ≤ lettersValue lastColumn.toList :=
    fun column hcolumn => (List.max?_eq_some_iff.mp hlast).2 _ (List.mem_map_of_mem hcolumn)
  have hle : lettersValue firstColumn.toList ≤ lettersValue lastColumn.toList := by
    obtain ⟨column, hcolumn⟩ := List.exists_mem_of_ne_nil columns hne
    exact (hlo column hcolumn).trans (hhi column hcolumn)
  refine ⟨.getValues spreadsheetId (openRange worksheetName firstColumn lastColumn firstDataRow),
    ?_, ?_⟩
  · show (rowsRequest _ _ _ _).toOption.map _ = _
    rw [hrequest]
    rfl
  · intro g' hreply
    refine ⟨keptRows columns (lettersValue firstColumn.toList) firstDataRow
      ((grid s spreadsheetId worksheetName).rowMajor (lettersValue firstColumn.toList)
        (lettersValue lastColumn.toList) firstDataRow),
      readRows_eq_ok.mpr ⟨_, _, hrequest, hreply, ?_⟩, ?_⟩
    · show rowsAnswered columns (lettersValue firstColumn.toList) firstDataRow
        ((server.values s spreadsheetId _).getD (.rows [])) = _
      rw [h.values _ _ _ _ _ _ hhas hfirstLetters hlastLetters hle]
      exact Py.bind_eq_ok.mpr ⟨_, mapM_keepRow hlo _, congrArg Except.ok reduceOption_map⟩
    · exact keptRows_decodes hlo hhi fun column hcolumn =>
        columnNumber_eq (columns_capitals hcolumns column hcolumn).1

end Reading

/-! ## Every run -/

/-- A spreadsheet with one worksheet and nothing on it. -/
def blankMemory : MemoryGoogleSheetsGateway where
  spreadsheets := Dict.ofList [("book", ("Доход", ["Bonds'"]))]
  cells := Dict.empty
  updateBatches := []

/-- The worksheet of `blankMemory`. -/
def OneSheet (spreadsheetId worksheetName : String) : Prop :=
  spreadsheetId = "book" ∧ worksheetName = "Bonds'"

def priceUpdate : SheetCall :=
  .updateCells "book" "Bonds'" [⟨3, "J", .decimal (.finite (3 / 2))⟩, ⟨3, "AL", .text "OK"⟩]

def priceRead : SheetCall := .readRows "book" "Bonds'" ["B", "J"] 2

/-- A timeout. -/
def timeout : FailedAttempt := ⟨.failed "timeout", rfl⟩

/-- An update whose first request is late: it is answered with its third attempt, read, and then
comes to Google again. -/
def lateRequest : List TrafficEvent :=
  [.call priceUpdate, .attempt 0 (.lost timeout), .attempt 0 (.refused timeout), .call priceRead,
    .attempt 0 .answered, .attempt 1 .answered, .arrive 0]

theorem lateRequest_sendable :
    ∀ call ∈ lateRequest.filterMap begun, call.Sendable OneSheet := by
  intro call hcall
  have hcalls : call ∈ [priceUpdate, priceRead] := hcall
  rcases List.mem_cons.mp hcalls with rfl | hcall
  · refine ⟨⟨rfl, rfl⟩, ?_, by decide⟩
    intro u hu
    rcases List.mem_cons.mp hu with rfl | hu
    · exact ⟨by decide +kernel, List.all_eq_true.mp (by decide), by decide⟩
    · obtain rfl := List.mem_singleton.mp hu
      exact ⟨by decide +kernel, List.all_eq_true.mp (by decide), by decide⟩
  · obtain rfl := List.mem_singleton.mp hcall
    exact ⟨⟨rfl, rfl⟩, by decide, by decide +kernel⟩

theorem mirrors_blankMemory (float : Decimal → String) :
    Mirrors OneSheet SheetCells.grid float Dict.empty blankMemory := by
  apply mirrors_empty
  · rfl
  · rintro _ _ ⟨rfl, rfl⟩
    decide +kernel

section Runs

variable {σ : Type} {server : SheetsServer σ} {g : GoogleServiceAccountSheetsGateway}
  {has : String → String → Prop} {grid : σ → String → String → SheetGrid} {s : σ}
  {m : MemoryGoogleSheetsGateway} {es : List TrafficEvent}

/-- **Every batch takes effect once.**  Whatever attempts fail, are repeated or arrive late, and
however the calls interleave, at any time the sheets show what the memory holds after the batches
that came to Google, each once, in the order in which they came last; and an update that returned
is among them. -/
theorem batches_take_effect_once (hkeeps : server.Keeps g has grid)
    (hm : Mirrors has grid g.float s m)
    (hes : ∀ call ∈ es.filterMap begun, call.Sendable has) :
    let hist := (trafficMachine g server).history (.quiet s) es
    Mirrors has grid g.float ((trafficMachine g server).run (.quiet s) es).sheets
        (m.didAll (arrivals hist).dedup) ∧
      ((arrivals hist).dedup.map Prod.fst).Nodup ∧
      (∀ call ∈ arrivals hist, (es.filterMap begun)[call.1]? = some call.2) ∧
      ∀ x ∈ hist, ∀ ended ∈ x.response, Confirmed (arrivals hist) ended := by
  intro hist
  have hrun := delivered_run hkeeps hm hes
  have hmade : ∀ call ∈ arrivals hist, (es.filterMap begun)[call.1]? = some call.2 := by
    intro call hcall
    have hcalls : ((trafficMachine g server).run (.quiet s) es).calls = _ := run_calls _ _
    have hissued := hrun.made call hcall
    rw [hcalls] at hissued
    exact hissued
  refine ⟨hrun.mirrors.dedup, ?_, hmade, hrun.confirmed⟩
  · refine (List.nodup_dedup _).map_on ?_
    intro call hcall other hother hsame
    have hcall := hmade call (List.mem_dedup.mp hcall)
    have hother := hmade other (List.mem_dedup.mp hother)
    rw [hsame, hother] at hcall
    exact Prod.ext hsame (Option.some.inj hcall).symm

/-- The batch came twice. -/
theorem batches_take_effect_once_late :
    arrivals ((trafficMachine idleGateway sheetsServer).history (.quiet Dict.empty) lateRequest) =
        [(0, priceUpdate), (1, priceRead), (0, priceUpdate)] ∧
      Mirrors OneSheet SheetCells.grid Py.Decimal.str
        ((trafficMachine idleGateway sheetsServer).run (.quiet Dict.empty) lateRequest).sheets
        (blankMemory.didAll [(1, priceRead), (0, priceUpdate)]) := by
  have harrivals : arrivals ((trafficMachine idleGateway sheetsServer).history (.quiet Dict.empty)
      lateRequest) = [(0, priceUpdate), (1, priceRead), (0, priceUpdate)] := by decide +kernel
  refine ⟨harrivals, ?_⟩
  have honce := (batches_take_effect_once (sheetsServer_keeps idleGateway OneSheet)
    (mirrors_blankMemory _) lateRequest_sendable).1
  have hdedup : [(0, priceUpdate), (1, priceRead), (0, priceUpdate)].dedup =
      [(1, priceRead), (0, priceUpdate)] := by decide +kernel
  rw [harrivals, hdedup] at honce
  exact honce

/-- **A read shows the sheets at its time.**  A read whose last attempt was answered returns the
rows that the memory returns after the batches that had come to Google; any other read raises. -/
theorem reads_agree (hkeeps : server.Keeps g has grid) (hm : Mirrors has grid g.float s m)
    {e : TrafficEvent} (hes : ∀ call ∈ (es ++ [e]).filterMap begun, call.Sendable has)
    {ended : CallEnd}
    (hended : ((trafficMachine g server).step ((trafficMachine g server).run (.quiet s) es) e).2 =
      some ended) {spreadsheetId worksheetName : String} {columns : List String}
    {firstDataRow : ℕ}
    (hcall : ended.call = .readRows spreadsheetId worksheetName columns firstDataRow) :
    (e = .attempt ended.id .answered → ∃ rows held, ended.answer = .rows (.ok rows) ∧
      (m.didAll (arrivals ((trafficMachine g server).history (.quiet s) es)).dedup).readRows
        spreadsheetId worksheetName columns firstDataRow = .ok held ∧
          SameRows g.float columns rows held) ∧
    (e ≠ .attempt ended.id .answered → ∃ error, ended.answer = .rows (.error error)) := by
  rw [List.filterMap_append] at hes
  have hpast := delivered_run hkeeps hm fun call hcall => hes call (List.mem_append_left _ hcall)
  have hsendable : ended.call.Sendable has := by
    rcases hpast.sound.ends_mem hended with hmem | rfl
    · exact hpast.sendable _ hmem
    · exact hes _ (List.mem_append_right _ (List.mem_singleton.mpr rfl))
  rw [hcall] at hsendable
  obtain ⟨hhas, hne, hcolumns⟩ := hsendable
  obtain ⟨request, hrequest, hdecodes⟩ := hkeeps.decodes _ firstDataRow hhas hne hcolumns
  rw [← hcall] at hrequest
  obtain ⟨attempts, hanswer, hends⟩ := hpast.sound.ends_answered hended hrequest
  rw [hcall] at hanswer hrequest
  rcases hends with ⟨hlast, error, herror⟩ | ⟨hlast, hreply, -⟩
  · refine ⟨fun h => absurd h hlast, fun _ => ?_⟩
    cases hread : (g.replaying attempts).readRows spreadsheetId worksheetName columns
        firstDataRow with
    | error e => exact ⟨e, hanswer.trans (congrArg SheetAnswer.rows hread)⟩
    | ok rows =>
        -- a read that returned was answered
        obtain ⟨r, answer, hr, hanswered, -⟩ := readRows_eq_ok.mp hread
        obtain ⟨r', hr', rfl⟩ := Option.map_eq_some_iff.mp hrequest
        rw [hr] at hr'
        obtain rfl := Option.some.inj hr'
        cases herror.symm.trans hanswered
  · refine ⟨fun _ => ?_, fun h => absurd hlast h⟩
    obtain ⟨rows, hread, hrows⟩ := hdecodes _ hreply
    have hmirrors : Mirrors has grid g.float
        ((trafficMachine g server).run (.quiet s) es).sheets
        (m.didAll (arrivals ((trafficMachine g server).history (.quiet s) es)).dedup) :=
      hpast.mirrors.dedup
    obtain ⟨held, hheld, hsame⟩ := hmirrors.sameRows hhas
      (fun column hcolumn => (columns_capitals hcolumns column hcolumn).1) hrows
    exact ⟨rows, held, hanswer.trans (congrArg SheetAnswer.rows hread), hheld, hsame⟩

/-- The read between the two arrivals of the batch. -/
theorem reads_agree_between :
    ∃ ended, ((trafficMachine idleGateway sheetsServer).step
        ((trafficMachine idleGateway sheetsServer).run (.quiet Dict.empty) (lateRequest.take 5))
        (.attempt 1 .answered)).2 = some ended ∧
      ∃ rows held, ended.answer = .rows (.ok rows) ∧
        (blankMemory.didAll [(0, priceUpdate)]).readRows "book" "Bonds'" ["B", "J"] 2 = .ok held ∧
          SameRows idleGateway.float ["B", "J"] rows held := by
  have hcall : ((trafficMachine idleGateway sheetsServer).step
      ((trafficMachine idleGateway sheetsServer).run (.quiet Dict.empty) (lateRequest.take 5))
      (.attempt 1 .answered)).2.map (fun ended => (ended.id, ended.call)) =
        some (1, priceRead) := by decide +kernel
  obtain ⟨ended, hended, hpair⟩ := Option.map_eq_some_iff.mp hcall
  obtain ⟨hid, hread⟩ := Prod.mk.inj hpair
  have harrivals : arrivals ((trafficMachine idleGateway sheetsServer).history (.quiet Dict.empty)
      (lateRequest.take 5)) = [(0, priceUpdate)] := by decide +kernel
  have hsendable : ∀ call ∈ (lateRequest.take 5 ++ [TrafficEvent.attempt 1 .answered]).filterMap begun,
      call.Sendable OneSheet := fun call hmem => lateRequest_sendable call hmem
  have hagree := (reads_agree (sheetsServer_keeps idleGateway OneSheet) (mirrors_blankMemory _)
    hsendable hended hread).1 (by rw [hid])
  rw [harrivals] at hagree
  exact ⟨ended, hended, hagree⟩

end Runs

end BondTrading
