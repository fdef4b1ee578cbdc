/-
# BondTrading.Sheets.Mirror -- the sheets show every batch once

Whatever is lost, repeated or late between the gateway and Google, the sheets hold what
`MemoryGoogleSheetsGateway` holds after the batches that came to Google, each once, in the
order in which they came last; and `read_rows` returns the rows of that memory.  What is
assumed of Google is `SheetsServer.Keeps`.
-/
import BondTrading.Machines.Overwrites
import BondTrading.Sheets.Delivery
import BondTrading.Sheets.Memory

namespace BondTrading

open Py (Decimal Dict)
open Machines (Machine Entry Overwrite)

/-! ## What Google keeps -/

/-- A batch that names single cells, none of them twice. -/
structure SingleCells (updates : List CellUpdate) : Prop where
  addressed : ∀ u ∈ updates, u.Addressed
  once : (updates.map fun u => (u.rowNumber, u.column)).Nodup

/-- An update of this cell. -/
def CellUpdate.At (u : CellUpdate) (row column : ℕ) : Prop :=
  u.rowNumber = row ∧ lettersValue u.column.toList = column

/-- **Google keeps what is written** to the sheets `has`, as far as its answers show it: `grid`
is what stands on them. -/
structure SheetsServer.Keeps {σ : Type} (server : SheetsServer σ)
    (g : GoogleServiceAccountSheetsGateway) (has : String → String → Prop)
    (grid : σ → String → String → SheetGrid) : Prop where
  values : ∀ s spreadsheetId worksheetName (firstColumn lastColumn : String) firstRow,
    has spreadsheetId worksheetName → (∀ c ∈ firstColumn.toList, c.isUpper) →
    (∀ c ∈ lastColumn.toList, c.isUpper) →
    lettersValue firstColumn.toList ≤ lettersValue lastColumn.toList →
      (server.values s spreadsheetId
        (openRange worksheetName firstColumn lastColumn firstRow)).getD (.rows []) =
          .rows (((grid s spreadsheetId worksheetName).rowMajor (lettersValue firstColumn.toList)
            (lettersValue lastColumn.toList) firstRow).map .cells)
  holds : ∀ s spreadsheetId worksheetName updates,
    has spreadsheetId worksheetName → SingleCells updates → ∀ u ∈ updates,
      (jsonValue g.float u.value).Shows
        ((grid (server.write s spreadsheetId (updates.map (g.updateRange worksheetName)))
          spreadsheetId worksheetName).cell u.rowNumber (lettersValue u.column.toList))
  untouched : ∀ s spreadsheetId worksheetName updates,
    has spreadsheetId worksheetName → SingleCells updates → ∀ book sheet row column,
      (book = spreadsheetId → sheet = worksheetName → ∀ u ∈ updates, ¬ u.At row column) →
        (grid (server.write s spreadsheetId (updates.map (g.updateRange worksheetName)))
          book sheet).cell row column = (grid s book sheet).cell row column
  total : ∀ s spreadsheetId worksheetName updates,
    has spreadsheetId worksheetName → SingleCells updates →
      (server.totalUpdatedCells s spreadsheetId
        (updates.map (g.updateRange worksheetName))).getD updates.length = updates.length

/-! ## Cells that agree -/

/-- The two show the same: a number that was written is a `float` at Google and a `Decimal` in
the memory. -/
inductive SameCell (float : Decimal → String) (cell held : CellValue) : Prop
  | shows (h : cell.Shows held)
  | number (value : Decimal) (hcell : cell = .number (float value))
      (hheld : held = .number value.str)

section Cells

variable {float : Decimal → String} {cell held value : CellValue}

theorem SameCell.isBlank_eq (h : SameCell float cell held) : cell.isBlank = held.isBlank := by
  cases h with
  | shows h => exact h.isBlank_eq
  | number value hcell hheld =>
      rw [hcell, hheld]
      rfl

theorem CellValue.Shows.refl (cell : CellValue) : cell.Shows cell := by
  unfold CellValue.Shows
  split
  · assumption
  · rfl

theorem CellValue.Shows.symm (h : cell.Shows held) : held.Shows cell := by
  have hblank := h.isBlank_eq
  unfold CellValue.Shows at h ⊢
  cases hc : cell.isBlank with
  | true => exact hblank.symm.trans hc
  | false =>
      rw [← hblank, hc] at h
      exact h.symm

theorem CellValue.Shows.trans (h : value.Shows cell) (h' : cell.Shows held) :
    value.Shows held := by
  have hblank := h.isBlank_eq
  have hblank' := h'.isBlank_eq
  unfold CellValue.Shows at h h' ⊢
  cases hh : held.isBlank with
  | true => exact hblank.trans (hblank'.trans hh)
  | false =>
      rw [hblank', hh] at h
      rw [hh] at h'
      exact h.trans h'

/-- A value that was read for a cell agrees with what the cell agrees with. -/
theorem SameCell.of_shows (hvalue : value.Shows cell) (h : SameCell float cell held) :
    SameCell float value held := by
  cases h with
  | shows h => exact .shows (hvalue.trans h)
  | number number hcell hheld =>
      refine .number number ?_ hheld
      unfold CellValue.Shows at hvalue
      rw [hcell] at hvalue
      exact hvalue

/-- What was written agrees on both sides. -/
theorem sameCell_written {content : CellContent} (h : (jsonValue float content).Shows cell) :
    SameCell float cell content.cell := by
  cases content with
  | none => exact .shows h.symm
  | text text => exact .shows h.symm
  | decimal number => exact .of_shows h.symm (.number number rfl rfl)

end Cells

/-! ## Columns -/

theorem lettersValue_concat (cs : List Char) (c : Char) :
    lettersValue (cs ++ [c]) = lettersValue cs * 26 + (c.toNat - 64) := by
  induction cs with
  | nil => simp [lettersValue]
  | cons d cs ih =>
      rw [List.cons_append, lettersValue, ih, lettersValue, List.length_append,
        List.length_singleton]
      ring

/-- **The letters of the number of a column are its own.** -/
theorem columnLetters_lettersValue {cs : List Char} (h : ∀ c ∈ cs, c.isUpper)
    (result : List Char) : columnLetters (lettersValue cs) result = cs ++ result := by
  induction cs using List.reverseRecOn generalizing result with
  | nil =>
      rw [lettersValue, columnLetters, dif_pos rfl]
      rfl
  | append_singleton cs c ih =>
      obtain ⟨hlo, hhi⟩ := isUpper_iff.mp (h c (by simp))
      -- the last letter is what is left of the number modulo 26
      have hletter : Char.ofNat ('A'.toNat + (lettersValue cs * 26 + (c.toNat - 64) - 1) % 26) =
          c := by
        have hA : 'A'.toNat = 65 := rfl
        have hrest : 'A'.toNat + (lettersValue cs * 26 + (c.toNat - 64) - 1) % 26 = c.toNat := by
          omega
        rw [hrest, Char.ofNat_toNat]
      have hquotient : (lettersValue cs * 26 + (c.toNat - 64) - 1) / 26 = lettersValue cs := by
        omega
      rw [lettersValue_concat, columnLetters, dif_neg (by omega), hletter, hquotient,
        ih (fun d hd => h d (by simp [hd])), List.append_assoc]
      rfl

theorem lettersValue_inj {cs ds : List Char} (hcs : ∀ c ∈ cs, c.isUpper)
    (hds : ∀ c ∈ ds, c.isUpper) (h : lettersValue cs = lettersValue ds) : cs = ds := by
  have hletters := columnLetters_lettersValue hcs []
  rw [h, columnLetters_lettersValue hds, List.append_nil, List.append_nil] at hletters
  exact hletters.symm

/-! ## What a call does to the memory -/

/-- What an update of the memory writes into its cells. -/
def SheetCall.effect : SheetCall → Overwrite (String × String × ℕ × String) CellValue
  | .updateCells spreadsheetId worksheetName updates, (book, sheet, row, column) =>
      if book = spreadsheetId ∧ sheet = worksheetName then
        (written updates row column).getLast?.map CellContent.cell
      else none
  | .readRows _ _ _ _, _ => none

namespace MemoryGoogleSheetsGateway

/-- The memory after a call. -/
def did (m : MemoryGoogleSheetsGateway) : SheetCall → MemoryGoogleSheetsGateway
  | .updateCells spreadsheetId worksheetName updates =>
      m.updated spreadsheetId worksheetName updates
  | .readRows _ _ _ _ => m

/-- The memory after the calls of a list. -/
def didAll (m : MemoryGoogleSheetsGateway) (calls : List (ℕ × SheetCall)) :
    MemoryGoogleSheetsGateway := calls.foldl (fun m call => m.did call.2) m

variable {m : MemoryGoogleSheetsGateway}

/-- An update leaves the other sheets alone. -/
theorem get?_updated_other {spreadsheetId worksheetName book sheet column : String} {row : ℕ}
    {updates : List CellUpdate} (h : ¬ (book = spreadsheetId ∧ sheet = worksheetName)) :
    (m.updated spreadsheetId worksheetName updates).cells.get? (book, sheet, row, column) =
      m.cells.get? (book, sheet, row, column) := by
  unfold updated
  dsimp only
  generalize m.cells = cells
  induction updates generalizing cells with
  | nil => rfl
  | cons u updates ih =>
      rw [List.foldl_cons, ih, Dict.get?_set, if_neg]
      intro hkey
      simp only [Prod.mk.injEq] at hkey
      exact h ⟨hkey.1, hkey.2.1⟩

theorem get?_did (call : SheetCall) :
    (m.did call).cells.get? = call.effect.onTop m.cells.get? := by
  funext ⟨book, sheet, row, column⟩
  cases call with
  | readRows spreadsheetId worksheetName columns firstDataRow => rfl
  | updateCells spreadsheetId worksheetName updates =>
      unfold Overwrite.onTop SheetCall.effect
      dsimp only
      split
      · rename_i h
        obtain ⟨rfl, rfl⟩ := h
        exact get?_updated
      · rename_i h
        exact get?_updated_other h

/-- **The cells after calls** are what the calls wrote over the cells before them. -/
theorem get?_didAll (calls : List (ℕ × SheetCall)) :
    (m.didAll calls).cells.get? =
      Overwrite.all (fun call : ℕ × SheetCall => call.2.effect) calls m.cells.get? := by
  induction calls generalizing m with
  | nil => rfl
  | cons call calls ih =>
      rw [Overwrite.all_cons, ← get?_did]
      exact ih

theorem spreadsheets_didAll (calls : List (ℕ × SheetCall)) :
    (m.didAll calls).spreadsheets = m.spreadsheets := by
  induction calls generalizing m with
  | nil => rfl
  | cons call calls ih =>
      refine (ih (m := m.did call.2)).trans ?_
      cases call.2 <;> rfl

/-- **Each once is enough.** -/
theorem get?_didAll_dedup (calls : List (ℕ × SheetCall)) :
    (m.didAll calls.dedup).cells.get? = (m.didAll calls).cells.get? := by
  rw [get?_didAll, get?_didAll, Overwrite.all_dedup]

end MemoryGoogleSheetsGateway

/-! ## The memory as a mirror -/

/-- A call for a sheet that is there: single cells, or columns as they are stored. -/
def SheetCall.Sendable (has : String → String → Prop) : SheetCall → Prop
  | .updateCells spreadsheetId worksheetName updates =>
      has spreadsheetId worksheetName ∧ SingleCells updates
  | .readRows spreadsheetId worksheetName columns _ =>
      has spreadsheetId worksheetName ∧ columns ≠ [] ∧
        columns.mapM normalizeColumn = .ok columns

/-- What the memory holds in a cell. -/
abbrev MemoryGoogleSheetsGateway.held (m : MemoryGoogleSheetsGateway)
    (spreadsheetId worksheetName : String) (row : ℕ) (column : String) : CellValue :=
  (m.cells.get? (spreadsheetId, worksheetName, row, column)).getD .none

/-- **The memory has these sheets, and every cell agrees.** -/
structure Mirrors {σ : Type} (has : String → String → Prop)
    (grid : σ → String → String → SheetGrid) (float : Decimal → String) (s : σ)
    (m : MemoryGoogleSheetsGateway) : Prop where
  sheets : ∀ spreadsheetId worksheetName, has spreadsheetId worksheetName →
    m.requireWorksheet spreadsheetId worksheetName = .ok ()
  cells : ∀ spreadsheetId worksheetName row (column : String),
    has spreadsheetId worksheetName → (∀ c ∈ column.toList, c.isUpper) →
      SameCell float ((grid s spreadsheetId worksheetName).cell row (lettersValue column.toList))
        ((m.cells.get? (spreadsheetId, worksheetName, row, column)).getD .none)

section Mirrors

variable {σ : Type} {server : SheetsServer σ} {g : GoogleServiceAccountSheetsGateway}
  {has : String → String → Prop} {grid : σ → String → String → SheetGrid} {s : σ}
  {m m' : MemoryGoogleSheetsGateway}

/-- A mirror is its worksheets and its cells. -/
theorem Mirrors.congr {float : Decimal → String} (h : Mirrors has grid float s m)
    (hsheets : m'.spreadsheets = m.spreadsheets) (hcells : m'.cells.get? = m.cells.get?) :
    Mirrors has grid float s m' := by
  refine ⟨?_, ?_⟩
  · intro spreadsheetId worksheetName hhas
    have hsame : m'.requireWorksheet spreadsheetId worksheetName =
        m.requireWorksheet spreadsheetId worksheetName := by
      unfold MemoryGoogleSheetsGateway.requireWorksheet MemoryGoogleSheetsGateway.checkConnection
      rw [hsheets]
    exact hsame.trans (h.sheets spreadsheetId worksheetName hhas)
  · rw [hcells]
    exact h.cells

/-- Calls that came again show nothing new. -/
theorem Mirrors.dedup {float : Decimal → String} {calls : List (ℕ × SheetCall)}
    (h : Mirrors has grid float s (m.didAll calls)) :
    Mirrors has grid float s (m.didAll calls.dedup) := by
  apply h.congr
  · rw [MemoryGoogleSheetsGateway.spreadsheets_didAll,
      MemoryGoogleSheetsGateway.spreadsheets_didAll]
  · exact MemoryGoogleSheetsGateway.get?_didAll_dedup calls

/-- What the memory wrote last into a cell is an update of the cell. -/
theorem mem_of_getLast?_written {updates : List CellUpdate} {row : ℕ} {column : String}
    {content : CellContent} (h : (written updates row column).getLast? = some content) :
    ∃ u ∈ updates, u.rowNumber = row ∧ u.column = column ∧ u.value = content := by
  obtain ⟨u, hu, rfl⟩ := List.mem_map.mp (List.mem_of_getLast? h)
  obtain ⟨hmem, hmeets⟩ := List.mem_filter.mp hu
  obtain ⟨hrow, hcolumn⟩ := of_decide_eq_true hmeets
  exact ⟨u, hmem, hrow, hcolumn, rfl⟩

/-- **A cell after a batch**: both sides hold what an update wrote there, or what they held. -/
theorem SheetsServer.Keeps.cell_written (h : server.Keeps g has grid)
    {spreadsheetId worksheetName : String} {updates : List CellUpdate}
    (hhas : has spreadsheetId worksheetName) (hcells : SingleCells updates) (book sheet : String)
    (row : ℕ) {column : String} (hcolumn : ∀ c ∈ column.toList, c.isUpper) :
    (∃ u ∈ updates, book = spreadsheetId ∧ sheet = worksheetName ∧ u.column = column ∧
      (jsonValue g.float u.value).Shows
        ((grid (server.write s spreadsheetId (updates.map (g.updateRange worksheetName))) book
          sheet).cell row (lettersValue column.toList)) ∧
      (m.updated spreadsheetId worksheetName updates).held book sheet row column = u.value.cell) ∨
    ((grid (server.write s spreadsheetId (updates.map (g.updateRange worksheetName))) book
        sheet).cell row (lettersValue column.toList) =
          (grid s book sheet).cell row (lettersValue column.toList) ∧
      (m.updated spreadsheetId worksheetName updates).held book sheet row column =
        m.held book sheet row column) := by
  have heffect := congrFun (m.get?_did (.updateCells spreadsheetId worksheetName updates))
    (book, sheet, row, column)
  rw [MemoryGoogleSheetsGateway.did, Overwrite.onTop, SheetCall.effect] at heffect
  unfold MemoryGoogleSheetsGateway.held
  rw [heffect]
  by_cases hsame : book = spreadsheetId ∧ sheet = worksheetName
  · obtain ⟨rfl, rfl⟩ := hsame
    rw [if_pos ⟨rfl, rfl⟩]
    cases hwritten : (written updates row column).getLast? with
    | some content =>
        obtain ⟨u, hu, rfl, rfl, rfl⟩ := mem_of_getLast?_written hwritten
        exact Or.inl ⟨u, hu, rfl, rfl, rfl, h.holds s book sheet updates hhas hcells u hu, rfl⟩
    | none =>
        refine Or.inr ⟨h.untouched s book sheet updates hhas hcells _ _ _ _ ?_, rfl⟩
        rintro - - u hu ⟨rfl, hletters⟩
        -- an update of the cell is written under its name
        have hname : u.column = column := String.toList_inj.mp
          (lettersValue_inj (hcells.addressed u hu).capitals hcolumn hletters)
        have hmem : u.value ∈ written updates u.rowNumber column :=
          List.mem_map.mpr ⟨u, List.mem_filter.mpr ⟨hu, decide_eq_true ⟨rfl, hname⟩⟩, rfl⟩
        rw [List.getLast?_eq_none_iff.mp hwritten] at hmem
        cases hmem
  · rw [if_neg hsame]
    refine Or.inr ⟨h.untouched s spreadsheetId worksheetName updates hhas hcells _ _ _ _ ?_, rfl⟩
    intro hbook hworksheet
    exact absurd ⟨hbook, hworksheet⟩ hsame

/-- **A batch that comes to Google** does to the sheets what it does to the memory. -/
theorem SheetsServer.Keeps.mirrors (h : server.Keeps g has grid)
    (hm : Mirrors has grid g.float s m) {spreadsheetId worksheetName : String}
    {updates : List CellUpdate} (hhas : has spreadsheetId worksheetName)
    (hcells : SingleCells updates) :
    Mirrors has grid g.float
      (server.write s spreadsheetId (updates.map (g.updateRange worksheetName)))
      (m.updated spreadsheetId worksheetName updates) := by
  refine ⟨hm.sheets, ?_⟩
  intro book sheet row column hsheet hcolumn
  show SameCell g.float _ ((m.updated spreadsheetId worksheetName updates).held book sheet row
    column)
  rcases h.cell_written (s := s) (m := m) hhas hcells book sheet row hcolumn with
    ⟨u, -, -, -, -, hshows, hheld⟩ | ⟨hcell, hheld⟩
  · rw [hheld]
    exact sameCell_written hshows
  · rw [hcell, hheld]
    exact hm.cells book sheet row column hsheet hcolumn

/-- The request of a read. -/
theorem requestOf_readRows {spreadsheetId worksheetName : String} {columns : List String}
    {firstDataRow : ℕ} {request : GoogleRequest}
    (h : g.requestOf (.readRows spreadsheetId worksheetName columns firstDataRow) =
      some request) : server.after s request = s := by
  obtain ⟨r, hr, rfl⟩ := Option.map_eq_some_iff.mp h
  cases hrows : rowsRequest spreadsheetId worksheetName columns firstDataRow with
  | error e =>
      rw [hrows] at hr
      cases hr
  | ok rows =>
      rw [hrows] at hr
      obtain rfl := Option.some.inj hr
      obtain ⟨normalized, -, hrows⟩ := Py.bind_eq_ok.mp hrows
      obtain ⟨first, -, hrows⟩ := Py.bind_eq_ok.mp hrows
      obtain ⟨last, -, hrows⟩ := Py.bind_eq_ok.mp hrows
      obtain ⟨firstColumn, -, hrows⟩ := Py.bind_eq_ok.mp hrows
      obtain ⟨lastColumn, -, hrows⟩ := Py.bind_eq_ok.mp hrows
      obtain rfl := Except.ok.inj hrows
      rfl

/-- **A request that comes to Google** does to the sheets what its call does to the memory. -/
theorem SheetsServer.Keeps.received (h : server.Keeps g has grid)
    (hm : Mirrors has grid g.float s m) {call : SheetCall} {request : GoogleRequest}
    (hrequest : g.requestOf call = some request) (hcall : call.Sendable has) :
    Mirrors has grid g.float (server.after s request) (m.did call) := by
  cases call with
  | readRows spreadsheetId worksheetName columns firstDataRow =>
      rw [requestOf_readRows hrequest]
      exact hm
  | updateCells spreadsheetId worksheetName updates =>
      unfold GoogleServiceAccountSheetsGateway.requestOf at hrequest
      dsimp only at hrequest
      split at hrequest
      · cases hrequest
      · obtain rfl := Option.some.inj hrequest
        exact h.mirrors hm hcall.1 hcall.2

end Mirrors

/-! ## Runs -/

section Runs

variable {σ : Type}

/-- The call an event begins. -/
def begun : TrafficEvent → Option SheetCall
  | .call call => some call
  | .attempt _ _ | .arrive _ => none

/-- The calls whose requests came to Google, with their numbers, in the order they came. -/
def arrivals (hist : List (Entry (SheetTraffic σ) TrafficEvent (Option CallEnd))) :
    List (ℕ × SheetCall) :=
  hist.filterMap fun x => (x.before.arrival x.event).map fun p => (p.id, p.call)

theorem arrivals_snoc (hist : List (Entry (SheetTraffic σ) TrafficEvent (Option CallEnd)))
    (x : Entry (SheetTraffic σ) TrafficEvent (Option CallEnd)) :
    arrivals (hist ++ [x]) =
      arrivals hist ++ ((x.before.arrival x.event).map fun p => (p.id, p.call)).toList := by
  unfold arrivals
  rw [List.filterMap_append, List.filterMap_eq_flatMap_toList (l := [x]), List.flatMap_singleton]

variable {server : SheetsServer σ} {g : GoogleServiceAccountSheetsGateway}
  {has : String → String → Prop} {grid : σ → String → String → SheetGrid} {s : σ}
  {m : MemoryGoogleSheetsGateway}

theorem SheetTraffic.next_calls (t : SheetTraffic σ) (e : TrafficEvent) :
    ((trafficMachine g server).next t e).calls = t.calls ++ (begun e).toList := by
  show (SheetTraffic.step g server t e).1.calls = _
  cases e with
  | call call =>
      unfold SheetTraffic.step
      dsimp only
      cases g.requestOf call with
      | none => rfl
      | some request => exact SheetTraffic.settle_calls _ _
  | attempt id delivery =>
      unfold SheetTraffic.step
      dsimp only
      cases t.pending id with
      | none => exact (List.append_nil _).symm
      | some p =>
          dsimp only
          rw [SheetTraffic.settle_calls, SheetTraffic.delivered_calls]
          exact (List.append_nil _).symm
  | arrive index =>
      unfold SheetTraffic.step
      dsimp only
      cases t.onTheWay[index]? with
      | none => exact (List.append_nil _).symm
      | some p => exact (List.append_nil _).symm

/-- The calls there were are those that began. -/
theorem run_calls (t : SheetTraffic σ) (es : List TrafficEvent) :
    ((trafficMachine g server).run t es).calls = t.calls ++ es.filterMap begun := by
  induction es generalizing t with
  | nil => exact (List.append_nil _).symm
  | cons e es ih =>
      rw [Machine.run_cons, ih, SheetTraffic.next_calls, List.append_assoc,
        List.filterMap_cons]
      cases begun e <;> rfl

/-- The call was confirmed rightly: an update that returned came to Google, if it had anything
to write, and returned the number of its cells. -/
def Confirmed (arrived : List (ℕ × SheetCall)) (ended : CallEnd) : Prop :=
  ∀ n, ended.answer = .updatedCells (.ok n) → ∃ spreadsheetId worksheetName updates,
    ended.call = .updateCells spreadsheetId worksheetName updates ∧ n = updates.length ∧
      (updates ≠ [] → (ended.id, ended.call) ∈ arrived)

/-- **A run so far**: the mirror of the sheets, the calls whose requests arrived, and the calls
that were confirmed. -/
structure Delivered (g : GoogleServiceAccountSheetsGateway) (has : String → String → Prop)
    (grid : σ → String → String → SheetGrid) (m : MemoryGoogleSheetsGateway) (t : SheetTraffic σ)
    (hist : List (Entry (SheetTraffic σ) TrafficEvent (Option CallEnd))) : Prop where
  sound : t.Sound g
  sendable : ∀ call ∈ t.calls, call.Sendable has
  mirrors : Mirrors has grid g.float t.sheets (m.didAll (arrivals hist))
  made : ∀ call ∈ arrivals hist, t.calls[call.1]? = some call.2
  confirmed : ∀ x ∈ hist, ∀ ended ∈ x.response, Confirmed (arrivals hist) ended

/-- **An update that returned** was confirmed rightly. -/
theorem confirmed_step (hkeeps : server.Keeps g has grid) {t : SheetTraffic σ}
    (ht : t.Sound g) {e : TrafficEvent} {ended : CallEnd}
    (h : (SheetTraffic.step g server t e).2 = some ended) (hcall : ended.call.Sendable has) :
    Confirmed ((t.arrival e).map fun p => (p.id, p.call)).toList ended := by
  intro n hanswer
  obtain ⟨attempts, hattempts⟩ := ht.ends_answer h
  rw [hattempts] at hanswer
  cases hended : ended.call with
  | readRows spreadsheetId worksheetName columns firstDataRow =>
      rw [hended] at hanswer
      cases hanswer
  | updateCells spreadsheetId worksheetName updates =>
      refine ⟨spreadsheetId, worksheetName, updates, rfl, ?_⟩
      rw [hended] at hcall
      by_cases hne : updates = []
      · subst hne
        rw [hended] at hanswer
        exact ⟨(Except.ok.inj (SheetAnswer.updatedCells.inj hanswer)).symm, fun h => absurd rfl h⟩
      · have hrequest : g.requestOf ended.call = some (.batchUpdate spreadsheetId
            (updates.map (g.updateRange worksheetName))) := by
          rw [hended]
          exact if_neg hne
        obtain ⟨attempts', hattempts', hends⟩ := ht.ends_answered h hrequest
        rw [← hattempts, hattempts', hended] at hanswer
        obtain ⟨answer, hrequested, hn⟩ :=
          (updateCells_eq_ok hne).mp (SheetAnswer.updatedCells.inj hanswer)
        rcases hends with ⟨-, error, herror⟩ | ⟨-, hreply, p, harrival, hid, hp⟩
        · cases herror.symm.trans hrequested
        · obtain rfl := Except.ok.inj (hreply.symm.trans hrequested)
          rw [harrival, ← hid, ← hended, ← hp]
          exact ⟨hn.symm.trans (hkeeps.total _ _ _ _ hcall.1 hcall.2), fun _ => by simp⟩

/-- **One event.** -/
theorem Delivered.next (hkeeps : server.Keeps g has grid) {t : SheetTraffic σ}
    {hist : List (Entry (SheetTraffic σ) TrafficEvent (Option CallEnd))}
    (h : Delivered g has grid m t hist) {e : TrafficEvent}
    (he : ∀ call ∈ begun e, call.Sendable has) :
    Delivered g has grid m ((trafficMachine g server).next t e)
      (hist ++ [(trafficMachine g server).entry t e]) := by
  have hcalls : ((trafficMachine g server).next t e).calls = _ := SheetTraffic.next_calls t e
  have harrived : arrivals (hist ++ [(trafficMachine g server).entry t e]) =
      arrivals hist ++ ((t.arrival e).map fun p => (p.id, p.call)).toList := arrivals_snoc _ _
  have hsheets : ((trafficMachine g server).next t e).sheets = _ := SheetTraffic.next_sheets t e
  refine ⟨SheetTraffic.sound_next t e h.sound, ?_, ?_, ?_, ?_⟩
  · intro call hcall
    rw [hcalls] at hcall
    rcases List.mem_append.mp hcall with hcall | hcall
    · exact h.sendable call hcall
    · exact he call (Option.mem_toList.mp hcall)
  · rw [harrived, hsheets]
    cases harrival : t.arrival e with
    | none =>
        rw [Option.map_none, Option.toList_none, List.append_nil]
        exact h.mirrors
    | some p =>
        have hgenuine := h.sound.arrival harrival
        have hsendable := h.sendable p.call (List.mem_of_getElem? hgenuine.issued)
        have hdid := hkeeps.received h.mirrors hgenuine.request hsendable
        rw [MemoryGoogleSheetsGateway.didAll, Option.map_some, Option.toList_some,
          List.foldl_append]
        exact hdid
  · intro call hcall
    rw [harrived] at hcall
    rw [hcalls]
    have hmade : t.calls[call.1]? = some call.2 := by
      rcases List.mem_append.mp hcall with hcall | hcall
      · exact h.made call hcall
      · obtain ⟨p, hp, rfl⟩ := Option.map_eq_some_iff.mp (Option.mem_toList.mp hcall)
        exact (h.sound.arrival hp).issued
    rw [List.getElem?_append_left (List.getElem?_eq_some_iff.mp hmade).1]
    exact hmade
  · intro x hx ended hended n hanswer
    rw [harrived]
    rcases List.mem_append.mp hx with hx | hx
    · obtain ⟨spreadsheetId, worksheetName, updates, hcall, hn, hmem⟩ :=
        h.confirmed x hx ended hended n hanswer
      exact ⟨spreadsheetId, worksheetName, updates, hcall, hn, fun hne =>
        List.mem_append_left _ (hmem hne)⟩
    · obtain rfl := List.mem_singleton.mp hx
      have hsendable : ended.call.Sendable has := by
        rcases h.sound.ends_mem hended with hmem | rfl
        · exact h.sendable _ hmem
        · exact he _ rfl
      obtain ⟨spreadsheetId, worksheetName, updates, hcall, hn, hmem⟩ :=
        confirmed_step hkeeps h.sound hended hsendable n hanswer
      exact ⟨spreadsheetId, worksheetName, updates, hcall, hn, fun hne =>
        List.mem_append_right _ (hmem hne)⟩

/-- **Every run has delivered what it shows.** -/
theorem delivered_run (hkeeps : server.Keeps g has grid) (hm : Mirrors has grid g.float s m)
    {es : List TrafficEvent} (hes : ∀ call ∈ es.filterMap begun, call.Sendable has) :
    Delivered g has grid m ((trafficMachine g server).run (.quiet s) es)
      ((trafficMachine g server).history (.quiet s) es) := by
  induction es using List.reverseRecOn with
  | nil =>
      refine ⟨⟨fun _ _ h => (nomatch h), fun _ h => (nomatch h)⟩, fun _ h => (nomatch h), hm,
        fun _ h => (nomatch h), fun _ h => (nomatch h)⟩
  | append_singleton es e ih =>
      rw [Machine.run_append, Machine.history_append]
      rw [List.filterMap_append] at hes
      have hpast := ih fun call hcall => hes call (List.mem_append_left _ hcall)
      apply hpast.next hkeeps
      intro call hcall
      exact hes call (List.mem_append_right _ (by
        rw [List.filterMap_eq_flatMap_toList, List.flatMap_singleton]
        exact Option.mem_toList.mpr hcall))

end Runs

end BondTrading
