/-
# BondTrading.Sheets.Production -- a run over Google is a run over the memory

`MemoryGoogleSheetsGateway` stands in for Google wherever a synchronization is tried out.  Over a
sheet that the memory mirrors, a run through the production gateway is the run over the memory,
and leaves the sheet mirrored; so whole histories of runs, entries of customers and changes of
the database agree.  Runs that write what is no JSON are left out: httpx raises for a NaN, and
the memory takes it.
-/
import BondTrading.Sheets.Mirrored

namespace BondTrading

open Py (Decimal Dict Instant)
open Sql (World)
open Machines (Machine)

/-! ## One run -/

/-- The call of the gateway, if that is one that asks or changes cells. -/
def ExternalCall.sheetCall : ExternalCall → Option SheetCall
  | .updateCells spreadsheetId worksheetName updates =>
      some (.updateCells spreadsheetId worksheetName updates)
  | .readRows spreadsheetId worksheetName columns firstDataRow =>
      some (.readRows spreadsheetId worksheetName columns firstDataRow)
  | _ => none

/-- httpx sends what the call writes. -/
def SheetCall.IsJson : SheetCall → Prop
  | .updateCells _ _ updates => ∀ u ∈ updates, u.value.isJson = true
  | .readRows .. => True

/-- The sheets after a call whose request was answered. -/
def SheetsServer.served {σ : Type} (server : SheetsServer σ)
    (g : GoogleServiceAccountSheetsGateway) (s : σ) (call : ExternalCall) : σ :=
  match call.sheetCall.bind g.requestOf with
  | some request => server.after s request
  | none => s

/-- The memory after a call. -/
def MemoryGoogleSheetsGateway.served (m : MemoryGoogleSheetsGateway) :
    ExternalCall → MemoryGoogleSheetsGateway
  | .updateCells spreadsheetId worksheetName updates =>
      (m.updateCells spreadsheetId worksheetName updates).toOption.getD m
  | _ => m

/-- **A gateway to the sheets**: requests that httpx sends are answered, if need be by a later
attempt, Google keeps what is written, and amounts come back from it. -/
structure Production {σ : Type} (server : SheetsServer σ)
    (gateway : σ → GoogleServiceAccountSheetsGateway) (has : String → String → Prop)
    (grid : σ → String → String → SheetGrid) (float : Decimal → String) : Prop where
  floats : ∀ s, (gateway s).float = float
  amounts : CarriesAmounts float
  answered : ∀ s call request, (gateway s).requestOf call = some request → call.IsJson →
    (gateway s).request request = .ok (server.reply s request)
  keeps : ∀ s, server.Keeps (gateway s) has grid

section OneRun

variable {σ : Type} {server : SheetsServer σ} {gateway : σ → GoogleServiceAccountSheetsGateway}
  {has : String → String → Prop} {customers : String → String → String → Prop}
  {grid : σ → String → String → SheetGrid} {float : Decimal → String} {s t : σ}
  {m : MemoryGoogleSheetsGateway} {env : SyncEnvironment} {job : SheetSyncJobModel}

/-- A run for a connection that fits, if the database has it. -/
structure SyncEnvironment.Fits (env : SyncEnvironment) (job : SheetSyncJobModel) (db : Database)
    (has : String → String → Prop) (customers : String → String → String → Prop) : Prop where
  accrues : env.moex.AccruesAmounts
  connection : ∀ connection, db.val.sheets.connection? job.connectionId = some connection →
    connection.Fits has customers
  lists : ∀ connection, db.val.sheets.connection? job.connectionId = some connection →
    ∃ names, env.checkConnection connection.spreadsheetId = .ok names ∧
      connection.worksheetName ∈ names

/-- httpx sends what the run writes. -/
def SyncEnvironment.WritesJson [Py.Context] (env : SyncEnvironment) (job : SheetSyncJobModel)
    (db : Database) : Prop :=
  ∀ spreadsheetId worksheetName batch,
    .updateCells spreadsheetId worksheetName batch ∈ (execute env job (World.opened db)).2.calls →
      ∀ u ∈ batch, u.value.isJson = true

theorem SyncEnvironment.through_eq_facing (env : SyncEnvironment)
    (g : GoogleServiceAccountSheetsGateway) :
    env.through g = env.facing env.checkConnection g.readRows
      fun spreadsheetId worksheetName updates =>
        (g.updateCells spreadsheetId worksheetName updates).map fun _ => () := rfl

theorem SyncEnvironment.over_eq_facing (env : SyncEnvironment) (m : MemoryGoogleSheetsGateway) :
    env.over m = env.facing m.checkConnection m.readRows fun spreadsheetId worksheetName updates =>
      (m.updateCells spreadsheetId worksheetName updates).map fun _ => () := rfl

theorem updateCells_answered (h : Production server gateway has grid float)
    (spreadsheetId worksheetName : String) {batch : List CellUpdate}
    (hbatch : ∀ u ∈ batch, u.value.isJson = true) :
    ((gateway s).updateCells spreadsheetId worksheetName batch).map (fun _ => ()) = .ok () := by
  unfold GoogleServiceAccountSheetsGateway.updateCells
  dsimp only
  split
  · rfl
  · rename_i hdata
    have hrequest : (gateway s).requestOf (.updateCells spreadsheetId worksheetName batch) =
        some (.batchUpdate spreadsheetId (batch.map ((gateway s).updateRange worksheetName))) := by
      unfold GoogleServiceAccountSheetsGateway.requestOf
      exact if_neg fun hempty => hdata (List.map_eq_nil_iff.mpr hempty)
    rw [h.answered s _ _ hrequest hbatch]
    rfl

/-- A run writes to a sheet that is there. -/
theorem SyncEnvironment.Fits.there [Py.Context] {db : Database}
    (hfits : env.Fits job db has customers)
    {env' : SyncEnvironment} {spreadsheetId worksheetName : String} {batch : List CellUpdate}
    (hcall : .updateCells spreadsheetId worksheetName batch ∈
      (execute env' job (World.opened db)).2.calls) : has spreadsheetId worksheetName := by
  obtain ⟨connection, _, _, _, hfound, -, -, -, hbatch⟩ :=
    execute_call ⟨_, _, _, rfl⟩ List.not_mem_nil hcall
  obtain ⟨rfl, rfl, -⟩ := ExternalCall.updateCells.inj hbatch
  exact (hfits.connection connection hfound).there

/-- **One run**: over Google what it is over the memory. -/
theorem Mirrored.execute_eq [Py.Context] (hm : Mirrored has customers grid float s m)
    (h : Production server gateway has grid float) {db : Database}
    (hfits : env.Fits job db has customers) (hjson : (env.through (gateway s)).WritesJson job db) :
    execute (env.through (gateway s)) job (World.opened db) =
      execute (env.over m) job (World.opened db) := by
  rw [env.through_eq_facing, env.over_eq_facing]
  refine execute_facing (fun connection hfound => ?_) fun book sheet batch hcall => ?_
  · have hconnection := hfits.connection connection hfound
    obtain ⟨request, hrequest, hdecodes⟩ := (h.keeps s).decodes s (connection.headerRow + 1)
      hconnection.there (List.ne_nil_of_mem (Py.mem_distinct.mpr List.mem_cons_self))
      hconnection.mapM_read
    obtain ⟨rows, hread, hrows⟩ := hdecodes (gateway s) (h.answered s _ request hrequest trivial)
    obtain ⟨held, hheld, halike⟩ := hm.rows_alike hconnection hrows
    refine ⟨hfits.lists connection hfound, ?_, rows, held, hread, hheld, halike⟩
    obtain ⟨names, hnames, hname⟩ := Py.bind_eq_ok.mp (hm.mirrors.sheets _ _ hconnection.there)
    exact ⟨names, hnames, not_not.mp (Py.raiseIf_eq_ok.mp hname)⟩
  · have htaken : (m.updateCells book sheet batch).map (fun _ => ()) = .ok () := by
      unfold MemoryGoogleSheetsGateway.updateCells
      rw [hm.mirrors.sheets _ _ (hfits.there hcall)]
      rfl
    exact (updateCells_answered h _ _ (hjson _ _ _ hcall)).trans htaken.symm

/-- What a run writes. -/
theorem execute_writable [Py.Context] {db : Database} (hfits : env.Fits job db has customers)
    {spreadsheetId worksheetName : String} {batch : List CellUpdate}
    (hcall : .updateCells spreadsheetId worksheetName batch ∈
      (execute (env.over m) job (World.opened db)).2.calls) :
    has spreadsheetId worksheetName ∧ RunBatch (customers spreadsheetId worksheetName) batch := by
  obtain ⟨connection, sheetRows, refreshes, loop, hfound, hread, herrors, hloop, hbatch⟩ :=
    execute_call ⟨_, _, _, rfl⟩ List.not_mem_nil hcall
  obtain ⟨rfl, rfl, rfl⟩ := ExternalCall.updateCells.inj hbatch
  have hconnection := hfits.connection connection hfound
  obtain ⟨hdistinct, hbelow⟩ := MemoryGoogleSheetsGateway.over_readsDataRows env m _ _ _ _ _ hread
  obtain ⟨hnodup, hframe⟩ := batchOf_inFrame hconnection.placed hdistinct hbelow herrors hloop
  have houtput : ∀ u ∈ batchOf connection (normalizedRows connection
      (dataRows connection sheetRows)) loop, u.column ∈ connection.outputColumns ∧
        1 ≤ u.rowNumber := by
    intro u hu
    cases hframe u hu with
    | header row column =>
        refine ⟨?_, row ▸ hconnection.header⟩
        unfold SheetConnectionModel.outputColumns
        simp [column]
    | data row read number isin column customer accrued commission =>
        have hfirst := hbelow row read
        exact ⟨column, by omega⟩
  have hcomputed := rowLoop_batch (env.over m) connection refreshes.value
    (dataRows connection sheetRows) herrors
  rw [hloop] at hcomputed
  obtain ⟨batch, hsheetBatch, rfl⟩ := hcomputed.of_ok
  refine ⟨hconnection.there, ⟨?_, hnodup⟩, ?_, ?_⟩
  · intro u hu
    obtain ⟨hcolumn, hrow⟩ := houtput u hu
    have hnormal := hconnection.normalize_output u.column hcolumn
    exact ⟨by rw [hnormal]; rfl, (normalizeColumn_spec hnormal).1, hrow⟩
  · intro u hu
    exact hconnection.outputs u.column (houtput u hu).1
  · have hmoex : (env.over m).moex.AccruesAmounts := hfits.accrues
    exact sheetBatch_fills hconnection.placed hmoex hsheetBatch

theorem served_updateCells {g : GoogleServiceAccountSheetsGateway}
    {spreadsheetId worksheetName : String} {updates : List CellUpdate} (hnonempty : updates ≠ []) :
    server.served g t (.updateCells spreadsheetId worksheetName updates) =
      server.write t spreadsheetId (updates.map (g.updateRange worksheetName)) := by
  have hrequest : g.requestOf (.updateCells spreadsheetId worksheetName updates) =
      some (.batchUpdate spreadsheetId (updates.map (g.updateRange worksheetName))) := by
    unfold GoogleServiceAccountSheetsGateway.requestOf
    exact if_neg hnonempty
  unfold SheetsServer.served ExternalCall.sheetCall
  dsimp only
  rw [Option.bind_some, hrequest]
  rfl

theorem served_readRows {g : GoogleServiceAccountSheetsGateway}
    (spreadsheetId worksheetName : String) (columns : List String) (firstDataRow : ℕ) :
    server.served g t (.readRows spreadsheetId worksheetName columns firstDataRow) = t := by
  unfold SheetsServer.served ExternalCall.sheetCall
  dsimp only
  rw [Option.bind_some]
  split
  · rename_i request hrequest
    exact requestOf_readRows hrequest
  · rfl

/-- A call of a run keeps the mirror. -/
theorem Mirrored.served (hm : Mirrored has customers grid float t m)
    (h : Production server gateway has grid float) (s : σ) {call : ExternalCall}
    (hcall : ∀ spreadsheetId worksheetName batch,
      call = .updateCells spreadsheetId worksheetName batch →
        has spreadsheetId worksheetName ∧
          RunBatch (customers spreadsheetId worksheetName) batch) :
    Mirrored has customers grid float (server.served (gateway s) t call) (m.served call) := by
  cases call with
  | updateCells spreadsheetId worksheetName updates =>
      obtain ⟨hhas, hwritable⟩ := hcall _ _ _ rfl
      have hwrites : m.served (.updateCells spreadsheetId worksheetName updates) =
          m.updated spreadsheetId worksheetName updates := by
        unfold MemoryGoogleSheetsGateway.served MemoryGoogleSheetsGateway.updateCells
        dsimp only
        rw [hm.mirrors.sheets _ _ hhas]
        rfl
      rw [hwrites]
      rw [← h.floats s] at hm ⊢
      by_cases hempty : updates = []
      · subst hempty
        exact ⟨hm.mirrors.congr rfl rfl, hm.texts, hm.amounts⟩
      · rw [served_updateCells hempty]
        exact hm.updated (h.keeps s) (h.floats s ▸ h.amounts) hhas hwritable
  | readRows spreadsheetId worksheetName columns firstDataRow =>
      rw [served_readRows]
      exact hm
  | _ => exact hm

theorem Mirrored.servedAll (hm : Mirrored has customers grid float t m)
    (h : Production server gateway has grid float) (s : σ) {calls : List ExternalCall}
    (hcalls : ∀ spreadsheetId worksheetName batch,
      .updateCells spreadsheetId worksheetName batch ∈ calls →
        has spreadsheetId worksheetName ∧
          RunBatch (customers spreadsheetId worksheetName) batch) :
    Mirrored has customers grid float (calls.foldl (server.served (gateway s)) t)
      (calls.foldl MemoryGoogleSheetsGateway.served m) := by
  induction calls generalizing t m with
  | nil => exact hm
  | cons call calls ih =>
      refine ih (hm.served h s fun _ _ _ hsame => hcalls _ _ _ (hsame ▸ List.mem_cons_self)) ?_
      intro spreadsheetId worksheetName batch hmem
      exact hcalls _ _ _ (List.mem_cons_of_mem _ hmem)

end OneRun

/-! ## Every run -/

/-- A run for a job, an entry of a customer, or a change of the database by something else. -/
inductive SheetEvent
  | syncs (env : SyncEnvironment) (job : SheetSyncJobModel)
  | enters (spreadsheetId worksheetName : String) (row : ℕ) (column : String) (value : CellValue)
  | stores (db : Database)

/-- What a run returned or raised, and the calls it made. -/
abbrev RunAnswer := Except PyError Unit × List ExternalCall

/-- The sheets and the database after a run. -/
def afterRun {σ : Type} (served : σ → ExternalCall → σ) (s : σ)
    (out : Except PyError Unit × ServiceWorld) : (σ × Database) × Option RunAnswer :=
  ((out.2.calls.foldl served s, out.2.committed), some (out.1, out.2.calls))

/-- Runs over Google.  A run reads once, and then writes at most once. -/
def productionMachine [Py.Context] {σ : Type} (server : SheetsServer σ)
    (gateway : σ → GoogleServiceAccountSheetsGateway)
    (enter : σ → String → String → ℕ → String → CellValue → σ) :
    Machine (σ × Database) SheetEvent (Option RunAnswer) where
  step x
    | .syncs env job =>
        afterRun (server.served (gateway x.1)) x.1
          (execute (env.through (gateway x.1)) job (World.opened x.2))
    | .enters spreadsheetId worksheetName row column value =>
        ((enter x.1 spreadsheetId worksheetName row column value, x.2), none)
    | .stores db => ((x.1, db), none)

/-- Runs over the memory. -/
def memoryMachine [Py.Context] :
    Machine (MemoryGoogleSheetsGateway × Database) SheetEvent (Option RunAnswer) where
  step x
    | .syncs env job =>
        afterRun MemoryGoogleSheetsGateway.served x.1
          (execute (env.over x.1) job (World.opened x.2))
    | .enters spreadsheetId worksheetName row column value =>
        ((x.1.setCell spreadsheetId worksheetName row column value, x.2), none)
    | .stores db => ((x.1, db), none)

/-- A run fits and writes JSON, and an entry goes to a column that has a name. -/
def SheetEvent.Fits [Py.Context] {σ : Type} (gateway : σ → GoogleServiceAccountSheetsGateway)
    (has : String → String → Prop) (customers : String → String → String → Prop)
    (x : σ × Database) : SheetEvent → Prop
  | .syncs env job =>
      env.Fits job x.2 has customers ∧ (env.through (gateway x.1)).WritesJson job x.2
  | .enters _ _ _ column _ => ∀ c ∈ column.toList, c.isUpper
  | .stores _ => True

/-- Both machines are in the same database, and the memory mirrors the sheets. -/
structure SameSheets {σ : Type} (has : String → String → Prop)
    (customers : String → String → String → Prop) (grid : σ → String → String → SheetGrid)
    (float : Decimal → String) (x : σ × Database) (y : MemoryGoogleSheetsGateway × Database) :
    Prop where
  mirrored : Mirrored has customers grid float x.1 y.1
  database : x.2 = y.2

section Runs

variable {σ : Type} {server : SheetsServer σ} {gateway : σ → GoogleServiceAccountSheetsGateway}
  {enter : σ → String → String → ℕ → String → CellValue → σ} {has : String → String → Prop}
  {customers : String → String → String → Prop} {grid : σ → String → String → SheetGrid}
  {float : Decimal → String}

/-- One event keeps the two alike. -/
theorem SameSheets.step [Py.Context] (h : Production server gateway has grid float)
    (henter : KeepsEntries grid enter) {x : σ × Database}
    {y : MemoryGoogleSheetsGateway × Database} (hx : SameSheets has customers grid float x y)
    {e : SheetEvent} (he : e.Fits gateway has customers x) :
    SameSheets has customers grid float ((productionMachine server gateway enter).next x e)
        (memoryMachine.next y e) ∧
      ((productionMachine server gateway enter).entry x e).response =
        (memoryMachine.entry y e).response := by
  obtain ⟨s, db⟩ := x
  obtain ⟨m, db'⟩ := y
  obtain ⟨hm, rfl⟩ := hx
  cases e with
  | syncs env job =>
      have hsame := hm.execute_eq h he.1 he.2
      have hall := hm.servedAll h s fun _ _ _ hcall => execute_writable (m := m) he.1 hcall
      unfold Machine.next Machine.entry productionMachine memoryMachine afterRun
      dsimp only
      rw [hsame]
      exact ⟨⟨hall, rfl⟩, rfl⟩
  | enters spreadsheetId worksheetName row column value =>
      exact ⟨⟨hm.entered henter he, rfl⟩, rfl⟩
  | stores db => exact ⟨⟨hm, rfl⟩, rfl⟩

/-- **A history over Google is the history over the memory.**  Runs that write JSON, entries of
customers and changes of the database in any order: every run returns or raises the same and makes the same
calls, the database is the same, and the memory still mirrors the sheets. -/
theorem production_as_memory [Py.Context] (h : Production server gateway has grid float)
    (henter : KeepsEntries grid enter) {s : σ} {m : MemoryGoogleSheetsGateway}
    (hm : Mirrored has customers grid float s m) {db : Database} {es : List SheetEvent}
    (hes : (productionMachine server gateway enter).Along
      (fun x e => e.Fits gateway has customers x) (s, db) es) :
    let google := productionMachine server gateway enter
    google.responses (s, db) es = memoryMachine.responses (m, db) es ∧
      (google.run (s, db) es).2 = (memoryMachine.run (m, db) es).2 ∧
      Mirrored has customers grid float (google.run (s, db) es).1
        (memoryMachine.run (m, db) es).1 := by
  intro google
  have hstart : SameSheets has customers grid float (s, db) (m, db) := ⟨hm, rfl⟩
  obtain ⟨hend, hsame⟩ := Machine.in_step _ memoryMachine
    (R := SameSheets has customers grid float) (G := fun x e => e.Fits gateway has customers x)
    (fun _ _ _ hx he => hx.step h henter he) hstart hes
  exact ⟨hsame, hend.database, hend.mirrored⟩

end Runs

/-! ## A sheet that is filled in and synchronised twice -/

/-- The sheet of `timedSheet`. -/
def PortfolioSheet (spreadsheetId worksheetName : String) : Prop :=
  spreadsheetId = "1AbCdEfGhIjKlMn" ∧ worksheetName = "Портфель"

/-- The columns of its customers. -/
def PortfolioColumns (_ _ column : String) : Prop := column ∈ ["A", "E", "H", "I", "V"]

/-- A gateway to a server that answers at once. -/
def promptGateway (cells : SheetCells) : GoogleServiceAccountSheetsGateway where
  retries := 1
  attempt _ request := .response 200 (sheetsServer.answer cells request)
  statusError _ := .external "no network"
  float := Py.Decimal.str

theorem promptGateway_production :
    Production sheetsServer promptGateway PortfolioSheet SheetCells.grid Py.Decimal.str where
  floats _ := rfl
  amounts _ h := parseDecimal_amount h
  answered _ _ _ _ _ := request_of_answer (Nat.le_refl 1) rfl
  keeps cells := sheetsServer_keeps (promptGateway cells) PortfolioSheet

/-- An entry into a cell of the server. -/
def SheetCells.enter (cells : SheetCells) (spreadsheetId worksheetName : String) (row : ℕ)
    (column : String) (value : CellValue) : SheetCells :=
  cells.set (spreadsheetId, worksheetName, row, lettersValue column.toList) value

theorem SheetCells.keepsEntries : KeepsEntries SheetCells.grid SheetCells.enter := by
  intro cells spreadsheetId worksheetName row column value book sheet row' column' _
  unfold SheetCells.enter
  rw [SheetCells.grid_cell, SheetCells.grid_cell, Dict.get?_set]
  by_cases hsame : book = spreadsheetId ∧ sheet = worksheetName ∧ row' = row ∧
      column' = lettersValue column.toList
  · obtain ⟨rfl, rfl, rfl, rfl⟩ := hsame
    rw [if_pos rfl, if_pos ⟨rfl, rfl, rfl, rfl⟩]
    rfl
  · rw [if_neg hsame, if_neg]
    intro hkey
    simp only [Prod.mk.injEq] at hkey
    exact hsame hkey

/-- `timedSheet` before its customers filled it in. -/
def emptySheet : MemoryGoogleSheetsGateway := { timedSheet with cells := Dict.empty }

/-- The rows of `parRows` are entered. -/
def portfolioEntries : List SheetEvent :=
  (parRows 2).flatMap fun row => row.values.entries.map fun (column, value) =>
    .enters "1AbCdEfGhIjKlMn" "Портфель" row.rowNumber column value

/-- Then the sheet is synchronised, the jobs are queued again, and it is synchronised once more. -/
def portfolioEvents : List SheetEvent :=
  portfolioEntries ++
    [.syncs (timedEnvironment (stampedClient 1720000000000000)) parJob, .stores timedDatabase,
      .syncs (laterEnvironment (stampedClient 1720003600000000) fun _ => .none) secondJob]

theorem mirrored_emptySheet :
    Mirrored PortfolioSheet PortfolioColumns SheetCells.grid Py.Decimal.str Dict.empty
      emptySheet := by
  have hheld : ∀ book sheet row column, emptySheet.held book sheet row column = CellValue.none :=
    fun _ _ _ _ => rfl
  refine ⟨mirrors_empty _ _ rfl _ ?_, ?_, ?_⟩
  · rintro _ _ ⟨rfl, rfl⟩
    decide +kernel
  · intro book sheet row column _ _ _
    rw [hheld]
    exact CellValue.Shows.refl CellValue.none
  · intro book sheet row _ column _
    rw [hheld]
    exact ⟨rfl, rfl⟩

theorem stampedClient_accruesAmounts (receivedAt : Instant) :
    (stampedClient receivedAt).AccruesAmounts := by
  intro _ _ _ d hanswer r hr
  obtain rfl := Option.some.inj (Except.ok.inj hanswer)
  have hten : (Decimal.finite 10).quantize (ε := PyError) 2 = .ok (.finite 10) := by
    decide +kernel
  obtain rfl := Except.ok.inj (hr.symm.trans hten)
  exact ⟨1000, by decide, by norm_num⟩

theorem timedConnection_fits : timedConnection.Fits PortfolioSheet PortfolioColumns where
  placed := ⟨by decide, by decide⟩
  there := ⟨rfl, rfl⟩
  header := Nat.le_refl 1
  columns := by decide +kernel
  inputs := by
    unfold PortfolioColumns
    decide
  outputs := by
    unfold PortfolioColumns
    decide

/-- A run for the connection, with amounts from MOEX. -/
theorem timedDatabase_fits {env : SyncEnvironment} {job : SheetSyncJobModel}
    (hmoex : env.moex.AccruesAmounts) (hjob : job.connectionId = 10)
    (hcheck : env.checkConnection "1AbCdEfGhIjKlMn" = .ok ["Портфель"]) :
    env.Fits job timedDatabase PortfolioSheet PortfolioColumns := by
  have hconnection : ∀ connection,
      timedDatabase.val.sheets.connection? job.connectionId = some connection →
        timedConnection = connection := by
    intro connection hfound
    have hten : timedDatabase.val.sheets.connection? 10 = some timedConnection := by
      decide +kernel
    rw [hjob] at hfound
    exact Option.some.inj (hten.symm.trans hfound)
  refine ⟨hmoex, ?_, ?_⟩
  · intro connection hfound
    obtain rfl := hconnection connection hfound
    exact timedConnection_fits
  · intro connection hfound
    obtain rfl := hconnection connection hfound
    exact ⟨_, hcheck, List.mem_singleton.mpr rfl⟩

/-- The sheet and the database when the rows are entered. -/
def enteredPortfolio : SheetCells × Database :=
  (productionMachine sheetsServer promptGateway SheetCells.enter).run (Dict.empty, timedDatabase)
    portfolioEntries

/-- And when it was synchronised, and the jobs are queued again. -/
def syncedPortfolio : SheetCells × Database :=
  (productionMachine sheetsServer promptGateway SheetCells.enter).run enteredPortfolio
    [.syncs (timedEnvironment (stampedClient 1720000000000000)) parJob, .stores timedDatabase]

theorem writesJson_of_all [Py.Context] {env : SyncEnvironment} {job : SheetSyncJobModel}
    {db : Database}
    (h : ((execute env job (World.opened db)).2.calls.flatMap ExternalCall.batch).all
      (fun u => u.value.isJson) = true) : env.WritesJson job db := by
  intro spreadsheetId worksheetName batch hcall u hu
  exact List.all_eq_true.mp h u (List.mem_flatMap.mpr ⟨_, hcall, hu⟩)

theorem portfolioEvents_fit :
    (productionMachine sheetsServer promptGateway SheetCells.enter).Along
      (fun x e => e.Fits promptGateway PortfolioSheet PortfolioColumns x)
      (Dict.empty, timedDatabase) portfolioEvents := by
  refine (Machine.along_append _).mpr ⟨Machine.along_of_forall _ fun e he _ => ?_, ?_⟩
  · obtain ⟨row, hrow, hcell⟩ := List.mem_flatMap.mp he
    obtain ⟨⟨column, value⟩, hentry, rfl⟩ := List.mem_map.mp hcell
    have hcolumns : ∀ row ∈ parRows 2, ∀ entry ∈ row.values.entries,
        entry.1.toList.all Char.isUpper := by decide +kernel
    exact List.all_eq_true.mp (hcolumns row hrow _ hentry)
  · have hfirst : ((timedEnvironment (stampedClient 1720000000000000)).through
        (promptGateway enteredPortfolio.1)).WritesJson parJob timedDatabase :=
      writesJson_of_all (by decide +kernel)
    have hsecond : ((laterEnvironment (stampedClient 1720003600000000) fun _ => .none).through
        (promptGateway syncedPortfolio.1)).WritesJson secondJob timedDatabase :=
      writesJson_of_all (by decide +kernel)
    refine ⟨⟨?_, hfirst⟩, trivial, ⟨?_, hsecond⟩, trivial⟩
    · exact timedDatabase_fits (stampedClient_accruesAmounts _) rfl rfl
    · exact timedDatabase_fits (stampedClient_accruesAmounts _) rfl rfl

/-- Both runs over Google write their batch, and the second reads what the first filled in. -/
theorem production_as_memory_portfolio :
    ((productionMachine sheetsServer promptGateway SheetCells.enter).responses
        (Dict.empty, timedDatabase) portfolioEvents).filterMap
          (fun answer => answer.map fun run =>
            (run.1.isOk, (run.2.flatMap ExternalCall.batch).length)) = [(true, 25), (true, 23)] ∧
      ((((productionMachine sheetsServer promptGateway SheetCells.enter).run
        (Dict.empty, timedDatabase) portfolioEvents).1.grid "1AbCdEfGhIjKlMn" "Портфель").cell 2
          10).SameAmount (.number "10") := by
  obtain ⟨hsame, -, hmirrored⟩ := production_as_memory promptGateway_production
    SheetCells.keepsEntries mirrored_emptySheet portfolioEvents_fit
  constructor
  · rw [hsame]
    decide +kernel
  · have haccrued : (memoryMachine.run (emptySheet, timedDatabase) portfolioEvents).1.held
        "1AbCdEfGhIjKlMn" "Портфель" 2 "J" = .number "10" := by decide +kernel
    rw [← haccrued]
    exact hmirrored.amounts "1AbCdEfGhIjKlMn" "Портфель" 2 ⟨rfl, rfl⟩ "J" (by decide)

end BondTrading
