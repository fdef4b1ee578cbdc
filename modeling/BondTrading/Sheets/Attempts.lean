/-
# BondTrading.Sheets.Attempts -- how an attempt ends

`execute` up to its final commit, told from the tables before it: which rows it reads,
whether every refresh leaves the session usable, whether the batch is computed and
written.  A session that broke on the way stays broken, and the job stays claimed.
-/
import BondTrading.Sheets.Moves
import BondTrading.Sheets.Refreshes
import BondTrading.Sheets.RowCells

namespace BondTrading

open Py (Decimal Dict Instant Zone Routine raiseIf orRaise)
open Sql (Fault World updateWhere UniqueOn)

/-! ## The row of a job -/

/-- The row of a job. -/
def SheetTables.job? (t : SheetTables) (id : JobId) : Option SheetSyncJobModel :=
  t.jobs.find? fun j => j.id = id

section Rows

variable {t : SheetTables} {id : JobId} {row : SheetSyncJobModel}

theorem job?_eq_some (h : t.job? id = some row) : row ∈ t.jobs ∧ row.id = id := by
  refine ⟨List.mem_of_find?_eq_some h, ?_⟩
  simpa using List.find?_some h

/-- A table that keeps the keys of the jobs keeps the job. -/
theorem job?_isSome_congr {t' : SheetTables}
    (hjobs : t'.jobs.map SheetSyncJobModel.id = t.jobs.map SheetSyncJobModel.id)
    (h : ∃ row, t.job? id = some row) : ∃ row, t'.job? id = some row := by
  obtain ⟨row, hrow⟩ := h
  obtain ⟨hmem, hid⟩ := job?_eq_some hrow
  have hkey : id ∈ t'.jobs.map SheetSyncJobModel.id := by
    rw [hjobs, ← hid]
    exact List.mem_map_of_mem hmem
  obtain ⟨row', hmem', hid'⟩ := List.mem_map.mp hkey
  have hsome : (t.job? id).isSome := by rw [hrow]; rfl
  refine Option.isSome_iff_exists.mp (List.find?_isSome.mpr ⟨row', hmem', ?_⟩)
  exact decide_eq_true hid'

/-- The row of a job after an update that keeps the identifiers. -/
theorem job?_updateWhere {connections : List SheetConnectionModel} {q : SheetSyncJobModel → Bool}
    {f : SheetSyncJobModel → SheetSyncJobModel} (hf : ∀ j, (f j).id = j.id)
    (h : t.job? id = some row) :
    SheetTables.job? ⟨connections, updateWhere q f t.jobs⟩ id =
      some (if q row then f row else row) := by
  have hkept : ∀ j : SheetSyncJobModel, (if q j = true then f j else j).id = j.id := by
    intro j
    split
    · exact hf j
    · rfl
  have hpred : (fun j : SheetSyncJobModel => decide (j.id = id)) ∘
      (fun j => if q j = true then f j else j) = fun j => decide (j.id = id) := by
    funext j
    show decide ((if q j = true then f j else j).id = id) = _
    rw [hkept]
  unfold SheetTables.job? at h ⊢
  show (updateWhere q f t.jobs).find? (fun j => j.id = id) = _
  rw [updateWhere, List.find?_map, hpred, h]
  rfl

end Rows

/-! ## The tables of an attempt -/

/-- What an attempt has done to the tables before it refreshes or after it wrote. -/
structure SheetProgress (t t' : Tables) : Prop where
  constraints : t'.Constraints
  market : t'.market = t.market
  jobs : t'.sheets.jobs.map SheetSyncJobModel.id = t.sheets.jobs.map SheetSyncJobModel.id

section Progress

variable {t : Tables}

theorem SheetProgress.refl (ht : t.Constraints) : SheetProgress t t := ⟨ht, rfl, rfl⟩

theorem SheetProgress.trans {t' t'' : Tables} (h : SheetProgress t t') (h' : SheetProgress t' t'') :
    SheetProgress t t'' := ⟨h'.constraints, h'.market.trans h.market, h'.jobs.trans h.jobs⟩

/-- Updates of both sheet tables that write no key. -/
theorem SheetProgress.of_updates (ht : t.Constraints) (p : SheetConnectionModel → Bool)
    (f : SheetConnectionModel → SheetConnectionModel)
    (hf : ∀ c, ((f c).id, (f c).ownerId, (f c).provider) = (c.id, c.ownerId, c.provider))
    (q : SheetSyncJobModel → Bool) (g : SheetSyncJobModel → SheetSyncJobModel)
    (hg : ∀ j, ((g j).id, (g j).connectionId) = (j.id, j.connectionId)) :
    SheetProgress t { t with
      sheets := ⟨updateWhere p f t.sheets.connections, updateWhere q g t.sheets.jobs⟩ } := by
  have hsheets : SheetTables.Constraints
      ⟨updateWhere p f t.sheets.connections, updateWhere q g t.sheets.jobs⟩ := by
    apply ht.sheets.of_same_keys
    · exact Sql.map_updateWhere p f (fun c => (c.id, c.ownerId, c.provider)) hf _
    · exact Sql.map_updateWhere q g (fun j => (j.id, j.connectionId)) hg _
  refine ⟨⟨ht.market, ht.portfolio, hsheets⟩, rfl, ?_⟩
  exact Sql.map_updateWhere q g SheetSyncJobModel.id (fun j => (Prod.mk.inj (hg j)).1) _

theorem updateWhere_none {ρ : Type} (f : ρ → ρ) (rows : List ρ) :
    updateWhere (fun _ => false) f rows = rows := Sql.updateWhere_eq_self fun _ _ => rfl

theorem SheetProgress.startAttempt (ht : t.Constraints) (connection : ConnectionId)
    (now : Instant) :
    SheetProgress t (Tables.editSheets (·.startAttempt connection now) t) := by
  have h := SheetProgress.of_updates ht (fun c => c.id = connection)
    (fun c => { c with lastAttemptAt := some now }) (fun _ => rfl) (fun _ => false) id fun _ => rfl
  rw [updateWhere_none] at h
  exact h

theorem SheetProgress.setRowsRead (ht : t.Constraints) (job : JobId) (rowsRead : ℕ) :
    SheetProgress t (Tables.editSheets (·.setRowsRead job rowsRead) t) := by
  have h := SheetProgress.of_updates ht (fun _ => false) id (fun _ => rfl) (fun j => j.id = job)
    (fun j => { j with rowsRead }) fun _ => rfl
  rw [updateWhere_none] at h
  exact h

theorem SheetProgress.complete (ht : t.Constraints) (connection : ConnectionId) (job : JobId)
    (report : SyncReport) :
    SheetProgress t (Tables.editSheets (·.complete connection job report) t) :=
  SheetProgress.of_updates ht (fun c => c.id = connection) (·.succeed report) (fun _ => rfl)
    (fun j => j.id = job) (·.succeed report) fun _ => rfl

end Progress

/-! ## The rows of an attempt -/

variable (env : SyncEnvironment)

/-- The connection and the data rows an attempt reads, if it comes that far. -/
def sheetRead (t : SheetTables) (job : SheetSyncJobModel) :
    Option (SheetConnectionModel × List SheetDataRow) :=
  if env.faults .connection = .none then do
    let connection ← t.connection? job.connectionId
    let worksheetNames ← (env.checkConnection connection.spreadsheetId).toOption
    if connection.worksheetName ∈ worksheetNames then do
      let rows ← (env.readRows connection.spreadsheetId connection.worksheetName
        (Py.distinct (connection.isinColumn :: sheetInputColumns))
        (connection.headerRow + 1)).toOption
      return (connection, dataRows connection rows)
    else none
  else none

/-- The ISINs of the rows, each once. -/
def isinsOf (connection : SheetConnectionModel) (rows : List SheetDataRow) : List String :=
  Py.distinct ((normalizedRows connection rows).map Prod.snd)

/-- What an attempt knows of an ISIN, told from the tables before it. -/
def knownOf (t : Tables) (connection : SheetConnectionModel) (isin : String) :
    Option RefreshedInstrument :=
  refreshedValue env connection (t.market.view isin) isin

/-- The attempt computes a batch, and the sheet takes it. -/
def SheetWritten [Py.Context] (t : Tables) (connection : SheetConnectionModel)
    (rows : List SheetDataRow) : Prop :=
  ∃ batch, sheetBatch env connection (knownOf env t connection) rows = .ok batch ∧
    env.updateCells connection.spreadsheetId connection.worksheetName batch = .ok ()

section Reading

variable {env} {job : SheetSyncJobModel} {w : ServiceWorld}

/-- **Reading the sheet.** -/
theorem readSheet_runs (hw : w.broken = false) (hC : w.work.Constraints) :
    World.Runs (readSheet env job) w (env.faults .connection ≠ .aborted) (fun outcome w' =>
      outcome.toOption = sheetRead env w.work.sheets job ∧ SheetProgress w.work w'.work) := by
  rw [← Fault.then_true]
  unfold readSheet
  refine World.Runs.query_bind hw ?_ ?_
  · intro hfault
    unfold sheetRead
    rw [if_pos hfault]
    cases hfound : w.work.sheets.connection? job.connectionId with
    | none => exact World.Runs.of_eq rfl hw ⟨rfl, .refl hC⟩
    | some connection =>
        have hstarted := SheetProgress.startAttempt hC connection.id env.draw.startedAt
        apply World.Runs.bind_of_ok rfl
        apply World.Runs.bind_of_ok (World.edit_apply _ _)
        cases hcheck : env.checkConnection connection.spreadsheetId with
        | error e =>
            refine World.Runs.of_eq (Routine.bind_of_error (World.call_apply _ _ _)) (by exact hw) ?_
            refine ⟨?_, hstarted⟩
            simp [hcheck, Except.toOption]
        | ok worksheetNames =>
            apply World.Runs.bind_of_ok (World.call_apply _ _ _)
            by_cases hworksheet : connection.worksheetName ∈ worksheetNames
            · have hchecked : raiseIf (connection.worksheetName ∉ worksheetNames)
                  (PyError.valueError ("Вкладка «" ++ connection.worksheetName ++ "» не найдена")) =
                    .ok () := if_neg (not_not.mpr hworksheet)
              rw [hchecked]
              apply World.Runs.bind_of_ok (Routine.lift_apply _ _)
              dsimp only
              cases hrows : env.readRows connection.spreadsheetId connection.worksheetName
                  (Py.distinct (connection.isinColumn :: sheetInputColumns))
                  (connection.headerRow + 1) with
              | error e =>
                  refine World.Runs.of_eq (Routine.bind_of_error (World.call_apply _ _ _))
                    (by exact hw) ⟨?_, hstarted⟩
                  simp [hcheck, hrows, Except.toOption]
              | ok rows =>
                  apply World.Runs.bind_of_ok (World.call_apply _ _ _)
                  apply World.Runs.bind_of_ok (World.edit_apply _ _)
                  refine World.Runs.of_eq (Routine.pure_apply _ _) (by exact hw) ⟨?_, ?_⟩
                  · simp [hcheck, hworksheet, hrows, Except.toOption]
                  · exact hstarted.trans (.setRowsRead hstarted.constraints _ _)
            · have hmissing : raiseIf (connection.worksheetName ∉ worksheetNames)
                  (PyError.valueError ("Вкладка «" ++ connection.worksheetName ++ "» не найдена")) =
                    .error (PyError.valueError ("Вкладка «" ++ connection.worksheetName ++
                      "» не найдена")) := if_pos hworksheet
              rw [hmissing]
              refine World.Runs.of_eq (Routine.bind_of_error (Routine.lift_apply _ _))
                (by exact hw) ⟨?_, hstarted⟩
              simp [hcheck, hworksheet, Except.toOption]
  · intro hfault
    refine ⟨?_, .refl hC⟩
    unfold sheetRead
    rw [hfault]
    rfl

/-- **What an attempt reads**, step by step. -/
theorem sheetRead_eq_some {sheets : SheetTables} {connection : SheetConnectionModel}
    {rows : List SheetDataRow} :
    sheetRead env sheets job = some (connection, rows) ↔
      env.faults .connection = .none ∧ sheets.connection? job.connectionId = some connection ∧
        (∃ worksheetNames, env.checkConnection connection.spreadsheetId = .ok worksheetNames ∧
          connection.worksheetName ∈ worksheetNames) ∧
        ∃ sheetRows, env.readRows connection.spreadsheetId connection.worksheetName
            (Py.distinct (connection.isinColumn :: sheetInputColumns)) (connection.headerRow + 1) =
              .ok sheetRows ∧ rows = dataRows connection sheetRows := by
  have htoOption : ∀ {α : Type} {x : Except PyError α} {a : α},
      x.toOption = some a ↔ x = .ok a := by
    intro α x a
    cases x with
    | error e => exact iff_of_false (fun h => nomatch h) fun h => nomatch h
    | ok b => exact ⟨fun h => congrArg Except.ok (Option.some.inj h),
        fun h => congrArg some (Except.ok.inj h)⟩
  unfold sheetRead
  rw [Option.ite_none_right_eq_some]
  refine and_congr_right fun _ => ?_
  constructor
  · intro h
    obtain ⟨connection', hfound, h⟩ := Option.bind_eq_some_iff.mp h
    obtain ⟨worksheetNames, hcheck, h⟩ := Option.bind_eq_some_iff.mp h
    obtain ⟨hworksheet, h⟩ := Option.ite_none_right_eq_some.mp h
    obtain ⟨sheetRows, hrows, h⟩ := Option.bind_eq_some_iff.mp h
    obtain ⟨rfl, rfl⟩ := Prod.mk.inj (Option.some.inj h)
    exact ⟨hfound, ⟨worksheetNames, htoOption.mp hcheck, hworksheet⟩, sheetRows,
      htoOption.mp hrows, rfl⟩
  · rintro ⟨hfound, ⟨worksheetNames, hcheck, hworksheet⟩, sheetRows, hrows, rfl⟩
    refine Option.bind_eq_some_iff.mpr ⟨connection, hfound, ?_⟩
    refine Option.bind_eq_some_iff.mpr ⟨worksheetNames, htoOption.mpr hcheck, ?_⟩
    rw [if_pos hworksheet]
    exact Option.bind_eq_some_iff.mpr ⟨sheetRows, htoOption.mpr hrows, rfl⟩

/-- The same surroundings, and of the sheet only these rows. -/
def SyncEnvironment.keeping (env : SyncEnvironment) (p : SheetDataRow → Bool) : SyncEnvironment :=
  { env with
    readRows := fun spreadsheetId worksheetName columns firstDataRow =>
      (env.readRows spreadsheetId worksheetName columns firstDataRow).map (List.filter p) }

/-- What an attempt reads of them. -/
theorem sheetRead_keeping (p : SheetDataRow → Bool) (sheets : SheetTables) :
    sheetRead (env.keeping p) sheets job =
      (sheetRead env sheets job).map fun read => (read.1, read.2.filter p) := by
  unfold sheetRead
  show (if env.faults .connection = .none then _ else _) = _
  by_cases hfault : env.faults .connection = .none
  · rw [if_pos hfault, if_pos hfault]
    cases sheets.connection? job.connectionId with
    | none => rfl
    | some found =>
        show (env.checkConnection found.spreadsheetId).toOption >>= _ =
          ((env.checkConnection found.spreadsheetId).toOption >>= _).map _
        cases (env.checkConnection found.spreadsheetId).toOption with
        | none => rfl
        | some worksheetNames =>
            show (if found.worksheetName ∈ worksheetNames then _ else _) =
              (if found.worksheetName ∈ worksheetNames then _ else _ : Option _).map _
            by_cases hworksheet : found.worksheetName ∈ worksheetNames
            · rw [if_pos hworksheet, if_pos hworksheet]
              show ((env.readRows found.spreadsheetId found.worksheetName
                (Py.distinct (found.isinColumn :: sheetInputColumns))
                (found.headerRow + 1)).map _).toOption >>= _ =
                  ((env.readRows _ _ _ _).toOption >>= _).map _
              cases env.readRows found.spreadsheetId found.worksheetName
                  (Py.distinct (found.isinColumn :: sheetInputColumns)) (found.headerRow + 1) with
              | error e => rfl
              | ok sheetRows =>
                  refine congrArg some (Prod.ext rfl ?_)
                  show dataRows found (sheetRows.filter _) = (dataRows found sheetRows).filter p
                  unfold dataRows
                  rw [List.filter_filter, List.filter_filter]
                  exact List.filter_congr fun row _ => Bool.and_comm _ _
            · rw [if_neg hworksheet, if_neg hworksheet]
              rfl
  · rw [if_neg hfault, if_neg hfault]
    rfl

/-- The ISINs of the rows are normalized. -/
theorem normalized_of_mem_isinsOf {connection : SheetConnectionModel} {rows : List SheetDataRow}
    {isin : String} (h : isin ∈ isinsOf connection rows) : normalizeIsin isin = .ok isin := by
  obtain ⟨entry, hentry, rfl⟩ := List.mem_map.mp (Py.mem_distinct.mp h)
  exact normalizeIsin_idem (mem_normalizedRows hentry).2

theorem sheetBatch_congr [Py.Context] {connection : SheetConnectionModel} {rows : List SheetDataRow}
    {known known' : String → Option RefreshedInstrument}
    (h : ∀ isin ∈ isinsOf connection rows, known isin = known' isin) :
    sheetBatch env connection known rows = sheetBatch env connection known' rows := by
  have hcells : (normalizedRows connection rows).mapM (fun entry =>
      rowUpdates connection env.zone env.moex (known entry.2) entry.1) =
        (normalizedRows connection rows).mapM fun entry =>
          rowUpdates connection env.zone env.moex (known' entry.2) entry.1 := by
    apply Py.mapM_congr
    intro entry hentry
    rw [h entry.2 (Py.mem_distinct.mpr (List.mem_map_of_mem hentry))]
  unfold sheetBatch
  simp only [hcells]

theorem lookup_map_self {κ ν : Type} [DecidableEq κ] (f : κ → ν) {keys : List κ} {k : κ}
    (h : k ∈ keys) : (keys.map fun k => (k, f k)).lookup k = some (f k) := by
  induction keys with
  | nil => exact absurd h List.not_mem_nil
  | cons other keys ih =>
      rw [List.map_cons, List.lookup_cons]
      by_cases hsame : k = other
      · rw [beq_iff_eq.mpr hsame, hsame]
      · have hrest : k ∈ keys := by
          rcases List.mem_cons.mp h with h | h
          · exact absurd h hsame
          · exact h
        rw [beq_eq_false_iff_ne.mpr hsame]
        exact ih hrest

/-- What the loop over the ISINs leaves is what is known of them. -/
theorem value_of_entries {refreshes : Refreshes} {isins : List String}
    {known : String → Option RefreshedInstrument}
    (h : refreshes.1 = isins.map fun isin => (isin, known isin)) {isin : String}
    (hisin : isin ∈ isins) : refreshes.value isin = known isin := by
  unfold Refreshes.value
  rw [h, lookup_map_self known hisin]
  rfl

/-! ## Computing and writing -/

/-- **The rest of an attempt**, from the rows it read: the refreshes decide whether the
session is usable, and the batch whether the attempt returns. -/
theorem writeSheet_runs [Py.Context] {connection : SheetConnectionModel} {rows : List SheetDataRow}
    (hw : w.broken = false) (hC : w.work.Constraints)
    (hfresh : env.draw.Fresh (isinsOf connection rows) w.work.market) :
    World.Runs (writeSheet env connection rows) w
      (∀ isin ∈ isinsOf connection rows, IsinKept env (w.work.market.view isin) isin)
      (fun outcome w' => w'.work.Constraints ∧ w'.work.sheets = w.work.sheets ∧
        ((∃ report, outcome = .ok report) ↔ SheetWritten env w.work connection rows)) := by
  have hloop : World.Runs (refreshAll env connection (isinsOf connection rows)) w _ _ :=
    refreshAll_runs hw hC (Py.nodup_distinct _) hfresh fun _ h => normalized_of_mem_isinsOf h
  rw [← and_true (∀ isin ∈ isinsOf connection rows, IsinKept env (w.work.market.view isin) isin)]
  refine hloop.bind ?_ ?_ ?_
  · intro refreshes w' hw' hpost
    obtain ⟨⟨hC', -, hsheets⟩, errors, herrors, hentries⟩ := hpost
    have hentries := Except.ok.inj hentries
    have hvalues : refreshes.1 = (isinsOf connection rows).map fun isin =>
        (isin, knownOf env w.work connection isin) := congrArg Prod.fst hentries
    have herrors : ∀ e ∈ refreshes.2, ∃ isin message, e = .isin isin message := by
      rw [hentries]
      exact herrors
    have hbatch := rowLoop_batch env connection refreshes.value rows herrors
    rw [sheetBatch_congr fun isin hisin => value_of_entries hvalues hisin] at hbatch
    apply World.Runs.bind_of_ok (World.readLoaded_of_usable hw')
    cases hloop : rowLoop env connection refreshes.value
        (isinErrors connection rows ++ refreshes.2) (normalizedRows connection rows) with
    | error e =>
        rw [hloop] at hbatch
        refine World.Runs.of_eq (Routine.bind_of_error (Routine.lift_apply _ _)) hw' ⟨hC', hsheets, ?_⟩
        refine iff_of_false (fun ⟨_, h⟩ => nomatch h) ?_
        rintro ⟨batch, hcomputed, -⟩
        rw [hbatch.of_error] at hcomputed
        cases hcomputed
    | ok loop =>
        rw [hloop] at hbatch
        obtain ⟨batch, hcomputed, rfl⟩ := hbatch.of_ok
        apply World.Runs.bind_of_ok (Routine.lift_apply _ _)
        apply World.Runs.bind_of_ok (Routine.modify_apply _ _)
        dsimp only
        have hwritten : SheetWritten env w.work connection rows ↔
            env.updateCells connection.spreadsheetId connection.worksheetName
              (batchOf connection (normalizedRows connection rows) loop) = .ok () := by
          constructor
          · rintro ⟨batch, hbatch, htaken⟩
            obtain rfl := Except.ok.inj (hcomputed.symm.trans hbatch)
            exact htaken
          · intro htaken
            exact ⟨_, hcomputed, htaken⟩
        rw [hwritten]
        cases htaken : env.updateCells connection.spreadsheetId connection.worksheetName
            (batchOf connection (normalizedRows connection rows) loop) with
        | error e =>
            refine World.Runs.of_eq (Routine.bind_of_error (World.call_apply _ _ _)) hw'
              ⟨hC', hsheets, ?_⟩
            exact iff_of_false (fun ⟨_, h⟩ => nomatch h) fun h => nomatch h
        | ok _ =>
            apply World.Runs.bind_of_ok (World.call_apply _ _ _)
            refine World.Runs.of_eq (Routine.pure_apply _ _) hw' ⟨hC', hsheets, ?_⟩
            exact iff_of_true ⟨_, rfl⟩ rfl
  · intro e w' _ hpost
    obtain ⟨-, errors, -, hentries⟩ := hpost
    cases hentries
  · intro refreshes
    have hallows : World.Allows (World.StaysBroken : ServiceWorld → ServiceWorld → Prop) _ _ _ :=
      World.StaysBroken.allows
    apply hallows.bind hallows.readLoaded
    intro _
    apply hallows.bind (hallows.lift _)
    intro loop
    apply hallows.bind (hallows.callAll loop.calls fun _ _ => trivial)
    intro _
    apply hallows.bind (hallows.call trivial _)
    intro _
    exact hallows.pure _

end Reading

/-! ## The whole attempt -/

variable [Py.Context]

/-- `execute` up to its final commit. -/
def storeSheet (job : SheetSyncJobModel) : Service Unit := do
  let (connection, rows) ← readSheet env job
  let report ← writeSheet env connection rows
  World.edit (Tables.editSheets (·.complete connection.id job.id report))
  World.commit (env.faults .complete)

theorem execute_of_storeSheet (job : SheetSyncJobModel) :
    execute env job = storeSheet env job >>= fun _ =>
      World.query (env.faults .reloadJob) fun _ => () := by
  unfold execute storeSheet
  rw [Routine.bind_assoc]
  congr 1
  funext read
  rw [Routine.bind_assoc]
  congr 1

/-- **An attempt leaves the session usable**: no refresh breaks it, and neither does the
final commit if the attempt comes that far. -/
def AttemptKept (t : Tables) (job : SheetSyncJobModel) : Prop :=
  env.faults .connection ≠ .aborted ∧
    ∀ connection rows, sheetRead env t.sheets job = some (connection, rows) →
      (∀ isin ∈ isinsOf connection rows, IsinKept env (t.market.view isin) isin) ∧
        (SheetWritten env t connection rows → env.faults .complete = .none)

/-- The attempt has the batch of its rows written and stored. -/
def AttemptReturns (t : Tables) (job : SheetSyncJobModel) : Prop :=
  ∃ connection rows, sheetRead env t.sheets job = some (connection, rows) ∧
    SheetWritten env t connection rows

section Attempt

variable {env} {job : SheetSyncJobModel} {w : ServiceWorld}

/-- What holds after an attempt, while the session is usable. -/
structure AttemptPost (env : SyncEnvironment) (job : SheetSyncJobModel) (t : Tables)
    (outcome : Except PyError Unit) (w : ServiceWorld) : Prop where
  constraints : w.work.Constraints
  present : ∃ row, w.work.sheets.job? job.id = some row
  returns : outcome = .ok () ↔ AttemptReturns env t job
  committed : outcome = .ok () → w.committed.val = w.work
  succeeded : outcome = .ok () → ∀ row, w.work.sheets.job? job.id = some row →
    row.status = .succeeded

theorem attemptReturns_iff {t : Tables} {connection : SheetConnectionModel}
    {rows : List SheetDataRow} (hread : sheetRead env t.sheets job = some (connection, rows)) :
    AttemptReturns env t job ↔ SheetWritten env t connection rows := by
  constructor
  · rintro ⟨connection', rows', hread', hwritten⟩
    obtain ⟨rfl, rfl⟩ := Prod.mk.inj (Option.some.inj (hread.symm.trans hread'))
    exact hwritten
  · intro hwritten
    exact ⟨connection, rows, hread, hwritten⟩

/-- An attempt that raised. -/
theorem AttemptPost.of_error {t : Tables} {e : PyError} (hC : w.work.Constraints)
    (hjob : ∃ row, w.work.sheets.job? job.id = some row) (hreturns : ¬ AttemptReturns env t job) :
    AttemptPost env job t (.error e) w :=
  ⟨hC, hjob, iff_of_false (fun h => nomatch h) hreturns, (fun h => nomatch h), (fun h => nomatch h)⟩

/-- The end of an attempt: both rows, one commit. -/
theorem completeSheet_runs {t : Tables} {connection : SheetConnectionModel} {report : SyncReport}
    (hw : w.broken = false) (hC : w.work.Constraints)
    (hjob : ∃ row, w.work.sheets.job? job.id = some row) (hreturns : AttemptReturns env t job) :
    World.Runs (World.edit (Tables.editSheets (·.complete connection.id job.id report)) >>= fun _ =>
        World.commit (env.faults .complete)) w (env.faults .complete = .none)
      (AttemptPost env job t) := by
  have hcomplete := SheetProgress.complete hC connection.id job.id report
  obtain ⟨row, hrow⟩ := hjob
  have hsucceeded : (Tables.editSheets (·.complete connection.id job.id report) w.work).sheets.job?
      job.id = some (row.succeed report) := by
    have hupdated : (w.work.sheets.complete connection.id job.id report).job? job.id =
        some (if decide (row.id = job.id) = true then row.succeed report else row) :=
      job?_updateWhere (fun _ => rfl) hrow
    rw [if_pos (decide_eq_true (job?_eq_some hrow).2)] at hupdated
    exact hupdated
  apply World.Runs.bind_of_ok (World.edit_apply _ _)
  rw [← and_iff_left hcomplete.constraints (a := env.faults .complete = .none)]
  refine World.Runs.commit (by exact hw) ?_
  intro _ _
  refine ⟨hcomplete.constraints, ⟨_, hsucceeded⟩, iff_of_true rfl hreturns, fun _ => rfl, ?_⟩
  intro _ row' hrow'
  obtain rfl := Option.some.inj (hsucceeded.symm.trans hrow')
  rfl

/-- **An attempt up to its final commit.** -/
theorem storeSheet_runs (hw : w.broken = false) (hC : w.work.Constraints)
    (hjob : ∃ row, w.work.sheets.job? job.id = some row)
    (hfresh : ∀ connection rows, sheetRead env w.work.sheets job = some (connection, rows) →
      env.draw.Fresh (isinsOf connection rows) w.work.market) :
    World.Runs (storeSheet env job) w (AttemptKept env w.work job)
      (AttemptPost env job w.work) := by
  refine (readSheet_runs hw hC).bind ?_ ?_ ?_
  · rintro ⟨connection, rows⟩ w₁ hw₁ ⟨hread, hprogress⟩
    have hread : sheetRead env w.work.sheets job = some (connection, rows) := hread.symm
    have hwritten : SheetWritten env w₁.work connection rows ↔ AttemptReturns env w.work job := by
      rw [attemptReturns_iff hread]
      unfold SheetWritten knownOf
      rw [hprogress.market]
    have hkept : (∀ isin ∈ isinsOf connection rows, IsinKept env (w₁.work.market.view isin) isin) ∧
        (AttemptReturns env w.work job → env.faults .complete = .none) ↔
          ∀ connection rows, sheetRead env w.work.sheets job = some (connection, rows) →
            (∀ isin ∈ isinsOf connection rows, IsinKept env (w.work.market.view isin) isin) ∧
              (SheetWritten env w.work connection rows → env.faults .complete = .none) := by
      rw [attemptReturns_iff hread, hprogress.market]
      constructor
      · intro h connection' rows' hread'
        obtain ⟨rfl, rfl⟩ := Prod.mk.inj (Option.some.inj (hread.symm.trans hread'))
        exact h
      · intro h
        exact h connection rows hread
    have hfresh₁ : env.draw.Fresh (isinsOf connection rows) w₁.work.market := by
      rw [hprogress.market]
      exact hfresh connection rows hread
    rw [← hkept]
    refine (writeSheet_runs hw₁ hprogress.constraints hfresh₁).bind ?_ ?_ ?_
    · rintro report w₂ hw₂ ⟨hC₂, hsheets, hreport⟩
      have hreturns := hwritten.mp (hreport.mp ⟨report, rfl⟩)
      have hjob₂ : ∃ row, w₂.work.sheets.job? job.id = some row := by
        rw [hsheets]
        exact job?_isSome_congr hprogress.jobs hjob
      rw [forall_prop_of_true hreturns]
      exact completeSheet_runs hw₂ hC₂ hjob₂ hreturns
    · rintro e w₂ _ ⟨hC₂, hsheets, hreport⟩
      have hreturns : ¬ AttemptReturns env w.work job := by
        intro h
        obtain ⟨report, hok⟩ := hreport.mpr (hwritten.mpr h)
        cases hok
      refine ⟨fun h => absurd h hreturns, .of_error hC₂ ?_ hreturns⟩
      rw [hsheets]
      exact job?_isSome_congr hprogress.jobs hjob
    · intro report
      have hallows : World.Allows (World.StaysBroken : ServiceWorld → ServiceWorld → Prop) _ _ _ :=
        World.StaysBroken.allows
      apply hallows.bind (hallows.edit trivial)
      intro _
      exact hallows.commit _
  · rintro e w₁ _ ⟨hread, hprogress⟩
    have hread : sheetRead env w.work.sheets job = none := hread.symm
    constructor
    · intro connection rows hread'
      cases hread.symm.trans hread'
    · apply AttemptPost.of_error hprogress.constraints
      · exact job?_isSome_congr hprogress.jobs hjob
      · rintro ⟨_, _, hread', -⟩
        cases hread.symm.trans hread'
  · rintro ⟨connection, rows⟩
    have hallows : World.Allows (World.StaysBroken : ServiceWorld → ServiceWorld → Prop) _ _ _ :=
      World.StaysBroken.allows
    apply hallows.bind
    · apply writeSheet_within
      exact hallows.mono (fun _ _ => trivial) fun _ _ => trivial
    · intro report
      apply hallows.bind (hallows.edit trivial)
      intro _
      exact hallows.commit _

end Attempt

end BondTrading
