/-
# BondTrading.Portfolio.Writes -- what a request writes where others look

`Wrote` lists what a request can do to the instruments, the lots and the batches; the
invariants below are read off it, case by case.

* `handle_wrote` -- a request creates, updates or deletes a lot, imports, or leaves all three;
* `Wrote.within` -- the lots of a user stay within the ISINs he stores lots under;
* `Wrote.named` -- the instruments of given ISINs stay when the request `LeavesNames`;
* `handle_previews` -- the previews that wait for others stay.
-/
import BondTrading.Portfolio.Integrity
import BondTrading.Portfolio.Sight

namespace BondTrading

open Sql (UniqueOn)

namespace PortfolioState

variable (s : PortfolioState) (user : UserId) (draw : RequestDraw)

/-- The ISINs a request stores lots under. -/
def lotIsins : PortfolioRequest → List String
  | .createLot payload => (normalizeIsin payload.isin).toOption.toList
  | .commitImport id =>
      match (s.previews.get id (some user) draw.monotonic).2 with
      | some preview =>
          if existingBatch s.db.val user preview = none then
            preview.rows.map ImportRow.normalizedIsin
          else []
      | none => []
  | _ => []

/-- **The request neither inserts nor renames an instrument of the ISINs**: what it stores
there has an instrument already, and its rows have no name for it or come too late. -/
def LeavesNames (isins : List String) : PortfolioRequest → Prop
  | .createLot payload => ∀ isin ∈ (normalizeIsin payload.isin).toOption, isin ∈ isins →
      s.db.val.market.instrumentOf isin ≠ none
  | .commitImport id => ∀ preview ∈ (s.previews.get id (some user) draw.monotonic).2,
      existingBatch s.db.val user preview = none →
        ∀ row ∈ preview.rows, row.normalizedIsin ∈ isins →
          ∃ i ∈ s.db.val.market.instrumentOf row.normalizedIsin,
            Py.Text.given row.sourceName = none ∨ i.shortName ≠ i.isin
  | _ => True

/-- Every identifier the request draws is new. -/
def DrawsFresh : PortfolioRequest → Prop
  | .createLot _ | .updateLot _ _ | .deleteLot _ => draw.lots.Fresh s.db.val
  | .getAppSettings | .updateAppSettings _ => draw.settings.Fresh s.db.val
  | .previewImport file =>
      draw.upload.Fresh s.db.val user ((Py.Text.given file.fileName).getD "spreadsheet") ∧
        s.previews.values.get? draw.preview = none
  | .commitImport id => ∀ preview ∈ (s.previews.get id (some user) draw.monotonic).2,
      draw.imports.Fresh s.db.val preview.rows
  | _ => True

/-- The tables a request may end in. -/
inductive Wrote : PortfolioRequest → Tables → Prop
  | created {payload : LotCreate} {isin : String} (h : normalizeIsin payload.isin = .ok isin) :
      Wrote (.createLot payload) (createdTables s.db.val user isin payload draw.lots)
  | updated {id : LotId} {p : LotPatch} {lot patched : BondLotModel}
      (hlot : lot ∈ s.db.val.portfolio.lots) (howner : lot.ownerId = user)
      (hpatch : lot.patch p draw.lots.now = .ok patched) :
      Wrote (.updateLot id p) (updatedTables s.db.val user patched draw.lots)
  | deleted (id : LotId) : Wrote (.deleteLot id) (deletedTables s.db.val user id draw.lots)
  | imported {id : PreviewId} {preview : ImportPreview}
      (hget : (s.previews.get id (some user) draw.monotonic).2 = some preview)
      (hnone : existingBatch s.db.val user preview = none) :
      Wrote (.commitImport id) (importedTables s.db.val user preview draw.imports)
  | apart {request : PortfolioRequest} {t : Tables} (hmarket : t.market = s.db.val.market)
      (hlots : t.portfolio.lots = s.db.val.portfolio.lots)
      (hbatches : t.portfolio.batches = s.db.val.portfolio.batches) : Wrote request t

variable {s user draw}

/-! ## The routes that write -/

section Routes

variable (s : PortfolioState) (env : PortfolioEnv) (user : CurrentUser) (draw : RequestDraw)

theorem handle_createLot (payload : LotCreate) :
    s.handle env user draw (.createLot payload) = s.createLot user.id payload draw.lots := rfl

theorem handle_updateLot (id : LotId) (p : LotPatch) :
    s.handle env user draw (.updateLot id p) = s.updateLot user.id id p draw.lots := rfl

theorem handle_deleteLot (id : LotId) :
    s.handle env user draw (.deleteLot id) = s.deleteLot user.id id draw.lots := rfl

theorem handle_calculateLot (id : LotId) (valuationDate : Option Date) :
    s.handle env user draw (.calculateLot id valuationDate) =
      s.calculateLot env user.id id valuationDate draw.calculation := rfl

theorem handle_updateAppSettings (patch : SettingsPatch) :
    s.handle env user draw (.updateAppSettings patch) =
      s.updateAppSettings user.id patch draw.settings := rfl

theorem handle_previewImport (file : UploadFile) :
    s.handle env user draw (.previewImport file) = s.previewImport env user.id file draw := rfl

theorem handle_commitImport (id : PreviewId) :
    s.handle env user draw (.commitImport id) = s.commitImport user.id id draw := rfl

theorem handle_updateConnection (values : ConnectionValues) :
    s.handle env user draw (.updateConnection values) =
      s.updateConnection user.id values draw := rfl

theorem handle_syncNow : s.handle env user draw .syncNow = s.syncNow user.id draw := rfl

end Routes

/-! ## Tables -/

theorem Wrote.unchanged (request : PortfolioRequest) : Wrote s user draw request s.db.val :=
  .apart rfl rfl rfl

theorem respond_wrote {α : Type} {request : PortfolioRequest} {handler : PyError → ApiAnswer}
    {body : α → ApiAnswer} {x : Except PyError (Database × α)}
    (hx : ∀ db a, x = .ok (db, a) → Wrote s user draw request db.val) :
    Wrote s user draw request (s.respond handler body x).1.db.val := by
  cases x with
  | error e => exact .unchanged request
  | ok result => exact hx result.1 result.2 rfl

theorem previewImport_tables (env : PortfolioEnv) (user : UserId) (file : UploadFile)
    (draw : RequestDraw) :
    ∃ uploads, (s.previewImport env user file draw).1.db.val =
      { s.db.val with portfolio := { s.db.val.portfolio with uploads := uploads } } := by
  unfold previewImport
  split
  · exact ⟨_, rfl⟩
  · dsimp only
    split
    · exact ⟨_, rfl⟩
    · split
      · exact ⟨_, rfl⟩
      · rename_i stored upload hstored
        -- the upload is stored, and then marked
        simp only [storeUpload, Py.bind_eq_ok] at hstored
        obtain ⟨_, -, committed, hcommit, hreturn⟩ := hstored
        obtain ⟨rfl, rfl⟩ := Prod.mk.inj (Except.ok.inj hreturn)
        have htables := Sql.commit_eq_ok.mp hcommit
        unfold previewUpload
        split
        · exact ⟨_, htables⟩
        · unfold respond
          split
          · rename_i db _ hmarked
            obtain ⟨marked, hmark, heq⟩ := Py.map_eq_ok.mp hmarked
            obtain ⟨rfl, -⟩ := Prod.mk.inj heq
            have hval := Sql.commit_eq_ok.mp hmark
            rw [htables] at hval
            exact ⟨_, hval⟩
          · exact ⟨_, htables⟩
        · dsimp only
          split
          · exact ⟨_, htables⟩
          · rename_i db hmarked
            have hval := Sql.commit_eq_ok.mp hmarked
            rw [htables] at hval
            exact ⟨_, hval⟩

theorem commitImport_wrote (id : PreviewId) :
    Wrote s user draw (.commitImport id) (s.commitImport user id draw).1.db.val := by
  unfold commitImport
  split
  · exact .unchanged _
  · rename_i previews preview hget
    split
    · exact .unchanged _
    · rename_i db batch idempotent hcommit
      unfold importCommit finishImport at hcommit
      split at hcommit
      · obtain ⟨committed, hval, hreturn⟩ := Py.bind_eq_ok.mp hcommit
        obtain ⟨rfl, -⟩ := Prod.mk.inj (Except.ok.inj hreturn)
        have htables := Sql.commit_eq_ok.mp hval
        exact .apart (by rw [htables]; rfl) (by rw [htables]; rfl) (by rw [htables]; rfl)
      · rename_i hnone
        obtain ⟨committed, hval, hreturn⟩ := Py.bind_eq_ok.mp hcommit
        obtain ⟨rfl, -⟩ := Prod.mk.inj (Except.ok.inj hreturn)
        show Wrote s user draw _ committed.val
        rw [Sql.commit_eq_ok.mp hval]
        exact .imported (by rw [hget]) hnone

/-- **What a request writes.** -/
theorem handle_wrote (env : PortfolioEnv) (user : CurrentUser) (draw : RequestDraw)
    (request : PortfolioRequest) :
    Wrote s user.id draw request (s.handle env user draw request).1.db.val := by
  cases request with
  | createLot payload =>
      rw [handle_createLot, createLot]
      refine respond_wrote fun db lot hx => ?_
      simp only [BondTrading.createLot, Py.bind_eq_ok] at hx
      obtain ⟨isin, hisin, committed, hcommit, _, -, hreturn⟩ := hx
      obtain ⟨rfl, -⟩ := Prod.mk.inj (Except.ok.inj hreturn)
      rw [Sql.commit_eq_ok.mp hcommit]
      exact .created hisin
  | updateLot id payload =>
      rw [handle_updateLot, updateLot]
      refine respond_wrote fun db lot hx => ?_
      simp only [BondTrading.updateLot, Py.bind_eq_ok] at hx
      obtain ⟨found, hfound, patched, hpatch, committed, hcommit, _, -, hreturn⟩ := hx
      obtain ⟨rfl, -⟩ := Prod.mk.inj (Except.ok.inj hreturn)
      obtain ⟨hmem, -, howner, -⟩ := getLot_eq_some (Py.orRaise_eq_ok.mp hfound)
      rw [Sql.commit_eq_ok.mp hcommit]
      exact .updated hmem howner hpatch
  | deleteLot id =>
      rw [handle_deleteLot, deleteLot]
      refine respond_wrote fun db _ hx => ?_
      obtain ⟨committed, hdelete, heq⟩ := Py.map_eq_ok.mp hx
      obtain ⟨rfl, -⟩ := Prod.mk.inj heq
      simp only [BondTrading.deleteLot, Py.bind_eq_ok] at hdelete
      obtain ⟨_, -, hcommit⟩ := hdelete
      rw [Sql.commit_eq_ok.mp hcommit]
      exact .deleted id
  | calculateLot id valuationDate =>
      rw [handle_calculateLot, calculateLot]
      refine respond_wrote fun db bundle hx => ?_
      obtain ⟨new, -, htables⟩ := getSettings_tables s.db.val user.id draw.calculation.settings
      simp only [calculate, Py.bind_eq_ok] at hx
      obtain ⟨_, -, _, -, _, -, _, -, _, -, committed, hcommit, hreturn⟩ := hx
      obtain ⟨rfl, -⟩ := Prod.mk.inj (Except.ok.inj hreturn)
      rw [Sql.commit_eq_ok.mp hcommit, htables]
      exact .apart rfl rfl rfl
  | updateAppSettings payload =>
      rw [handle_updateAppSettings, updateAppSettings]
      refine respond_wrote fun db out hx => ?_
      obtain ⟨new, -, htables⟩ := getSettings_tables s.db.val user.id draw.settings.settings
      simp only [BondTrading.updateAppSettings, Py.bind_eq_ok] at hx
      obtain ⟨_, -, committed, hcommit, hreturn⟩ := hx
      obtain ⟨rfl, -⟩ := Prod.mk.inj (Except.ok.inj hreturn)
      rw [Sql.commit_eq_ok.mp hcommit, htables]
      exact .apart rfl rfl rfl
  | previewImport file =>
      obtain ⟨uploads, htables⟩ := previewImport_tables env user.id file draw
      rw [handle_previewImport, htables]
      exact .apart rfl rfl rfl
  | commitImport id => exact commitImport_wrote id
  | updateConnection payload =>
      rw [handle_updateConnection, updateConnection]
      refine respond_wrote fun db _ hx => ?_
      obtain ⟨result, -, heq⟩ := Py.map_eq_ok.mp hx
      obtain ⟨rfl, -⟩ := Prod.mk.inj heq
      exact .apart rfl rfl rfl
  | syncNow =>
      rw [handle_syncNow, syncNow]
      refine respond_wrote fun db _ hx => ?_
      obtain ⟨result, -, heq⟩ := Py.map_eq_ok.mp hx
      obtain ⟨rfl, -⟩ := Prod.mk.inj heq
      exact .apart rfl rfl rfl
  | listLots | getLot | yieldHistory | getAppSettings | getImportBatch | listUploads
  | downloadUpload | getConnection | testConnection | listJobs | getJob =>
      exact .unchanged _

/-! ## Instruments, lots and batches -/

section Wrote

variable {request : PortfolioRequest} {t : Tables} {isins : List String}

theorem get_of_preview {id : PreviewId} {preview : ImportPreview}
    (h : (s.previews.get id (some user) draw.monotonic).2 = some preview) :
    ∃ value, s.previews.values.get? id = some value ∧ value.ownerId = some user ∧
      value.preview = preview := by
  have hget : s.previews.get id (some user) draw.monotonic =
      ((s.previews.get id (some user) draw.monotonic).1, some preview) := Prod.ext rfl h
  exact (ImportPreviewCache.get_some hget).2

theorem lotIsins_createLot {payload : LotCreate} {isin : String}
    (h : normalizeIsin payload.isin = .ok isin) :
    s.lotIsins user draw (.createLot payload) = [isin] := by
  show (normalizeIsin payload.isin).toOption.toList = [isin]
  rw [h]
  rfl

theorem lotIsins_commitImport {id : PreviewId} {preview : ImportPreview}
    (hget : (s.previews.get id (some user) draw.monotonic).2 = some preview)
    (hnone : existingBatch s.db.val user preview = none) :
    s.lotIsins user draw (.commitImport id) = preview.rows.map ImportRow.normalizedIsin := by
  show (match (s.previews.get id (some user) draw.monotonic).2 with
    | some preview => _
    | none => _) = _
  rw [hget]
  exact if_pos hnone

theorem Wrote.keeps (h : Wrote s user draw request t) :
    Keeps s.db.val.market.instruments t.market.instruments := by
  cases h with
  | created h =>
      obtain ⟨-, -, hkept, -⟩ := instrumentFor_spec s.db.val.market _ _ _
      exact fun i hi => ⟨i, hkept i hi, rfl, rfl⟩
  | updated | deleted => exact .refl _
  | imported => exact (importRows_spec _ _ _ _).1
  | apart hmarket => rw [hmarket]; exact .refl _

/-- A lot is an old one, or the user's and of an ISIN of the request. -/
theorem Wrote.lots (h : Wrote s user draw request t) : ∀ l ∈ t.portfolio.lots,
    (∃ old ∈ s.db.val.portfolio.lots, old.ownerId = l.ownerId ∧
      old.instrumentId = l.instrumentId) ∨
    (l.ownerId = user ∧ ∃ i ∈ t.market.instruments, i.id = l.instrumentId ∧
      i.isin ∈ s.lotIsins user draw request) := by
  intro l hl
  cases h with
  | created h =>
      rename_i payload isin
      rcases List.mem_append.mp hl with hl | hl
      · exact Or.inl ⟨l, hl, rfl, rfl⟩
      · obtain rfl := List.mem_singleton.mp hl
        obtain ⟨hmem, hisin, -⟩ := instrumentFor_spec s.db.val.market isin payload.sourceName
          draw.lots.instrument
        refine Or.inr ⟨rfl, _, hmem, rfl, ?_⟩
        rw [lotIsins_createLot h, hisin]
        exact List.mem_singleton.mpr rfl
  | updated hlot howner hpatch =>
      obtain ⟨hid, howner', hinstrument, -⟩ := BondLotModel.patch_keys hpatch
      obtain ⟨old, hold, rfl⟩ := Sql.mem_updateWhere.mp hl
      split
      · exact Or.inl ⟨_, hlot, howner'.symm, hinstrument.symm⟩
      · exact Or.inl ⟨old, hold, rfl, rfl⟩
  | deleted => exact Or.inl ⟨l, (List.mem_filter.mp hl).1, rfl, rfl⟩
  | imported hget hnone =>
      rename_i id preview
      rcases List.mem_append.mp hl with hl | hl
      · exact Or.inl ⟨l, hl, rfl, rfl⟩
      · obtain ⟨row, hrow, instrument, hmem, hisin, -, -, rfl⟩ :=
          exists_row_of_lot (importRows_spec _ _ _ _).2 l hl
        refine Or.inr ⟨rfl, instrument, hmem, rfl, ?_⟩
        rw [lotIsins_commitImport hget hnone, hisin]
        exact List.mem_map_of_mem hrow
  | apart _ hlots => exact Or.inl ⟨l, hlots ▸ hl, rfl, rfl⟩

/-- **The lots of a user stay within the ISINs he stores lots under.** -/
theorem Wrote.within (h : Wrote s user draw request t) (ht : t.Constraints) {other : UserId}
    (hother : other = user → ∀ isin ∈ s.lotIsins user draw request, isin ∈ isins)
    (hwithin : s.db.val.Within isins other) : t.Within isins other := by
  refine hwithin.mono s.db.property ht h.keeps fun l hl howner => ?_
  rcases h.lots l hl with ⟨old, hold, howner', hsame⟩ | ⟨huser, i, hi, hid, hisin⟩
  · exact Or.inl ⟨old, hold, howner'.trans howner, hsame⟩
  · exact Or.inr ⟨i, hi, hid, hother (howner.symm.trans huser) i.isin hisin⟩

/-- The upload of an imported preview is its user's. -/
theorem Wrote.batchesOwned (h : Wrote s user draw request t) (ht : t.Constraints)
    (hpreviews : s.PreviewsOwned)
    (huploads : KeepsUploads s.db.val.portfolio.uploads t.portfolio.uploads)
    (hbatches : s.db.val.BatchesOwned) : t.BatchesOwned := by
  refine hbatches.mono s.db.property ht huploads fun b hb => ?_
  cases h with
  | created | updated | deleted => exact Or.inl hb
  | imported hget hnone =>
      rename_i id preview
      rcases List.mem_append.mp hb with hb | hb
      · exact Or.inl hb
      · obtain rfl := List.mem_singleton.mp hb
        refine Or.inr fun u hu hid => ?_
        obtain ⟨value, hvalue, howner, rfl⟩ := get_of_preview hget
        obtain ⟨old, hold, rfl⟩ := Sql.mem_updateWhere.mp hu
        -- marking the upload changes neither its identifier nor its owner
        have hkeys : (if some old.id = value.preview.uploadId then { old with status := "imported" }
            else old).id = old.id ∧
              (if some old.id = value.preview.uploadId then { old with status := "imported" }
                else old).ownerId = old.ownerId := by
          split <;> exact ⟨rfl, rfl⟩
        simp only [decide_eq_true_eq] at hid ⊢
        rw [hkeys.1] at hid
        rw [hkeys.2]
        exact hpreviews.upload_owner hvalue howner old hold hid.symm
  | apart _ _ hsame => exact Or.inl (hsame ▸ hb)

/-! ## Names -/

/-- One round of an import that leaves the names of the ISINs. -/
theorem importRow_leaves {row : ImportRow} {acc : ImportLoop}
    (hids : UniqueOn BondInstrumentModel.id acc.instruments)
    (hrow : row.normalizedIsin ∈ isins →
      ∃ i, acc.instruments.find? (fun i => i.isin = row.normalizedIsin) = some i ∧
        (Py.Text.given row.sourceName = none ∨ i.shortName ≠ i.isin))
    (owner : UserId) (sheetName : String) (d : ImportDraw) :
    ((importRow owner sheetName d acc row).named isins).instruments =
      (acc.named isins).instruments := by
  unfold importRow
  split
  · rename_i hnone
    -- a new instrument, so its ISIN is none of them
    have hout : row.normalizedIsin ∉ isins := by
      intro hin
      obtain ⟨i, hi, -⟩ := hrow hin
      cases hnone.symm.trans hi
    exact named_append_other hout
  · rename_i instrument hfound
    split
    · rename_i name hname
      split
      · rename_i hbare
        -- a new name, so the same
        have hout : row.normalizedIsin ∉ isins := by
          intro hin
          obtain ⟨i, hi, hkept⟩ := hrow hin
          obtain rfl := Option.some.inj (hfound.symm.trans hi)
          rcases hkept with hnone | hnamed
          · cases hnone.symm.trans hname
          · exact hnamed hbare
        refine Sql.filter_updateWhere fun r hr hid => ?_
        obtain rfl := hids.eq hr (List.mem_of_find?_eq_some hfound) (of_decide_eq_true hid)
        have hisin := List.find?_some hfound
        rw [decide_eq_true_eq] at hisin
        show decide (r.isin ∈ isins) = false ∧ decide (r.isin ∈ isins) = false
        rw [hisin]
        exact ⟨decide_eq_false hout, decide_eq_false hout⟩
      · rfl
    · rfl

theorem importedTables_leaves {t : Tables} (ht : t.Constraints) {preview : ImportPreview}
    {d : ImportDraw} (hfresh : d.Fresh t preview.rows)
    (hrows : ∀ row ∈ preview.rows, row.normalizedIsin ∈ isins →
      ∃ i ∈ t.market.instrumentOf row.normalizedIsin,
        Py.Text.given row.sourceName = none ∨ i.shortName ≠ i.isin) (owner : UserId) :
    (importedTables t owner preview d).market.named isins = t.market.named isins := by
  have hloop : ∀ rows : List ImportRow, (∀ row ∈ rows, row ∈ preview.rows) →
      ∀ acc : ImportLoop, LoopKeys t preview.rows d acc →
        (acc.named isins).instruments = (t.market.named isins).instruments →
          ((rows.foldl (importRow owner preview.sheetName d) acc).named isins).instruments =
            (t.market.named isins).instruments := by
    intro rows
    induction rows with
    | nil => exact fun _ _ _ hacc => hacc
    | cons row rows ih =>
        intro hmem acc hkeys hacc
        have hrow := hmem row List.mem_cons_self
        have hnext := hkeys.step hfresh hrow owner preview.sheetName
        refine ih (fun r hr => hmem r (List.mem_cons_of_mem _ hr)) _ hnext ?_
        rw [importRow_leaves hkeys.ids fun hin => ?_, hacc]
        -- the row finds what it finds in the stored instruments
        obtain ⟨i, hi, hkept⟩ := hrows row hrow hin
        refine ⟨i, ?_, hkept⟩
        have hstored : (t.market.named isins).instrumentOf row.normalizedIsin = some i :=
          (instrumentOf_named hin).trans hi
        rw [← find?_named hin]
        show (acc.named isins).instruments.find? _ = _
        rw [hacc]
        exact hstored
  have hstart : LoopKeys t preview.rows d ⟨t.market.instruments, [], 0⟩ :=
    ⟨ht.market.instrumentIds, ht.market.isins, fun i hi => Or.inl ⟨i, hi, rfl⟩, rfl⟩
  have hend := hloop preview.rows (fun _ h => h) _ hstart rfl
  unfold MarketTables.named
  exact congrArg (fun instruments => MarketTables.mk instruments [] []) hend

/-- **A request that leaves the names of the ISINs leaves their instruments as they are.** -/
theorem Wrote.named (h : Wrote s user draw request t)
    (hleaves : s.LeavesNames user draw isins request) (hfresh : s.DrawsFresh user draw request) :
    t.market.named isins = s.db.val.market.named isins := by
  cases h with
  | created h =>
      rename_i payload isin
      have hleaves := hleaves isin (by rw [h]; rfl)
      show (s.db.val.market.instrumentFor isin payload.sourceName draw.lots.instrument).2.named
        isins = _
      unfold MarketTables.instrumentFor
      cases hfound : s.db.val.market.instrumentOf isin with
      | some instrument => rfl
      | none =>
          have hout : isin ∉ isins := fun hin => hleaves hin hfound
          unfold MarketTables.named
          rw [named_append_other (by exact hout)]
  | updated | deleted => rfl
  | imported hget hnone =>
      exact importedTables_leaves s.db.property (hfresh _ hget) (hleaves _ hget hnone) user
  | apart hmarket => rw [hmarket]

end Wrote

/-! ## Previews -/

section Previews

variable {env : PortfolioEnv} {file : UploadFile}

theorem respond_previews {α : Type} (handler : PyError → ApiAnswer) (body : α → ApiAnswer)
    (x : Except PyError (Database × α)) : (s.respond handler body x).1.previews = s.previews := by
  cases x <;> rfl

/-- The preview that `preview_import` caches when the database takes its upload. -/
def previewed (env : PortfolioEnv) (file : UploadFile) (draw : RequestDraw) :
    Option ImportPreview :=
  match validateSpreadsheetUpload (file.fileName.getD "") file.contentType, draw.upload.put with
  | .ok (), .ok () =>
      let content := file.content.take (env.maxUploadBytes + 1)
      if env.maxUploadBytes < content.length then none
      else
        match env.readSpreadsheet content ((Py.Text.given file.fileName).getD "spreadsheet") with
        | .ok (.ok read) => some { read with uploadId := some draw.upload.upload }
        | _ => none
  | _, _ => none

/-- An upload under a new identifier is stored. -/
theorem storeUpload_stores {t : Database} {d : UploadDraw} {owner : UserId} {fileName : String}
    (hfresh : d.Fresh t.val owner fileName) (hput : d.put = .ok ()) (sha256 : Bytes → String)
    (contentType : String) (content : Bytes) :
    ∃ stored : Database,
      storeUpload sha256 t owner fileName contentType content d =
        .ok (stored, newUpload sha256 owner fileName contentType content d) ∧
      newUpload sha256 owner fileName contentType content d ∈ stored.val.portfolio.uploads := by
  have hconstraints : (t.val.addUpload
      (newUpload sha256 owner fileName contentType content d)).Constraints :=
    addUpload_constraints t.property hfresh.upload hfresh.objectKey
  refine ⟨⟨_, hconstraints⟩, ?_, List.mem_append_right _ (List.mem_singleton.mpr rfl)⟩
  unfold storeUpload
  rw [hput]
  show Tables.commit _ >>= _ = _
  rw [Tables.commit, Sql.commit_of _ hconstraints]
  rfl

/-- A stored upload is marked. -/
theorem markParsed_marks {t : Database} {upload : UploadedFileModel}
    (h : upload ∈ t.val.portfolio.uploads) : ∃ marked, markParsed t upload = .ok marked := by
  have hconstraints : (t.val.setUpload
      { upload with status := "parsed", parseError := none }).Constraints :=
    setUpload_constraints t.property h rfl rfl
  exact ⟨_, Sql.commit_of _ hconstraints⟩

/-- **The cache after a preview** has the previews of before, and the one that was read. -/
theorem previewImport_previews (hfresh : s.DrawsFresh user draw (.previewImport file)) :
    (s.previewImport env user file draw).1.previews =
      match previewed env file draw with
      | none => s.previews
      | some preview => s.previews.put draw.preview preview (some user) draw.monotonic := by
  unfold previewImport previewed
  cases validateSpreadsheetUpload (file.fileName.getD "") file.contentType with
  | error message => rfl
  | ok _ =>
      dsimp only
      cases hput : draw.upload.put with
      | error e =>
          split
          · rfl
          · simp only [storeUpload, hput]
            rfl
      | ok _ =>
          dsimp only
          split
          · rfl
          · obtain ⟨stored, hstored, hmem⟩ := storeUpload_stores hfresh.1 hput env.sha256
              ((Py.Text.given file.contentType).getD "application/octet-stream")
              (file.content.take (env.maxUploadBytes + 1))
            rw [hstored]
            dsimp only
            unfold previewUpload
            cases env.readSpreadsheet (file.content.take (env.maxUploadBytes + 1))
                ((Py.Text.given file.fileName).getD "spreadsheet") with
            | error e => rfl
            | ok result =>
                cases result with
                | error message => exact respond_previews _ _ _
                | ok read =>
                    obtain ⟨marked, hmarked⟩ := markParsed_marks hmem
                    dsimp only
                    rw [hmarked]
                    rfl

/-- A commit takes at most a preview of its user out of the cache. -/
theorem commitImport_previews (s : PortfolioState) (user : UserId) (id : PreviewId)
    (draw : RequestDraw) :
    (s.commitImport user id draw).1.previews = s.previews ∨
      (∃ value, s.previews.ownedBy user id = some value) ∧
        (s.commitImport user id draw).1.previews = s.previews.discard id := by
  have hget := ImportPreviewCache.get_eq s.previews id user draw.monotonic
  unfold commitImport
  cases hvalue : s.previews.ownedBy user id with
  | none =>
      rw [hvalue] at hget
      rw [hget]
      exact Or.inl rfl
  | some value =>
      simp only [hvalue] at hget
      by_cases hexpired : value.expiresAt ≤ draw.monotonic
      · rw [hget, if_pos hexpired]
        exact Or.inr ⟨⟨value, rfl⟩, rfl⟩
      · rw [hget, if_neg hexpired]
        dsimp only
        split
        · exact Or.inl rfl
        · exact Or.inr ⟨⟨value, rfl⟩, rfl⟩

/-- **The previews of everyone else wait on.** -/
theorem handle_previews (env : PortfolioEnv) {user : CurrentUser} {request : PortfolioRequest}
    (hfresh : s.DrawsFresh user.id draw request) {other : UserId} (hother : other ≠ user.id) :
    (s.handle env user draw request).1.previews.ownedBy other = s.previews.ownedBy other ∧
      (s.handle env user draw request).1.previews.ttlSeconds = s.previews.ttlSeconds := by
  cases request with
  | previewImport file =>
      rw [handle_previewImport, previewImport_previews hfresh]
      split
      · exact ⟨rfl, rfl⟩
      · exact ⟨ImportPreviewCache.ownedBy_put_other hfresh.2 hother _ _, rfl⟩
  | commitImport id =>
      rw [handle_commitImport]
      rcases commitImport_previews s user.id id draw with hsame | ⟨⟨value, hvalue⟩, hdiscard⟩
      · rw [hsame]
        exact ⟨rfl, rfl⟩
      · rw [hdiscard]
        exact ⟨ImportPreviewCache.ownedBy_discard_other hvalue hother, rfl⟩
  | createLot payload =>
      rw [handle_createLot, createLot, respond_previews]
      exact ⟨rfl, rfl⟩
  | updateLot id payload =>
      rw [handle_updateLot, updateLot, respond_previews]
      exact ⟨rfl, rfl⟩
  | deleteLot id =>
      rw [handle_deleteLot, deleteLot, respond_previews]
      exact ⟨rfl, rfl⟩
  | calculateLot id valuationDate =>
      rw [handle_calculateLot, calculateLot, respond_previews]
      exact ⟨rfl, rfl⟩
  | updateAppSettings payload =>
      rw [handle_updateAppSettings, updateAppSettings, respond_previews]
      exact ⟨rfl, rfl⟩
  | updateConnection payload =>
      rw [handle_updateConnection, updateConnection, respond_previews]
      exact ⟨rfl, rfl⟩
  | syncNow =>
      rw [handle_syncNow, syncNow, respond_previews]
      exact ⟨rfl, rfl⟩
  | listLots | getLot | yieldHistory | getAppSettings | getImportBatch | listUploads
  | downloadUpload | getConnection | testConnection | listJobs | getJob => exact ⟨rfl, rfl⟩

end Previews

end PortfolioState

end BondTrading
