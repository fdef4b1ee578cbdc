/-
# BondTrading.Imports.Commits -- concurrent import commits

Any number of `ImportService.commit` calls, each in two steps: it reads the batch of its
content, and later finishes.  Between the two steps other calls read and finish, so a
call may insert what another has inserted already; the database then refuses its
transaction as a whole.
-/
import BondTrading.Imports.Service
import BondTrading.Machines.Runs

namespace BondTrading

open Py (Decimal Instant)
open Sql (UniqueOn UniqueOnSome updateWhere)
open Machines (Machine)

/-! ## The machine -/

/-- A call that has read `existing` and has not finished. -/
structure PendingImport where
  owner : UserId
  preview : ImportPreview
  existing : Option ImportBatchModel
  deriving DecidableEq, Repr

/-- What a call returned: the batch, and whether it was a replay. -/
structure ImportAnswer where
  owner : UserId
  preview : ImportPreview
  batch : ImportBatchModel
  replayed : Bool
  deriving DecidableEq, Repr

structure ImportState where
  db : Database
  pending : List PendingImport
  answers : List ImportAnswer

inductive ImportEvent where
  /-- A call starts and reads the batch of its content. -/
  | read (owner : UserId) (preview : ImportPreview)
  /-- The pending call at this position finishes; the database may refuse its transaction
  for reasons of its own. -/
  | finish (call : ℕ) (draw : ImportDraw) (refused : Bool)

/-- The transaction of a pending call. -/
def PendingImport.transaction (c : PendingImport) (db : Database) (draw : ImportDraw)
    (refused : Bool) : Except PyError (Database × ImportBatchModel × Bool) :=
  if refused then .error (.database "DBAPIError")
  else finishImport db c.owner c.preview c.existing draw

/-- The state after a call finished, and its answer if it returned. -/
def ImportState.settle (s : ImportState) (call : ℕ) (c : PendingImport) :
    Except PyError (Database × ImportBatchModel × Bool) → ImportState × Option ImportAnswer
  | .ok (db, batch, replayed) =>
      let answer : ImportAnswer := ⟨c.owner, c.preview, batch, replayed⟩
      (⟨db, s.pending.eraseIdx call, s.answers ++ [answer]⟩, some answer)
  | .error _ => ({ s with pending := s.pending.eraseIdx call }, none)

def importMachine : Machine ImportState ImportEvent (Option ImportAnswer) where
  step s
    | .read owner preview =>
        ({ s with
          pending := s.pending ++ [⟨owner, preview, existingBatch s.db.val owner preview⟩] }, none)
    | .finish call draw refused =>
        match s.pending[call]? with
        | none => (s, none)
        | some c => s.settle call c (c.transaction s.db draw refused)

/-! ## What a finished call committed -/

/-- The lots of a batch. -/
def PortfolioTables.lotsOf (t : PortfolioTables) (batch : BatchId) : List BondLotModel :=
  t.lots.filter fun l => l.importBatchId = some batch

/-- **The batch is the one its call created**, with one lot for each row of the call's
preview. -/
structure Created (t : Tables) (answer : ImportAnswer) (batch : ImportBatchModel) : Prop where
  fresh : answer.replayed = false
  answered : answer.batch = batch
  owner : batch.ownerId = answer.owner
  checksum : batch.checksum = answer.preview.checksum
  sheetName : batch.sheetName = answer.preview.sheetName
  lots :
    List.Forall₂
      (CarriesRow t.market.instruments answer.owner batch.id answer.preview.sheetName)
      answer.preview.rows (t.portfolio.lotsOf batch.id)

/-- Every stored batch was created by an answered call. -/
def Accounted (s : ImportState) : Prop :=
  ∀ batch ∈ s.db.val.portfolio.batches, ∃ answer ∈ s.answers, Created s.db.val answer batch

/-- A transaction that keeps the instruments and the lots of the batch keeps its account. -/
theorem Created.mono {t t' : Tables} {answer : ImportAnswer} {batch : ImportBatchModel}
    (h : Created t answer batch) (hkeeps : Keeps t.market.instruments t'.market.instruments)
    (hlots : t'.portfolio.lotsOf batch.id = t.portfolio.lotsOf batch.id) :
    Created t' answer batch where
  fresh := h.fresh
  answered := h.answered
  owner := h.owner
  checksum := h.checksum
  sheetName := h.sheetName
  lots := by
    rw [hlots]
    exact h.lots.imp fun _ _ hrow => hrow.mono hkeeps

section Inserted

variable {db db' : Database} {owner : UserId} {preview : ImportPreview} {draw : ImportDraw}

/-- Only this transaction uses its batch identifier: nothing stored points to it. -/
theorem no_lots_of_new_batch (hdb : db'.val = importedTables db.val owner preview draw) :
    ∀ l ∈ db.val.portfolio.lots, l.importBatchId ≠ some draw.batch := by
  intro l hl hbatch
  obtain ⟨b, hb, hid⟩ := db.property.portfolio.lotBatches l hl draw.batch hbatch
  have hids := db'.property.portfolio.batchIds
  rw [hdb] at hids
  exact (Sql.uniqueOn_append_singleton.mp hids).2 b hb hid

theorem lotsOf_new (hdb : db'.val = importedTables db.val owner preview draw) :
    db'.val.portfolio.lotsOf draw.batch = (importRows db.val owner preview draw).lots := by
  have hnew := keys_of_madeFrom (importRows_spec db.val owner preview draw).2
  rw [hdb]
  show (db.val.portfolio.lots ++ (importRows db.val owner preview draw).lots).filter _ = _
  rw [List.filter_append]
  have hold : db.val.portfolio.lots.filter
      (fun l => decide (l.importBatchId = some draw.batch)) = [] := by
    refine List.filter_eq_nil_iff.mpr fun l hl => ?_
    rw [decide_eq_true_eq]
    exact no_lots_of_new_batch hdb l hl
  rw [hold, List.nil_append]
  exact List.filter_eq_self.mpr fun l hl => decide_eq_true (hnew l hl).2

theorem lotsOf_old (hdb : db'.val = importedTables db.val owner preview draw)
    {batch : ImportBatchModel} (hbatch : batch ∈ db.val.portfolio.batches) :
    db'.val.portfolio.lotsOf batch.id = db.val.portfolio.lotsOf batch.id := by
  have hnew := keys_of_madeFrom (importRows_spec db.val owner preview draw).2
  have hids := db'.property.portfolio.batchIds
  rw [hdb] at hids
  have hne : batch.id ≠ draw.batch := (Sql.uniqueOn_append_singleton.mp hids).2 batch hbatch
  rw [hdb]
  show (db.val.portfolio.lots ++ (importRows db.val owner preview draw).lots).filter _ = _
  rw [List.filter_append]
  have hadded : (importRows db.val owner preview draw).lots.filter
      (fun l => decide (l.importBatchId = some batch.id)) = [] := by
    refine List.filter_eq_nil_iff.mpr fun l hl => ?_
    rw [decide_eq_true_eq, (hnew l hl).2]
    intro h
    exact hne (Option.some.inj h).symm
  rw [hadded, List.append_nil]
  rfl

/-- **An inserting transaction accounts for its own batch and keeps all others.** -/
theorem created_of_inserted (hdb : db'.val = importedTables db.val owner preview draw)
    {batch : ImportBatchModel} (hbatch : batch ∈ db'.val.portfolio.batches) :
    batch ∈ db.val.portfolio.batches ∧
        (∀ answer, Created db.val answer batch → Created db'.val answer batch) ∨
      Created db'.val
        ⟨owner, preview, importBatch owner preview draw (importRows db.val owner preview draw),
          false⟩ batch := by
  obtain ⟨hkeeps, hall⟩ := importRows_spec db.val owner preview draw
  have hmarket : db'.val.market.instruments = (importRows db.val owner preview draw).instruments := by
    rw [hdb]
    rfl
  rw [hdb] at hbatch
  rcases List.mem_append.mp hbatch with hold | hnew
  · refine Or.inl ⟨hold, fun answer h => h.mono ?_ (lotsOf_old hdb hold)⟩
    rw [hmarket]
    exact hkeeps
  · obtain rfl := List.mem_singleton.mp hnew
    refine Or.inr ⟨rfl, rfl, rfl, rfl, rfl, ?_⟩
    have hlots := lotsOf_new hdb
    rw [hmarket]
    show List.Forall₂ _ preview.rows (db'.val.portfolio.lotsOf draw.batch)
    rw [hlots]
    exact hall.imp fun _ _ hrow => hrow.carries

end Inserted

/-! ## One step -/

/-- What the transaction of a finishing call did. -/
inductive Finished (db : Database) (c : PendingImport) (draw : ImportDraw) :
    Database × ImportBatchModel × Bool → Prop where
  | replayed (db' : Database) (batch : ImportBatchModel)
      (h : db'.val = replayedTables db.val c.preview batch) : Finished db c draw (db', batch, true)
  | inserted (db' : Database)
      (h : db'.val = importedTables db.val c.owner c.preview draw) :
      Finished db c draw
        (db', importBatch c.owner c.preview draw (importRows db.val c.owner c.preview draw), false)

theorem PendingImport.finished {c : PendingImport} {db : Database} {draw : ImportDraw}
    {refused : Bool} {result : Database × ImportBatchModel × Bool}
    (h : c.transaction db draw refused = .ok result) : Finished db c draw result := by
  unfold PendingImport.transaction finishImport at h
  rw [Py.check_eq_ok] at h
  obtain ⟨-, h⟩ := h
  split at h
  · obtain ⟨committed, hcommit, hreturn⟩ := Py.bind_eq_ok.mp h
    obtain rfl := Except.ok.inj hreturn
    exact .replayed _ _ (Sql.commit_eq_ok.mp hcommit)
  · obtain ⟨committed, hcommit, hreturn⟩ := Py.bind_eq_ok.mp h
    obtain rfl := Except.ok.inj hreturn
    exact .inserted _ (Sql.commit_eq_ok.mp hcommit)

theorem step_finish_none {s : ImportState} {call : ℕ} (hcall : s.pending[call]? = none)
    (draw : ImportDraw) (refused : Bool) :
    importMachine.step s (.finish call draw refused) = (s, none) := by
  simp only [importMachine, hcall]

theorem step_finish_some {s : ImportState} {call : ℕ} {c : PendingImport}
    (hcall : s.pending[call]? = some c) (draw : ImportDraw) (refused : Bool) :
    importMachine.step s (.finish call draw refused) =
      s.settle call c (c.transaction s.db draw refused) := by
  simp only [importMachine, hcall]

/-- The account of every batch survives every step. -/
theorem importMachine_accounted (s : ImportState) (e : ImportEvent) (h : Accounted s) :
    Accounted (importMachine.next s e) := by
  cases e with
  | read owner preview => exact h
  | finish call draw refused =>
      unfold Machine.next
      cases hcall : s.pending[call]? with
      | none =>
          rw [step_finish_none hcall]
          exact h
      | some c =>
          rw [step_finish_some hcall]
          cases htransaction : c.transaction s.db draw refused with
          | error e => exact h
          | ok result =>
              intro batch hbatch
              cases PendingImport.finished htransaction with
              | replayed db' existing hdb =>
                  -- only an upload changed
                  have hbatch' : batch ∈ s.db.val.portfolio.batches := by
                    have hb : batch ∈ db'.val.portfolio.batches := hbatch
                    rw [hdb] at hb
                    exact hb
                  obtain ⟨answer, hanswer, hcreated⟩ := h batch hbatch'
                  refine ⟨answer, List.mem_append_left _ hanswer, ?_⟩
                  show Created db'.val answer batch
                  rw [hdb]
                  exact hcreated.mono (Keeps.refl _) rfl
              | inserted db' hdb =>
                  rcases created_of_inserted hdb hbatch with ⟨hold, hkeep⟩ | hnew
                  · obtain ⟨answer, hanswer, hcreated⟩ := h batch hold
                    exact ⟨answer, List.mem_append_left _ hanswer, hkeep answer hcreated⟩
                  · exact ⟨_, List.mem_append_right _ (List.mem_singleton.mpr rfl), hnew⟩

/-- A step that does not answer with a new batch adds no lot, instrument or batch. -/
theorem importMachine_adds_nothing (s : ImportState) (e : ImportEvent)
    (h : ∀ answer, (importMachine.step s e).2 = some answer → answer.replayed = true) :
    (importMachine.next s e).db.val.portfolio.lots = s.db.val.portfolio.lots ∧
      (importMachine.next s e).db.val.market.instruments = s.db.val.market.instruments ∧
      (importMachine.next s e).db.val.portfolio.batches = s.db.val.portfolio.batches := by
  cases e with
  | read owner preview => exact ⟨rfl, rfl, rfl⟩
  | finish call draw refused =>
      unfold Machine.next
      cases hcall : s.pending[call]? with
      | none =>
          rw [step_finish_none hcall]
          exact ⟨rfl, rfl, rfl⟩
      | some c =>
          rw [step_finish_some hcall] at h ⊢
          cases htransaction : c.transaction s.db draw refused with
          | error e => exact ⟨rfl, rfl, rfl⟩
          | ok result =>
              rw [htransaction] at h
              cases PendingImport.finished htransaction with
              | replayed db' existing hdb =>
                  show db'.val.portfolio.lots = _ ∧ db'.val.market.instruments = _ ∧
                    db'.val.portfolio.batches = _
                  rw [hdb]
                  exact ⟨rfl, rfl, rfl⟩
              | inserted db' hdb =>
                  -- this call answers with a new batch
                  exact absurd (h _ rfl) Bool.false_ne_true

/-! ## Whole runs -/

/-- **Import commits are idempotent under concurrency.**  After any interleaving of any
commits, a content has at most one batch, every batch has exactly one lot for each row of
the preview that created it, which carries the row to the decimals of the columns, and a call
that does not create a batch adds nothing. -/
theorem import_commits_idempotent {db : Database} (hdb : db.val.portfolio.batches = [])
    (events : List ImportEvent) :
    let s := importMachine.run ⟨db, [], []⟩ events
    (∀ b ∈ s.db.val.portfolio.batches, ∀ b' ∈ s.db.val.portfolio.batches,
        b.identity = b'.identity → b = b') ∧
      (∀ b ∈ s.db.val.portfolio.batches, ∃ answer ∈ s.answers, Created s.db.val answer b) ∧
      (∀ i ∈ s.db.val.market.instruments, ∀ i' ∈ s.db.val.market.instruments,
        i.isin = i'.isin → i = i') ∧
      ∀ e, (∀ answer, (importMachine.step s e).2 = some answer → answer.replayed = true) →
        (importMachine.next s e).db.val.portfolio.lots = s.db.val.portfolio.lots ∧
          (importMachine.next s e).db.val.market.instruments = s.db.val.market.instruments ∧
          (importMachine.next s e).db.val.portfolio.batches = s.db.val.portfolio.batches := by
  intro s
  have hstart : Accounted ⟨db, [], []⟩ := by
    intro batch hbatch
    rw [hdb] at hbatch
    exact absurd hbatch List.not_mem_nil
  have haccounted : Accounted s :=
    importMachine.invariant_run importMachine_accounted hstart events
  refine ⟨?_, haccounted, ?_, importMachine_adds_nothing s⟩
  · intro b hb b' hb' hidentity
    exact s.db.property.portfolio.batchIdentities.eq hb hb' hidentity
  · intro i hi i' hi' hisin
    exact s.db.property.market.isins.eq hi hi' hisin

/-! ## A race -/

/-- A row of a purchase. -/
def raceRow (number : ℕ) (quantity : ℚ) : ImportRow where
  rowNumber := number
  sourceIsin := "RU000A107SX3"
  normalizedIsin := "RU000A107SX3"
  sourceName := some "Bond A"
  targetEventType := "maturity"
  purchaseDate := 738000
  targetEventDate := 739000
  quantity := .finite quantity
  purchaseCleanPriceRubPerBond := .finite 980
  purchaseAccruedInterestRubPerBond := .finite 12
  purchaseCommissionRubPerBond := .finite 0
  targetRedemptionPriceRubPerBond := none
  saleCommissionRubPerBond := .finite 0
  plannedYieldManualReference := none
  offerSubmissionPeriod := none

/-- A sheet with these rows. -/
def racePreviewOf (rows : List ImportRow) : ImportPreview where
  fileName := "bonds.xlsx"
  sheetName := "Sheet1"
  checksum := "c0ffee"
  headerRowNumber := 3
  rowsRead := rows.length
  rows := rows
  errors := []
  uploadId := none

/-- A sheet with two rows of one ISIN. -/
def racePreview : ImportPreview := racePreviewOf [raceRow 4 10, raceRow 5 20]

/-- The identifiers of the `n`-th transaction of the race. -/
def raceDraw (n : ℕ) : ImportDraw := ⟨n, fun _ => 100 + n, fun k => 10 * n + k, 200 + n, 0⟩

/-- Two calls read before either inserts; the second insert is refused, and a third call
replays. -/
def importRace : List ImportEvent :=
  [.read 1 racePreview, .read 1 racePreview, .finish 0 (raceDraw 1) false,
    .finish 0 (raceDraw 2) false, .read 1 racePreview, .finish 0 (raceDraw 3) false]

theorem import_commits_idempotent_race :
    let s := importMachine.run ⟨Database.empty, [], []⟩ importRace
    s.db.val.portfolio.batches.length = 1 ∧ s.db.val.portfolio.lots.length = 2 ∧
      s.answers.map ImportAnswer.replayed = [false, true] ∧
      ∀ b ∈ s.db.val.portfolio.batches, ∃ answer ∈ s.answers, Created s.db.val answer b :=
  ⟨by decide +kernel, by decide +kernel, by decide +kernel,
    (@import_commits_idempotent Database.empty rfl importRace).2.1⟩

/-- A sheet with a thirteenth decimal. -/
def thirdsPreview : ImportPreview := racePreviewOf [raceRow 4 (3333333333333333 / 10 ^ 13)]

/-- **A value of more decimals than its column is not carried as it is**: one call commits the
sheet, and the lot of its batch has another quantity than the row. -/
theorem thirds_quantity_rounded :
    ∃ events : List ImportEvent,
      let s := importMachine.run ⟨Database.empty, [], []⟩ events
      s.answers.map ImportAnswer.preview = [thirdsPreview] ∧
        ∃ b ∈ s.db.val.portfolio.batches,
          ¬ List.Forall₂ (fun (row : ImportRow) (lot : BondLotModel) => lot.quantity = row.quantity)
            thirdsPreview.rows (s.db.val.portfolio.lotsOf b.id) := by
  refine ⟨[.read 1 thirdsPreview, .finish 0 (raceDraw 1) false], ?_⟩
  decide +kernel

end BondTrading
