/-
# BondTrading.Sheets.Writes -- the one write of a run

A run writes to the sheet once, after the loop over the rows.  What it writes is the batch
computed from the rows it read and from what the loop over the ISINs leaves of them; no
step before or after it writes.
-/
import BondTrading.Sheets.Attempts
import BondTrading.Sheets.Batches

namespace BondTrading

open Py (Routine)
open Sql (Fault World)

variable {env : SyncEnvironment} {job : SheetSyncJobModel} {w : ServiceWorld}
  {connection : SheetConnectionModel} {rows : List SheetDataRow}
  {known : String → Option RefreshedInstrument} {k : ExternalCall}

/-! ## Steps without a call -/

/-- Steps that make no call. -/
theorem sameCalls_allows : World.Allows (fun w w' : ServiceWorld => w'.calls = w.calls)
    (fun _ => True) (fun _ => False) True where
  refl _ := rfl
  trans h h' := h'.trans h
  aborted _ _ := rfl
  rolledBack _ := rfl
  committed _ _ := rfl
  edited _ _ _ := rfl
  called _ _ h := h.elim

/-- The routine makes no call. -/
abbrev NoCalls {α : Type} (x : Service α) : Prop :=
  Routine.Within (fun w w' : ServiceWorld => w'.calls = w.calls) x

section Quiet

variable {α β : Type} {x : Service α} {f : α → Service β} {w : ServiceWorld}

theorem calls_of_bind (hf : ∀ a, NoCalls (f a)) : ((x >>= f) w).2.calls = (x w).2.calls := by
  rcases hx : x w with ⟨a | a, w'⟩
  · rw [Routine.bind_of_error hx]
  · rw [Routine.bind_of_ok hx]
    exact hf a w'

theorem calls_of_attempt {handler : PyError → Service α} (h : ∀ e, NoCalls (handler e)) :
    (Routine.attempt x handler w).2.calls = (x w).2.calls := by
  rcases hx : x w with ⟨a | a, w'⟩
  · rw [Routine.attempt_of_error hx]
    exact h a w'
  · rw [Routine.attempt_of_ok hx]

end Quiet

/-! ## Reading -/

/-- A run that can read its sheet gets to the rows, with nothing committed or written. -/
theorem readSheet_of_sheetRead (hw : w.broken = false) (hC : w.work.Constraints)
    (hcalls : ∀ k ∈ w.calls, ¬ k.Writes)
    (hread : sheetRead env w.work.sheets job = some (connection, rows)) :
    ∃ w₁, readSheet env job w = (.ok (connection, rows), w₁) ∧ w₁.broken = false ∧
      SheetProgress w.work w₁.work ∧ w₁.committed = w.committed ∧ ∀ k ∈ w₁.calls, ¬ k.Writes := by
  have hruns : World.Runs (readSheet env job) w _ _ := readSheet_runs hw hC
  have husable := hruns.usable.mpr (by
    rw [(sheetRead_eq_some.mp hread).1]
    exact Fault.noConfusion)
  obtain ⟨hpost, hprogress⟩ := hruns.outcome husable
  have hsilent : Routine.Within (World.NoneNew ExternalCall.Writes) (readSheet env job) :=
    readSheet_within noneNew_writes_allows job
  have hreading := hsilent w
  rcases hrun : readSheet env job w with ⟨outcome, w₁⟩
  rw [hrun] at hpost hprogress hreading husable
  rw [hread] at hpost
  obtain rfl : outcome = .ok (connection, rows) := by
    cases outcome with
    | error e => cases hpost
    | ok read => exact congrArg Except.ok (Option.some.inj hpost)
  exact ⟨w₁, rfl, husable, hprogress, (readSheet_eq_ok hrun).committed,
    fun k hmem hk => hcalls k (hreading k hmem hk) hk⟩

/-! ## Writing -/

/-- What `writeSheet` leaves after the loop over the ISINs. -/
theorem writeSheet_end [Py.Context] {w₂ : ServiceWorld} {refreshes : Refreshes}
    {known : String → Option RefreshedInstrument}
    (hrefresh : refreshAll env connection (isinsOf connection rows) w = (.ok refreshes, w₂))
    (hvalues : refreshes.1 = (isinsOf connection rows).map fun isin => (isin, known isin)) :
    (writeSheet env connection rows w).2.committed = w₂.committed ∧
      (writeSheet env connection rows w).2.work = w₂.work ∧
      (writeSheet env connection rows w).2.broken = w₂.broken ∧
      ∀ k : ExternalCall, k.Writes → k ∉ w.calls →
        (k ∈ (writeSheet env connection rows w).2.calls ↔ w₂.expired = false ∧
          ∃ batch, sheetBatch env connection known rows = .ok batch ∧
            k = .updateCells connection.spreadsheetId connection.worksheetName batch) := by
  have hbatch := rowLoop_batch env connection refreshes.value rows (refreshAll_errors hrefresh)
  rw [sheetBatch_congr fun isin hisin => value_of_entries hvalues hisin] at hbatch
  have hsilent : Routine.Within (World.NoneNew ExternalCall.Writes)
      (refreshAll env connection (isinsOf connection rows)) :=
    refreshAll_within noneNew_writes_allows (fun _ _ _ => trivial) _ _
  have hnew := hsilent w
  rw [hrefresh] at hnew
  have hbefore : ∀ k : ExternalCall, k.Writes → k ∉ w.calls → k ∉ w₂.calls :=
    fun k hk hw hmem => hw (hnew k hmem hk)
  have hrefresh : refreshAll env connection
      (Py.distinct ((normalizedRows connection rows).map Prod.snd)) w = (.ok refreshes, w₂) :=
    hrefresh
  unfold writeSheet
  dsimp only
  rw [Routine.bind_of_ok hrefresh]
  cases hexpired : w₂.expired with
  | true =>
      -- the session has expired the connection, and `header_row` cannot be read
      rw [Routine.bind_of_error (World.readLoaded_of_expired hexpired)]
      refine ⟨rfl, rfl, rfl, fun k hk hw => ?_⟩
      exact iff_of_false (hbefore k hk hw) fun h => Bool.noConfusion h.1
  | false =>
  rw [Routine.bind_of_ok (World.readLoaded_of_not_expired hexpired)]
  simp only [true_and]
  cases hloop : rowLoop env connection refreshes.value
      (isinErrors connection rows ++ refreshes.2) (normalizedRows connection rows) with
  | error e =>
      rw [hloop] at hbatch
      rw [Routine.bind_of_error (Routine.lift_apply _ _)]
      refine ⟨rfl, rfl, rfl, fun k hk hw => ?_⟩
      rw [hbatch.of_error]
      exact iff_of_false (hbefore k hk hw) fun ⟨_, h, _⟩ => nomatch h
  | ok loop =>
      rw [hloop] at hbatch
      obtain ⟨batch, hcomputed, hsame⟩ := hbatch.of_ok
      rw [Routine.bind_of_ok (Routine.lift_apply _ _), Routine.modify_bind_apply, hsame]
      have hcalls : ∀ k : ExternalCall, k.Writes → k ∉ w.calls →
          (k ∈ w₂.calls ++ loop.calls ++
              [.updateCells connection.spreadsheetId connection.worksheetName batch] ↔
            ∃ batch, sheetBatch env connection known rows = .ok batch ∧
              k = .updateCells connection.spreadsheetId connection.worksheetName batch) := by
        intro k hk hw
        have hasked : k ∉ loop.calls := by
          intro hmem
          obtain ⟨_, _, _, rfl⟩ := hk
          rcases (rowLoop_effect hloop).calls _ hmem with hnone | ⟨_, _, _, h⟩
          · exact absurd hnone List.not_mem_nil
          · exact ExternalCall.noConfusion h
        rw [List.mem_append, List.mem_append, List.mem_singleton, or_iff_right (hbefore k hk hw),
          or_iff_right hasked, hcomputed]
        constructor
        · intro h
          exact ⟨batch, rfl, h⟩
        · rintro ⟨_, h, rfl⟩
          obtain rfl := Except.ok.inj h
          rfl
      cases env.updateCells connection.spreadsheetId connection.worksheetName batch with
      | error e => exact ⟨rfl, rfl, rfl, hcalls⟩
      | ok _ => exact ⟨rfl, rfl, rfl, hcalls⟩

/-- The end of a run makes no call. -/
theorem completeSheet_calls (connection : ConnectionId) (report : SyncReport) :
    ((World.edit (Tables.editSheets (·.complete connection job.id report)) >>= fun _ =>
      World.commit (env.faults .complete) >>= fun _ =>
        World.query (env.faults .reloadJob) fun _ => () : Service Unit) w).2.calls = w.calls :=
  sameCalls_allows.bind (sameCalls_allows.edit trivial)
    (fun _ => sameCalls_allows.bind (sameCalls_allows.commit _)
      fun _ => sameCalls_allows.query (fun _ => trivial) _) w

/-- **The one write of a run**: the batch of its rows, given what the loop over the ISINs
leaves of them, if the connection can still be read after it. -/
theorem execute_writes [Py.Context] (reads : Prop) (hw : w.broken = false) (hC : w.work.Constraints)
    (hcalls : ∀ k ∈ w.calls, ¬ k.Writes)
    (hread : sheetRead env w.work.sheets job = some (connection, rows))
    (hrefreshed : ∀ w₁ : ServiceWorld, w₁.broken = false → SheetProgress w.work w₁.work →
      w₁.committed = w.committed →
        ((refreshAll env connection (isinsOf connection rows) w₁).2.expired = false ↔ reads) ∧
        ∃ errors, (refreshAll env connection (isinsOf connection rows) w₁).1 =
          .ok ((isinsOf connection rows).map fun isin => (isin, known isin), errors))
    (hk : k.Writes) :
    k ∈ (execute env job w).2.calls ↔ reads ∧
      ∃ batch, sheetBatch env connection known rows = .ok batch ∧
        k = .updateCells connection.spreadsheetId connection.worksheetName batch := by
  obtain ⟨w₁, hrun, hw₁, hprogress, hcommitted, hnone⟩ :=
    readSheet_of_sheetRead hw hC hcalls hread
  obtain ⟨hexpired, errors, hentries⟩ := hrefreshed w₁ hw₁ hprogress hcommitted
  rcases hall : refreshAll env connection (isinsOf connection rows) w₁ with ⟨entries, w₂⟩
  rw [hall] at hexpired hentries
  obtain rfl : entries = _ := hentries
  obtain ⟨-, -, -, hwrites⟩ := writeSheet_end hall rfl
  rw [← hexpired, ← hwrites k hk fun hmem => hnone k hmem hk]
  -- how the run ended makes no difference
  unfold execute
  rw [Routine.bind_of_ok hrun]
  rcases hwrite : writeSheet env connection rows w₁ with ⟨report | report, w₃⟩
  · dsimp only
    rw [Routine.bind_of_error hwrite]
  · dsimp only
    rw [Routine.bind_of_ok hwrite, completeSheet_calls]

end BondTrading
