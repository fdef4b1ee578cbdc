/-
# BondTrading.Sheets.Written -- which cells the row loop writes

Every path through the loop body builds its cells from the same few columns, so a step
writes cells of its own row only, in columns the connection or the calculation owns, and
J or L only where the sheet has nothing there.
-/
import BondTrading.Sheets.Execute

namespace BondTrading

open Py (Decimal Dict Instant Zone)

/-! ## Columns -/

/-- The columns `execute` may write on every row: price, time and status of the
connection, and AD to AL. -/
def SheetConnectionModel.OwnColumn (connection : SheetConnectionModel) (column : String) : Prop :=
  column = connection.priceColumn ∨ connection.updatedAtColumn = some column ∨
    connection.statusColumn = some column ∨ column ∈ calculationColumns

/-- The columns `execute` may write on this row. -/
def Writable (connection : SheetConnectionModel) (row : SheetDataRow) (column : String) : Prop :=
  connection.OwnColumn column ∨ (column = "J" ∧ (row.get "J").isBlank = true) ∨
    (column = "L" ∧ (row.get "L").isBlank = true)

/-- Every column of `updates` is writable. -/
def Confined (connection : SheetConnectionModel) (row : SheetDataRow) (updates : RowUpdates) :
    Prop :=
  ∀ column ∈ updates.keys, Writable connection row column

section Builders

variable {connection : SheetConnectionModel} {row : SheetDataRow} {updates : RowUpdates}

theorem writable_price : Writable connection row connection.priceColumn := Or.inl (Or.inl rfl)

theorem writable_calculation {column : String} (h : column ∈ calculationColumns) :
    Writable connection row column :=
  Or.inl (Or.inr (Or.inr (Or.inr h)))

theorem writable_updatedAt {column : String} (h : connection.updatedAtColumn = some column) :
    Writable connection row column :=
  Or.inl (Or.inr (Or.inl h))

theorem writable_status {column : String} (h : connection.statusColumn = some column) :
    Writable connection row column :=
  Or.inl (Or.inr (Or.inr (Or.inl h)))

theorem Confined.set (h : Confined connection row updates) {column : String}
    (hcolumn : Writable connection row column) (value : CellContent) :
    Confined connection row (updates.set column value) := by
  intro k hk
  rcases Dict.mem_keys_set.mp hk with rfl | hk
  · exact hcolumn
  · exact h k hk

theorem Confined.update (h : Confined connection row updates)
    {other : List (String × CellContent)}
    (hother : ∀ column ∈ other.map Prod.fst, Writable connection row column) :
    Confined connection row (updates.update other) := by
  intro k hk
  rcases Dict.mem_keys_update.mp hk with hk | hk
  · exact h k hk
  · exact hother k hk

theorem confined_ofList {entries : List (String × CellContent)}
    (h : ∀ column ∈ entries.map Prod.fst, Writable connection row column) :
    Confined connection row (Dict.ofList entries) :=
  fun k hk => h k (Dict.mem_keys_ofList.mp hk)

theorem Confined.setOptional (h : Confined connection row updates) {column : Option String}
    (hcolumn : ∀ k, column = some k → Writable connection row k) (value : CellContent) :
    Confined connection row (updates.setOptional column value) := by
  unfold RowUpdates.setOptional
  split
  · rename_i k hk
    -- `given` keeps the column or drops it
    exact h.set (hcolumn k (Option.filter_eq_some_iff.mp hk).1) value
  · exact h

/-- The two columns a connection need not have. -/
theorem Confined.timeAndStatus (h : Confined connection row updates) (time status : CellContent) :
    Confined connection row
      (RowUpdates.setOptional (RowUpdates.setOptional updates connection.updatedAtColumn time)
        connection.statusColumn status) :=
  (h.setOptional (fun _ => writable_updatedAt) time).setOptional (fun _ => writable_status) status

theorem blank_columns_writable :
    ∀ column ∈ blankCalculationValues.map Prod.fst, Writable connection row column :=
  fun _ h => writable_calculation ((by decide : ∀ c ∈ blankCalculationValues.map Prod.fst,
    c ∈ calculationColumns) _ h)

theorem Confined.blank (h : Confined connection row updates) (status : String) :
    Confined connection row (updates.blank status) :=
  (h.update blank_columns_writable).set (writable_calculation (by decide)) _

theorem confined_failedRow : Confined connection row (failedRowUpdates connection) := by
  refine Confined.timeAndStatus (confined_ofList ?_) _ _
  intro column hcolumn
  rw [List.map_append, List.map_append, List.mem_append, List.mem_append] at hcolumn
  rcases hcolumn with (hcolumn | hcolumn) | hcolumn
  · rcases List.mem_cons.mp hcolumn with rfl | hcolumn
    · exact writable_price
    · obtain rfl := List.mem_singleton.mp hcolumn
      exact writable_calculation (by decide)
  · exact blank_columns_writable column hcolumn
  · obtain rfl := List.mem_singleton.mp hcolumn
    exact writable_calculation (by decide)

theorem confined_quote {zone : Zone} {value : RefreshedInstrument}
    (h : quoteUpdates connection zone value = .ok updates) : Confined connection row updates := by
  obtain ⟨accrued, -, hreturn⟩ := Py.bind_eq_ok.mp h
  obtain rfl := Except.ok.inj hreturn
  refine Confined.timeAndStatus (confined_ofList ?_) _ _
  intro column hcolumn
  rcases List.mem_cons.mp hcolumn with rfl | hcolumn
  · exact writable_price
  · have hAD : column = "AD" := List.mem_singleton.mp hcolumn
    subst hAD
    exact writable_calculation (by decide)

/-- L is written only where it is empty. -/
theorem Confined.commission (h : Confined connection row updates) :
    Confined connection row (commissionUpdates row updates) := by
  unfold commissionUpdates
  split
  · rename_i hblank
    exact h.set (Or.inr (Or.inr ⟨rfl, hblank⟩)) _
  · exact h

theorem Confined.calculation (h : Confined connection row updates)
    {calculation : SheetCurrentCalculation} {written : RowUpdates}
    (hok : calculationUpdates calculation updates = .ok written) :
    Confined connection row written := by
  simp only [calculationUpdates, Py.bind_eq_ok] at hok
  obtain ⟨af, -, ag, -, ah, -, ai, -, aj, -, ak, -, hreturn⟩ := hok
  obtain rfl := Except.ok.inj hreturn
  refine h.update fun column hcolumn => writable_calculation ?_
  have hcolumns : column ∈ ["AE", "AF", "AG", "AH", "AI", "AJ", "AK", "AL"] := hcolumn
  exact (by decide : ∀ c ∈ ["AE", "AF", "AG", "AH", "AI", "AJ", "AK", "AL"],
    c ∈ calculationColumns) column hcolumns

theorem Confined.purchase [Py.Context] (h : Confined connection row updates) {zone : Zone}
    {value : RefreshedInstrument} {purchase : SheetPurchaseInput} {written : RowUpdates}
    {error : Option PyError}
    (hok : purchaseUpdates connection zone value purchase updates = .ok (written, error)) :
    Confined connection row written := by
  simp only [purchaseUpdates, Py.bind_eq_ok] at hok
  obtain ⟨⟨count, total⟩, -, af, -, hok⟩ := hok
  have hcoupons : Confined connection row
      ((updates.set "AE" (.decimal (.ofInt count))).set "AF" af) :=
    (h.set (writable_calculation (by decide)) _).set (writable_calculation (by decide)) _
  have hAL : Writable connection row "AL" := writable_calculation (by decide)
  split at hok
  · obtain ⟨rfl, -⟩ := Prod.mk.inj (Except.ok.inj hok)
    exact hcoupons.set hAL _
  · obtain ⟨rfl, -⟩ := Prod.mk.inj (Except.ok.inj hok)
    exact hcoupons.set hAL _
  · split at hok
    · obtain ⟨calculated, hcalculated, hreturn⟩ := Py.bind_eq_ok.mp hok
      obtain ⟨rfl, -⟩ := Prod.mk.inj (Except.ok.inj hreturn)
      exact hcoupons.calculation hcalculated
    · obtain ⟨rfl, -⟩ := Prod.mk.inj (Except.ok.inj hok)
      exact hcoupons.set hAL _

end Builders

/-! ## One round -/

/-- What a round has done before it emits: errors of its row, and questions about accrued
interest. -/
structure RowProgress (row : SheetDataRow) (acc acc' : RowLoop) : Prop where
  updates : acc'.updates = acc.updates
  errors : ∃ errors : List SheetRowError, acc'.rowErrors = acc.rowErrors ++ errors ∧
    ∀ e ∈ errors, ∃ isin message, e = .row row.rowNumber isin message
  calls : ∀ c ∈ acc'.calls, c ∈ acc.calls ∨ ∃ secid board date,
    c = .accruedInterestOn secid board date

/-- A whole round: it ends with the cells of its row. -/
inductive RowEffect (connection : SheetConnectionModel) (row : SheetDataRow) (acc : RowLoop) :
    RowLoop → Prop where
  | emit {mid : RowLoop} {values : RowUpdates} (progress : RowProgress row acc mid)
      (confined : Confined connection row values) : RowEffect connection row acc (mid.emit row values)

section Round

variable {connection : SheetConnectionModel} {row : SheetDataRow} {acc acc' : RowLoop}

theorem RowProgress.refl (row : SheetDataRow) (acc : RowLoop) : RowProgress row acc acc :=
  ⟨rfl, ⟨[], (List.append_nil _).symm, fun _ h => absurd h List.not_mem_nil⟩, fun _ h => Or.inl h⟩

theorem RowProgress.addError (h : RowProgress row acc acc') (isin message : String) :
    RowProgress row acc (acc'.addError row isin message) := by
  obtain ⟨errors, herrors, hrows⟩ := h.errors
  refine ⟨h.updates, ⟨errors ++ [.row row.rowNumber isin message], ?_, ?_⟩, h.calls⟩
  · show acc'.rowErrors ++ _ = _
    rw [herrors, List.append_assoc]
  · intro e he
    rcases List.mem_append.mp he with he | he
    · exact hrows e he
    · exact ⟨isin, message, List.mem_singleton.mp he⟩

theorem ask_progress (acc : RowLoop) (moex : MoexClient) (value : RefreshedInstrument)
    (row : SheetDataRow) (isin : String) (date : Date) :
    RowProgress row acc (acc.ask moex value isin date) := by
  refine ⟨rfl, ⟨[], (List.append_nil _).symm, fun _ h => absurd h List.not_mem_nil⟩, ?_⟩
  intro c hc
  rcases List.mem_append.mp hc with hc | hc
  · exact Or.inl hc
  · exact Or.inr ⟨_, _, _, List.mem_singleton.mp hc⟩

theorem lookUp_progress (acc : RowLoop) (moex : MoexClient) (value : RefreshedInstrument)
    (row : SheetDataRow) (isin : String) (date : Date) :
    RowProgress row acc (acc.lookUp moex value row isin date).1 := by
  unfold RowLoop.lookUp
  split
  · exact RowProgress.refl row acc
  · split
    · exact ask_progress acc moex value row isin date
    · exact (ask_progress acc moex value row isin date).addError isin _

/-- J is written only where it is empty. -/
theorem purchaseAccrued_progress {moex : MoexClient} {value : RefreshedInstrument} {isin : String}
    {updates updates' : RowUpdates} {accrued : Option Decimal}
    (h : acc.purchaseAccrued moex value row isin updates = .ok (acc', accrued, updates'))
    (hupdates : Confined connection row updates) :
    RowProgress row acc acc' ∧ Confined connection row updates' := by
  simp only [RowLoop.purchaseAccrued, Py.bind_eq_ok] at h
  obtain ⟨purchaseDate, -, h⟩ := h
  split at h
  · rename_i date
    split at h
    · rename_i hblank
      have hprogress := lookUp_progress acc moex value row isin date
      split at h
      · rename_i asked found hlookUp
        rw [hlookUp] at hprogress
        obtain ⟨j, -, hreturn⟩ := Py.bind_eq_ok.mp h
        cases hreturn
        exact ⟨hprogress, hupdates.set (Or.inr (Or.inl ⟨rfl, hblank⟩)) j⟩
      · rename_i asked hlookUp
        rw [hlookUp] at hprogress
        cases h
        exact ⟨hprogress, hupdates⟩
    · cases h
      exact ⟨RowProgress.refl row acc, hupdates⟩
  · cases h
    exact ⟨RowProgress.refl row acc, hupdates⟩

/-- **One round writes cells of its own row**, in writable columns. -/
theorem rowStep_effect [Py.Context] {zone : Zone} {moex : MoexClient}
    {refreshed : String → Option RefreshedInstrument} {isin : String}
    (h : rowStep connection zone moex refreshed acc (row, isin) = .ok acc') :
    RowEffect connection row acc acc' := by
  simp only [rowStep] at h
  split at h
  · -- the refresh failed
    cases h
    exact .emit (RowProgress.refl row acc) confined_failedRow
  · obtain ⟨quote, hquote, h⟩ := Py.bind_eq_ok.mp h
    have hquote : Confined connection row quote := confined_quote hquote
    split at h
    · -- L is no number
      cases h
      exact .emit (RowProgress.refl row acc) (hquote.blank _)
    · obtain ⟨⟨asked, accrued, filled⟩, haccrued, h⟩ := Py.bind_eq_ok.mp h
      obtain ⟨hprogress, hfilled⟩ := purchaseAccrued_progress haccrued hquote.commission
      obtain ⟨⟨purchase, status⟩, -, h⟩ := Py.bind_eq_ok.mp h
      cases purchase with
      | none =>
          cases h
          exact .emit hprogress (hfilled.blank _)
      | some purchase =>
          obtain ⟨⟨written, error⟩, hwritten, h⟩ := Py.bind_eq_ok.mp h
          have hconfined := (hfilled.update blank_columns_writable).purchase hwritten
          cases error with
          | some e =>
              cases h
              exact .emit (hprogress.addError isin _) hconfined
          | none =>
              cases h
              exact .emit hprogress hconfined

end Round

/-! ## The whole loop -/

/-- What the loop did: the cells of every row, in order, and errors of these rows. -/
structure LoopEffect (connection : SheetConnectionModel) (entries : List (SheetDataRow × String))
    (acc acc' : RowLoop) : Prop where
  updates : ∃ written : List RowUpdates,
    List.Forall₂ (fun (e : SheetDataRow × String) values => Confined connection e.1 values) entries
      written ∧
      acc'.updates = acc.updates ++
        (entries.zip written).flatMap fun w => cellUpdates w.1.1.rowNumber w.2
  errors : ∃ errors : List SheetRowError, acc'.rowErrors = acc.rowErrors ++ errors ∧
    ∀ e ∈ errors, ∃ entry ∈ entries, ∃ isin message, e = .row entry.1.rowNumber isin message
  calls : ∀ c ∈ acc'.calls, c ∈ acc.calls ∨ ∃ secid board date,
    c = .accruedInterestOn secid board date

theorem LoopEffect.nil (connection : SheetConnectionModel) (acc : RowLoop) :
    LoopEffect connection [] acc acc :=
  ⟨⟨[], .nil, (List.append_nil _).symm⟩,
    ⟨[], (List.append_nil _).symm, fun _ h => absurd h List.not_mem_nil⟩, fun _ h => Or.inl h⟩

theorem LoopEffect.cons {connection : SheetConnectionModel} {entry : SheetDataRow × String}
    {entries : List (SheetDataRow × String)} {acc mid acc' : RowLoop}
    (hround : RowEffect connection entry.1 acc mid) (hrest : LoopEffect connection entries mid acc') :
    LoopEffect connection (entry :: entries) acc acc' := by
  obtain ⟨⟨written, hwritten, hupdates⟩, ⟨errors, herrors, hrows⟩, hcalls⟩ := hrest
  cases hround with
  | @emit asked values progress confined =>
      obtain ⟨roundErrors, hroundErrors, hroundRows⟩ := progress.errors
      refine ⟨⟨values :: written, .cons confined hwritten, ?_⟩,
        ⟨roundErrors ++ errors, ?_, ?_⟩, ?_⟩
      · rw [hupdates]
        show asked.updates ++ cellUpdates entry.1.rowNumber values ++ _ = _
        rw [progress.updates, List.append_assoc]
        rfl
      · rw [herrors]
        show asked.rowErrors ++ errors = _
        rw [hroundErrors, List.append_assoc]
      · intro e he
        rcases List.mem_append.mp he with he | he
        · obtain ⟨isin, message, heq⟩ := hroundRows e he
          exact ⟨entry, List.mem_cons_self, isin, message, heq⟩
        · obtain ⟨other, hother, hrow⟩ := hrows e he
          exact ⟨other, List.mem_cons_of_mem _ hother, hrow⟩
      · intro c hc
        rcases hcalls c hc with hc | hc
        · exact progress.calls c hc
        · exact Or.inr hc

theorem rowLoop_effect [Py.Context] {connection : SheetConnectionModel} {zone : Zone}
    {moex : MoexClient} {refreshed : String → Option RefreshedInstrument}
    {entries : List (SheetDataRow × String)} {acc acc' : RowLoop}
    (h : entries.foldlM (rowStep connection zone moex refreshed) acc = .ok acc') :
    LoopEffect connection entries acc acc' := by
  induction entries generalizing acc with
  | nil =>
      cases h
      exact LoopEffect.nil connection _
  | cons entry entries ih =>
      rw [List.foldlM_cons, Py.bind_eq_ok] at h
      obtain ⟨mid, hround, hrest⟩ := h
      exact LoopEffect.cons (rowStep_effect hround) (ih hrest)

end BondTrading
