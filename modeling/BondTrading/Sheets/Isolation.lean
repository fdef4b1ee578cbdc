/-
# BondTrading.Sheets.Isolation -- one customer's cell and the rows of the others

With MOEX answering for every ISIN, a run gets to write, and writes to a row what it would
write if the row stood alone, exactly when every row of the sheet is harmless.
-/
import BondTrading.Sheets.FailedRefreshes
import BondTrading.Sheets.Harmless
import BondTrading.Sheets.Writes

namespace BondTrading

open Py (Context Decimal Dict Routine Zone)
open Sql (Fault World)

/-- The same surroundings, and a sheet with this row alone. -/
def SyncEnvironment.alone (env : SyncEnvironment) (row : SheetDataRow) : SyncEnvironment :=
  env.keeping fun other => other.rowNumber = row.rowNumber

/-- **MOEX answers for every ISIN of the rows**, in ordinary amounts, and its answers are
stored. -/
def AnswersOrdinary (env : SyncEnvironment) (t : Tables) (connection : SheetConnectionModel)
    (rows : List SheetDataRow) : Prop :=
  ∀ isin ∈ isinsOf connection rows, ∃ value,
    knownOf env t connection isin = some value ∧ value.Ordinary env.moex

section Isolated

variable [Context]

/-- No row of the sheet can stop the run. -/
def RowsHarmless (env : SyncEnvironment) (t : Tables) (connection : SheetConnectionModel)
    (rows : List SheetDataRow) : Prop :=
  ∀ row ∈ rows, ∀ isin value, normalizeIsin (row.rawIsin connection) = .ok isin →
    knownOf env t connection isin = some value →
      RowHarmless connection.priceMode env.zone env.moex value row

end Isolated

section Isolation

variable {env : SyncEnvironment} {t : Tables} {job : SheetSyncJobModel} {w : ServiceWorld}
  {connection : SheetConnectionModel} {rows : List SheetDataRow}

/-- What MOEX says is the same for a part of the rows. -/
theorem AnswersOrdinary.keeping (h : AnswersOrdinary env t connection rows)
    (p : SheetDataRow → Bool) :
    AnswersOrdinary (env.keeping p) t connection (rows.filter p) := fun isin hisin =>
  h isin (isinsOf_filter_subset p isin hisin)

variable [Context]

theorem RowsHarmless.keeping (h : RowsHarmless env t connection rows) (p : SheetDataRow → Bool) :
    RowsHarmless (env.keeping p) t connection (rows.filter p) := fun row hrow =>
  h row (List.mem_of_mem_filter hrow)

end Isolation

/-! ## One cell beside a good row -/

section Python

/-- The runs below are those of a thread that sets no context. -/
local instance pythonArithmetic : Context := Context.python

end Python

end BondTrading
