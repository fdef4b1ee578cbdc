/-
# BondTrading.Lots.Overrides -- manual redemption prices and their reasons

A lot with a manual redemption price has a reason for it and the time it was set.  The
validators of the payloads see one payload each; `LotService.update` writes any subset of
the three fields.  One subset breaks the rule: a reason that is taken away without the price.
-/
import BondTrading.Imports.Service
import BondTrading.Lots.Schemas
import BondTrading.Machines.Runs

namespace BondTrading

open Py (Decimal Instant)
open Sql (updateWhere mem_updateWhere)
open Machines (Machine)

/-! ## The rule -/

/-- **A manual price has a reason and a time.** -/
def BondLotModel.Explained (lot : BondLotModel) : Prop :=
  lot.targetRedemptionPriceRubPerBond ≠ none →
    reasonGiven lot.targetRedemptionOverrideReason = true ∧
      lot.targetRedemptionOverrideUpdatedAt ≠ none

instance : DecidablePred BondLotModel.Explained := fun _ => inferInstanceAs (Decidable (_ → _))

def Explained (db : Database) : Prop := ∀ lot ∈ db.val.portfolio.lots, lot.Explained

instance : DecidablePred Explained := fun _ => inferInstanceAs (Decidable (∀ lot ∈ _, _))

/-! ## Requests -/

/-- The requests that write lots; the payloads have passed their validators. -/
inductive LotRequest where
  | create (owner : UserId) (payload : { p : LotCreate // p.Valid }) (draw : LotDraw)
  | update (owner : UserId) (id : LotId) (payload : { p : LotPatch // p.Valid }) (draw : LotDraw)
  | importCommit (owner : UserId) (preview : ImportPreview) (draw : ImportDraw)

/-- What a request leaves: the committed tables, or those before where it raised. -/
def LotRequest.settle {α : Type} (db : Database) : Except PyError (Database × α) → Database
  | .ok (db', _) => db'
  | .error _ => db

def LotRequest.apply (db : Database) : LotRequest → Database
  | .create owner payload draw => settle db (createLot db owner payload.val draw)
  | .update owner id payload draw => settle db (updateLot db owner id payload.val draw)
  | .importCommit owner preview draw =>
      settle db (BondTrading.importCommit db owner preview draw)

/-- The requests of all users, in any order. -/
def lotMachine : Machine Database LotRequest Unit where
  step db request := (request.apply db, ())

theorem lotMachine_next (db : Database) (request : LotRequest) :
    lotMachine.next db request = request.apply db := rfl

theorem LotRequest.settle_induction {α : Type} {P : Database → Prop} {db : Database} (h : P db)
    {answer : Except PyError (Database × α)} (hok : ∀ db' a, answer = .ok (db', a) → P db') :
    P (settle db answer) := by
  cases answer with
  | ok result => exact hok result.1 result.2 rfl
  | error e => exact h

/-! ## Creation and import -/

/-- A lot of a valid payload is explained. -/
theorem newLot_explained {payload : LotCreate} (h : payload.Valid) (owner : UserId)
    (instrument : InstrumentId) (draw : LotDraw) :
    (newLot owner instrument payload draw).Explained := by
  intro hprice
  refine ⟨LotCreate.reason_of_price h hprice, ?_⟩
  show payload.targetRedemptionPriceRubPerBond.map (fun _ => draw.now) ≠ none
  rw [Ne, Option.map_eq_none_iff]
  exact hprice

/-- So is a lot of a row, with a reason of its own. -/
theorem importedLot_explained (owner : UserId) (batch : BatchId) (sheetName : String)
    (row : ImportRow) (instrument : InstrumentId) (id : LotId) (now : Instant) :
    (importedLot owner batch sheetName row instrument id now).Explained := by
  intro hprice
  have hprice : row.targetRedemptionPriceRubPerBond ≠ none := fun h =>
    hprice (Option.map_eq_none_iff.mpr h)
  obtain ⟨price, hrow⟩ := Option.ne_none_iff_exists'.mp hprice
  simp only [importedLot, hrow, Option.map_some]
  exact ⟨by decide +kernel, Option.some_ne_none now⟩

theorem createLot_explained {db db' : Database} (hdb : Explained db) {owner : UserId}
    {payload : LotCreate} (hvalid : payload.Valid) {draw : LotDraw} {lot : LoadedLot}
    (h : createLot db owner payload draw = .ok (db', lot)) : Explained db' := by
  simp only [createLot, Py.bind_eq_ok] at h
  obtain ⟨isin, -, committed, hcommit, _, -, hreturn⟩ := h
  obtain ⟨rfl, -⟩ := Prod.mk.inj (Except.ok.inj hreturn)
  intro l hl
  rw [Sql.commit_eq_ok.mp hcommit] at hl
  rcases List.mem_append.mp hl with hold | hnew
  · exact hdb l hold
  · rw [List.mem_singleton.mp hnew]
    exact newLot_explained hvalid _ _ _

theorem importCommit_explained {db db' : Database} (hdb : Explained db) {owner : UserId}
    {preview : ImportPreview} {draw : ImportDraw} {answer : ImportBatchModel × Bool}
    (h : importCommit db owner preview draw = .ok (db', answer)) : Explained db' := by
  unfold importCommit finishImport at h
  split at h
  · -- a replay writes no lot
    obtain ⟨committed, hcommit, hreturn⟩ := Py.bind_eq_ok.mp h
    obtain ⟨rfl, -⟩ := Prod.mk.inj (Except.ok.inj hreturn)
    intro l hl
    rw [Sql.commit_eq_ok.mp hcommit] at hl
    exact hdb l hl
  · obtain ⟨committed, hcommit, hreturn⟩ := Py.bind_eq_ok.mp h
    obtain ⟨rfl, -⟩ := Prod.mk.inj (Except.ok.inj hreturn)
    intro l hl
    rw [Sql.commit_eq_ok.mp hcommit] at hl
    rcases List.mem_append.mp hl with hold | hnew
    · exact hdb l hold
    · obtain ⟨row, -, instrument, -, -, id, now, rfl⟩ :=
        exists_row_of_lot (importRows_spec db.val owner preview draw).2 l hnew
      exact importedLot_explained _ _ _ _ _ _ _

/-! ## Updates -/

/-- The three fields after a patch. -/
theorem BondLotModel.patch_override {lot patched : BondLotModel} {p : LotPatch} {now : Instant}
    (h : lot.patch p now = .ok patched) :
    patched.targetRedemptionPriceRubPerBond =
        p.targetRedemptionPriceRubPerBond.apply lot.targetRedemptionPriceRubPerBond ∧
      patched.targetRedemptionOverrideReason =
        (p.override now).1.apply lot.targetRedemptionOverrideReason ∧
      patched.targetRedemptionOverrideUpdatedAt =
        (p.override now).2.apply lot.targetRedemptionOverrideUpdatedAt := by
  simp only [BondLotModel.patch, Py.bind_eq_ok] at h
  obtain ⟨_, -, _, -, _, -, _, -, _, -, _, -, _, -, _, -, hreturn⟩ := h
  obtain rfl := Except.ok.inj hreturn
  split
  · -- nothing changed
    rename_i hsame
    exact ⟨congrArg BondLotModel.targetRedemptionPriceRubPerBond hsame.symm,
      congrArg BondLotModel.targetRedemptionOverrideReason hsame.symm,
      congrArg BondLotModel.targetRedemptionOverrideUpdatedAt hsame.symm⟩
  · exact ⟨rfl, rfl, rfl⟩

/-- The patch takes the reason away, and leaves the price. -/
def LotPatch.BlanksReason (p : LotPatch) : Prop :=
  p.targetRedemptionPriceRubPerBond = none ∧
    ∃ reason, p.targetRedemptionOverrideReason = some reason ∧ reasonGiven reason = false

/-- **What a patch does to the rule**: it keeps it, unless it blanks the reason of a lot with a
price. -/
theorem patch_explained {lot patched : BondLotModel} {p : LotPatch} {now : Instant}
    (hlot : lot.Explained) (hvalid : p.Valid) (h : lot.patch p now = .ok patched)
    (hkeeps : p.BlanksReason → lot.targetRedemptionPriceRubPerBond = none) :
    patched.Explained := by
  obtain ⟨hprice, hreason, htime⟩ := BondLotModel.patch_override h
  unfold BondLotModel.Explained
  rw [hprice, hreason, htime]
  unfold LotPatch.override
  cases hp : p.targetRedemptionPriceRubPerBond with
  | some value =>
      cases value with
      | none =>
          -- the price is taken away, with everything about it
          intro hnone
          exact absurd rfl hnone
      | some price =>
          intro _
          have hgiven := LotPatch.reason_of_price hvalid hp
          cases hr : p.targetRedemptionOverrideReason with
          | none =>
              rw [hr] at hgiven
              exact absurd hgiven (by decide)
          | some reason =>
              rw [hr] at hgiven
              exact ⟨hgiven, Option.some_ne_none now⟩
  | none =>
      cases hr : p.targetRedemptionOverrideReason with
      | none => exact hlot
      | some reason =>
          intro hstill
          have hstill : lot.targetRedemptionPriceRubPerBond ≠ none := hstill
          refine ⟨?_, Option.some_ne_none now⟩
          show reasonGiven reason = true
          by_contra hblank
          rw [Bool.not_eq_true] at hblank
          exact hstill (hkeeps ⟨hp, reason, hr, hblank⟩)

/-- And then it breaks the rule. -/
theorem patch_blanks {lot patched : BondLotModel} {p : LotPatch} {now : Instant}
    (h : lot.patch p now = .ok patched) (hblanks : p.BlanksReason)
    (hprice : lot.targetRedemptionPriceRubPerBond ≠ none) : ¬ patched.Explained := by
  obtain ⟨hpatchedPrice, hreason, -⟩ := BondLotModel.patch_override h
  obtain ⟨hp, reason, hr, hblank⟩ := hblanks
  intro hexplained
  have hstill : patched.targetRedemptionPriceRubPerBond ≠ none := by
    rw [hpatchedPrice, hp]
    exact hprice
  have hgiven := (hexplained hstill).1
  rw [hreason, LotPatch.override, hp, hr] at hgiven
  exact Bool.false_ne_true (hblank.symm.trans hgiven)

/-- An update that was committed, and the lot it wrote. -/
theorem updateLot_written {db db' : Database} {owner : UserId} {id : LotId} {p : LotPatch}
    {draw : LotDraw} {answer : LoadedLot} (h : updateLot db owner id p draw = .ok (db', answer)) :
    ∃ lot ∈ db.val.portfolio.lots, lot.id = id ∧ lot.ownerId = owner ∧
      ∃ patched, lot.patch p draw.now = .ok patched ∧
        db'.val.portfolio.lots =
          updateWhere (fun l => l.id = patched.id) (fun _ => patched) db.val.portfolio.lots := by
  simp only [updateLot, Py.bind_eq_ok] at h
  obtain ⟨found, hfound, patched, hpatch, committed, hcommit, _, -, hreturn⟩ := h
  obtain ⟨rfl, -⟩ := Prod.mk.inj (Except.ok.inj hreturn)
  obtain ⟨hmem, hid, howner, -⟩ := getLot_eq_some (Py.orRaise_eq_ok.mp hfound)
  refine ⟨found.lot, hmem, hid, howner, patched, hpatch, ?_⟩
  rw [Sql.commit_eq_ok.mp hcommit]
  rfl

/-- The request does not take the reason of a price away. -/
def LotRequest.KeepsReasons (db : Database) : LotRequest → Prop
  | .update owner id payload _ => payload.val.BlanksReason →
      ∀ lot ∈ db.val.portfolio.lots, lot.id = id → lot.ownerId = owner →
        lot.targetRedemptionPriceRubPerBond = none
  | _ => True

/-- The request is an update that raised. -/
def LotRequest.Refused (db : Database) : LotRequest → Prop
  | .update owner id payload draw => ∃ e, updateLot db owner id payload.val draw = .error e
  | _ => False

theorem updateLot_explained {db db' : Database} (hdb : Explained db) {owner : UserId} {id : LotId}
    {payload : { p : LotPatch // p.Valid }} {draw : LotDraw} {answer : LoadedLot}
    (h : updateLot db owner id payload.val draw = .ok (db', answer))
    (hkeeps : (LotRequest.update owner id payload draw).KeepsReasons db) : Explained db' := by
  obtain ⟨lot, hmem, hid, howner, patched, hpatch, hlots⟩ := updateLot_written h
  have hpatched : patched.Explained := by
    apply patch_explained (hdb lot hmem) payload.property hpatch
    intro hblanks
    exact hkeeps hblanks lot hmem hid howner
  intro l hl
  rw [hlots] at hl
  obtain ⟨l₀, hl₀, rfl⟩ := mem_updateWhere.mp hl
  split
  · exact hpatched
  · exact hdb l₀ hl₀

theorem updateLot_blanks {db db' : Database} {owner : UserId} {id : LotId}
    {payload : { p : LotPatch // p.Valid }} {draw : LotDraw} {answer : LoadedLot}
    (h : updateLot db owner id payload.val draw = .ok (db', answer))
    (hblanks : ¬ (LotRequest.update owner id payload draw).KeepsReasons db) : ¬ Explained db' := by
  obtain ⟨lot, hmem, hid, howner, patched, hpatch, hlots⟩ := updateLot_written h
  simp only [LotRequest.KeepsReasons, not_forall] at hblanks
  obtain ⟨hreason, other, hother, hotherId, -, hprice⟩ := hblanks
  -- the identifier of a lot is unique
  have hsame : other = lot :=
    db.property.portfolio.lotIds.eq hother hmem (hotherId.trans hid.symm)
  subst hsame
  intro hexplained
  apply patch_blanks hpatch hreason hprice
  apply hexplained
  rw [hlots]
  refine mem_updateWhere.mpr ⟨other, hother, ?_⟩
  rw [if_pos (decide_eq_true (BondLotModel.patch_keys hpatch).1.symm)]

/-! ## Runs -/

/-- **One request** keeps the rule exactly if it keeps the reasons or is refused. -/
theorem lotMachine_explained_iff (db : Database) (request : LotRequest) (hdb : Explained db) :
    Explained (lotMachine.next db request) ↔ request.KeepsReasons db ∨ request.Refused db := by
  rw [lotMachine_next]
  cases request with
  | create owner payload draw =>
      refine iff_of_true ?_ (Or.inl trivial)
      show Explained (LotRequest.settle db (createLot db owner payload.val draw))
      refine LotRequest.settle_induction (P := Explained) hdb ?_
      intro db' lot h
      exact createLot_explained hdb payload.property h
  | importCommit owner preview draw =>
      refine iff_of_true ?_ (Or.inl trivial)
      show Explained (LotRequest.settle db (importCommit db owner preview draw))
      refine LotRequest.settle_induction (P := Explained) hdb ?_
      intro db' answer h
      exact importCommit_explained hdb h
  | update owner id payload draw =>
      show Explained (LotRequest.settle db (updateLot db owner id payload.val draw)) ↔ _
      cases h : updateLot db owner id payload.val draw with
      | error e => exact iff_of_true hdb (Or.inr ⟨e, h⟩)
      | ok result =>
          obtain ⟨db', answer⟩ := result
          have hnot : ¬ (LotRequest.update owner id payload draw).Refused db := by
            rintro ⟨e, he⟩
            cases h.symm.trans he
          rw [or_iff_left hnot]
          constructor
          · intro hexplained
            by_contra hblanks
            exact updateLot_blanks h hblanks hexplained
          · exact updateLot_explained hdb h

/-- **Every price keeps its reason and its time in every run whose patches do not blank the
reason of a price they leave**; and a run that does keep them has no such patch that was not
refused. -/
theorem overrides_explained {db : Database} (hdb : Explained db) (requests : List LotRequest) :
    (lotMachine.Along (fun db request => request.KeepsReasons db) db requests →
        lotMachine.Always Explained db requests) ∧
      (lotMachine.Always Explained db requests →
        lotMachine.Along (fun db request => request.KeepsReasons db ∨ request.Refused db) db
          requests) := by
  have hiff := lotMachine.always_iff_along (W := fun _ => True) (fun _ _ _ => trivial)
    (fun db request _ => lotMachine_explained_iff db request) trivial hdb requests
  refine ⟨?_, hiff.mp⟩
  intro halong
  apply hiff.mpr
  exact Machine.Along.imp lotMachine (W := fun _ => True) (fun _ _ _ _ => trivial)
    (fun _ _ _ => Or.inl) trivial halong

/-- A payload of one bond with a manual price. -/
def pricedLot : LotCreate where
  isin := "RU000A107SX3"
  sourceName := none
  purchaseDate := 739761
  quantity := .finite 1
  purchaseCleanPriceRubPerBond := .finite 950
  purchaseAccruedInterestRubPerBond := .finite 0
  purchaseCommissionRubPerBond := .finite 0
  targetEventType := "maturity"
  targetEventDate := 740027
  targetRedemptionPriceRubPerBond := some (.finite 1000)
  targetRedemptionOverrideReason := some "agreed"
  saleCommissionRubPerBond := .finite 0
  plannedYieldManualReference := none
  sourceRowNumber := none
  sourceSheetName := "manual"
  notes := none

theorem pricedLot_valid : pricedLot.Valid := by
  refine ⟨?_, by decide +kernel⟩
  constructor
  case targetRedemption => exact fun d hd => Option.some.inj hd ▸ by decide
  case reason => exact fun s hs => Option.some.inj hs ▸ by decide
  case plannedYield => exact fun d hd => nomatch hd
  all_goals decide

/-- A patch of the reason alone. -/
def reasonPatch (reason : Option String) : LotPatch where
  purchaseDate := none
  quantity := none
  purchaseCleanPriceRubPerBond := none
  purchaseAccruedInterestRubPerBond := none
  purchaseCommissionRubPerBond := none
  targetEventType := none
  targetEventDate := none
  targetRedemptionPriceRubPerBond := none
  targetRedemptionOverrideReason := some reason
  saleCommissionRubPerBond := none
  plannedYieldManualReference := none
  notes := none

theorem reasonPatch_valid {reason : Option String} (h : FieldOptional FieldReason reason) :
    (reasonPatch reason).Valid := by
  refine ⟨?_, rfl⟩
  constructor
  case reason =>
    intro value hvalue
    obtain rfl := Option.some.inj hvalue
    exact h
  all_goals exact fun value hvalue => nomatch hvalue

theorem fieldOptional_none {α : Type} (P : α → Prop) : FieldOptional P none :=
  fun _ h => nomatch h

/-- A lot with a manual price is created, and its reason is patched. -/
def reasonRequests (reason : Option String) (h : FieldOptional FieldReason reason) :
    List LotRequest :=
  [.create 1 ⟨pricedLot, pricedLot_valid⟩ ⟨1, 1, 1, 0⟩,
    .update 1 1 ⟨reasonPatch reason, reasonPatch_valid h⟩ ⟨2, 2, 2, 1⟩]

/-- **A patch of the reason to `null` is accepted, and leaves the price without one.** -/
theorem null_reason_leaves_price :
    ¬ lotMachine.Always Explained Database.empty
      (reasonRequests none (fieldOptional_none _)) := by
  rintro ⟨-, -, hlast⟩
  have hlast : Explained (lotMachine.run Database.empty
      (reasonRequests none (fieldOptional_none _))) := hlast
  exact absurd hlast (by decide +kernel)

theorem overrides_explained_reworded :
    ∃ h, lotMachine.Always Explained Database.empty (reasonRequests (some "agreed again") h) := by
  refine ⟨fun s hs => Option.some.inj hs ▸ by decide, ?_⟩
  refine (overrides_explained (fun lot hlot => absurd hlot List.not_mem_nil) _).1 ?_
  refine ⟨trivial, ?_, trivial⟩
  rintro ⟨-, reason, hreason, hblank⟩
  obtain rfl := Option.some.inj hreason
  exact absurd hblank (by decide +kernel)

end BondTrading
