/-
# BondTrading.Lots.Schemas -- the payloads about lots that the API accepts

The fields and the validators of `LotCreate` and `LotPatch` in `api/schemas.py`.  A decimal
field of a schema takes finite numbers only.
-/
import BondTrading.Lots.Service

namespace BondTrading

open Py (Decimal raiseIf)

instance : DecidablePred Decimal.IsFinite
  | .finite q => isTrue ⟨q, rfl⟩
  | .infinity _ => isFalse fun ⟨_, h⟩ => nomatch h
  | .nan => isFalse fun ⟨_, h⟩ => nomatch h
  | .snan => isFalse fun ⟨_, h⟩ => nomatch h

/-- `Decimal = Field(gt=0)`. -/
def FieldPositive (d : Decimal) : Prop := d.IsFinite ∧ d.Positive

/-- `Decimal = Field(ge=0)`. -/
def FieldNonneg (d : Decimal) : Prop := d.IsFinite ∧ d.Nonneg

instance : DecidablePred FieldPositive := fun _ => inferInstanceAs (Decidable (_ ∧ _))
instance : DecidablePred FieldNonneg := fun _ => inferInstanceAs (Decidable (_ ∧ _))

/-- A field that may be `None`. -/
def FieldOptional {α : Type} (P : α → Prop) (value : Option α) : Prop := ∀ a ∈ value, P a

/-- `Literal["maturity", "offer"]`. -/
def FieldEventType (s : String) : Prop := s = "maturity" ∨ s = "offer"

/-- `str = Field(max_length=1000)`. -/
def FieldReason (s : String) : Prop := s.length ≤ 1000

instance : DecidablePred FieldEventType := fun _ => inferInstanceAs (Decidable (_ ∨ _))
instance : DecidablePred FieldReason := fun _ => inferInstanceAs (Decidable (_ ≤ _))

/-- `(reason or "").strip()` is not empty. -/
def reasonGiven (reason : Option String) : Bool := ¬ (Py.Text.strip (reason.getD "")).isEmpty

/-- The text of the `ValueError` of both validators. -/
def reasonRequired : String := "A reason is required for a manual target redemption override"

/-! ## `LotCreate` -/

structure LotCreate.FieldsValid (payload : LotCreate) : Prop where
  quantity : FieldPositive payload.quantity
  cleanPrice : FieldNonneg payload.purchaseCleanPriceRubPerBond
  accruedInterest : FieldNonneg payload.purchaseAccruedInterestRubPerBond
  commission : FieldNonneg payload.purchaseCommissionRubPerBond
  targetEventType : FieldEventType payload.targetEventType
  targetRedemption : FieldOptional FieldNonneg payload.targetRedemptionPriceRubPerBond
  reason : FieldOptional FieldReason payload.targetRedemptionOverrideReason
  saleCommission : FieldNonneg payload.saleCommissionRubPerBond
  plannedYield : FieldOptional Decimal.IsFinite payload.plannedYieldManualReference

/-- `require_override_reason`. -/
def LotCreate.requireOverrideReason (payload : LotCreate) : Except String Unit :=
  raiseIf (payload.targetRedemptionPriceRubPerBond ≠ none ∧
    ¬ reasonGiven payload.targetRedemptionOverrideReason) reasonRequired

/-- A payload the API passes on. -/
structure LotCreate.Valid (payload : LotCreate) : Prop where
  fields : payload.FieldsValid
  reason : payload.requireOverrideReason = .ok ()

/-! ## `LotPatch` -/

/-- A field of a patch: not set, `None`, or a value that meets `P`. -/
def FieldPatch {α : Type} (P : α → Prop) (patch : Patch α) : Prop :=
  ∀ value ∈ patch, FieldOptional P value

structure LotPatch.FieldsValid (payload : LotPatch) : Prop where
  quantity : FieldPatch FieldPositive payload.quantity
  cleanPrice : FieldPatch FieldNonneg payload.purchaseCleanPriceRubPerBond
  accruedInterest : FieldPatch FieldNonneg payload.purchaseAccruedInterestRubPerBond
  commission : FieldPatch FieldNonneg payload.purchaseCommissionRubPerBond
  targetEventType : FieldPatch FieldEventType payload.targetEventType
  targetRedemption : FieldPatch FieldNonneg payload.targetRedemptionPriceRubPerBond
  reason : FieldPatch FieldReason payload.targetRedemptionOverrideReason
  saleCommission : FieldPatch FieldNonneg payload.saleCommissionRubPerBond
  plannedYield : FieldPatch Decimal.IsFinite payload.plannedYieldManualReference

/-- `require_override_reason`; it sees the fields of the payload, not those of the lot. -/
def LotPatch.requireOverrideReason (payload : LotPatch) : Except String Unit :=
  raiseIf (payload.targetRedemptionPriceRubPerBond.join ≠ none ∧
    ¬ reasonGiven payload.targetRedemptionOverrideReason.join) reasonRequired

/-- A patch the API passes on. -/
structure LotPatch.Valid (payload : LotPatch) : Prop where
  fields : payload.FieldsValid
  reason : payload.requireOverrideReason = .ok ()

theorem LotCreate.reason_of_price {payload : LotCreate} (h : payload.Valid)
    (hprice : payload.targetRedemptionPriceRubPerBond ≠ none) :
    reasonGiven payload.targetRedemptionOverrideReason = true := by
  have hnot := Py.raiseIf_eq_ok.mp h.reason
  simp only [not_and, not_not] at hnot
  exact hnot hprice

theorem LotPatch.reason_of_price {payload : LotPatch} (h : payload.Valid) {price : Decimal}
    (hprice : payload.targetRedemptionPriceRubPerBond = some (some price)) :
    reasonGiven payload.targetRedemptionOverrideReason.join = true := by
  have hnot := Py.raiseIf_eq_ok.mp h.reason
  simp only [not_and, not_not] at hnot
  apply hnot
  rw [hprice]
  exact Option.some_ne_none price

end BondTrading
