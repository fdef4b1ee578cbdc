/-
# BondTrading.Sheets.Delivery -- calls of the gateway on their way to Google

Any number of calls of `update_cells` and `read_rows` are under way at once, of one process or
of several.  Each goes through the attempts of `_request`.  An attempt may not come to Google, may
be answered, or may fail while its request is on the way: then Google gets it at any later
time, also after the call has ended, or never.  `trafficMachine` has one event for every call
that begins, for every attempt and for every request that arrives late.

What a call returns is what `_request` gives for the attempts it made.
-/
import BondTrading.Machines.Runs
import BondTrading.Sheets.Sparse

namespace BondTrading

open Py (Decimal orRaise)
open Machines (Machine Entry)

/-! ## Google -/

/-- Google Sheets: the values of a range, and what a batch update makes of the sheets. -/
structure SheetsServer (σ : Type) where
  values : σ → String → String → Option RawValues
  write : σ → String → List ValueRange → σ
  totalUpdatedCells : σ → String → List ValueRange → Option ℕ

namespace SheetsServer

variable {σ : Type} (server : SheetsServer σ)

/-- What is left of the sheets after a request. -/
def after (s : σ) : GoogleRequest → σ
  | .getValues _ _ => s
  | .batchUpdate spreadsheetId data => server.write s spreadsheetId data

/-- The keys of its answer that the gateway looks at. -/
def reply (s : σ) : GoogleRequest → Option RawValues × Option ℕ
  | .getValues spreadsheetId cellRange => (server.values s spreadsheetId cellRange, none)
  | .batchUpdate spreadsheetId data => (none, server.totalUpdatedCells s spreadsheetId data)

/-- Its answer to a request. -/
def answer (s : σ) (request : GoogleRequest) : GooglePayload :=
  .object (server.reply s request).1 (server.reply s request).2

end SheetsServer

/-! ## Attempts -/

/-- A response that `_request` returns. -/
def GoogleAttempt.isReturned : GoogleAttempt → Bool
  | .response statusCode _ => 200 ≤ statusCode && statusCode < 300
  | .failed _ | .raised _ => false

/-- What the `except` clause of `_request` catches. -/
def GoogleAttempt.isCaught : GoogleAttempt → Bool
  | .response statusCode _ => statusCode ∈ [429, 500, 502, 503, 504, 401, 403]
  | .failed _ => true
  | .raised _ => false

/-- An attempt without an answer. -/
abbrev FailedAttempt := { attempt : GoogleAttempt // attempt.isReturned = false }

/-- What becomes of an attempt. -/
inductive Delivery where
  /-- It fails, and nothing of it is on its way. -/
  | refused (attempt : FailedAttempt)
  /-- It fails for the caller; Google may still get the request. -/
  | lost (attempt : FailedAttempt)
  | answered

/-- How the attempt ends for its caller, `payload` being the answer of Google. -/
def Delivery.attempt (payload : GooglePayload) : Delivery → GoogleAttempt
  | .refused attempt | .lost attempt => attempt
  | .answered => .response 200 payload

/-! ## Calls -/

inductive SheetCall where
  | updateCells (spreadsheetId worksheetName : String) (updates : List CellUpdate)
  | readRows (spreadsheetId worksheetName : String) (columns : List String) (firstDataRow : ℕ)
  deriving DecidableEq, Repr

/-- What a call returns or raises. -/
inductive SheetAnswer where
  | updatedCells (result : Except PyError ℕ)
  | rows (result : Except PyError (List SheetDataRow))

/-- The lines of `read_rows` up to its request: `normalized`, `first_column_number` and the
request. -/
def rowsRequest (spreadsheetId worksheetName : String) (columns : List String)
    (firstDataRow : ℕ) : Except PyError (List String × ℕ × GoogleRequest) := do
  let normalized ← columns.mapM normalizeColumn
  let firstColumnNumber ← orRaise (normalized.map columnNumber).min?
    (.valueError "min() iterable argument is empty")
  let lastColumnNumber ← orRaise (normalized.map columnNumber).max?
    (.valueError "max() iterable argument is empty")
  let firstColumn ← columnName firstColumnNumber
  let lastColumn ← columnName lastColumnNumber
  return (normalized, firstColumnNumber, .getValues spreadsheetId
    (GoogleServiceAccountSheetsGateway.rowsRange worksheetName firstColumn lastColumn firstDataRow))

/-- The lines of `read_rows` behind its request. -/
def rowsAnswered (normalized : List String) (firstColumnNumber firstDataRow : ℕ) :
    RawValues → Except PyError (List SheetDataRow)
  | .other => throw (.external "Google API вернул некорректный диапазон строк")
  | .rows rawValues => do
      let rows ← rawValues.zipIdx.mapM fun (rawRow, offset) =>
        GoogleServiceAccountSheetsGateway.keepRow normalized firstColumnNumber
          (firstDataRow + offset) rawRow
      return rows.reduceOption

namespace GoogleServiceAccountSheetsGateway

variable (g : GoogleServiceAccountSheetsGateway)

/-- The request of a call, if it comes to one. -/
def requestOf : SheetCall → Option GoogleRequest
  | .updateCells spreadsheetId worksheetName updates =>
      if updates = [] then none
      else some (.batchUpdate spreadsheetId (updates.map (g.updateRange worksheetName)))
  | .readRows spreadsheetId worksheetName columns firstDataRow =>
      (rowsRequest spreadsheetId worksheetName columns firstDataRow).toOption.map fun r => r.2.2

/-- The gateway of a call whose attempts went so. -/
def replaying (attempts : List GoogleAttempt) : GoogleServiceAccountSheetsGateway :=
  { g with attempt := fun k _ => attempts.getD k (.failed "") }

/-- The loop of `_request` goes on after these attempts. -/
def goesOn (attempts : List GoogleAttempt) : Bool :=
  attempts.all GoogleAttempt.isCaught && attempts.length < g.retries

/-- What a call with these attempts returns or raises. -/
def answerTo (attempts : List GoogleAttempt) : SheetCall → SheetAnswer
  | .updateCells spreadsheetId worksheetName updates =>
      .updatedCells ((g.replaying attempts).updateCells spreadsheetId worksheetName updates)
  | .readRows spreadsheetId worksheetName columns firstDataRow =>
      .rows ((g.replaying attempts).readRows spreadsheetId worksheetName columns firstDataRow)

end GoogleServiceAccountSheetsGateway

/-! ## The traffic -/

/-- A call that waits for an attempt. -/
structure PendingCall where
  id : ℕ
  call : SheetCall
  request : GoogleRequest
  attempts : List GoogleAttempt

/-- The sheets, the calls there were, those under way by their number, and the requests of failed
attempts that Google may still get. -/
structure SheetTraffic (σ : Type) where
  sheets : σ
  calls : List SheetCall
  pending : ℕ → Option PendingCall
  onTheWay : List PendingCall

inductive TrafficEvent where
  | call (call : SheetCall)
  | attempt (id : ℕ) (delivery : Delivery)
  | arrive (index : ℕ)

/-- A call ended. -/
structure CallEnd where
  id : ℕ
  call : SheetCall
  answer : SheetAnswer

namespace SheetTraffic

variable {σ : Type} (g : GoogleServiceAccountSheetsGateway) (server : SheetsServer σ)

/-- Nothing is under way. -/
def quiet (s : σ) : SheetTraffic σ := ⟨s, [], fun _ => none, []⟩

def setPending (t : SheetTraffic σ) (id : ℕ) (pending : Option PendingCall) : SheetTraffic σ :=
  { t with pending := fun k => if k = id then pending else t.pending k }

/-- The call makes another attempt, or it ends. -/
def settle (t : SheetTraffic σ) (p : PendingCall) : SheetTraffic σ × Option CallEnd :=
  if g.goesOn p.attempts then (t.setPending p.id (some p), none)
  else (t.setPending p.id none, some ⟨p.id, p.call, g.answerTo p.attempts p.call⟩)

/-- Google gets the request of a call. -/
def received (t : SheetTraffic σ) (p : PendingCall) : SheetTraffic σ :=
  { t with sheets := server.after t.sheets p.request }

/-- What an attempt of a call makes of the sheets and of the requests on the way. -/
def delivered (t : SheetTraffic σ) (p : PendingCall) : Delivery → SheetTraffic σ
  | .refused _ => t
  | .lost _ => { t with onTheWay := t.onTheWay ++ [p] }
  | .answered => t.received server p

def step (t : SheetTraffic σ) : TrafficEvent → SheetTraffic σ × Option CallEnd
  | .call call =>
      let next := { t with calls := t.calls ++ [call] }
      match g.requestOf call with
      | none => (next, some ⟨t.calls.length, call, g.answerTo [] call⟩)
      | some request => next.settle g ⟨t.calls.length, call, request, []⟩
  | .attempt id delivery =>
      match t.pending id with
      | none => (t, none)
      | some p =>
          let attempt := delivery.attempt (server.answer t.sheets p.request)
          (t.delivered server p delivery).settle g { p with attempts := p.attempts ++ [attempt] }
  | .arrive index =>
      match t.onTheWay[index]? with
      | none => (t, none)
      | some p => ({ t.received server p with onTheWay := t.onTheWay.eraseIdx index }, none)

end SheetTraffic

/-- The calls of a gateway and Google. -/
def trafficMachine {σ : Type} (g : GoogleServiceAccountSheetsGateway) (server : SheetsServer σ) :
    Machine (SheetTraffic σ) TrafficEvent (Option CallEnd) := ⟨SheetTraffic.step g server⟩

/-! ## The loop of `_request` over the attempts of a call -/

section Loop

variable {g : GoogleServiceAccountSheetsGateway} {request : GoogleRequest}
  {init : List GoogleAttempt} {last : GoogleAttempt} {payload : GooglePayload}

theorem goesOn_iff {attempts : List GoogleAttempt} :
    g.goesOn attempts ↔
      (∀ a ∈ attempts, a.isCaught) ∧ attempts.length < g.retries := by
  simp [GoogleServiceAccountSheetsGateway.goesOn, List.all_eq_true]

/-- An attempt that is caught: the loop goes on with its message. -/
theorem requestFrom_caught {attempt : ℕ} (h : (g.attempt attempt request).isCaught)
    (rest : List ℕ) (lastError : Option String) :
    ∃ message, g.requestFrom request (attempt :: rest) lastError =
      g.requestFrom request rest (some message) := by
  rw [GoogleServiceAccountSheetsGateway.requestFrom]
  cases hattempt : g.attempt attempt request with
  | failed message => exact ⟨message, rfl⟩
  | raised error =>
      rw [hattempt] at h
      cases h
  | response statusCode payload =>
      rw [hattempt] at h
      have hcode : statusCode ∈ [429, 500, 502, 503, 504, 401, 403] := of_decide_eq_true h
      dsimp only
      by_cases htemporary : statusCode ∈ [429, 500, 502, 503, 504]
      · exact ⟨_, if_pos htemporary⟩
      · have hrefused : statusCode ∈ [401, 403] := by
          simp only [List.mem_cons, List.not_mem_nil, or_false] at hcode htemporary ⊢
          omega
        exact ⟨_, by rw [if_neg htemporary, if_pos hrefused]⟩

/-- The loop after attempts that were caught. -/
theorem requestFrom_append {ks : List ℕ} (h : ∀ k ∈ ks, (g.attempt k request).isCaught)
    (rest : List ℕ) (lastError : Option String) :
    ∃ lastError', g.requestFrom request (ks ++ rest) lastError =
      g.requestFrom request rest lastError' := by
  induction ks generalizing lastError with
  | nil => exact ⟨lastError, rfl⟩
  | cons k ks ih =>
      obtain ⟨message, hfirst⟩ := requestFrom_caught (h k List.mem_cons_self) (ks ++ rest) lastError
      obtain ⟨lastError', hrest⟩ := ih (fun k' hk' => h k' (List.mem_cons_of_mem _ hk'))
        (some message)
      exact ⟨lastError', hfirst.trans hrest⟩

theorem replaying_attempt {attempts : List GoogleAttempt} {k : ℕ} (hk : k < attempts.length) :
    (g.replaying attempts).attempt k request = attempts[k] := by
  show attempts.getD k _ = _
  rw [List.getD_eq_getElem?_getD, List.getElem?_eq_getElem hk, Option.getD_some]

/-- **The loop comes to the last attempt** of a call that went on until then. -/
theorem requestFrom_last (hinit : g.goesOn init) :
    ∃ lastError, (g.replaying (init ++ [last])).requestFrom request (List.range g.retries) none =
      (g.replaying (init ++ [last])).requestFrom request
        (List.range' init.length (g.retries - init.length)) lastError := by
  obtain ⟨hcaught, hlength⟩ := goesOn_iff.mp hinit
  have hsplit : List.range g.retries =
      List.range init.length ++ List.range' init.length (g.retries - init.length) := by
    rw [List.range_eq_range', List.range_eq_range']
    conv_lhs => rw [← Nat.add_sub_cancel' hlength.le]
    rw [← List.range'_append_1, Nat.zero_add]
  rw [hsplit]
  apply requestFrom_append
  intro k hk
  have hk := List.mem_range.mp hk
  rw [replaying_attempt (by rw [List.length_append]; omega), List.getElem_append_left hk]
  exact hcaught _ (List.getElem_mem hk)

theorem replaying_last : (g.replaying (init ++ [last])).attempt init.length request = last := by
  rw [replaying_attempt (by simp)]
  simp

/-- **A call returns with its first answer.** -/
theorem request_of_returned (hinit : g.goesOn init) :
    (g.replaying (init ++ [.response 200 payload])).requestFrom request (List.range g.retries)
      none = .ok payload := by
  obtain ⟨lastError, h⟩ := requestFrom_last hinit
  obtain ⟨-, hlength⟩ := goesOn_iff.mp hinit
  obtain ⟨n, hn⟩ := Nat.exists_eq_succ_of_ne_zero (Nat.sub_ne_zero_of_lt hlength)
  rw [h, hn, List.range'_succ, GoogleServiceAccountSheetsGateway.requestFrom, replaying_last]
  rfl

/-- **A call that ends with a failed attempt raises.** -/
theorem request_of_failed (hinit : g.goesOn init) (hend : ¬ g.goesOn (init ++ [last]))
    (hlast : last.isReturned = false) :
    ∃ error, (g.replaying (init ++ [last])).requestFrom request (List.range g.retries) none =
      .error error := by
  obtain ⟨lastError, h⟩ := requestFrom_last hinit
  obtain ⟨hcaught, hlength⟩ := goesOn_iff.mp hinit
  obtain ⟨n, hn⟩ := Nat.exists_eq_succ_of_ne_zero (Nat.sub_ne_zero_of_lt hlength)
  rw [h, hn, List.range'_succ]
  by_cases hretried : last.isCaught
  · -- it was the last attempt there is
    have hn : n = 0 := by
      by_contra hpos
      apply hend
      rw [goesOn_iff]
      refine ⟨?_, by rw [List.length_append, List.length_singleton]; omega⟩
      intro a ha
      rcases List.mem_append.mp ha with ha | ha
      · exact hcaught a ha
      · exact List.mem_singleton.mp ha ▸ hretried
    have hcaughtLast :
        ((g.replaying (init ++ [last])).attempt init.length request).isCaught := by
      rw [replaying_last]
      exact hretried
    obtain ⟨message, hmessage⟩ := requestFrom_caught hcaughtLast
      (List.range' (init.length + 1) n) lastError
    rw [hmessage, hn]
    exact ⟨_, rfl⟩
  · rw [GoogleServiceAccountSheetsGateway.requestFrom, replaying_last]
    cases last with
    | failed message => exact absurd rfl hretried
    | raised error => exact ⟨error, rfl⟩
    | response statusCode payload =>
        have hcode : statusCode ∉ [429, 500, 502, 503, 504, 401, 403] := by
          intro hmem
          exact hretried (decide_eq_true hmem)
        have hstatus : ¬ (200 ≤ statusCode ∧ statusCode < 300) := by
          simpa [GoogleAttempt.isReturned] using hlast
        have htemporary : statusCode ∉ [429, 500, 502, 503, 504] := fun hmem =>
          hcode (List.mem_append_left [401, 403] hmem)
        have hrefused : statusCode ∉ [401, 403] := fun hmem =>
          hcode (List.mem_append_right [429, 500, 502, 503, 504] hmem)
        dsimp only
        rw [if_neg htemporary, if_neg hrefused, if_neg hstatus]
        exact ⟨_, rfl⟩

/-- Without an attempt there is no answer. -/
theorem request_of_none (h : ¬ g.goesOn []) :
    ∃ error, (g.replaying []).requestFrom request (List.range g.retries) none = .error error := by
  have hretries : g.retries = 0 := by
    by_contra hpos
    exact h (goesOn_iff.mpr ⟨fun _ ha => absurd ha List.not_mem_nil, Nat.pos_of_ne_zero hpos⟩)
  rw [hretries]
  exact ⟨_, rfl⟩

end Loop

/-! ## What a call returns -/

section Calls

variable {g : GoogleServiceAccountSheetsGateway} {spreadsheetId worksheetName : String}
  {columns : List String} {updates : List CellUpdate} {firstDataRow n : ℕ}
  {request : GoogleRequest}

theorem request_eq_ok {answer : Option RawValues × Option ℕ} :
    g.request request = .ok answer ↔
      g.requestFrom request (List.range g.retries) none = .ok (.object answer.1 answer.2) := by
  unfold GoogleServiceAccountSheetsGateway.request
  rw [Py.bind_eq_ok]
  constructor
  · rintro ⟨payload, hpayload, h⟩
    cases payload with
    | other => cases h
    | object values total =>
        obtain rfl := Except.ok.inj h
        exact hpayload
  · intro h
    exact ⟨_, h, rfl⟩

theorem request_of_error {error : PyError}
    (h : g.requestFrom request (List.range g.retries) none = .error error) :
    g.request request = .error error := by
  unfold GoogleServiceAccountSheetsGateway.request
  rw [h]
  rfl

/-- **An update that returned** was answered, with the number of cells or without. -/
theorem updateCells_eq_ok (hne : updates ≠ []) :
    g.updateCells spreadsheetId worksheetName updates = .ok n ↔
      ∃ answer, g.request (.batchUpdate spreadsheetId (updates.map (g.updateRange worksheetName))) =
        .ok answer ∧ answer.2.getD updates.length = n := by
  have hdata : updates.map (g.updateRange worksheetName) ≠ [] := by
    intro h
    exact hne (List.map_eq_nil_iff.mp h)
  unfold GoogleServiceAccountSheetsGateway.updateCells
  dsimp only
  rw [if_neg hdata, Py.bind_eq_ok]
  refine exists_congr fun answer => and_congr_right fun _ => ?_
  exact ⟨Except.ok.inj, congrArg Except.ok⟩

theorem readRows_eq_bind :
    g.readRows spreadsheetId worksheetName columns firstDataRow =
      (rowsRequest spreadsheetId worksheetName columns firstDataRow >>= fun r => do
        let (values, _) ← g.request r.2.2
        rowsAnswered r.1 r.2.1 firstDataRow (values.getD (.rows []))) := by
  unfold GoogleServiceAccountSheetsGateway.readRows rowsRequest
  simp only [bind_assoc, pure_bind]
  rfl

/-- **A read that returned** was answered with what its rows are made of. -/
theorem readRows_eq_ok {rows : List SheetDataRow} :
    g.readRows spreadsheetId worksheetName columns firstDataRow = .ok rows ↔
      ∃ r answer, rowsRequest spreadsheetId worksheetName columns firstDataRow = .ok r ∧
        g.request r.2.2 = .ok answer ∧
          rowsAnswered r.1 r.2.1 firstDataRow (answer.1.getD (.rows [])) = .ok rows := by
  rw [readRows_eq_bind, Py.bind_eq_ok]
  constructor
  · rintro ⟨r, hr, h⟩
    obtain ⟨answer, hanswer, h⟩ := Py.bind_eq_ok.mp h
    exact ⟨r, answer, hr, hanswer, h⟩
  · rintro ⟨r, answer, hr, hanswer, h⟩
    exact ⟨r, hr, Py.bind_eq_ok.mpr ⟨answer, hanswer, h⟩⟩

end Calls

/-! ## What a step does -/

namespace SheetTraffic

variable {σ : Type} {g : GoogleServiceAccountSheetsGateway} {server : SheetsServer σ}

/-- The call whose request Google gets with an event. -/
def arrival (t : SheetTraffic σ) : TrafficEvent → Option PendingCall
  | .attempt id .answered => t.pending id
  | .arrive index => t.onTheWay[index]?
  | .call _ | .attempt _ (.refused _) | .attempt _ (.lost _) => none

/-- A call of this list with its request. -/
structure Genuine (g : GoogleServiceAccountSheetsGateway) (calls : List SheetCall)
    (p : PendingCall) : Prop where
  issued : calls[p.id]? = some p.call
  request : g.requestOf p.call = some p.request

/-- **Everything on the way belongs to a call there was.** -/
structure Sound (g : GoogleServiceAccountSheetsGateway) (t : SheetTraffic σ) : Prop where
  pending : ∀ id p, t.pending id = some p → p.id = id ∧ Genuine g t.calls p ∧ g.goesOn p.attempts
  onTheWay : ∀ p ∈ t.onTheWay, Genuine g t.calls p

theorem Genuine.append {calls : List SheetCall} {p : PendingCall} (h : Genuine g calls p)
    (call : SheetCall) : Genuine g (calls ++ [call]) p := by
  refine ⟨?_, h.request⟩
  rw [List.getElem?_append_left (List.getElem?_eq_some_iff.mp h.issued).1]
  exact h.issued

theorem settle_calls (t : SheetTraffic σ) (p : PendingCall) :
    (t.settle g p).1.calls = t.calls := by
  unfold settle
  split <;> rfl

theorem settle_sheets (t : SheetTraffic σ) (p : PendingCall) :
    (t.settle g p).1.sheets = t.sheets := by
  unfold settle
  split <;> rfl

theorem settle_onTheWay (t : SheetTraffic σ) (p : PendingCall) :
    (t.settle g p).1.onTheWay = t.onTheWay := by
  unfold settle
  split <;> rfl

theorem settle_pending {t : SheetTraffic σ} {p q : PendingCall} {id : ℕ}
    (h : (t.settle g p).1.pending id = some q) :
    (id = p.id ∧ q = p ∧ g.goesOn p.attempts) ∨ t.pending id = some q := by
  unfold settle at h
  split at h
  · rename_i hgoes
    dsimp only [setPending] at h
    split at h
    · rename_i hid
      exact Or.inl ⟨hid, (Option.some.inj h).symm, hgoes⟩
    · exact Or.inr h
  · dsimp only [setPending] at h
    split at h
    · cases h
    · exact Or.inr h

/-- What ends a call. -/
theorem settle_ends {t : SheetTraffic σ} {p : PendingCall} {ended : CallEnd}
    (h : (t.settle g p).2 = some ended) :
    ¬ g.goesOn p.attempts ∧ ended = ⟨p.id, p.call, g.answerTo p.attempts p.call⟩ := by
  unfold settle at h
  split at h
  · cases h
  · rename_i hend
    exact ⟨hend, (Option.some.inj h).symm⟩

/-- A step in which a call goes on or ends. -/
theorem Sound.settle {t : SheetTraffic σ} (h : t.Sound g) {p : PendingCall}
    (hp : Genuine g t.calls p) : (t.settle g p).1.Sound g := by
  refine ⟨?_, ?_⟩
  · intro id q hq
    rw [settle_calls]
    rcases settle_pending hq with ⟨rfl, rfl, hgoes⟩ | hq
    · exact ⟨rfl, hp, hgoes⟩
    · exact h.pending id q hq
  · intro q hq
    rw [settle_onTheWay] at hq
    rw [settle_calls]
    exact h.onTheWay q hq

theorem delivered_calls (t : SheetTraffic σ) (p : PendingCall) (delivery : Delivery) :
    (t.delivered server p delivery).calls = t.calls := by
  cases delivery <;> rfl

theorem Sound.delivered {t : SheetTraffic σ} (h : t.Sound g) {p : PendingCall}
    (hp : Genuine g t.calls p) (delivery : Delivery) :
    (t.delivered server p delivery).Sound g := by
  cases delivery with
  | refused attempt => exact h
  | answered => exact ⟨h.pending, h.onTheWay⟩
  | lost attempt =>
      refine ⟨h.pending, ?_⟩
      intro q hq
      rcases List.mem_append.mp hq with hq | hq
      · exact h.onTheWay q hq
      · exact List.mem_singleton.mp hq ▸ hp

theorem Sound.issue {t : SheetTraffic σ} (h : t.Sound g) (call : SheetCall) :
    ({ t with calls := t.calls ++ [call] } : SheetTraffic σ).Sound g := by
  refine ⟨?_, ?_⟩
  · intro id p hp
    obtain ⟨hid, hgenuine, hgoes⟩ := h.pending id p hp
    exact ⟨hid, hgenuine.append call, hgoes⟩
  · intro p hp
    exact (h.onTheWay p hp).append call

/-- **Every step keeps the traffic sound.** -/
theorem sound_next (t : SheetTraffic σ) (e : TrafficEvent) (h : t.Sound g) :
    ((trafficMachine g server).next t e).Sound g := by
  show (step g server t e).1.Sound g
  cases e with
  | call call =>
      unfold step
      dsimp only
      cases hrequest : g.requestOf call with
      | none => exact h.issue call
      | some request =>
          apply (h.issue call).settle
          exact ⟨by simp, hrequest⟩
  | attempt id delivery =>
      unfold step
      dsimp only
      cases hpending : t.pending id with
      | none => exact h
      | some p =>
          obtain ⟨-, hgenuine, -⟩ := h.pending id p hpending
          apply (h.delivered hgenuine delivery).settle
          rw [delivered_calls]
          exact ⟨hgenuine.issued, hgenuine.request⟩
  | arrive index =>
      unfold step
      dsimp only
      cases hway : t.onTheWay[index]? with
      | none => exact h
      | some p =>
          refine ⟨h.pending, ?_⟩
          intro q hq
          exact h.onTheWay q (List.mem_of_mem_eraseIdx hq)

/-- **What an event does to the sheets**: nothing, unless Google gets a request with it. -/
theorem next_sheets (t : SheetTraffic σ) (e : TrafficEvent) :
    ((trafficMachine g server).next t e).sheets =
      (t.arrival e).elim t.sheets fun p => server.after t.sheets p.request := by
  show (step g server t e).1.sheets = _
  cases e with
  | call call =>
      unfold step
      dsimp only
      cases g.requestOf call with
      | none => rfl
      | some request => exact settle_sheets _ _
  | attempt id delivery =>
      unfold step
      dsimp only
      cases hpending : t.pending id with
      | none =>
          cases delivery with
          | answered =>
              show t.sheets = (t.pending id).elim _ _
              rw [hpending]
              rfl
          | _ => rfl
      | some p =>
          dsimp only
          rw [settle_sheets]
          cases delivery with
          | answered =>
              show _ = (t.pending id).elim _ _
              rw [hpending]
              rfl
          | _ => rfl
  | arrive index =>
      unfold step arrival
      dsimp only
      cases t.onTheWay[index]? <;> rfl

theorem Sound.arrival {t : SheetTraffic σ} (h : t.Sound g) {e : TrafficEvent} {p : PendingCall}
    (hp : t.arrival e = some p) : Genuine g t.calls p := by
  cases e with
  | call call => cases hp
  | attempt id delivery =>
      cases delivery with
      | answered => exact (h.pending id p hp).2.1
      | refused attempt => cases hp
      | lost attempt => cases hp
  | arrive index => exact h.onTheWay p (List.mem_of_getElem? hp)

/-- **How a call ends**: before any attempt, or with its last one. -/
theorem Sound.step_ends {t : SheetTraffic σ} (ht : t.Sound g) {e : TrafficEvent} {ended : CallEnd}
    (h : (step g server t e).2 = some ended) :
    (e = .call ended.call ∧
      (∀ request, g.requestOf ended.call = some request → ¬ g.goesOn []) ∧
        ended.answer = g.answerTo [] ended.call) ∨
    ∃ p delivery, e = .attempt ended.id delivery ∧ t.pending ended.id = some p ∧
      ended.call = p.call ∧
        ¬ g.goesOn (p.attempts ++ [delivery.attempt (server.answer t.sheets p.request)]) ∧
          ended.answer =
            g.answerTo (p.attempts ++ [delivery.attempt (server.answer t.sheets p.request)])
              p.call := by
  unfold step at h
  cases e with
  | call call =>
      left
      dsimp only at h
      cases hrequest : g.requestOf call with
      | none =>
          rw [hrequest] at h
          obtain rfl := Option.some.inj h
          refine ⟨rfl, ?_, rfl⟩
          intro request hsome
          cases hrequest.symm.trans hsome
      | some request =>
          rw [hrequest] at h
          obtain ⟨hend, rfl⟩ := settle_ends h
          exact ⟨rfl, fun _ _ => hend, rfl⟩
  | attempt id delivery =>
      right
      dsimp only at h
      cases hpending : t.pending id with
      | none =>
          rw [hpending] at h
          cases h
      | some p =>
          rw [hpending] at h
          obtain ⟨hend, rfl⟩ := settle_ends h
          obtain ⟨rfl, -, -⟩ := ht.pending id p hpending
          exact ⟨p, delivery, rfl, hpending, rfl, hend, rfl⟩
  | arrive index =>
      dsimp only at h
      cases hway : t.onTheWay[index]? with
      | none =>
          rw [hway] at h
          cases h
      | some p =>
          rw [hway] at h
          cases h

/-- **A call whose request returned** got the answer with its last attempt. -/
theorem Sound.ends_answered {t : SheetTraffic σ} (ht : t.Sound g) {e : TrafficEvent}
    {ended : CallEnd} (h : (step g server t e).2 = some ended) {request : GoogleRequest}
    (hrequest : g.requestOf ended.call = some request) :
    ∃ attempts, ended.answer = g.answerTo attempts ended.call ∧
      ((e ≠ .attempt ended.id .answered ∧
          ∃ error, (g.replaying attempts).request request = .error error) ∨
        e = .attempt ended.id .answered ∧
          (g.replaying attempts).request request = .ok (server.reply t.sheets request) ∧
            ∃ p, t.arrival e = some p ∧ p.id = ended.id ∧ p.call = ended.call) := by
  rcases ht.step_ends h with ⟨rfl, hnone, hanswer⟩ |
    ⟨p, delivery, rfl, hpending, hcall, hend, hanswer⟩
  · obtain ⟨error, herror⟩ := request_of_none (g := g) (hnone request hrequest)
    exact ⟨_, hanswer, Or.inl ⟨fun h => (nomatch h), error, request_of_error herror⟩⟩
  · obtain ⟨hid, hgenuine, hgoes⟩ := ht.pending _ p hpending
    have hsame : p.request = request :=
      Option.some.inj (hgenuine.request.symm.trans (hcall ▸ hrequest))
    rw [hsame] at hend hanswer
    refine ⟨_, hcall ▸ hanswer, ?_⟩
    have hfailed : ∀ attempt : FailedAttempt, ¬ g.goesOn (p.attempts ++ [attempt.val]) →
        ∃ error, (g.replaying (p.attempts ++ [attempt.val])).request request = .error error := by
      intro attempt hend
      obtain ⟨error, herror⟩ := request_of_failed hgoes hend attempt.property
      exact ⟨error, request_of_error herror⟩
    cases delivery with
    | refused attempt => exact Or.inl ⟨fun h => (nomatch h), hfailed attempt hend⟩
    | lost attempt => exact Or.inl ⟨fun h => (nomatch h), hfailed attempt hend⟩
    | answered =>
        exact Or.inr ⟨rfl, request_eq_ok.mpr (request_of_returned hgoes), p, hpending, hid,
          hcall.symm⟩

/-- What a call returns comes of attempts. -/
theorem Sound.ends_answer {t : SheetTraffic σ} (ht : t.Sound g) {e : TrafficEvent}
    {ended : CallEnd} (h : (step g server t e).2 = some ended) :
    ∃ attempts, ended.answer = g.answerTo attempts ended.call := by
  rcases ht.step_ends h with ⟨-, -, hanswer⟩ | ⟨p, delivery, -, -, hcall, -, hanswer⟩
  · exact ⟨_, hanswer⟩
  · exact ⟨_, hcall ▸ hanswer⟩

/-- The call that ended is one there was. -/
theorem Sound.ends_mem {t : SheetTraffic σ} (ht : t.Sound g) {e : TrafficEvent}
    {ended : CallEnd} (h : (step g server t e).2 = some ended) :
    ended.call ∈ t.calls ∨ e = .call ended.call := by
  rcases ht.step_ends h with ⟨hcall, -, -⟩ | ⟨p, -, -, hpending, hcall, -, -⟩
  · exact Or.inr hcall
  · left
    rw [hcall]
    exact List.mem_of_getElem? (ht.pending _ p hpending).2.1.issued

end SheetTraffic

end BondTrading
