/-
# BondTrading.Sql.Session -- a session that can break, and the world around it

A `World` is what a service touches: the committed tables, the tables its open
transaction would commit, and the calls it has made to other services.  A database
operation may meet a `Fault`.  A flush or a commit that fails, and a select that aborts
the transaction, leave the session broken: from then on every operation raises, because
nothing here rolls back.  After a failed flush the rows that were loaded are expired, so
reading one of them raises too.

`Runs` says exactly when a routine leaves the session usable, and what holds then; its rules
follow the routine's own steps, so the condition for a whole routine is read off them.
-/
import BondTrading.Py.Routine
import BondTrading.Sql.Rows

namespace BondTrading.Sql

open Py (Routine)

/-- What the database does with one operation. -/
inductive Fault where
  | none
  /-- It raises, and the transaction goes on. -/
  | raised
  /-- It raises, and the transaction is aborted. -/
  | aborted
  deriving DecidableEq, Repr

/-- `P` decides where the operation went through, a select that only raised decides
nothing, and an aborted transaction is lost. -/
def Fault.Then (fault : Fault) (P : Prop) : Prop :=
  match fault with
  | .none => P
  | .raised => True
  | .aborted => False

theorem Fault.then_true {fault : Fault} : fault.Then True ↔ fault ≠ .aborted := by
  cases fault with
  | none => exact iff_of_true trivial Fault.noConfusion
  | raised => exact iff_of_true trivial Fault.noConfusion
  | aborted => exact iff_of_false False.elim (not_not.mpr rfl)

/-- The exceptions of a session among the exceptions `ε` of a program. -/
class SessionErrors (ε : Type) where
  refused : ε
  pendingRollback : ε

/-- How a session broke. -/
inductive Failure where
  /-- A select aborted the transaction. -/
  | aborted
  /-- A flush failed, and the session rolled its transaction back. -/
  | rolledBack
  deriving DecidableEq, Repr

structure World {τ : Type} (C : τ → Prop) (κ : Type) where
  committed : { t : τ // C t }
  work : τ
  failure : Option Failure
  calls : List κ

namespace World

variable {τ κ ε α β : Type} {C : τ → Prop}

/-- A new session on committed tables. -/
def opened (t : { t : τ // C t }) : World C κ := ⟨t, t.val, none, []⟩

/-- The session has to be rolled back before it is used again. -/
def broken (w : World C κ) : Bool := w.failure.isSome

/-- What was loaded has to be loaded again. -/
def expired (w : World C κ) : Bool := w.failure = some .rolledBack

/-! ## Operations -/

/-- `SELECT`: what `g` reads of the tables. -/
def query [SessionErrors ε] (fault : Fault) (g : τ → α) : Routine (World C κ) ε α := fun w =>
  if w.broken then (.error SessionErrors.pendingRollback, w)
  else
    match fault with
    | .none => (.ok (g w.work), w)
    | .raised => (.error SessionErrors.refused, w)
    | .aborted => (.error SessionErrors.refused, { w with failure := some .aborted })

/-- `session.flush()`. -/
def flush [DecidablePred C] [SessionErrors ε] (fault : Fault) : Routine (World C κ) ε Unit :=
  fun w =>
    if w.broken then (.error SessionErrors.pendingRollback, w)
    else if fault = .none ∧ C w.work then (.ok (), w)
    else (.error SessionErrors.refused, { w with failure := some .rolledBack })

/-- `session.commit()`. -/
def commit [DecidablePred C] [SessionErrors ε] (fault : Fault) : Routine (World C κ) ε Unit :=
  fun w =>
    if w.broken then (.error SessionErrors.pendingRollback, w)
    else if h : fault = .none ∧ C w.work then (.ok (), { w with committed := ⟨w.work, h.2⟩ })
    else (.error SessionErrors.refused, { w with failure := some .rolledBack })

/-- `session.add(..)` and assignments to loaded rows. -/
def edit (f : τ → τ) : Routine (World C κ) ε Unit := fun w =>
  (.ok (), { w with work := f w.work })

/-- An attribute of a row that was loaded. -/
def readLoaded [SessionErrors ε] : Routine (World C κ) ε Unit := fun w =>
  if w.expired then (.error SessionErrors.pendingRollback, w) else (.ok (), w)

/-- A call to another service, with its answer. -/
def call (k : κ) (answer : Except ε α) : Routine (World C κ) ε α := fun w =>
  (answer, { w with calls := w.calls ++ [k] })

theorem failure_of_usable {w : World C κ} (hw : w.broken = false) : w.failure = none := by
  rw [← Option.not_isSome_iff_eq_none, ← broken, hw]
  exact Bool.false_ne_true

theorem expired_of_usable {w : World C κ} (hw : w.broken = false) : w.expired = false := by
  unfold expired
  rw [failure_of_usable hw]
  rfl

theorem readLoaded_of_expired [SessionErrors ε] {w : World C κ} (hw : w.expired = true) :
    (readLoaded : Routine (World C κ) ε Unit) w = (.error SessionErrors.pendingRollback, w) :=
  if_pos hw

theorem readLoaded_of_not_expired [SessionErrors ε] {w : World C κ} (hw : w.expired = false) :
    (readLoaded : Routine (World C κ) ε Unit) w = (.ok (), w) := by
  unfold readLoaded
  rw [hw]
  rfl

theorem readLoaded_of_usable [SessionErrors ε] {w : World C κ} (hw : w.broken = false) :
    (readLoaded : Routine (World C κ) ε Unit) w = (.ok (), w) :=
  readLoaded_of_not_expired (expired_of_usable hw)

theorem readLoaded_eq_ok [SessionErrors ε] {w w' : World C κ} {u : Unit}
    (h : (readLoaded : Routine (World C κ) ε Unit) w = (.ok u, w')) :
    w.expired = false ∧ w' = w := by
  unfold readLoaded at h
  split at h
  · exact absurd (Prod.mk.inj h).1 (by simp)
  · rename_i hexpired
    exact ⟨Bool.not_eq_true _ ▸ hexpired, (Prod.mk.inj h).2.symm⟩

@[simp] theorem edit_apply (f : τ → τ) (w : World C κ) :
    (edit f : Routine (World C κ) ε Unit) w = (.ok (), { w with work := f w.work }) := rfl

@[simp] theorem call_apply (k : κ) (answer : Except ε α) (w : World C κ) :
    (call k answer : Routine (World C κ) ε α) w =
      (answer, { w with calls := w.calls ++ [k] }) := rfl

theorem call_eq_ok {k : κ} {answer : Except ε α} {w w' : World C κ} {a : α} :
    (call k answer : Routine (World C κ) ε α) w = (.ok a, w') ↔
      answer = .ok a ∧ w' = { w with calls := w.calls ++ [k] } := by
  rw [call_apply, Prod.mk.injEq, eq_comm (b := w')]

theorem edit_eq_ok {f : τ → τ} {w w' : World C κ} {u : Unit} :
    (edit f : Routine (World C κ) ε Unit) w = (.ok u, w') ↔
      w' = { w with work := f w.work } := by
  rw [edit_apply, Prod.mk.injEq, eq_comm (b := w')]
  exact and_iff_right rfl

/-! ## Operations in a session that works -/

section Working

variable {w w' : World C κ}

section

variable [SessionErrors ε]

theorem query_none (hw : w.broken = false) (g : τ → α) :
    (query .none g : Routine (World C κ) ε α) w = (.ok (g w.work), w) := by
  rw [query, hw]
  rfl

theorem query_raised (hw : w.broken = false) (g : τ → α) :
    (query .raised g : Routine (World C κ) ε α) w = (.error SessionErrors.refused, w) := by
  rw [query, hw]
  rfl

theorem query_aborted (hw : w.broken = false) (g : τ → α) :
    (query .aborted g : Routine (World C κ) ε α) w =
      (.error SessionErrors.refused, { w with failure := some .aborted }) := by
  rw [query, hw]
  rfl

/-- In a broken session every operation raises. -/
theorem query_broken (hw : w.broken = true) (fault : Fault) (g : τ → α) :
    (query fault g : Routine (World C κ) ε α) w = (.error SessionErrors.pendingRollback, w) := by
  unfold query
  rw [if_pos hw]

/-- A select that returned read the open transaction. -/
theorem query_eq_ok {fault : Fault} {g : τ → α} {a : α}
    (h : (query fault g : Routine (World C κ) ε α) w = (.ok a, w')) :
    fault = .none ∧ w.broken = false ∧ a = g w.work ∧ w' = w := by
  unfold query at h
  split at h
  · exact absurd (Prod.mk.inj h).1 (by simp)
  · rename_i hbroken
    cases fault with
    | none =>
        obtain ⟨hvalue, rfl⟩ := Prod.mk.inj h
        exact ⟨rfl, Bool.not_eq_true _ ▸ hbroken, (Except.ok.inj hvalue).symm, rfl⟩
    | raised => exact absurd (Prod.mk.inj h).1 (by simp)
    | aborted => exact absurd (Prod.mk.inj h).1 (by simp)

end

variable [DecidablePred C] [SessionErrors ε]

theorem flush_none (hw : w.broken = false) (hC : C w.work) :
    (flush .none : Routine (World C κ) ε Unit) w = (.ok (), w) := by
  rw [flush, hw, if_neg Bool.false_ne_true, if_pos ⟨rfl, hC⟩]

theorem flush_refused {fault : Fault} (hw : w.broken = false)
    (h : ¬ (fault = .none ∧ C w.work)) :
    (flush fault : Routine (World C κ) ε Unit) w =
      (.error SessionErrors.refused, { w with failure := some .rolledBack }) := by
  rw [flush, hw, if_neg Bool.false_ne_true, if_neg h]

theorem commit_none (hw : w.broken = false) (hC : C w.work) :
    (commit .none : Routine (World C κ) ε Unit) w =
      (.ok (), { w with committed := ⟨w.work, hC⟩ }) := by
  rw [commit, hw, if_neg Bool.false_ne_true, dif_pos ⟨rfl, hC⟩]

theorem commit_refused {fault : Fault} (hw : w.broken = false)
    (h : ¬ (fault = .none ∧ C w.work)) :
    (commit fault : Routine (World C κ) ε Unit) w =
      (.error SessionErrors.refused, { w with failure := some .rolledBack }) := by
  rw [commit, hw, if_neg Bool.false_ne_true, dif_neg h]

/-- Nor is anything committed in a broken session. -/
theorem commit_broken (hw : w.broken = true) (fault : Fault) :
    (commit fault : Routine (World C κ) ε Unit) w = (.error SessionErrors.pendingRollback, w) := by
  unfold commit
  rw [if_pos hw]

/-- A flush that returned found the tables within their constraints. -/
theorem flush_eq_ok {fault : Fault} {u : Unit}
    (h : (flush fault : Routine (World C κ) ε Unit) w = (.ok u, w')) : C w.work ∧ w' = w := by
  unfold flush at h
  split at h
  · exact absurd (Prod.mk.inj h).1 (by simp)
  · split at h
    · rename_i hflush
      exact ⟨hflush.2, (Prod.mk.inj h).2.symm⟩
    · exact absurd (Prod.mk.inj h).1 (by simp)

theorem commit_eq_ok {fault : Fault} {u : Unit}
    (h : (commit fault : Routine (World C κ) ε Unit) w = (.ok u, w')) :
    ∃ hC : C w.work, w' = { w with committed := ⟨w.work, hC⟩ } := by
  unfold commit at h
  split at h
  · exact absurd (Prod.mk.inj h).1 (by simp)
  · split at h
    · rename_i hcommit
      exact ⟨hcommit.2, (Prod.mk.inj h).2.symm⟩
    · exact absurd (Prod.mk.inj h).1 (by simp)

theorem commit_ok_fault {fault : Fault} {u : Unit}
    (h : (commit fault : Routine (World C κ) ε Unit) w = (.ok u, w')) : fault = .none := by
  unfold commit at h
  split at h
  · exact absurd (Prod.mk.inj h).1 (by simp)
  · split at h
    · rename_i hcommit
      exact hcommit.1
    · exact absurd (Prod.mk.inj h).1 (by simp)

end Working

/-! ## What a routine does to the world -/

/-- **A relation between worlds that the operations of a session respect**, when the
routine edits the tables by `edits`, makes only `calls`, and its selects abort the
transaction only if `aborts`. -/
structure Allows (R : World C κ → World C κ → Prop) (edits : (τ → τ) → Prop) (calls : κ → Prop)
    (aborts : Prop) : Prop where
  refl : ∀ w, R w w
  trans : ∀ {w₁ w₂ w₃}, R w₁ w₂ → R w₂ w₃ → R w₁ w₃
  aborted : aborts → ∀ w : World C κ, R w { w with failure := some .aborted }
  rolledBack : ∀ w : World C κ, R w { w with failure := some .rolledBack }
  committed : ∀ (w : World C κ) (hC : C w.work), R w { w with committed := ⟨w.work, hC⟩ }
  edited : ∀ (w : World C κ) (f : τ → τ), edits f → R w { w with work := f w.work }
  called : ∀ (w : World C κ) (k : κ), calls k → R w { w with calls := w.calls ++ [k] }

namespace Allows

variable {R : World C κ → World C κ → Prop} {edits edits' : (τ → τ) → Prop}
  {calls calls' : κ → Prop} {aborts : Prop} {x : Routine (World C κ) ε α}
  {f : α → Routine (World C κ) ε β}

theorem mono (h : Allows R edits calls aborts) (hedits : ∀ f, edits' f → edits f)
    (hcalls : ∀ k, calls' k → calls k) : Allows R edits' calls' aborts where
  refl := h.refl
  trans := h.trans
  aborted := h.aborted
  rolledBack := h.rolledBack
  committed := h.committed
  edited w f hf := h.edited w f (hedits f hf)
  called w k hk := h.called w k (hcalls k hk)

theorem pure (h : Allows R edits calls aborts) (a : α) :
    Routine.Within R (pure a : Routine (World C κ) ε α) := h.refl

theorem lift (h : Allows R edits calls aborts) (r : Except ε α) :
    Routine.Within R (Routine.lift r : Routine (World C κ) ε α) := h.refl

theorem raise (h : Allows R edits calls aborts) (e : ε) :
    Routine.Within R (Routine.raise e : Routine (World C κ) ε α) := h.refl

theorem edit (h : Allows R edits calls aborts) {g : τ → τ} (hg : edits g) :
    Routine.Within R (World.edit g : Routine (World C κ) ε Unit) := fun w => h.edited w g hg

theorem call (h : Allows R edits calls aborts) {k : κ} (hk : calls k) (answer : Except ε α) :
    Routine.Within R (World.call k answer : Routine (World C κ) ε α) := fun w => h.called w k hk

/-- Calls made by code that is not a step of the session. -/
theorem callAll (h : Allows R edits calls aborts) (ks : List κ) (hks : ∀ k ∈ ks, calls k) :
    Routine.Within R
      (Routine.modify fun w => { w with calls := w.calls ++ ks } : Routine (World C κ) ε Unit) := by
  intro w
  show R w { w with calls := w.calls ++ ks }
  induction ks generalizing w with
  | nil =>
      rw [List.append_nil]
      exact h.refl w
  | cons k ks ih =>
      have hfirst := h.called w k (hks k List.mem_cons_self)
      have hrest := ih (fun k' hk' => hks k' (List.mem_cons_of_mem _ hk'))
        { w with calls := w.calls ++ [k] }
      rw [List.append_assoc] at hrest
      exact h.trans hfirst hrest

theorem query [SessionErrors ε] (h : Allows R edits calls aborts) {fault : Fault}
    (hfault : fault = .aborted → aborts) (g : τ → α) :
    Routine.Within R (World.query fault g : Routine (World C κ) ε α) := by
  intro w
  unfold World.query
  split
  · exact h.refl w
  · cases fault with
    | none => exact h.refl w
    | raised => exact h.refl w
    | aborted => exact h.aborted (hfault rfl) w

theorem readLoaded [SessionErrors ε] (h : Allows R edits calls aborts) :
    Routine.Within R (World.readLoaded : Routine (World C κ) ε Unit) := by
  intro w
  unfold World.readLoaded
  split
  · exact h.refl w
  · exact h.refl w

theorem flush [DecidablePred C] [SessionErrors ε] (h : Allows R edits calls aborts) (fault : Fault) :
    Routine.Within R (World.flush fault : Routine (World C κ) ε Unit) := by
  intro w
  unfold World.flush
  split
  · exact h.refl w
  · split
    · exact h.refl w
    · exact h.rolledBack w

theorem commit [DecidablePred C] [SessionErrors ε] (h : Allows R edits calls aborts) (fault : Fault) :
    Routine.Within R (World.commit fault : Routine (World C κ) ε Unit) := by
  intro w
  unfold World.commit
  split
  · exact h.refl w
  · split
    · exact h.committed w _
    · exact h.rolledBack w

theorem bind (h : Allows R edits calls aborts) (hx : Routine.Within R x)
    (hf : ∀ a, Routine.Within R (f a)) : Routine.Within R (x >>= f) :=
  Routine.Within.bind h.trans hx hf

theorem outcome (_ : Allows R edits calls aborts) (hx : Routine.Within R x) :
    Routine.Within R (Routine.outcome x) := Routine.Within.outcome hx

theorem attempt (h : Allows R edits calls aborts) {handler : ε → Routine (World C κ) ε α}
    (hx : Routine.Within R x) (hhandler : ∀ e, Routine.Within R (handler e)) :
    Routine.Within R (Routine.attempt x handler) :=
  Routine.Within.attempt h.trans hx hhandler

end Allows

/-! ## Broken for good -/

/-- The second world has a usable session only if the first has. -/
def StaysBroken (w w' : World C κ) : Prop := w.broken = true → w'.broken = true

theorem StaysBroken.allows :
    Allows (StaysBroken : World C κ → World C κ → Prop) (fun _ => True) (fun _ => True) True where
  refl _ h := h
  trans h₁ h₂ h := h₂ (h₁ h)
  aborted _ _ _ := rfl
  rolledBack _ _ := rfl
  committed _ _ h := h
  edited _ _ _ h := h
  called _ _ _ h := h

/-- The second world has an aborted transaction only if the first has. -/
def NotAborted (w w' : World C κ) : Prop :=
  w.failure ≠ some .aborted → w'.failure ≠ some .aborted

/-- Where no select aborts the transaction, nothing does. -/
theorem NotAborted.allows :
    Allows (NotAborted : World C κ → World C κ → Prop) (fun _ => True) (fun _ => True) False where
  refl _ h := h
  trans h₁ h₂ h := h₂ (h₁ h)
  aborted := False.elim
  rolledBack _ _ h := Failure.noConfusion (Option.some.inj h)
  committed _ _ h := h
  edited _ _ _ h := h
  called _ _ _ h := h

/-- A session that was not aborted broke by a rollback. -/
theorem expired_of_broken {w : World C κ} (hw : w.broken = true)
    (hfailure : w.failure ≠ some .aborted) : w.expired = true := by
  obtain ⟨failure, hsome⟩ := Option.isSome_iff_exists.mp hw
  cases failure with
  | aborted => exact absurd hsome hfailure
  | rolledBack => exact decide_eq_true hsome

/-- The routine does not mend a broken session. -/
abbrev Sticky (x : Routine (World C κ) ε α) : Prop := Routine.Within StaysBroken x

/-- Where the routine returns, the session is usable. -/
def EndsUsable (x : Routine (World C κ) ε α) : Prop :=
  ∀ w a w', x w = (.ok a, w') → w'.broken = false

namespace EndsUsable

variable {x : Routine (World C κ) ε α} {f : α → Routine (World C κ) ε β}

theorem query [SessionErrors ε] (fault : Fault) (g : τ → α) :
    EndsUsable (World.query fault g : Routine (World C κ) ε α) := by
  intro w a w' h
  obtain ⟨-, husable, -, rfl⟩ := query_eq_ok h
  exact husable

theorem after (hf : ∀ a, EndsUsable (f a)) : EndsUsable (x >>= f) := by
  intro w b w' h
  obtain ⟨a, t, -, hrest⟩ := Routine.bind_eq_ok.mp h
  exact hf a t b w' hrest

theorem andReturn (hx : EndsUsable x) (g : α → β) :
    EndsUsable (x >>= fun a => Pure.pure (g a)) := by
  intro w b w' h
  obtain ⟨a, t, hfirst, hreturn⟩ := Routine.bind_eq_ok.mp h
  obtain ⟨-, rfl⟩ := Prod.mk.inj hreturn
  exact hx w a t hfirst

end EndsUsable

/-! ## Runs -/

/-- **The session is usable after the routine exactly when `K` holds, and then `Q` holds of
how it ended.** -/
structure Runs (x : Routine (World C κ) ε α) (w : World C κ) (K : Prop)
    (Q : Except ε α → World C κ → Prop) : Prop where
  usable : (x w).2.broken = false ↔ K
  outcome : (x w).2.broken = false → Q (x w).1 (x w).2

namespace Runs

variable {w w' : World C κ} {x : Routine (World C κ) ε α} {f : α → Routine (World C κ) ε β}
  {K L : Prop} {P P' : Except ε α → World C κ → Prop} {Q : Except ε β → World C κ → Prop}

/-- A routine whose end is known. -/
theorem of_eq {r : Except ε α} (h : x w = (r, w')) (hw' : w'.broken = false) (hP : P r w') :
    Runs x w True P := by
  constructor
  · rw [h]
    exact iff_true_intro hw'
  · intro _
    rw [h]
    exact hP

/-- One that breaks the session. -/
theorem of_broken {r : Except ε α} (h : x w = (r, w')) (hw' : w'.broken = true) :
    Runs x w False P := by
  have hbroken : ¬ (x w).2.broken = false := by
    rw [h]
    intro hfalse
    exact Bool.noConfusion (hw'.symm.trans hfalse)
  exact ⟨iff_false_intro hbroken, fun hfalse => absurd hfalse hbroken⟩

theorem congr (h : Runs x w K P) (hK : K ↔ L) (hP : ∀ r w', w'.broken = false → P r w' → P' r w') :
    Runs x w L P' :=
  ⟨h.usable.trans hK, fun hw => hP _ _ hw (h.outcome hw)⟩

/-- Code that does here what other code does elsewhere. -/
theorem of_same {y : Routine (World C κ) ε α} (h : x w = y w') (hy : Runs y w' K P) :
    Runs x w K P := by
  constructor
  · rw [h]
    exact hy.usable
  · rw [h]
    exact hy.outcome

/-- After a step that returned, the rest decides. -/
theorem bind_of_ok {a : α} (h : x w = (.ok a, w')) (hrest : Runs (f a) w' K Q) :
    Runs (x >>= f) w K Q := by
  constructor
  · rw [Routine.bind_of_ok h]
    exact hrest.usable
  · rw [Routine.bind_of_ok h]
    exact hrest.outcome

/-- After a step that raised, nothing else happens. -/
theorem bind_of_error {e : ε} (h : x w = (.error e, w')) (hw' : w'.broken = false)
    (hQ : Q (.error e) w') : Runs (x >>= f) w True Q :=
  of_eq (Routine.bind_of_error h) hw' hQ

/-- **The rule of sequences.**  `L` says when the rest keeps the session usable, and
nothing where the first step raised. -/
theorem bind (hx : Runs x w K P)
    (hok : ∀ a w', w'.broken = false → P (.ok a) w' → Runs (f a) w' L Q)
    (herror : ∀ e w', w'.broken = false → P (.error e) w' → L ∧ Q (.error e) w')
    (hf : ∀ a, Sticky (f a)) : Runs (x >>= f) w (K ∧ L) Q := by
  obtain ⟨husable, houtcome⟩ := hx
  rcases hres : x w with ⟨r, w'⟩
  rw [hres] at husable houtcome
  cases hw' : w'.broken with
  | true =>
      -- the session broke in the first step
      have hK : ¬ K := fun hK => Bool.noConfusion (hw'.symm.trans (husable.mpr hK))
      have hfalse : (K ∧ L) ↔ False := iff_false_intro fun h => hK h.1
      rw [hfalse]
      cases r with
      | error e => exact of_broken (Routine.bind_of_error hres) hw'
      | ok a => exact of_broken (Routine.bind_of_ok hres) (hf a w' hw')
  | false =>
      have hK : K := husable.mp hw'
      have hP := houtcome hw'
      cases r with
      | error e =>
          obtain ⟨hL, hQ⟩ := herror e w' hw' hP
          rw [iff_true_intro hK, iff_true_intro hL, and_self]
          exact of_eq (Routine.bind_of_error hres) hw' hQ
      | ok a =>
          rw [and_iff_right hK]
          exact bind_of_ok hres (hok a w' hw' hP)

theorem outcome_of {P : Except ε α → World C κ → Prop} (hx : Runs x w K P) :
    Runs (Routine.outcome x) w K (fun r w' => ∃ o, r = .ok o ∧ P o w') :=
  ⟨hx.usable, fun hw => ⟨_, rfl, hx.outcome hw⟩⟩

variable [SessionErrors ε]

theorem query_bind {fault : Fault} {g : τ → α} (hw : w.broken = false)
    (hok : fault = .none → Runs (f (g w.work)) w K Q)
    (hraised : fault = .raised → Q (.error SessionErrors.refused) w) :
    Runs (query fault g >>= f) w (fault.Then K) Q := by
  cases fault with
  | none => exact bind_of_ok (query_none hw g) (hok rfl)
  | raised => exact bind_of_error (query_raised hw g) hw (hraised rfl)
  | aborted => exact of_broken (Routine.bind_of_error (query_aborted hw g)) rfl

variable [DecidablePred C] {k : Unit → Routine (World C κ) ε β}

theorem flush_bind {fault : Fault} (hw : w.broken = false)
    (hok : fault = .none → C w.work → Runs (k ()) w K Q) :
    Runs (flush fault >>= k) w ((fault = .none ∧ C w.work) ∧ K) Q := by
  by_cases h : fault = .none ∧ C w.work
  · rw [and_iff_right h]
    obtain ⟨rfl, hC⟩ := h
    exact bind_of_ok (flush_none hw hC) (hok rfl hC)
  · rw [iff_false_intro h, false_and]
    exact of_broken (Routine.bind_of_error (flush_refused hw h)) rfl

theorem commit_bind {fault : Fault} (hw : w.broken = false)
    (hok : fault = .none → ∀ hC : C w.work,
      Runs (k ()) { w with committed := ⟨w.work, hC⟩ } K Q) :
    Runs (commit fault >>= k) w ((fault = .none ∧ C w.work) ∧ K) Q := by
  by_cases h : fault = .none ∧ C w.work
  · rw [and_iff_right h]
    obtain ⟨rfl, hC⟩ := h
    exact bind_of_ok (commit_none hw hC) (hok rfl hC)
  · rw [iff_false_intro h, false_and]
    exact of_broken (Routine.bind_of_error (commit_refused hw h)) rfl

theorem commit {P : Except ε Unit → World C κ → Prop} {fault : Fault} (hw : w.broken = false)
    (hP : fault = .none → ∀ hC : C w.work, P (.ok ()) { w with committed := ⟨w.work, hC⟩ }) :
    Runs (World.commit fault) w (fault = .none ∧ C w.work) P := by
  by_cases h : fault = .none ∧ C w.work
  · rw [iff_true_intro h]
    obtain ⟨rfl, hC⟩ := h
    exact of_eq (commit_none hw hC) hw (hP rfl hC)
  · rw [iff_false_intro h]
    exact of_broken (commit_refused hw h) rfl

end Runs

/-! ## Calls -/

/-- No call that meets `p` is new in the second world. -/
def NoneNew (p : κ → Prop) (w w' : World C κ) : Prop := ∀ k ∈ w'.calls, p k → k ∈ w.calls

/-- Edits make no call, and calls that do not meet `p` do not count. -/
theorem NoneNew.allows (p : κ → Prop) :
    Allows (NoneNew p : World C κ → World C κ → Prop) (fun _ => True) (fun k => ¬ p k) True where
  refl _ _ hk _ := hk
  trans h₁ h₂ k hk hp := h₁ k (h₂ k hk hp) hp
  aborted _ _ _ hk _ := hk
  rolledBack _ _ hk _ := hk
  committed _ _ _ hk _ := hk
  edited _ _ _ _ hk _ := hk
  called w k hk k' hk' hp := by
    rcases List.mem_append.mp hk' with hk' | hk'
    · exact hk'
    · exact absurd (List.mem_singleton.mp hk' ▸ hp) hk

/-- The routine makes no call that meets `p`. -/
abbrev Silent (p : κ → Prop) (x : Routine (World C κ) ε α) : Prop := Routine.Within (NoneNew p) x

namespace Silent

variable {p : κ → Prop} {x : Routine (World C κ) ε α} {f : α → Routine (World C κ) ε β}

/-- A call that a sequence made after a silent step was made by the rest, so the step
returned. -/
theorem call_of_bind (hx : Silent p x) {w : World C κ} {k : κ} (hp : p k) (hw : k ∉ w.calls)
    (hk : k ∈ ((x >>= f) w).2.calls) :
    ∃ a w', x w = (.ok a, w') ∧ k ∉ w'.calls ∧ k ∈ (f a w').2.calls := by
  rcases hres : x w with ⟨a | a, w'⟩
  · rw [Routine.bind_of_error hres] at hk
    exact absurd (hx w k (by rw [hres]; exact hk) hp) hw
  · rw [Routine.bind_of_ok hres] at hk
    refine ⟨a, w', rfl, fun hk' => hw (hx w k (by rw [hres]; exact hk') hp), hk⟩

/-- A call that a sequence made before silent steps was made by its first step. -/
theorem call_before (hf : ∀ a, Silent p (f a)) {w : World C κ} {k : κ} (hp : p k)
    (hk : k ∈ ((x >>= f) w).2.calls) : k ∈ (x w).2.calls := by
  rcases hres : x w with ⟨a | a, w'⟩
  · rw [Routine.bind_of_error hres] at hk
    exact hk
  · rw [Routine.bind_of_ok hres] at hk
    exact hf a w' k hk hp

end Silent

end World

end BondTrading.Sql
