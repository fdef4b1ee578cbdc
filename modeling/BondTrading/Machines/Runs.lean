/-
# BondTrading.Machines.Runs -- machines, their histories, and rules about whole runs

A `Machine` takes one event at a time and answers it.  A run is a list of events; its
`history` keeps, for every event, the state it met and the answer it got.  The rules:

* `invariant_run` -- what one step preserves, a whole run preserves;
* `history_induction` -- the same for a relation between the state and the history;
* `invariant_along` -- the same when every step of the run meets a guard;
* `Along.imp`, `Along.given_iff` -- a guard that implies another one wherever the run comes,
  or that is only asked for beside another one;
* `always_iff_along` -- and when the guard is exactly what keeps a run inside;
* `timed` -- the machine with a clock that the events set;
* `since_snoc` -- how "`start` happened and no `stop` after it" moves with one step;
* `unwinding` -- two runs that differ in their hidden events only, observed by the rest;
* `in_step` -- two machines whose steps keep their states related and answer alike.

Nothing here knows what the states or the events are.
-/
import Mathlib.Data.List.Basic
import Mathlib.Data.List.Forall2

namespace BondTrading.Machines

universe u v w

/-- A state, an event, the next state and the answer. -/
structure Machine (σ : Type u) (ε : Type v) (ρ : Type w) where
  step : σ → ε → σ × ρ

/-- One line of a history. -/
structure Entry (σ : Type u) (ε : Type v) (ρ : Type w) where
  before : σ
  event : ε
  response : ρ

namespace Machine

variable {σ : Type u} {ε : Type v} {ρ : Type w} (m : Machine σ ε ρ)

/-- The state after the step. -/
def next (s : σ) (e : ε) : σ := (m.step s e).1

/-- The line the step adds to the history. -/
def entry (s : σ) (e : ε) : Entry σ ε ρ := ⟨s, e, (m.step s e).2⟩

/-- The state after a list of events. -/
def run (s : σ) : List ε → σ
  | [] => s
  | e :: es => run (m.next s e) es

/-- What happened on the way. -/
def history (s : σ) : List ε → List (Entry σ ε ρ)
  | [] => []
  | e :: es => m.entry s e :: history (m.next s e) es

@[simp] theorem run_nil (s : σ) : m.run s [] = s := rfl

@[simp] theorem run_cons (s : σ) (e : ε) (es : List ε) :
    m.run s (e :: es) = m.run (m.next s e) es := rfl

@[simp] theorem history_nil (s : σ) : m.history s [] = [] := rfl

@[simp] theorem history_cons (s : σ) (e : ε) (es : List ε) :
    m.history s (e :: es) = m.entry s e :: m.history (m.next s e) es := rfl

theorem run_append (s : σ) (es fs : List ε) : m.run s (es ++ fs) = m.run (m.run s es) fs := by
  induction es generalizing s with
  | nil => rfl
  | cons e es ih => exact ih (m.next s e)

theorem history_append (s : σ) (es fs : List ε) :
    m.history s (es ++ fs) = m.history s es ++ m.history (m.run s es) fs := by
  induction es generalizing s with
  | nil => rfl
  | cons e es ih =>
      show m.entry s e :: m.history (m.next s e) (es ++ fs) = _
      rw [ih]
      rfl

/-! ## Invariants -/

/-- **What holds at the start and survives every step holds after every run.** -/
theorem invariant_run {I : σ → Prop} (hstep : ∀ s e, I s → I (m.next s e)) {s : σ} (h : I s)
    (es : List ε) : I (m.run s es) := by
  induction es generalizing s with
  | nil => exact h
  | cons e es ih => exact ih (hstep s e h)

/-- The same for a relation between the state and what led to it. -/
theorem history_induction {P : σ → List (Entry σ ε ρ) → Prop}
    (hstep : ∀ s hist e, P s hist → P (m.next s e) (hist ++ [m.entry s e])) {s : σ} (h : P s [])
    (es : List ε) : P (m.run s es) (m.history s es) := by
  -- from any past `hist`, the run extends it by its own history
  suffices hpast : ∀ (t : σ) (hist : List (Entry σ ε ρ)), P t hist →
      P (m.run t es) (hist ++ m.history t es) from hpast s [] h
  clear h
  induction es with
  | nil =>
      intro t hist ht
      rw [history_nil, List.append_nil]
      exact ht
  | cons e es ih =>
      intro t hist ht
      have hnext := ih (m.next t e) (hist ++ [m.entry t e]) (hstep t hist e ht)
      rw [List.append_assoc] at hnext
      exact hnext

/-- Every step of the run meets the guard `G`. -/
def Along (G : σ → ε → Prop) : σ → List ε → Prop
  | _, [] => True
  | s, e :: es => G s e ∧ Along G (m.next s e) es

instance decidableAlong {G : σ → ε → Prop} [∀ s e, Decidable (G s e)] (s : σ) :
    (es : List ε) → Decidable (m.Along G s es)
  | [] => isTrue trivial
  | e :: es =>
      have : Decidable (m.Along G (m.next s e) es) := decidableAlong (m.next s e) es
      inferInstanceAs (Decidable (G s e ∧ m.Along G (m.next s e) es))

theorem along_append {G : σ → ε → Prop} {s : σ} {es fs : List ε} :
    m.Along G s (es ++ fs) ↔ m.Along G s es ∧ m.Along G (m.run s es) fs := by
  induction es generalizing s with
  | nil => exact (true_and _).to_iff.symm
  | cons e es ih =>
      show G s e ∧ m.Along G (m.next s e) (es ++ fs) ↔ (G s e ∧ _) ∧ _
      rw [ih, and_assoc]
      exact Iff.rfl

/-- A guard that every event of the run meets in any state. -/
theorem along_of_forall {G : σ → ε → Prop} {s : σ} {es : List ε} (h : ∀ e ∈ es, ∀ s, G s e) :
    m.Along G s es := by
  induction es generalizing s with
  | nil => trivial
  | cons e es ih =>
      exact ⟨h e List.mem_cons_self s, ih fun f hf => h f (List.mem_cons_of_mem _ hf)⟩

/-- A guard that implies another one in the states the guarded runs visit. -/
theorem Along.imp {W : σ → Prop} {G G' : σ → ε → Prop} (hW : ∀ s e, W s → G s e → W (m.next s e))
    (himp : ∀ s e, W s → G s e → G' s e) {s : σ} (hs : W s) {es : List ε} (h : m.Along G s es) :
    m.Along G' s es := by
  induction es generalizing s with
  | nil => trivial
  | cons e es ih => exact ⟨himp s e hs h.1, ih (hW s e hs h.1) h.2⟩

/-- A guard that only has to hold where another one does, which holds all along. -/
theorem Along.given_iff {G H : σ → ε → Prop} {s : σ} {es : List ε} (h : m.Along H s es) :
    m.Along (fun s e => H s e → G s e) s es ↔ m.Along G s es := by
  induction es generalizing s with
  | nil => exact Iff.rfl
  | cons e es ih => exact and_congr (forall_prop_of_true h.1) (ih h.2)

/-- **An invariant that guarded steps preserve holds after every guarded run.** -/
theorem invariant_along {G : σ → ε → Prop} {I : σ → Prop}
    (hstep : ∀ s e, I s → G s e → I (m.next s e)) {s : σ} (h : I s) {es : List ε}
    (hes : m.Along G s es) : I (m.run s es) := by
  induction es generalizing s with
  | nil => exact h
  | cons e es ih => exact ih (hstep s e h hes.1) hes.2

/-- Every state the run visits meets `I`. -/
def Always (I : σ → Prop) : σ → List ε → Prop
  | s, [] => I s
  | s, e :: es => I s ∧ Always I (m.next s e) es

/-- **Exactly the guarded runs stay inside `I`**, when a step from `I` stays inside
exactly if it meets the guard.  `W` is what every step preserves anyway. -/
theorem always_iff_along {W I : σ → Prop} {G : σ → ε → Prop}
    (hW : ∀ s e, W s → W (m.next s e))
    (hstep : ∀ s e, W s → I s → (I (m.next s e) ↔ G s e)) {s : σ} (hs : W s) (h : I s)
    (es : List ε) : m.Always I s es ↔ m.Along G s es := by
  induction es generalizing s with
  | nil => exact iff_of_true h trivial
  | cons e es ih =>
      show I s ∧ m.Always I (m.next s e) es ↔ G s e ∧ m.Along G (m.next s e) es
      rw [and_iff_right h]
      constructor
      · intro hrest
        -- the next state is visited, so the step met the guard
        have hnext : I (m.next s e) := by
          cases es with
          | nil => exact hrest
          | cons f fs => exact hrest.1
        exact ⟨(hstep s e hs h).mp hnext, (ih (hW s e hs) hnext).mp hrest⟩
      · rintro ⟨hG, hrest⟩
        exact (ih (hW s e hs) ((hstep s e hs h).mpr hG)).mpr hrest

/-! ## Two runs -/

section TwoRuns

variable {ω : Type*} {visible : ε → Bool} {observe : Entry σ ε ρ → Option ω} {G : σ → ε → Prop}
  {R : σ → σ → Prop}

/-- Hidden events alone: the state stays related to `t`, and nothing is observed. -/
theorem hidden_run
    (hhidden : ∀ s t e, R s t → visible e = false → G s e →
      R (m.next s e) t ∧ observe (m.entry s e) = none)
    {s t : σ} (h : R s t) {es : List ε} (hes : ∀ e ∈ es, ¬ visible e = true)
    (halong : m.Along G s es) :
    R (m.run s es) t ∧ (m.history s es).filterMap observe = [] := by
  induction es generalizing s with
  | nil => exact ⟨h, rfl⟩
  | cons e es ih =>
      have he : visible e = false := Bool.not_eq_true _ ▸ hes e List.mem_cons_self
      obtain ⟨hnext, hnone⟩ := hhidden s t e h he halong.1
      have hrest := ih hnext (fun f hf => hes f (List.mem_cons_of_mem _ hf)) halong.2
      rw [history_cons, List.filterMap_cons_none hnone]
      exact hrest

/-- **The unwinding rule.**  Two runs with the same visible events, each with hidden events
of its own: where a hidden step of one run and a visible step of both keep the states
related, and the visible lines look the same, the two histories look the same. -/
theorem unwinding (hsymm : ∀ s t, R s t → R t s)
    (hhidden : ∀ s t e, R s t → visible e = false → G s e →
      R (m.next s e) t ∧ observe (m.entry s e) = none)
    (hvisible : ∀ s t e, R s t → visible e = true → G s e → G t e →
      R (m.next s e) (m.next t e) ∧ observe (m.entry s e) = observe (m.entry t e))
    {s t : σ} (h : R s t) {es fs : List ε} (hsame : es.filter visible = fs.filter visible)
    (hes : m.Along G s es) (hfs : m.Along G t fs) :
    R (m.run s es) (m.run t fs) ∧
      (m.history s es).filterMap observe = (m.history t fs).filterMap observe := by
  induction es generalizing s t fs with
  | nil =>
      have hnone := List.filter_eq_nil_iff.mp hsame.symm
      obtain ⟨hrun, hobserved⟩ := m.hidden_run hhidden (hsymm s t h) hnone hfs
      exact ⟨hsymm _ _ hrun, hobserved.symm⟩
  | cons e es ih =>
      cases he : visible e with
      | false =>
          rw [List.filter_cons_of_neg (by simp [he])] at hsame
          obtain ⟨hnext, hnone⟩ := hhidden s t e h he hes.1
          have hrest := ih hnext hsame hes.2 hfs
          rw [history_cons, List.filterMap_cons_none hnone]
          exact hrest
      | true =>
          rw [List.filter_cons_of_pos he, eq_comm, List.filter_eq_cons_iff] at hsame
          obtain ⟨pre, post, rfl, hpre, -, hpost⟩ := hsame
          -- the other run comes to `e` after hidden events of its own
          rw [along_append] at hfs
          obtain ⟨hfirst, hstep, hlast⟩ := hfs
          obtain ⟨hrun, hobserved⟩ := m.hidden_run hhidden (hsymm s t h) hpre hfirst
          obtain ⟨hnext, hline⟩ := hvisible s _ e (hsymm _ _ hrun) he hes.1 hstep
          obtain ⟨hend, hrest⟩ := ih hnext hpost.symm hes.2 hlast
          rw [run_append, history_append, List.filterMap_append, hobserved, List.nil_append,
            history_cons, history_cons, run_cons, run_cons, List.filterMap_cons,
            List.filterMap_cons, hline, hrest]
          exact ⟨hend, rfl⟩

end TwoRuns

/-! ## Two machines -/

section TwoMachines

variable {τ : Type*} (n : Machine τ ε ρ) {R : σ → τ → Prop} {G : σ → ε → Prop}

/-- The answers on the way. -/
def responses (s : σ) (es : List ε) : List ρ := (m.history s es).map Entry.response

/-- **Two machines in step.**  What holds of the two states at the start and survives a guarded
step of both holds after every guarded run, and the answers are the same. -/
theorem in_step
    (hstep : ∀ s t e, R s t → G s e →
      R (m.next s e) (n.next t e) ∧ (m.entry s e).response = (n.entry t e).response)
    {s : σ} {t : τ} (h : R s t) {es : List ε} (hes : m.Along G s es) :
    R (m.run s es) (n.run t es) ∧ m.responses s es = n.responses t es := by
  induction es generalizing s t with
  | nil => exact ⟨h, rfl⟩
  | cons e es ih =>
      obtain ⟨hnext, hresponse⟩ := hstep s t e h hes.1
      obtain ⟨hrun, hresponses⟩ := ih hnext hes.2
      exact ⟨hrun, congrArg₂ List.cons hresponse hresponses⟩

end TwoMachines

/-! ## Clocks -/

/-- The machine with a clock: an event that has a date sets it. -/
def timed {τ : Type u} (m : Machine σ ε ρ) (time : ε → Option τ) : Machine (σ × τ) ε ρ where
  step s e := ((m.next s.1 e, (time e).getD s.2), (m.step s.1 e).2)

@[simp] theorem timed_next {τ : Type u} (time : ε → Option τ) (s : σ × τ) (e : ε) :
    (m.timed time).next s e = (m.next s.1 e, (time e).getD s.2) := rfl

/-- The clock watches only. -/
theorem timed_run_fst {τ : Type u} (time : ε → Option τ) (s : σ × τ) (es : List ε) :
    ((m.timed time).run s es).1 = m.run s.1 es := by
  induction es generalizing s with
  | nil => rfl
  | cons e es ih => exact ih ((m.timed time).next s e)

end Machine

/-! ## Since -/

section Since

variable {α : Type u} {start stop : α → Prop}

/-- `start` happened, and nothing after it was a `stop`. -/
def Since (start stop : α → Prop) (hist : List α) : Prop :=
  ∃ pre e post, hist = pre ++ e :: post ∧ start e ∧ ∀ x ∈ post, ¬ stop x

/-- **One more event**: it starts anew, or the past survives it. -/
theorem since_snoc (hist : List α) (x : α) :
    Since start stop (hist ++ [x]) ↔ start x ∨ (Since start stop hist ∧ ¬ stop x) := by
  constructor
  · rintro ⟨pre, e, post, h, hstart, hstop⟩
    rcases List.eq_nil_or_concat post with rfl | ⟨post', y, rfl⟩
    · have heq : hist ++ [x] = pre ++ [e] := h
      obtain ⟨-, hx⟩ := List.append_inj' heq rfl
      exact Or.inl ((List.cons.inj hx).1 ▸ hstart)
    · have heq : hist ++ [x] = (pre ++ e :: post') ++ [y] := by
        rw [h, List.append_assoc, List.cons_append, List.concat_eq_append]
      obtain ⟨hhist, hx⟩ := List.append_inj' heq rfl
      have hxy : x = y := (List.cons.inj hx).1
      refine Or.inr ⟨⟨pre, e, post', hhist, hstart, fun z hz => ?_⟩, ?_⟩
      · exact hstop z (by rw [List.concat_eq_append]; exact List.mem_append_left _ hz)
      · exact hxy ▸ hstop y (by simp)
  · rintro (hstart | ⟨⟨pre, e, post, rfl, hstart, hstop⟩, hx⟩)
    · exact ⟨hist, x, [], rfl, hstart, by simp⟩
    · refine ⟨pre, e, post ++ [x], by simp, hstart, fun z hz => ?_⟩
      rcases List.mem_append.mp hz with hz | hz
      · exact hstop z hz
      · exact (List.mem_singleton.mp hz) ▸ hx

/-- A stop in the later part leaves only a start in that part. -/
theorem Since.start_after {pre post : List α} (h : Since start stop (pre ++ post)) {x : α}
    (hx : x ∈ post) (hstop : stop x) : ∃ e ∈ post, start e := by
  obtain ⟨a, e, b, heq, hstart, hb⟩ := h
  rcases List.append_eq_append_iff.mp heq with ⟨c, rfl, rfl⟩ | ⟨c, rfl, hc⟩
  · exact ⟨e, by simp, hstart⟩
  · rcases c with _ | ⟨y, c⟩
    · exact ⟨e, by rw [← List.nil_append post, ← hc]; simp, hstart⟩
    · have hpost : b = c ++ post := (List.cons.inj hc).2
      exact absurd hstop (hb x (by rw [hpost]; exact List.mem_append_right _ hx))

theorem Since.mem {hist : List α} (h : Since start stop hist) : ∃ e ∈ hist, start e := by
  obtain ⟨pre, e, post, rfl, hstart, -⟩ := h
  exact ⟨e, by simp, hstart⟩

end Since

end BondTrading.Machines
