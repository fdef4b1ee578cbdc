/-
# BondTrading.Py.Outcome -- when a computation that may raise returns

A function of the source is a sequence of steps in `Except`; `raiseIf` and `orRaise` are
its checks, and `bind_eq_ok` takes a sequence that returned apart.

`Gives x P`: what `x` returns, if it returns, meets `P`.

`Returns x P a`: the computation `x` returns `a` if `P` holds and raises if it does
not.  The rules follow the program's own sequencing, so the condition of a whole
function is read off its steps.
-/
import Mathlib.Logic.Basic

namespace BondTrading.Py

variable {ε α β : Type}

/-! ## Steps whose outcome is known -/

@[simp] theorem ok_bind (a : α) (f : α → Except ε β) : (Except.ok a >>= f) = f a := rfl

@[simp] theorem error_bind (e : ε) (f : α → Except ε β) :
    ((Except.error e : Except ε α) >>= f) = .error e := rfl

@[simp] theorem ok_orM_ok (a b : Bool) : (orM (.ok a) (.ok b) : Except ε Bool) = .ok (a || b) := by
  cases a <;> rfl

@[simp] theorem ok_andM_ok (a b : Bool) :
    (andM (.ok a) (.ok b) : Except ε Bool) = .ok (a && b) := by
  cases a <;> rfl

/-- A sequence returned: so did both of its steps. -/
theorem bind_eq_ok {x : Except ε α} {f : α → Except ε β} {b : β} :
    (x >>= f) = .ok b ↔ ∃ a, x = .ok a ∧ f a = .ok b := by
  cases x with
  | ok a => simp
  | error e => simp

/-- A sequence returns exactly when its steps do. -/
theorem bind_returns_iff {x : Except ε α} {f : α → Except ε β} :
    (∃ b, (x >>= f) = .ok b) ↔ ∃ a, x = .ok a ∧ ∃ b, f a = .ok b := by
  constructor
  · rintro ⟨b, h⟩
    obtain ⟨a, ha, hb⟩ := bind_eq_ok.mp h
    exact ⟨a, ha, b, hb⟩
  · rintro ⟨a, ha, b, hb⟩
    exact ⟨b, bind_eq_ok.mpr ⟨a, ha, hb⟩⟩

theorem orM_eq_false_iff {x y : Except ε Bool} :
    (x <||> y) = .ok false ↔ x = .ok false ∧ y = .ok false := by
  cases x with
  | error e => exact iff_of_false (fun h => nomatch h) fun h => nomatch h.1
  | ok a =>
      cases a with
      | true => exact iff_of_false (fun h => nomatch Except.ok.inj h) fun h => nomatch h.1
      | false => exact ⟨fun h => ⟨rfl, h⟩, fun h => h.2⟩

theorem map_eq_ok {x : Except ε α} {f : α → β} {b : β} :
    x.map f = .ok b ↔ ∃ a, x = .ok a ∧ f a = b := by
  cases x with
  | ok a => simp [Except.map]
  | error e => simp [Except.map]

/-- A check that raises when `c` holds was passed. -/
theorem check_eq_ok {x : Except ε α} {c : Prop} [Decidable c] {e : ε} {a : α} :
    (if c then .error e else x) = .ok a ↔ ¬ c ∧ x = .ok a := by
  by_cases hc : c <;> simp [hc]

theorem mapM_congr {f g : α → Except ε β} {l : List α} (h : ∀ a ∈ l, f a = g a) :
    l.mapM f = l.mapM g := by
  induction l with
  | nil => rfl
  | cons a l ih =>
      rw [List.mapM_cons, List.mapM_cons, h a List.mem_cons_self,
        ih fun b hb => h b (List.mem_cons_of_mem _ hb)]

/-- A check of every element that changes none. -/
theorem mapM_eq_self {f : α → Except ε α} {l : List α} (h : ∀ a ∈ l, f a = .ok a) :
    l.mapM f = .ok l := by
  induction l with
  | nil => rfl
  | cons a l ih =>
      rw [List.mapM_cons, h a List.mem_cons_self, ih fun b hb => h b (List.mem_cons_of_mem _ hb)]
      rfl

/-- A filter whose condition does not raise. -/
theorem filterM_of_decided {p : α → Except ε Bool} {q : α → Bool} {l : List α}
    (h : ∀ a ∈ l, p a = .ok (q a)) : l.filterM p = .ok (l.filter q) := by
  suffices hfrom : ∀ acc, l.filterAuxM p acc = .ok ((l.filter q).reverse ++ acc) by
    unfold List.filterM
    rw [hfrom [], List.append_nil]
    exact congrArg Except.ok (List.reverse_reverse _)
  induction l with
  | nil => exact fun acc => rfl
  | cons a l ih =>
      intro acc
      rw [List.filterAuxM, h a List.mem_cons_self, ok_bind,
        ih fun b hb => h b (List.mem_cons_of_mem _ hb)]
      cases hq : q a with
      | true => rw [List.filter_cons_of_pos hq, List.reverse_cons, List.append_assoc]; rfl
      | false => rw [List.filter_cons_of_neg (by simp [hq])]; rfl

theorem mapM_returns_iff {f : α → Except ε β} {l : List α} :
    (∃ bs, l.mapM f = .ok bs) ↔ ∀ a ∈ l, ∃ b, f a = .ok b := by
  induction l with
  | nil => exact iff_of_true ⟨[], rfl⟩ fun _ h => absurd h List.not_mem_nil
  | cons a l ih =>
      rw [List.mapM_cons, List.forall_mem_cons, ← ih]
      constructor
      · rintro ⟨bs, h⟩
        obtain ⟨b, hb, h⟩ := bind_eq_ok.mp h
        obtain ⟨rest, hrest, -⟩ := bind_eq_ok.mp h
        exact ⟨⟨b, hb⟩, rest, hrest⟩
      · rintro ⟨⟨b, hb⟩, rest, hrest⟩
        exact ⟨b :: rest, bind_eq_ok.mpr ⟨b, hb, bind_eq_ok.mpr ⟨rest, hrest, rfl⟩⟩⟩

/-- What a loop over a list collects: one value for each element. -/
theorem exists_of_mem_mapM {f : α → Except ε β} {l : List α} {bs : List β}
    (h : l.mapM f = .ok bs) : bs.length = l.length ∧ ∀ b ∈ bs, ∃ a ∈ l, f a = .ok b := by
  induction l generalizing bs with
  | nil =>
      obtain rfl := Except.ok.inj h
      exact ⟨rfl, by simp⟩
  | cons a l ih =>
      rw [List.mapM_cons] at h
      obtain ⟨b, hb, h⟩ := bind_eq_ok.mp h
      obtain ⟨rest, hrest, h⟩ := bind_eq_ok.mp h
      obtain rfl := Except.ok.inj h
      obtain ⟨hlength, hmem⟩ := ih hrest
      refine ⟨by simp [hlength], ?_⟩
      intro c hc
      rcases List.mem_cons.mp hc with rfl | hc
      · exact ⟨a, by simp, hb⟩
      · obtain ⟨a', ha', hf⟩ := hmem c hc
        exact ⟨a', by simp [ha'], hf⟩

/-- What is read off the values of a loop is read off its elements. -/
theorem map_of_mapM {γ : Type} {f : α → Except ε β} {g : β → γ} {g' : α → γ}
    (hf : ∀ a b, f a = .ok b → g b = g' a) {l : List α} {bs : List β} (h : l.mapM f = .ok bs) :
    bs.map g = l.map g' := by
  induction l generalizing bs with
  | nil =>
      obtain rfl := Except.ok.inj h
      rfl
  | cons a l ih =>
      rw [List.mapM_cons] at h
      obtain ⟨b, hb, h⟩ := bind_eq_ok.mp h
      obtain ⟨rest, hrest, h⟩ := bind_eq_ok.mp h
      obtain rfl := Except.ok.inj h
      rw [List.map_cons, List.map_cons, hf a b hb, ih hrest]

/-- **The part of a collection that an element contributed**, told by a key that sets the
elements apart. -/
theorem filter_flatten_mapM {κ : Type} [DecidableEq κ] {f : α → Except ε (List β)} (key : α → κ)
    (key' : β → κ) (hkey : ∀ a bs, f a = .ok bs → ∀ b ∈ bs, key' b = key a) {l : List α}
    (hnodup : (l.map key).Nodup) {bss : List (List β)} (h : l.mapM f = .ok bss) (k : κ) :
    (∀ a ∈ l, key a = k → f a = .ok (bss.flatten.filter fun b => key' b = k)) ∧
      (k ∉ l.map key → bss.flatten.filter (fun b => key' b = k) = []) := by
  induction l generalizing bss with
  | nil =>
      obtain rfl := Except.ok.inj h
      exact ⟨fun _ ha => absurd ha List.not_mem_nil, fun _ => rfl⟩
  | cons a l ih =>
      rw [List.mapM_cons, bind_eq_ok] at h
      obtain ⟨bs, hbs, h⟩ := h
      obtain ⟨rest, hrest, hreturn⟩ := bind_eq_ok.mp h
      obtain rfl := Except.ok.inj hreturn
      obtain ⟨hfresh, hnodup⟩ := List.nodup_cons.mp hnodup
      obtain ⟨hmem, hnone⟩ := ih hnodup hrest
      rw [List.flatten_cons, List.filter_append]
      by_cases hk : key a = k
      · subst hk
        have hall : bs.filter (fun b => key' b = key a) = bs := by
          rw [List.filter_eq_self]
          intro b hb
          exact decide_eq_true (hkey a bs hbs b hb)
        rw [hall, hnone hfresh, List.append_nil]
        refine ⟨?_, fun habsent => absurd List.mem_cons_self habsent⟩
        intro a' ha' hsame
        rcases List.mem_cons.mp ha' with rfl | ha'
        · exact hbs
        · exact absurd (List.mem_map.mpr ⟨a', ha', hsame⟩) hfresh
      · have hothers : bs.filter (fun b => key' b = k) = [] := by
          rw [List.filter_eq_nil_iff]
          intro b hb hb'
          rw [decide_eq_true_eq, hkey a bs hbs b hb] at hb'
          exact hk hb'
        rw [hothers, List.nil_append]
        refine ⟨?_, fun habsent => hnone fun h => habsent (List.mem_cons_of_mem _ h)⟩
        intro a' ha' hsame
        rcases List.mem_cons.mp ha' with rfl | ha'
        · exact absurd hsame hk
        · exact hmem a' ha' hsame

theorem exists_of_isOk {x : Except ε α} (h : x.isOk = true) : ∃ a, x = .ok a := by
  cases x with
  | ok a => exact ⟨a, rfl⟩
  | error e => exact absurd h (by simp [Except.isOk, Except.toBool])

/-- `if c: raise e`. -/
def raiseIf (c : Prop) [Decidable c] (e : ε) : Except ε Unit := if c then .error e else .ok ()

theorem raiseIf_eq_ok {c : Prop} [Decidable c] {e : ε} {u : Unit} :
    raiseIf c e = .ok u ↔ ¬ c := by
  unfold raiseIf
  rw [check_eq_ok]
  exact and_iff_left rfl

/-- `if x is None: raise e`. -/
def orRaise (x : Option α) (e : ε) : Except ε α :=
  match x with
  | some a => .ok a
  | none => .error e

theorem orRaise_eq_ok {x : Option α} {e : ε} {a : α} : orRaise x e = .ok a ↔ x = some a := by
  cases x <;> simp [orRaise]

/-! ## Exact conditions -/

/-- **`x` returns exactly under `P`, and then it returns `a`.** -/
structure Returns (x : Except ε α) (P : Prop) (a : α) : Prop where
  returns : P → x = .ok a
  raises : ¬ P → ∃ e, x = .error e

namespace Returns

theorem ok (a : α) : Returns (.ok a : Except ε α) True a :=
  ⟨fun _ => rfl, fun h => absurd trivial h⟩

/-- A check in front of `x` that raises when `c` holds. -/
theorem check {x : Except ε α} {P : Prop} {a : α} (c : Prop) [Decidable c] (e : ε)
    (hx : Returns x P a) : Returns (if c then .error e else x) (¬ c ∧ P) a := by
  by_cases hc : c
  · rw [if_pos hc]
    exact ⟨fun h => absurd hc h.1, fun _ => ⟨e, rfl⟩⟩
  · rw [if_neg hc]
    exact ⟨fun h => hx.returns h.2, fun h => hx.raises fun hP => h ⟨hc, hP⟩⟩

/-- Sequencing: the second step matters only where the first returned. -/
theorem bind {x : Except ε α} {f : α → Except ε β} {P Q : Prop} {a : α} {b : β}
    (hx : Returns x P a) (hf : P → Returns (f a) Q b) : Returns (x >>= f) (P ∧ Q) b := by
  by_cases hP : P
  · have hxa : x = .ok a := hx.returns hP
    subst hxa
    refine ⟨fun h => (hf hP).returns h.2, fun h => (hf hP).raises fun hQ => h ⟨hP, hQ⟩⟩
  · obtain ⟨e, he⟩ := hx.raises hP
    subst he
    exact ⟨fun h => absurd h.1 hP, fun _ => ⟨e, rfl⟩⟩

theorem congr {x : Except ε α} {P Q : Prop} {a : α} (h : Returns x P a) (hPQ : P ↔ Q) :
    Returns x Q a :=
  ⟨fun hQ => h.returns (hPQ.mpr hQ), fun hQ => h.raises fun hP => hQ (hPQ.mp hP)⟩

/-- The condition is the exact one. -/
theorem iff {x : Except ε α} {P : Prop} {a : α} (h : Returns x P a) :
    (∃ r, x = .ok r) ↔ P := by
  refine ⟨fun ⟨r, hr⟩ => ?_, fun hP => ⟨a, h.returns hP⟩⟩
  refine Classical.byContradiction fun hP => ?_
  obtain ⟨e, he⟩ := h.raises hP
  rw [hr] at he
  exact absurd he (by simp)

end Returns

/-! ## What a computation gives -/

/-- What `x` returns, if it returns, meets `P`. -/
def Gives (x : Except ε α) (P : α → Prop) : Prop := ∀ a, x = .ok a → P a

namespace Gives

variable {x : Except ε α} {P P' : α → Prop}

theorem ok {a : α} (h : P a) : Gives (ε := ε) (.ok a) P := by
  rintro _ ⟨⟩
  exact h

theorem error (e : ε) : Gives (.error e) P := fun _ h => nomatch h

theorem mono (h : Gives x P) (hP : ∀ a, P a → P' a) : Gives x P' := fun a ha => hP a (h a ha)

theorem trivial : Gives x fun _ => True := fun _ _ => True.intro

/-- **Sequencing**: the second step may rely on what the first gave. -/
theorem bind {f : α → Except ε β} {Q : β → Prop} (hx : Gives x P) (hf : ∀ a, P a → Gives (f a) Q) :
    Gives (x >>= f) Q := by
  intro b hb
  obtain ⟨a, ha, hfa⟩ := bind_eq_ok.mp hb
  exact hf a (hx a ha) b hfa

theorem map {f : α → β} {Q : β → Prop} (hx : Gives x fun a => Q (f a)) : Gives (x.map f) Q := by
  intro b hb
  obtain ⟨a, ha, rfl⟩ := map_eq_ok.mp hb
  exact hx a ha

/-- A statement that raises when the condition holds, and the rest. -/
theorem check {c : Prop} [Decidable c] {e : ε} {y : Except ε α}
    (h : ¬ c → Gives y P) : Gives (if c then (do throw e; y) else y) P := by
  by_cases hc : c
  · rw [if_pos hc]
    exact error e
  · rw [if_neg hc]
    exact h hc

/-- `x or y`: when it is false, both were evaluated. -/
theorem orM {x y : Except ε Bool} {P : Prop} {Q : Bool → Prop} (hx : Gives x fun _ => P)
    (hy : Gives y Q) : Gives (x <||> y) fun r => P ∧ (r = false → Q r) := by
  intro r hr
  cases x with
  | error e => cases hr
  | ok a =>
      refine ⟨hx a rfl, ?_⟩
      intro hfalse
      cases a with
      | true => cases (Except.ok.inj hr).trans hfalse
      | false => exact hy r hr

/-- A loop keeps what every round keeps. -/
theorem foldlM {σ : Type} {f : σ → α → Except ε σ} {I : σ → Prop} {l : List α}
    (hround : ∀ s, I s → ∀ a ∈ l, Gives (f s a) I) {s : σ} (hs : I s) :
    Gives (l.foldlM f s) I := by
  induction l generalizing s with
  | nil => exact ok hs
  | cons a l ih =>
      rw [List.foldlM_cons]
      refine bind (hround s hs a List.mem_cons_self) ?_
      intro s' hs'
      exact ih (fun t ht b hb => hround t ht b (List.mem_cons_of_mem _ hb)) hs'

end Gives

/-! ## What a computation follows -/

/-- **`x` follows `y`**: it returns `g b` where `y` is some `b`, and raises where `y` is nothing. -/
def Follows (x : Except ε α) (y : Option β) (g : β → α) : Prop :=
  ∀ a, x = .ok a ↔ ∃ b, y = some b ∧ a = g b

namespace Follows

variable {γ δ : Type} {x : Except ε α} {y : Option β} {g : β → α}

theorem ok {a : α} {b : β} (h : a = g b) : Follows (.ok a : Except ε α) (some b) g := by
  intro a'
  subst h
  simp [eq_comm]

theorem error (e : ε) : Follows (.error e) none g := by
  intro a
  simp

/-- A check that raises where the guard does not hold, and the rest. -/
theorem check {c p : Prop} [Decidable c] [Decidable p] {e : ε} (hp : p ↔ ¬ c)
    (h : p → Follows x y g) : Follows (if c then .error e else x) (guard p >>= fun _ => y) g := by
  by_cases hc : c
  · have hnone : (guard p : Option Unit) = none := if_neg fun hguard => hp.mp hguard hc
    rw [if_pos hc, hnone]
    exact error e
  · have hsome : (guard p : Option Unit) = some () := if_pos (hp.mpr hc)
    rw [if_neg hc, hsome]
    exact h (hp.mpr hc)

/-- What `x` gives, told of what `y` gives. -/
theorem returns_iff (h : Follows x y g) {P : α → Prop} :
    (∃ a, x = .ok a ∧ P a) ↔ ∃ b, y = some b ∧ P (g b) := by
  constructor
  · rintro ⟨a, ha, hP⟩
    obtain ⟨b, hb, rfl⟩ := (h a).mp ha
    exact ⟨b, hb, hP⟩
  · rintro ⟨b, hb, hP⟩
    exact ⟨g b, (h _).mpr ⟨b, hb, rfl⟩, hP⟩

/-- **Sequencing.** -/
theorem bind {f : α → Except ε γ} {z : β → Option δ} {k : δ → γ} (hx : Follows x y g)
    (hf : ∀ b, Follows (f (g b)) (z b) k) : Follows (x >>= f) (y >>= z) k := by
  intro a
  rw [bind_eq_ok, hx.returns_iff]
  constructor
  · rintro ⟨b, hb, ha⟩
    obtain ⟨d, hd, rfl⟩ := (hf b a).mp ha
    exact ⟨d, Option.bind_eq_some_iff.mpr ⟨b, hb, hd⟩, rfl⟩
  · rintro ⟨d, hd, rfl⟩
    obtain ⟨b, hb, hd⟩ := Option.bind_eq_some_iff.mp hd
    exact ⟨b, hb, (hf b _).mpr ⟨d, hd, rfl⟩⟩

theorem map {f : α → γ} {z : β → δ} {k : δ → γ} (hx : Follows x y g)
    (hk : ∀ b, f (g b) = k (z b)) : Follows (x.map f) (y.map z) k := by
  intro c
  rw [map_eq_ok, hx.returns_iff]
  simp only [Option.map_eq_some_iff]
  constructor
  · rintro ⟨b, hb, rfl⟩
    exact ⟨z b, ⟨b, hb, rfl⟩, hk b⟩
  · rintro ⟨_, ⟨b, hb, rfl⟩, rfl⟩
    exact ⟨b, hb, hk b⟩

/-- A loop follows a loop whose rounds it follows. -/
theorem foldlM {σ τ ι κ : Type} {f : σ → ι → Except ε σ} {z : τ → κ → Option τ} {g : τ → σ}
    {k : κ → ι} (hround : ∀ t j, Follows (f (g t) (k j)) (z t j) g) (l : List κ) (t : τ) :
    Follows ((l.map k).foldlM f (g t)) (l.foldlM z t) g := by
  induction l generalizing t with
  | nil => exact ok rfl
  | cons j l ih => exact (hround t j).bind ih

end Follows

/-! ## Agreement of two computations -/

/-- **Both return, related by `R`, or both raise the same exception.** -/
inductive Agrees (R : α → β → Prop) : Except ε α → Except ε β → Prop
  | ok {a : α} {b : β} (h : R a b) : Agrees R (.ok a) (.ok b)
  | error (e : ε) : Agrees R (.error e) (.error e)

namespace Agrees

variable {γ δ : Type} {R : α → β → Prop} {S : γ → δ → Prop}

theorem bind {x : Except ε α} {y : Except ε β} {f : α → Except ε γ} {g : β → Except ε δ}
    (h : Agrees R x y) (hrest : ∀ a b, R a b → Agrees S (f a) (g b)) :
    Agrees S (x >>= f) (y >>= g) := by
  cases h with
  | ok hab => exact hrest _ _ hab
  | error e => exact .error e

/-- After a step that both share, and that returned. -/
theorem bind_shared {x : Except ε α} {f : α → Except ε γ} {g : α → Except ε δ}
    (hrest : ∀ a, x = .ok a → Agrees S (f a) (g a)) : Agrees S (x >>= f) (x >>= g) := by
  cases x with
  | ok a => exact hrest a rfl
  | error e => exact .error e

theorem bind_same {x : Except ε α} {f : α → Except ε γ} {g : α → Except ε δ}
    (hrest : ∀ a, Agrees S (f a) (g a)) : Agrees S (x >>= f) (x >>= g) :=
  bind_shared fun a _ => hrest a

/-- A rest that cannot tell the related values apart. -/
theorem bind_eq {x : Except ε α} {y : Except ε β} {f : α → Except ε γ} {g : β → Except ε γ}
    (h : Agrees R x y) (hrest : ∀ a b, R a b → f a = g b) : (x >>= f) = (y >>= g) := by
  cases h with
  | ok hab => exact hrest _ _ hab
  | error e => rfl

theorem refl {x : Except ε α} {T : α → α → Prop} (h : ∀ a, T a a) : Agrees T x x := by
  cases x with
  | ok a => exact .ok (h a)
  | error e => exact .error e

theorem mono {x : Except ε α} {y : Except ε β} {R' : α → β → Prop} (h : Agrees R x y)
    (hR : ∀ a b, R a b → R' a b) : Agrees R' x y := by
  cases h with
  | ok hab => exact .ok (hR _ _ hab)
  | error e => exact .error e

theorem of_ok {a : α} {y : Except ε β} (h : Agrees R (.ok a) y) : ∃ b, y = .ok b ∧ R a b := by
  cases h with
  | ok hab => exact ⟨_, rfl, hab⟩

theorem of_error {e : ε} {y : Except ε β} (h : Agrees R (.error e) y) : y = .error e := by
  cases h with
  | error => rfl

theorem map {x : Except ε α} {y : Except ε β} {f : α → γ} {g : β → δ} (h : Agrees R x y)
    (hfg : ∀ a b, R a b → S (f a) (g b)) : Agrees S (x.map f) (y.map g) := by
  cases h with
  | ok hab => exact .ok (hfg _ _ hab)
  | error e => exact .error e

theorem map_eq {x : Except ε α} {y : Except ε β} {f : α → γ} {g : β → γ} (h : Agrees R x y)
    (hfg : ∀ a b, R a b → f a = g b) : x.map f = y.map g := by
  cases h with
  | ok hab => exact congrArg Except.ok (hfg _ _ hab)
  | error e => rfl

/-- The related values are the ones that were returned. -/
theorem and_eq {x : Except ε α} {y : Except ε β} (h : Agrees R x y) :
    Agrees (fun a b => R a b ∧ x = .ok a ∧ y = .ok b) x y := by
  cases h with
  | ok hab => exact .ok ⟨hab, rfl, rfl⟩
  | error e => exact .error e

theorem and_left {x : Except ε α} {y : Except ε β} (h : Agrees R x y) :
    Agrees (fun a b => R a b ∧ x = .ok a) x y := h.and_eq.mono fun _ _ h => ⟨h.1, h.2.1⟩

/-- **The rule of loops**: a loop that threads a state agrees with a loop that collects a
value each round, when every round does.  `I` is what the states and the values collected so
far keep. -/
theorem foldlM_mapM {ι σ : Type} {I : σ → List β → Prop} {step : σ → ι → Except ε σ}
    {value : ι → Except ε β} {l : List ι}
    (hstep : ∀ i ∈ l, ∀ s bs, I s bs → Agrees (fun s' b => I s' (bs ++ [b])) (step s i) (value i))
    {s : σ} {bs : List β} (h : I s bs) :
    Agrees (fun s' bs' => I s' (bs ++ bs')) (l.foldlM step s) (l.mapM value) := by
  induction l generalizing s bs with
  | nil =>
      refine .ok ?_
      show I s (bs ++ [])
      rw [List.append_nil]
      exact h
  | cons i l ih =>
      rw [List.foldlM_cons, List.mapM_cons]
      apply (hstep i List.mem_cons_self s bs h).bind
      intro s' b hb
      have hrest := ih (fun j hj => hstep j (List.mem_cons_of_mem _ hj)) hb
      rw [← bind_pure (l.foldlM step s')]
      apply hrest.bind
      intro s'' bs' hbs'
      refine .ok ?_
      rw [List.append_assoc] at hbs'
      exact hbs'

end Agrees

/-! ## Agreement up to a view of the exceptions -/

section MapError

variable {κ : Type} (k : ε → κ)

@[simp] theorem mapError_ok (a : α) : (Except.ok a : Except ε α).mapError k = .ok a := rfl

@[simp] theorem mapError_error (e : ε) :
    (Except.error e : Except ε α).mapError k = .error (k e) := rfl

/-- Two computations that agree up to what `k` keeps of their exceptions still agree
after the same continuation. -/
theorem mapError_eq_ok {x : Except ε α} {a : α} : x.mapError k = .ok a ↔ x = .ok a := by
  cases x with
  | ok b => simp
  | error e => simp

theorem mapError_bind_congr {x y : Except ε α} (f : α → Except ε β)
    (h : x.mapError k = y.mapError k) : (x >>= f).mapError k = (y >>= f).mapError k := by
  cases x with
  | ok a =>
      cases y with
      | ok b =>
          have hab : a = b := Except.ok.inj h
          rw [hab]
      | error e => simp at h
  | error e =>
      cases y with
      | ok b => simp at h
      | error e' =>
          have hk : k e = k e' := Except.error.inj h
          show Except.error (k e) = Except.error (k e')
          rw [hk]

/-- The same for a shared first step. -/
theorem mapError_bind_right (x : Except ε α) {f g : α → Except ε β}
    (h : ∀ a, x = .ok a → (f a).mapError k = (g a).mapError k) :
    (x >>= f).mapError k = (x >>= g).mapError k := by
  cases x with
  | ok a => exact h a rfl
  | error e => rfl

end MapError

end BondTrading.Py
