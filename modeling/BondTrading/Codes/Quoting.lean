/-
# BondTrading.Codes.Quoting -- texts between quotes

A text is put between quotes and every quote inside it is doubled.  The closing quote is
then the first one that no other quote follows, so a quoted text can be read off the front
of whatever stands behind it, as long as that does not begin with a quote itself.
-/
import Mathlib.Data.List.Basic

namespace BondTrading.Codes

variable {α : Type*} [DecidableEq α]

/-- A text with every quote doubled. -/
def doubled (quote : α) (cs : List α) : List α :=
  cs.flatMap fun c => if c = quote then [quote, quote] else [c]

/-- A text between quotes. -/
def quoted (quote : α) (cs : List α) : List α := quote :: doubled quote cs ++ [quote]

section Doubled

variable {quote : α} {cs ds xs ys : List α} {c : α}

@[simp] theorem doubled_nil : doubled quote [] = [] := rfl

@[simp] theorem doubled_cons_self :
    doubled quote (quote :: cs) = quote :: quote :: doubled quote cs := by
  simp [doubled]

theorem doubled_cons_of_ne (h : c ≠ quote) : doubled quote (c :: cs) = c :: doubled quote cs := by
  simp [doubled, h]

/-- A doubled text does not close where another one ends: behind its closing quote a quote
would follow, or its next character is no quote. -/
theorem doubled_append_ne (hys : ys.head? ≠ some quote) :
    doubled quote (c :: cs) ++ quote :: xs ≠ quote :: ys := by
  by_cases hc : c = quote
  · subst hc
    rw [doubled_cons_self]
    rintro h
    obtain rfl := List.tail_eq_of_cons_eq h
    exact hys rfl
  · rw [doubled_cons_of_ne hc]
    intro h
    exact hc (List.head_eq_of_cons_eq h)

/-- **A quoted text is read off the front** of what follows its closing quote. -/
theorem doubled_append_inj (hxs : xs.head? ≠ some quote) (hys : ys.head? ≠ some quote)
    (h : doubled quote cs ++ quote :: xs = doubled quote ds ++ quote :: ys) :
    cs = ds ∧ xs = ys := by
  induction cs generalizing ds with
  | nil =>
      cases ds with
      | nil => exact ⟨rfl, List.tail_eq_of_cons_eq h⟩
      | cons d ds => exact absurd h.symm (doubled_append_ne hxs)
  | cons c cs ih =>
      cases ds with
      | nil => exact absurd h (doubled_append_ne hys)
      | cons d ds =>
          by_cases hc : c = quote <;> by_cases hd : d = quote
          · subst hc hd
            simp only [doubled_cons_self, List.cons_append, List.cons.injEq, true_and] at h
            obtain ⟨rfl, rfl⟩ := ih h
            exact ⟨rfl, rfl⟩
          · subst hc
            rw [doubled_cons_self, doubled_cons_of_ne hd] at h
            exact absurd (List.head_eq_of_cons_eq h).symm hd
          · subst hd
            rw [doubled_cons_self, doubled_cons_of_ne hc] at h
            exact absurd (List.head_eq_of_cons_eq h) hc
          · rw [doubled_cons_of_ne hc, doubled_cons_of_ne hd, List.cons_append, List.cons_append,
              List.cons.injEq] at h
            obtain ⟨rfl, rfl⟩ := ih h.2
            exact ⟨by rw [h.1], rfl⟩

/-- Two quoted texts with something behind them. -/
theorem quoted_append_inj (hxs : xs.head? ≠ some quote) (hys : ys.head? ≠ some quote)
    (h : quoted quote cs ++ xs = quoted quote ds ++ ys) : cs = ds ∧ xs = ys := by
  simp only [quoted, List.cons_append, List.append_assoc, List.nil_append, List.cons.injEq,
    true_and] at h
  exact doubled_append_inj hxs hys h

end Doubled

/-! ## Reading a quoted text -/

/-- The text up to its closing quote, and what stands behind it. -/
def undoubled (quote : α) : List α → Option (List α × List α)
  | [] => none
  | [c] => if c = quote then some ([], []) else none
  | c :: d :: cs =>
      if c = quote then
        if d = quote then (undoubled quote cs).map fun (text, rest) => (quote :: text, rest)
        else some ([], d :: cs)
      else (undoubled quote (d :: cs)).map fun (text, rest) => (c :: text, rest)

/-- The text between the quotes a text begins with, and what stands behind them. -/
def unquoted (quote : α) : List α → Option (List α × List α)
  | [] => none
  | c :: cs => if c = quote then undoubled quote cs else none

section Unquoted

variable {quote : α} {cs xs : List α}

theorem undoubled_doubled (hxs : xs.head? ≠ some quote) :
    undoubled quote (doubled quote cs ++ quote :: xs) = some (cs, xs) := by
  induction cs with
  | nil =>
      cases xs with
      | nil => exact if_pos rfl
      | cons x xs =>
          have hx : x ≠ quote := fun h => hxs (congrArg some h)
          show (if quote = quote then _ else _) = _
          rw [if_pos rfl, if_neg hx]
  | cons c cs ih =>
      by_cases hc : c = quote
      · subst hc
        rw [doubled_cons_self]
        show (if c = c then if c = c then (undoubled c _).map _ else _ else _) = _
        rw [if_pos rfl, if_pos rfl]
        exact congrArg (Option.map _) ih
      · rw [doubled_cons_of_ne hc, List.cons_append]
        -- something stands behind `c`: the closing quote at least
        obtain ⟨d, ds, hrest⟩ : ∃ d ds, doubled quote cs ++ quote :: xs = d :: ds :=
          List.exists_cons_of_ne_nil (by simp)
        rw [hrest] at ih ⊢
        show (if c = quote then _ else (undoubled quote (d :: ds)).map _) = _
        rw [if_neg hc, ih]
        rfl

/-- **A quoted text is read back**, with what stands behind it. -/
theorem unquoted_quoted (hxs : xs.head? ≠ some quote) :
    unquoted quote (quoted quote cs ++ xs) = some (cs, xs) := by
  rw [quoted, List.cons_append, List.cons_append, List.append_assoc]
  show (if quote = quote then _ else _) = _
  rw [if_pos rfl]
  exact undoubled_doubled hxs

end Unquoted

/-! ## Runs of a class -/

section Span

variable {α : Type*} {p : α → Bool} {as bs xs ys : List α}

theorem takeWhile_span (has : ∀ a ∈ as, p a) (hxs : ∀ x ∈ xs.head?, p x = false) :
    (as ++ xs).takeWhile p = as := by
  rw [List.takeWhile_append_of_pos has]
  cases xs with
  | nil => simp
  | cons x xs => simp [hxs x rfl]

theorem dropWhile_span (has : ∀ a ∈ as, p a) (hxs : ∀ x ∈ xs.head?, p x = false) :
    (as ++ xs).dropWhile p = xs := by
  rw [List.dropWhile_append_of_pos has]
  cases xs with
  | nil => simp
  | cons x xs => simp [hxs x rfl]

/-- **A text splits once** into a run of one class and what does not begin with that class. -/
theorem span_append_inj (p : α → Bool) (has : ∀ a ∈ as, p a) (hbs : ∀ b ∈ bs, p b)
    (hxs : ∀ x ∈ xs.head?, p x = false) (hys : ∀ y ∈ ys.head?, p y = false)
    (h : as ++ xs = bs ++ ys) : as = bs ∧ xs = ys := by
  have heq : as = bs := by
    rw [← takeWhile_span has hxs, h, takeWhile_span hbs hys]
  subst heq
  exact ⟨rfl, List.append_cancel_left h⟩

end Span

end BondTrading.Codes
