import Mathlib.Data.List.Forall2
import Mathlib.Tactic.Lemma

/-!
# Results

What is known of a computation that may fail once its result is: its parts have succeeded, or the
first of them to fail has failed with the same error.
-/

namespace TextExpr

lemma bind_eq_ok {ε α β : Type} {x : Except ε α} {f : α → Except ε β} {b : β} :
    (x >>= f) = .ok b ↔ ∃ a, x = .ok a ∧ f a = .ok b := by
  cases x <;> simp [bind, Except.bind]

lemma bind_eq_error {ε α β : Type} {x : Except ε α} {f : α → Except ε β} {e : ε} :
    (x >>= f) = .error e ↔ x = .error e ∨ ∃ a, x = .ok a ∧ f a = .error e := by
  cases x <;> simp [bind, Except.bind]

lemma pure_eq_ok {ε α : Type} {a b : α} : (pure a : Except ε α) = .ok b ↔ a = b := by
  simp [pure, Except.pure]

lemma throw_eq_ok {ε α : Type} {e : ε} {b : α} : (throw e : Except ε α) = .ok b ↔ False := by
  simp [throw, throwThe, MonadExceptOf.throw]

lemma throw_bind_eq_ok {ε α β : Type} {e : ε} {f : α → Except ε β} {b : β} :
    ((throw e : Except ε α) >>= f) = .ok b ↔ False := by
  simp [bind_eq_ok, throw_eq_ok]

lemma mapError_eq_ok {ε ε' α : Type} {x : Except ε α} {f : ε → ε'} {a : α} :
    x.mapError f = .ok a ↔ x = .ok a := by
  cases x <;> simp [Except.mapError]

lemma mapError_eq_error {ε ε' α : Type} {x : Except ε α} {f : ε → ε'} {e : ε'} :
    x.mapError f = .error e ↔ ∃ failure, x = .error failure ∧ f failure = e := by
  cases x <;> simp [Except.mapError]

lemma eq_ok_of_toOption {ε α : Type} {x : Except ε α} {a : α} (h : x.toOption = some a) :
    x = .ok a := by
  cases x with
  | error e => simp [Except.toOption] at h
  | ok b =>
    obtain rfl := Option.some.inj h
    rfl

/-! ## For each of a list -/

lemma mapM_eq_ok_of_forall₂ {ε α β : Type} {f : α → Except ε β} {xs : List α} {ys : List β}
    (h : List.Forall₂ (fun x y => f x = .ok y) xs ys) : xs.mapM f = .ok ys := by
  induction h with
  | nil => rfl
  | cons hx _ ih =>
    rw [List.mapM_cons, hx, ih]
    rfl

/-- The first failure among calls is the failure of all of them. -/
lemma mapM_eq_error_of_first {ε α β : Type} {f : α → Except ε β} {before after : List α} {x : α}
    {e : ε} (hbefore : ∀ a ∈ before, ∃ b, f a = .ok b) (hx : f x = .error e) :
    (before ++ x :: after).mapM f = .error e := by
  induction before with
  | nil =>
    rw [List.nil_append, List.mapM_cons, hx]
    rfl
  | cons a before ih =>
    obtain ⟨b, hb⟩ := hbefore a List.mem_cons_self
    have hrest := ih fun a' ha' => hbefore a' (List.mem_cons_of_mem _ ha')
    rw [List.cons_append, List.mapM_cons, hb, hrest]
    rfl

end TextExpr
