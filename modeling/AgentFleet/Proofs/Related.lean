import AgentFleet.Proofs.Checked
import Mathlib.Data.List.Forall2

/-!
# Related computations

Two computations that may fail are related when both succeed with related values
or both fail with related errors. Steps keep the relation, and so do lists whose
items are computed one after the other: they fail at the same item.
-/

namespace AgentFleet.Checked

variable {ε ε' α α' β β' : Type}

/-- Both computations succeed with related values, or both fail with related errors. -/
inductive Related (E : ε → ε' → Prop) (R : α → α' → Prop) : Except ε α → Except ε' α' → Prop
  | ok {a : α} {a' : α'} : R a a' → Related E R (.ok a) (.ok a')
  | error {e : ε} {e' : ε'} : E e e' → Related E R (.error e) (.error e')

/-- The values of a list are those of its items, one by one. -/
theorem forall₂_of_map_eq {f : α → Except ε β} {xs : List α} {ys : List β}
    (h : xs.map f = ys.map .ok) : List.Forall₂ (fun x y => f x = .ok y) xs ys := by
  rw [← List.forall₂_map_right_iff, ← List.forall₂_map_left_iff, h, List.forall₂_eq_eq_eq]

variable {E : ε → ε' → Prop} {R : α → α' → Prop} {S : β → β' → Prop}

theorem Related.refl {E : ε → ε → Prop} {R : α → α → Prop} (hE : ∀ e, E e e) (hR : ∀ a, R a a)
    (x : Except ε α) : Related E R x x := by
  cases x with
  | error e => exact .error (hE e)
  | ok a => exact .ok (hR a)

theorem Related.bind {x : Except ε α} {y : Except ε' α'} {f : α → Except ε β}
    {g : α' → Except ε' β'} (h : Related E R x y)
    (hf : ∀ a a', R a a' → Related E S (f a) (g a')) : Related E S (x >>= f) (y >>= g) := by
  cases h with
  | ok hr => exact hf _ _ hr
  | error he => exact .error he

/-- Lists of related items are computed alike: to related values, or both only up to the same item. -/
theorem Related.mapM {xs : List α} {ys : List α'} {f : α → Except ε β} {g : α' → Except ε' β'}
    (h : List.Forall₂ (fun x y => Related E S (f x) (g y)) xs ys) :
    Related E (List.Forall₂ S) (xs.mapM f) (ys.mapM g) := by
  induction h with
  | nil => exact .ok .nil
  | cons hxy _ ih =>
    rw [List.mapM_cons, List.mapM_cons]
    exact hxy.bind fun _ _ hz => ih.bind fun _ _ hzs => .ok (.cons hz hzs)

end AgentFleet.Checked
