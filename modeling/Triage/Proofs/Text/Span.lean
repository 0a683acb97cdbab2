import Mathlib.Tactic.Common

/-!
# Characters up to something else

Readers take the leading characters of a kind. Where these are known, and what stands behind them is not of the kind,
they take just these.

* `takeWhile_upTo`, `dropWhile_upTo`: what is taken, and what is left.
* `decidableForallMem`: what holds for the characters of a list is decided on the list.
-/

namespace Triage.Text

/-- The characters of the list are looked at, and not all characters that there are. -/
instance (priority := high) decidableForallMem (p : Char → Prop) [DecidablePred p] (cs : List Char) :
    Decidable (∀ c ∈ cs, p c) := List.decidableBAll p cs

variable {α : Type} {p : α → Bool} {xs rest : List α}

theorem takeWhile_upTo (hxs : ∀ x ∈ xs, p x = true) (hrest : ∀ x ∈ rest.head?, p x = false) :
    (xs ++ rest).takeWhile p = xs := by
  rw [List.takeWhile_append_of_pos hxs]
  cases rest with
  | nil => exact List.append_nil xs
  | cons x rest => rw [List.takeWhile_cons_of_neg (by simp [hrest x rfl]), List.append_nil]

theorem dropWhile_upTo (hxs : ∀ x ∈ xs, p x = true) (hrest : ∀ x ∈ rest.head?, p x = false) :
    (xs ++ rest).dropWhile p = rest := by
  rw [List.dropWhile_append_of_pos hxs]
  cases rest with
  | nil => rfl
  | cons x rest => rw [List.dropWhile_cons_of_neg (by simp [hrest x rfl])]

end Triage.Text
