import Mathlib.Data.List.TakeWhile
import Triage.Text.Blank

/-!
# Trimming

A text is what is left of it between what is trimmed from its two ends.

* `trimList_padded`: what is trimmed anyway does not matter.
* `exists_padded`: a text is its trimmed text with padding at both ends.
* `trimList_eq_self`: a text that neither starts nor ends so is trimmed already.
-/

namespace Triage.Text

variable {p : Char → Bool} {cs before after : List Char}

theorem trimList_eq_nil_iff : trimList p cs = [] ↔ ∀ c ∈ cs, p c = true := by
  unfold trimList
  rw [List.reverse_eq_nil_iff, List.dropWhile_eq_nil_iff]
  constructor
  · intro h
    rw [← List.dropWhile_eq_nil_iff]
    -- the first character that stays is none of those that are dropped
    cases hdrop : cs.dropWhile p with
    | nil => rfl
    | cons c rest =>
      have hkept : p c = false := by
        have hhead := List.head_dropWhile_not p (l := cs) (by rw [hdrop]; simp)
        simpa [hdrop] using hhead
      rw [h c (by rw [hdrop]; simp)] at hkept
      cases hkept
  · intro h
    rw [List.dropWhile_eq_nil_iff.2 h]
    simp

theorem trimList_append_right (h : ∀ c ∈ after, p c = true) : trimList p (cs ++ after) = trimList p cs := by
  by_cases hall : ∀ c ∈ cs, p c = true
  · rw [trimList_eq_nil_iff.2 hall, trimList_eq_nil_iff]
    exact List.forall_mem_append.2 ⟨hall, h⟩
  · have hkeep : (cs ++ after).dropWhile p = cs.dropWhile p ++ after := by
      rw [List.dropWhile_append, if_neg]
      rwa [List.isEmpty_iff, List.dropWhile_eq_nil_iff]
    unfold trimList
    rw [hkeep, List.reverse_append, List.dropWhile_append_of_pos fun c hc => h c (List.mem_reverse.1 hc)]

/-- **What is trimmed anyway does not matter.** -/
theorem trimList_padded (hbefore : ∀ c ∈ before, p c = true) (hafter : ∀ c ∈ after, p c = true) :
    trimList p (before ++ cs ++ after) = trimList p cs := by
  rw [trimList_append_right hafter, trimList, List.dropWhile_append_of_pos hbefore, trimList]

/-- A text is its **trimmed text with padding** at both ends. -/
theorem exists_padded (p : Char → Bool) (cs : List Char) :
    ∃ before after, cs = before ++ trimList p cs ++ after ∧ (∀ c ∈ before, p c = true) ∧ ∀ c ∈ after, p c = true := by
  have hall : ∀ cs : List Char, ∀ c ∈ cs.takeWhile p, p c = true := fun cs c hc => List.mem_takeWhile_imp hc
  refine ⟨cs.takeWhile p, ((cs.dropWhile p).reverse.takeWhile p).reverse, ?_, hall cs, ?_⟩
  · rw [trimList, List.append_assoc, ← List.reverse_append, List.takeWhile_append_dropWhile, List.reverse_reverse,
      List.takeWhile_append_dropWhile]
  · intro c hc
    exact hall _ c (List.mem_reverse.1 hc)

theorem trimList_trimList (p : Char → Bool) (cs : List Char) : trimList p (trimList p cs) = trimList p cs := by
  obtain ⟨before, after, hsplit, hbefore, hafter⟩ := exists_padded p cs
  calc trimList p (trimList p cs) = trimList p (before ++ trimList p cs ++ after) := (trimList_padded hbefore hafter).symm
    _ = trimList p cs := by rw [← hsplit]

theorem trimList_eq_self (hfirst : ∀ c ∈ cs.head?, p c = false) (hlast : ∀ c ∈ cs.getLast?, p c = false) :
    trimList p cs = cs := by
  have hdrop : ∀ xs : List Char, (∀ c ∈ xs.head?, p c = false) → xs.dropWhile p = xs := by
    intro xs hxs
    cases xs with
    | nil => rfl
    | cons c xs => exact List.dropWhile_cons_of_neg (by simp [hxs c rfl])
  rw [trimList, hdrop cs hfirst, hdrop, List.reverse_reverse]
  rwa [List.head?_reverse]

theorem isBlankText_iff {s : String} : isBlankText s = true ↔ ∀ c ∈ s.toList, isBlank c = true := List.all_eq_true

theorem trim_padded {before core after : String} (hbefore : isBlankText before = true)
    (hafter : isBlankText after = true) : trim (before ++ core ++ after) = trim core := by
  unfold trim
  rw [String.toList_append, String.toList_append, trimList_padded (isBlankText_iff.1 hbefore) (isBlankText_iff.1 hafter)]

theorem isBlankText_padded {before core after : String} (hbefore : isBlankText before = true)
    (hafter : isBlankText after = true) : isBlankText (before ++ core ++ after) = isBlankText core := by
  unfold isBlankText at *
  rw [String.toList_append, String.toList_append, List.all_append, List.all_append, hbefore, hafter, Bool.true_and,
    Bool.and_true]

end Triage.Text
