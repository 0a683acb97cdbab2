import Mathlib.Data.List.Induction
import Mathlib.Tactic.Ring
import Triage.Text.Digit

/-!
# What digits spell

Digits spell a number, the first one with the greatest weight.

* `natOfText_append`, `natOfText_zeros`: the number that two texts spell one behind the other, and zeros.
* `natOfText_octal_le`, `natOfText_octal_eq_iff`: to base eight digits spell no more than to base ten, and **the same
  only below eight**.
-/

namespace Triage.Text

variable {base : Nat} {xs ys : List Char}

theorem natOfDigits_append (ds es : List Nat) :
    natOfDigits base (ds ++ es) = natOfDigits base ds * base ^ es.length + natOfDigits base es := by
  -- what is spelled so far is multiplied by the base at each digit that follows
  have hfrom : ∀ n : Nat, es.foldl (fun n d => n * base + d) n = n * base ^ es.length + natOfDigits base es := by
    induction es with
    | nil => simp [natOfDigits]
    | cons e es ih =>
      intro n
      have hrest : natOfDigits base (e :: es) = e * base ^ es.length + natOfDigits base es := by
        rw [natOfDigits, List.foldl_cons, ih, Nat.zero_mul, Nat.zero_add]
      rw [List.foldl_cons, ih, hrest, List.length_cons, Nat.pow_succ]
      ring
  rw [natOfDigits, List.foldl_append, hfrom]
  rfl

theorem natOfText_append (xs ys : List Char) :
    natOfText base (xs ++ ys) = natOfText base xs * base ^ ys.length + natOfText base ys := by
  unfold natOfText
  rw [List.map_append, natOfDigits_append, List.length_map]

theorem natOfText_concat (xs : List Char) (c : Char) :
    natOfText base (xs ++ [c]) = natOfText base xs * base + (hexValue? c).getD 0 := by
  have hone : natOfText base [c] = (hexValue? c).getD 0 := by simp [natOfText, natOfDigits]
  rw [natOfText_append, hone, List.length_singleton, Nat.pow_one]

theorem natOfText_zeros (h : ∀ c ∈ xs, c = '0') : natOfText base xs = 0 := by
  induction xs using List.reverseRecOn with
  | nil => rfl
  | append_singleton xs c ih =>
    obtain ⟨hxs, hc⟩ := List.forall_mem_append.1 h
    rw [natOfText_concat, ih hxs, hc c (by simp), Nat.zero_mul]
    rfl

/-- Zeros in front do not matter. -/
theorem natOfText_zeros_append (h : ∀ c ∈ xs, c = '0') : natOfText base (xs ++ ys) = natOfText base ys := by
  rw [natOfText_append, natOfText_zeros h, Nat.zero_mul, Nat.zero_add]

theorem natOfText_append_zeros (n : Nat) :
    natOfText base (xs ++ List.replicate n '0') = natOfText base xs * base ^ n := by
  rw [natOfText_append, natOfText_zeros fun c hc => List.eq_of_mem_replicate hc, List.length_replicate, Nat.add_zero]

/-! ## Base eight -/

theorem natOfText_octal_le : natOfText 8 xs ≤ natOfText 10 xs := by
  induction xs using List.reverseRecOn with
  | nil => exact Nat.le_refl _
  | append_singleton xs c ih =>
    rw [natOfText_concat, natOfText_concat]
    omega

theorem isDigit_of_isOctalDigit {c : Char} (h : isOctalDigit c = true) : c.isDigit = true := by
  obtain ⟨hlow, hhigh⟩ := Bool.and_eq_true_iff.1 h
  have hseven : c.toNat ≤ '7'.toNat := of_decide_eq_true hhigh
  have hnine : c.toNat ≤ '9'.toNat := Nat.le_trans hseven (by decide)
  exact Bool.and_eq_true_iff.2 ⟨hlow, decide_eq_true hnine⟩

theorem hexValue?_octal {c : Char} (h : isOctalDigit c = true) : ∃ k, hexValue? c = some k ∧ k < 8 := by
  obtain ⟨hlow, hhigh⟩ := Bool.and_eq_true_iff.1 h
  have hlow : '0'.toNat ≤ c.toNat := of_decide_eq_true hlow
  have hhigh : c.toNat ≤ '7'.toNat := of_decide_eq_true hhigh
  have hzero : '0'.toNat = 48 := rfl
  have hseven : '7'.toNat = 55 := rfl
  refine ⟨_, if_pos (isDigit_of_isOctalDigit h), ?_⟩
  omega

/-- **Octal digits spell the same** to both bases only below eight. -/
theorem natOfText_octal_eq_iff (h : ∀ c ∈ xs, isOctalDigit c = true) :
    natOfText 8 xs = natOfText 10 xs ↔ natOfText 10 xs < 8 := by
  rcases List.eq_nil_or_concat xs with rfl | ⟨front, c, rfl⟩
  · decide
  · have hle : natOfText 8 front ≤ natOfText 10 front := natOfText_octal_le
    obtain ⟨k, hk, hless⟩ := hexValue?_octal (h c (by simp))
    rw [List.concat_eq_append, natOfText_concat, natOfText_concat, hk, Option.getD_some]
    omega

end Triage.Text
