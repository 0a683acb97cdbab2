import Mathlib.Data.List.Forall2
import Mathlib.Tactic.Common

/-!
# The case of ASCII letters

* `Text.SameLetter`, `Text.SameLetters`: characters and texts that differ at most in the case of ASCII letters.
* `Text.SameLetter.eq_of_letters`: **a function that gives the same for both cases of each of the 26 letters** gives the
  same for any two such characters. What holds of a table of characters is checked letter by letter once, and this lemma
  carries it to all characters.
-/

namespace Triage.Text

/-- Two characters that differ at most in the case of an ASCII letter. -/
def SameLetter (c d : Char) : Prop := c.toLower = d.toLower

/-- Two texts of the same length that differ at most in the case of ASCII letters. -/
def SameLetters (s t : String) : Prop := List.Forall₂ SameLetter s.toList t.toList

instance (c d : Char) : Decidable (SameLetter c d) := inferInstanceAs (Decidable (c.toLower = d.toLower))

instance (s t : String) : Decidable (SameLetters s t) :=
  inferInstanceAs (Decidable (List.Forall₂ SameLetter s.toList t.toList))

theorem SameLetters.refl (s : String) : SameLetters s s := List.forall₂_same.2 fun _ _ => rfl

/-- A character is in lower case or is one of the 26 capital letters. -/
theorem toLower_cases (c : Char) :
    c.toLower = c ∨ ∃ n < 26, c = Char.ofNat (0x41 + n) ∧ c.toLower = Char.ofNat (0x61 + n) := by
  by_cases h : 0x41 ≤ c.toNat ∧ c.toNat ≤ 0x5a
  · right
    have hlower : ∀ n < 26, (Char.ofNat (0x41 + n)).toLower = Char.ofNat (0x61 + n) := by decide
    have hc : c = Char.ofNat (0x41 + (c.toNat - 0x41)) := by
      rw [Nat.add_sub_cancel' h.1, Char.ofNat_toNat]
    refine ⟨c.toNat - 0x41, by omega, hc, ?_⟩
    rw [← hlower _ (by omega), ← hc]
  · left
    unfold Char.toLower
    exact dif_neg fun hc => h ⟨hc.1, hc.2⟩

/-- **Letter by letter**: what does not tell the two cases of any letter apart does not tell such characters apart. -/
theorem SameLetter.eq_of_letters {α : Type} {f : Char → α}
    (hf : ∀ n < 26, f (Char.ofNat (0x41 + n)) = f (Char.ofNat (0x61 + n))) {c d : Char} (h : SameLetter c d) :
    f c = f d := by
  have hlower (c : Char) : f c = f c.toLower := by
    rcases toLower_cases c with hc | ⟨n, hn, hc, hl⟩
    · rw [hc]
    · rw [hl, hc]
      exact hf n hn
  rw [hlower c, hlower d, h]

/-- The code points of ASCII letters. -/
def IsLetterPoint (n : Nat) : Prop := (0x41 ≤ n ∧ n ≤ 0x5a) ∨ (0x61 ≤ n ∧ n ≤ 0x7a)

theorem toNat_letter {n : Nat} (h : n < 26) :
    (Char.ofNat (0x41 + n)).toNat = 0x41 + n ∧ (Char.ofNat (0x61 + n)).toNat = 0x61 + n := by
  revert n
  decide

/-- A set of code points without letters does not tell the two cases of a letter apart. -/
theorem SameLetter.eq_of_no_letter {p : Nat → Bool} (hp : ∀ n, IsLetterPoint n → p n = false) {c d : Char}
    (h : SameLetter c d) : p c.toNat = p d.toNat := by
  refine SameLetter.eq_of_letters (f := fun c => p c.toNat) (fun n hn => ?_) h
  rw [(toNat_letter hn).1, (toNat_letter hn).2, hp (0x41 + n) (.inl ⟨by omega, by omega⟩),
    hp (0x61 + n) (.inr ⟨by omega, by omega⟩)]

end Triage.Text
