import Triage.Text.CaseMap

/-!
# Which characters upper case is made of

The upper case of a character may be several characters. Among those of ASCII there is no small letter, and an `E` comes
from the letter itself alone.

* `mem_mapCase_cases`: **what a character is mapped to**, by the tables.
* `forall_mem_mapCase`: a property of code points that holds throughout a table holds of every mapped character.
* `isLower_of_mem_upperChars`: **upper case has no small letter of ASCII** in it.
* `eq_e_of_mem_upperChars`: an `E` in it is the upper case of `e` or of `E`.
-/

namespace Triage.Text

theorem toNat_ofNat_cases (n : Nat) : (Char.ofNat n).toNat = n ∨ (Char.ofNat n).toNat = 0 := by
  by_cases h : n.isValidChar
  · left
    unfold Char.ofNat
    rw [dif_pos h]
    rfl
  · right
    unfold Char.ofNat
    rw [dif_neg h]
    rfl

/-- A property of all code points of ASCII holds of the characters. -/
theorem forall_ascii {P : Char → Prop} (h : ∀ n < 128, P (Char.ofNat n)) {c : Char} (hc : c.toNat < 128) : P c :=
  Char.ofNat_toNat c ▸ h c.toNat hc

/-- The code points of a run, each with its image. -/
theorem CaseRun.imageOf?_eq_some_iff {r : CaseRun} {n m : Nat} :
    r.imageOf? n = some m ↔
      r.first ≤ n ∧ n ≤ r.last ∧ (n - r.first) % r.step = 0 ∧ m = r.image + (n - r.first) := by
  unfold imageOf?
  rw [Option.ite_none_right_eq_some, Option.some.injEq]
  simp only [Bool.and_eq_true, decide_eq_true_eq, beq_iff_eq, and_assoc, eq_comm (a := m)]

/-- The image under a run lies between the first and the last image of it. -/
theorem CaseRun.imageOf?_bounds {r : CaseRun} {n m : Nat} (h : r.imageOf? n = some m) :
    r.image ≤ m ∧ m ≤ r.image + (r.last - r.first) := by
  obtain ⟨hfirst, hlast, -, rfl⟩ := imageOf?_eq_some_iff.1 h
  omega

/-- **What a character is mapped to**: an entry of its own, the image under a run, or the character itself. -/
theorem mem_mapCase_cases {runs : Array CaseRun} {specials : Array (Nat × List Nat)} {c x : Char}
    (hx : x ∈ mapCase runs specials c) :
    (∃ p ∈ specials, ∃ n ∈ p.2, x = Char.ofNat n) ∨
      (∃ r ∈ runs, ∃ n, r.imageOf? c.toNat = some n ∧ x = Char.ofNat n) ∨
      (x = c ∧ mapCase runs specials c = [c]) := by
  unfold mapCase at hx ⊢
  cases hspecial : specials.find? (·.1 == c.toNat) with
  | some p =>
    rw [hspecial] at hx
    obtain ⟨n, hn, rfl⟩ := List.mem_map.1 hx
    exact .inl ⟨p, Array.mem_of_find?_eq_some hspecial, n, hn, rfl⟩
  | none =>
    rw [hspecial] at hx
    cases hrun : runs.findSome? (·.imageOf? c.toNat) with
    | some n =>
      rw [hrun] at hx
      obtain ⟨r, hr, himage⟩ := Array.exists_of_findSome?_eq_some hrun
      exact .inr (.inl ⟨r, hr, n, himage, List.mem_singleton.1 hx⟩)
    | none =>
      rw [hrun] at hx
      exact .inr (.inr ⟨List.mem_singleton.1 hx, rfl⟩)

/-- A property of code points that holds throughout the tables, and of the character itself, holds of all characters
that the character is mapped to. -/
theorem forall_mem_mapCase {P : Nat → Prop} {runs : Array CaseRun} {specials : Array (Nat × List Nat)} {c : Char}
    (hzero : P 0) (hspecials : ∀ p ∈ specials, ∀ n ∈ p.2, P n)
    (hruns : ∀ r ∈ runs, ∀ n, r.image ≤ n → n ≤ r.image + (r.last - r.first) → P n) (hself : P c.toNat) :
    ∀ x ∈ mapCase runs specials c, P x.toNat := by
  -- a number that is no code point stands for the character zero
  have hofNat : ∀ n, P n → P (Char.ofNat n).toNat := by
    intro n hn
    rcases toNat_ofNat_cases n with h | h
    · rwa [h]
    · rwa [h]
  intro x hx
  rcases mem_mapCase_cases hx with ⟨p, hp, n, hn, rfl⟩ | ⟨r, hr, n, himage, rfl⟩ | ⟨rfl, -⟩
  · exact hofNat n (hspecials p hp n hn)
  · obtain ⟨hlow, hhigh⟩ := CaseRun.imageOf?_bounds himage
    exact hofNat n (hruns r hr n hlow hhigh)
  · exact hself

/-- A code point that is neither `E` nor a small letter of ASCII. -/
def IsAside (n : Nat) : Prop := n ≠ 0x45 ∧ ¬ (0x61 ≤ n ∧ n ≤ 0x7a)

instance (n : Nat) : Decidable (IsAside n) := inferInstanceAs (Decidable (n ≠ 0x45 ∧ ¬ (0x61 ≤ n ∧ n ≤ 0x7a)))

theorem upperChars_of_not_ascii {c : Char} (hc : 128 ≤ c.toNat) :
    upperChars c = mapCase upperRuns upperSpecials c :=
  if_neg (Nat.not_lt.2 hc)

/-- Above ASCII no character has an `E` or a small letter of ASCII in its upper case. -/
theorem isAside_of_mem_upperChars {c x : Char} (hc : 128 ≤ c.toNat) (hx : x ∈ upperChars c) : IsAside x.toNat := by
  have hspecials : ∀ p ∈ upperSpecials, ∀ n ∈ p.2, IsAside n := by decide +kernel
  have hruns : ∀ r ∈ upperRuns, r.image + (r.last - r.first) < 0x45 ∨
      (0x45 < r.image ∧ r.image + (r.last - r.first) < 0x61) ∨ 0x7a < r.image := by decide +kernel
  have hself : IsAside c.toNat := by
    unfold IsAside
    omega
  rw [upperChars_of_not_ascii hc] at hx
  refine forall_mem_mapCase (by decide) hspecials (fun r hr n hlow hhigh => ?_) hself x hx
  have hrange := hruns r hr
  unfold IsAside
  omega

/-- Within ASCII the upper case is one character, and no small letter. -/
theorem upperChars_of_ascii {c : Char} (hc : c.toNat < 128) :
    upperChars c = [c.toUpper] ∧ c.toUpper.isLower = false ∧ (c.toUpper = 'E' → c = 'e' ∨ c = 'E') :=
  forall_ascii (P := fun c => upperChars c = [c.toUpper] ∧ c.toUpper.isLower = false ∧
    (c.toUpper = 'E' → c = 'e' ∨ c = 'E')) (by decide +kernel) hc

/-- **Upper case has no small letter of ASCII** in it. -/
theorem isLower_of_mem_upperChars {c x : Char} (hx : x ∈ upperChars c) : x.isLower = false := by
  rcases Nat.lt_or_ge c.toNat 128 with hc | hc
  · obtain ⟨hupper, hlower, -⟩ := upperChars_of_ascii hc
    rw [hupper] at hx
    rwa [List.mem_singleton.1 hx]
  · have haside := (isAside_of_mem_upperChars hc hx).2
    cases hlower : x.isLower with
    | false => rfl
    | true =>
      unfold Char.isLower at hlower
      simp only [Bool.and_eq_true, decide_eq_true_eq] at hlower
      exact absurd hlower haside

/-- **An `E` comes from the letter itself**, small or capital. -/
theorem eq_e_of_mem_upperChars {c : Char} (hx : 'E' ∈ upperChars c) : c = 'e' ∨ c = 'E' := by
  rcases Nat.lt_or_ge c.toNat 128 with hc | hc
  · obtain ⟨hupper, -, hE⟩ := upperChars_of_ascii hc
    rw [hupper] at hx
    exact hE (List.mem_singleton.1 hx).symm
  · exact absurd rfl (isAside_of_mem_upperChars hc hx).1

end Triage.Text
