import Mathlib.Tactic.Ring
import Triage.Number.Binary64

/-!
# Natural numbers as floating point numbers

A natural number of at most 53 bits is held as it is, and so is one that has zeros behind 53 bits. Of all others the
format holds a neighbour.

* `Holds`: the natural numbers that the format holds.
* `IsNearest`: one of them that is as near as any.
* `roundedQuotient_mul`, `dist_roundedQuotient`: rounding a quotient.
* `toInt?_ofFields`: the integer of a number that is put together from its fields.
* `toInt?_nearest`, `toInt?_decimal`: **what is read of a natural number is a nearest one**, also of one with zeros
  behind a point.
-/

namespace Triage.Binary64

/-- The distance of two natural numbers. -/
def dist (n x : Nat) : Nat := ((n : Int) - x).natAbs

/-- The natural numbers that the format holds: 53 bits, and zeros behind them. -/
def Holds (n : Nat) : Prop := ∃ m e, m < 2 ^ 53 ∧ n = m * 2 ^ e

/-- A number that the format holds, and none that it holds is nearer. -/
structure IsNearest (n x : Nat) : Prop where
  holds : Holds x
  least : ∀ y, Holds y → dist n x ≤ dist n y

variable {n d c x : Nat}

/-- A number is its own nearest one exactly if it is held. -/
theorem IsNearest.eq_iff (h : IsNearest n x) : x = n ↔ Holds n := by
  constructor
  · intro heq
    exact heq ▸ h.holds
  · intro hn
    have := h.least n hn
    unfold dist at this
    omega

theorem holds_of_lt (h : n < 2 ^ 53) : Holds n := ⟨n, 0, h, by rw [Nat.pow_zero, Nat.mul_one]⟩

/-! ## Rounding -/

theorem roundedQuotient_mul (hc : 0 < c) : roundedQuotient (c * n) (c * d) = roundedQuotient n d := by
  have htwice : 2 * (c * (n % d)) = c * (2 * (n % d)) := by ring
  have hlt : (c * d < c * (2 * (n % d))) ↔ d < 2 * (n % d) := Nat.mul_lt_mul_left hc
  have heq : (c * (2 * (n % d)) = c * d) ↔ 2 * (n % d) = d := Nat.mul_right_inj (Nat.pos_iff_ne_zero.1 hc)
  unfold roundedQuotient
  dsimp only
  rw [Nat.mul_div_mul_left n d hc, Nat.mul_mod_mul_left, htwice]
  simp only [beq_eq_decide, hlt, heq]

theorem roundedQuotient_one (n : Nat) : roundedQuotient n 1 = n := by
  unfold roundedQuotient
  rw [Nat.mod_one, Nat.div_one]
  rfl

/-- **No multiple is nearer** than that of the rounded quotient. -/
theorem dist_roundedQuotient (hd : 0 < d) (n y : Nat) : dist n (d * roundedQuotient n d) ≤ dist n (d * y) := by
  have hsplit : d * (n / d) + n % d = n := Nat.div_add_mod n d
  have hrest : n % d < d := Nat.mod_lt n hd
  have hnext : d * (n / d + 1) = d * (n / d) + d := by ring
  -- a multiple is at most the one below the number or at least the one above it
  have hy : d * y ≤ d * (n / d) ∨ d * (n / d) + d ≤ d * y := by
    rcases Nat.lt_or_ge (n / d) y with hlt | hge
    · have := Nat.mul_le_mul_left d (Nat.succ_le_of_lt hlt)
      exact .inr (by rwa [← hnext])
    · exact .inl (Nat.mul_le_mul_left d hge)
  unfold roundedQuotient dist
  dsimp only
  split
  · next hup =>
    have hhalf : d ≤ 2 * (n % d) := by
      rcases Bool.or_eq_true_iff.1 hup with hlt | htie
      · exact Nat.le_of_lt (of_decide_eq_true hlt)
      · exact Nat.le_of_eq (eq_of_beq (Bool.and_eq_true_iff.1 htie).1).symm
    rw [hnext]
    omega
  · next hdown =>
    have hhalf : 2 * (n % d) ≤ d := by
      rw [Bool.or_eq_true, decide_eq_true_iff] at hdown
      omega
    omega

/-- Whether a number of some bits is rounded down or up, it keeps its place. -/
theorem roundedQuotient_bounds {s : Nat} (hlow : 2 ^ (52 + s) ≤ n) (hhigh : n < 2 ^ (53 + s)) :
    2 ^ 52 ≤ roundedQuotient n (2 ^ s) ∧ roundedQuotient n (2 ^ s) ≤ 2 ^ 53 := by
  have hpos : 0 < 2 ^ s := Nat.two_pow_pos s
  have hdiv : 2 ^ 52 ≤ n / 2 ^ s := by
    rw [Nat.le_div_iff_mul_le hpos, ← Nat.pow_add]
    exact hlow
  have hdiv' : n / 2 ^ s < 2 ^ 53 := by
    rw [Nat.div_lt_iff_lt_mul hpos, ← Nat.pow_add]
    exact hhigh
  unfold roundedQuotient
  dsimp only
  split <;> omega

/-- **The rounded multiple of a power of two is a nearest number.** -/
theorem isNearest_roundedQuotient {s : Nat} (hlow : s = 0 ∨ 2 ^ (52 + s) ≤ n) (hhigh : n < 2 ^ (53 + s)) :
    IsNearest n (2 ^ s * roundedQuotient n (2 ^ s)) where
  holds := by
    rcases hlow with rfl | hlow
    · rw [Nat.pow_zero, Nat.one_mul, roundedQuotient_one]
      exact holds_of_lt hhigh
    · obtain ⟨-, hle⟩ := roundedQuotient_bounds hlow hhigh
      rcases Nat.lt_or_eq_of_le hle with hlt | heq
      · exact ⟨_, s, hlt, Nat.mul_comm _ _⟩
      · exact ⟨2 ^ 52, s + 1, by decide, by rw [heq]; ring⟩
  least := by
    rintro y ⟨m, e, hm, rfl⟩
    rcases Nat.lt_or_ge e s with hlt | hge
    · -- such a number is below the power of two that the other one starts with, which is a multiple, too
      have hlow : 2 ^ (52 + s) ≤ n := hlow.resolve_left (by omega)
      have hsmall : m * 2 ^ e ≤ 2 ^ (52 + s) := by
        have hpow : 2 ^ (53 + e) ≤ 2 ^ (52 + s) := Nat.pow_le_pow_right (by decide) (by omega)
        have hmul : m * 2 ^ e ≤ 2 ^ 53 * 2 ^ e := Nat.mul_le_mul_right _ (Nat.le_of_lt hm)
        rw [← Nat.pow_add] at hmul
        exact Nat.le_trans hmul hpow
      have hstart := dist_roundedQuotient (Nat.two_pow_pos s) n (2 ^ 52)
      rw [← Nat.pow_add, Nat.add_comm s] at hstart
      refine Nat.le_trans hstart ?_
      unfold dist
      generalize 2 ^ (52 + s) = start at hlow hsmall
      omega
    · have hmultiple : m * 2 ^ e = 2 ^ s * (m * 2 ^ (e - s)) := by
        have hsplit : 2 ^ e = 2 ^ s * 2 ^ (e - s) := by rw [← Nat.pow_add, Nat.add_sub_cancel' hge]
        rw [hsplit]
        ring
      rw [hmultiple]
      exact dist_roundedQuotient (Nat.two_pow_pos s) n _

/-! ## Fields -/

/-- The number of a biased exponent and a fraction. -/
def ofFields (e f : Nat) : Binary64 := ⟨.ofNat (e * leastNormal + f)⟩

section Fields

variable {e f : Nat} (he : e < 2048) (hf : f < leastNormal)
include he hf

theorem toNat_ofFields : (ofFields e f).bits.toNat = e * leastNormal + f := by
  unfold leastNormal at hf
  have hsmall : e * leastNormal + f < 2 ^ 64 := by
    unfold leastNormal
    omega
  exact UInt64.toNat_ofNat_of_lt' hsmall

theorem exponentField_ofFields : (ofFields e f).exponentField = e := by
  unfold exponentField
  rw [toNat_ofFields he hf]
  unfold leastNormal at hf ⊢
  omega

theorem fractionField_ofFields : (ofFields e f).fractionField = f := by
  unfold fractionField
  rw [toNat_ofFields he hf]
  unfold leastNormal at hf ⊢
  omega

theorem isNegative_ofFields : (ofFields e f).isNegative = false := by
  have hzero : (ofFields e f).bits >>> 63 = 0 := by
    have hsmall : e * leastNormal + f < 2 ^ 63 := by
      unfold leastNormal at hf ⊢
      omega
    rw [← UInt64.toNat_inj, UInt64.toNat_shiftRight, toNat_ofFields he hf]
    exact (Nat.shiftRight_eq_div_pow _ _).trans (Nat.div_eq_of_lt hsmall)
  unfold isNegative
  rw [hzero]
  rfl

theorem toInt?_ofFields (hnormal : e ≠ 0) (hfinite : e ≠ 2047) :
    (ofFields e f).toInt? =
      if 1075 ≤ e then some (((f + leastNormal) * 2 ^ (e - 1075) : Nat) : Int)
      else if (f + leastNormal) % 2 ^ (1075 - e) == 0 then some (((f + leastNormal) / 2 ^ (1075 - e) : Nat) : Int)
      else none := by
  have hmagnitude : (ofFields e f).magnitude = (f + leastNormal, e) := by
    unfold magnitude
    rw [exponentField_ofFields he hf, fractionField_ofFields he hf, if_neg (by simpa using hnormal)]
  have hisFinite : (ofFields e f).isFinite = true := by
    unfold isFinite
    rw [exponentField_ofFields he hf]
    simpa using hfinite
  unfold toInt?
  rw [hisFinite, hmagnitude, isNegative_ofFields he hf]
  simp only [Bool.not_true, Bool.false_eq_true, if_false, Nat.pow_eq]

end Fields

/-! ## Natural numbers -/

/-- A natural number, given as a quotient, is rounded to 53 bits. -/
theorem nearest_mul (hn : 0 < n) (hd : 0 < d) :
    nearest (n * d) d =
      if 2046 < n.log2 + 1023 then infinity
      else ⟨.ofNat ((n.log2 + 1022) * leastNormal +
        roundedQuotient (n * 2 ^ (52 - n.log2)) (2 ^ (n.log2 - 52)))⟩ := by
  have hne : (n * d == 0) = false := by simpa using ⟨by omega, by omega⟩
  have hle : d ≤ n * d := Nat.le_mul_of_pos_left d hn
  have he : (max 1 (((n * d / d).log2 : Int) + 1023)).toNat = n.log2 + 1023 := by
    rw [Nat.mul_div_cancel n hd]
    omega
  have hscale (a b : Nat) : roundedQuotient (n * d * a) (d * b) = roundedQuotient (n * a) b := by
    rw [show n * d * a = d * (n * a) by ring, roundedQuotient_mul hd]
  unfold nearest
  rw [hne, if_neg Bool.false_ne_true, if_pos hle]
  dsimp only
  rw [he, hscale, Nat.pow_eq, Nat.pow_eq, show 1075 - (n.log2 + 1023) = 52 - n.log2 by omega,
    show n.log2 + 1023 - 1075 = n.log2 - 52 by omega, show n.log2 + 1023 - 1 = n.log2 + 1022 by omega]

/-- What is rounded to 53 bits is put together from its fields, of which a carry makes up the exponent. -/
theorem toInt?_rounded {e m : Nat} {i : Int} (he : e ≤ 2045) (hlow : leastNormal ≤ m) (hhigh : m ≤ 2 * leastNormal)
    (h : (⟨.ofNat (e * leastNormal + m)⟩ : Binary64).toInt? = some i) :
    (1074 ≤ e → i = ((2 ^ (e - 1074) * m : Nat) : Int)) ∧
      (e < 1074 → ∀ k, m = k * 2 ^ (1074 - e) → m < 2 * leastNormal → i = (k : Int)) := by
  have hpos : 0 < leastNormal := by decide
  rcases Nat.lt_or_eq_of_le hhigh with hlt | heq
  · have hfields : (⟨.ofNat (e * leastNormal + m)⟩ : Binary64) = ofFields (e + 1) (m - leastNormal) := by
      unfold ofFields
      rw [show e * leastNormal + m = (e + 1) * leastNormal + (m - leastNormal) by rw [Nat.succ_mul]; omega]
    rw [hfields, toInt?_ofFields (by omega) (by omega) (by omega) (by omega), Nat.sub_add_cancel hlow] at h
    split at h
    · next hwhole =>
      refine ⟨fun _ => ?_, fun hless => absurd hwhole (by omega)⟩
      rw [← Option.some.inj h, Nat.mul_comm, show e + 1 - 1075 = e - 1074 by omega]
    · next hpart =>
      refine ⟨fun hge => absurd hge (by omega), fun _ k hk _ => ?_⟩
      split at h
      · rw [← Option.some.inj h, hk, show 1075 - (e + 1) = 1074 - e by omega, Nat.mul_div_cancel _ (Nat.two_pow_pos _)]
      · cases h
  · have hfields : (⟨.ofNat (e * leastNormal + m)⟩ : Binary64) = ofFields (e + 2) 0 := by
      unfold ofFields
      rw [show e * leastNormal + m = (e + 2) * leastNormal + 0 by rw [heq, Nat.add_mul, Nat.add_zero]]
    rw [hfields] at h
    refine ⟨fun hge => ?_, fun _ _ _ hlt => absurd heq (by omega)⟩
    by_cases hinfinite : e + 2 = 2047
    · have hnone : (ofFields (e + 2) 0).toInt? = none := by
        unfold toInt? isFinite
        rw [exponentField_ofFields (by omega) hpos, hinfinite]
        rfl
      rw [hnone] at h
      cases h
    · rw [toInt?_ofFields (by omega) hpos (by omega) hinfinite, if_pos (by omega)] at h
      have hcarry : leastNormal * (2 ^ (e - 1074) * 2) = 2 ^ (e - 1074) * (2 * leastNormal) := by ring
      rw [← Option.some.inj h, heq, show e + 2 - 1075 = (e - 1074) + 1 by omega, Nat.pow_succ, Nat.zero_add, hcarry]

/-- **What is read of a natural number** is a nearest one that the format holds. -/
theorem toInt?_nearest {i : Int} (hn : 0 < n) (hd : 0 < d) (h : (nearest (n * d) d).toInt? = some i) :
    ∃ x : Nat, i = x ∧ IsNearest n x := by
  have hlow : 2 ^ n.log2 ≤ n := Nat.log2_self_le (by omega)
  have hhigh : n < 2 ^ (n.log2 + 1) := Nat.lt_log2_self
  rw [nearest_mul hn hd] at h
  split at h
  · cases h
  · next hfinite =>
    rcases Nat.lt_or_ge 52 n.log2 with hlarge | hsmall
    · -- the bits behind the first 53 are rounded away
      obtain ⟨s, hs⟩ : ∃ s, n.log2 = 52 + s := ⟨n.log2 - 52, by omega⟩
      rw [hs] at hlow hhigh hfinite
      have hhigh : n < 2 ^ (53 + s) := by rwa [show 53 + s = 52 + s + 1 by omega]
      obtain ⟨hleast, hmost⟩ := roundedQuotient_bounds hlow hhigh
      rw [hs, show 52 - (52 + s) = 0 by omega, Nat.pow_zero, Nat.mul_one, show 52 + s - 52 = s by omega] at h
      obtain ⟨hread, -⟩ := toInt?_rounded (by omega) hleast hmost h
      refine ⟨_, hread (by omega), ?_⟩
      rw [show 52 + s + 1022 - 1074 = s by omega]
      exact isNearest_roundedQuotient (.inr hlow) hhigh
    · -- all bits are kept
      have hhigh' : n < 2 ^ 53 := Nat.lt_of_lt_of_le hhigh (Nat.pow_le_pow_right (by decide) (by omega))
      have hkept : 2 ^ 52 ≤ n * 2 ^ (52 - n.log2) := by
        have := Nat.mul_le_mul_right (2 ^ (52 - n.log2)) hlow
        rwa [← Nat.pow_add, Nat.add_sub_cancel' hsmall] at this
      have hkept' : n * 2 ^ (52 - n.log2) < 2 ^ 53 := by
        have := Nat.mul_lt_mul_of_pos_right hhigh (Nat.two_pow_pos (52 - n.log2))
        rwa [← Nat.pow_add, show n.log2 + 1 + (52 - n.log2) = 53 by omega] at this
      rw [show n.log2 - 52 = 0 by omega, Nat.pow_zero, roundedQuotient_one] at h
      obtain ⟨hread, hread'⟩ := toInt?_rounded (by omega) hkept (Nat.le_of_lt hkept') h
      refine ⟨n, ?_, holds_of_lt hhigh', fun y _ => ?_⟩
      · rcases Nat.lt_or_ge n.log2 52 with hless | hge
        · exact hread' (by omega) n (by rw [show 1074 - (n.log2 + 1022) = 52 - n.log2 by omega]) hkept'
        · rw [hread (by omega), show n.log2 + 1022 - 1074 = 0 by omega, show 52 - n.log2 = 0 by omega, Nat.pow_zero,
            Nat.one_mul, Nat.mul_one]
      · unfold dist
        omega

/-- **What is read of a natural number with zeros behind a point** is a nearest one that the format holds. -/
theorem toInt?_decimal {zeros : Nat} {i : Int} (hi : 1 ≤ i)
    (h : (ofDecimal false (n * 10 ^ zeros) (-(zeros : Int))).toInt? = some i) : ∃ x : Nat, i = x ∧ IsNearest n x := by
  have hn : 0 < n := by
    rw [Nat.pos_iff_ne_zero]
    rintro rfl
    have hzero : ofDecimal false (0 * 10 ^ zeros) (-(zeros : Int)) = ⟨0⟩ := by
      unfold ofDecimal decimal
      rw [Nat.zero_mul]
      rfl
    have hnone : (⟨0⟩ : Binary64).toInt? = some 0 := by decide +kernel
    rw [hzero, hnone] at h
    cases h
    omega
  have hpos : 0 < 10 ^ zeros := Nat.pow_pos (by decide)
  have hne : n * 10 ^ zeros ≠ 0 := Nat.ne_of_gt (Nat.mul_pos hn hpos)
  -- the zeros are taken away again, so that the size of the number is that of a natural number
  have hsize : zeros ≤ (n * 10 ^ zeros).log2 / 3 := by
    have height : 2 ^ (3 * zeros) ≤ n * 10 ^ zeros := by
      calc 2 ^ (3 * zeros) = 8 ^ zeros := by rw [Nat.pow_mul]
        _ ≤ 10 ^ zeros := Nat.pow_le_pow_left (by decide) zeros
        _ ≤ n * 10 ^ zeros := Nat.le_mul_of_pos_left _ hn
    have hlog := (Nat.le_log2 hne).2 height
    omega
  have hdecimal : ofDecimal false (n * 10 ^ zeros) (-(zeros : Int)) = nearest (n * 10 ^ zeros) (10 ^ zeros) := by
    unfold ofDecimal decimal
    dsimp only
    rw [if_neg Bool.false_ne_true, beq_false_of_ne hne, if_neg (by simp; omega), if_neg (by omega), Int.neg_neg,
      Int.toNat_natCast, show (-(zeros : Int)).toNat = 0 by omega, Nat.pow_eq, Nat.pow_eq, Nat.pow_zero, Nat.mul_one]
  rw [hdecimal] at h
  exact toInt?_nearest hn hpos h

end Triage.Binary64
