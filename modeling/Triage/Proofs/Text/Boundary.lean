import Triage.Proofs.Text.LetterCase
import Triage.Proofs.Text.LowerCase

/-!
# Lower case on both sides of a boundary

Lower case is taken character by character, but for the capital sigma, which looks for cased characters before and behind
it. A character that is neither cased nor passed over hides what is on its other side.

* `IsBoundary`, `meetsCased_append`: **nothing is seen beyond a boundary**; an underscore is one.
* `lowerAfter_append_boundary`: so the two sides of a boundary are put in lower case each by itself.
* `lowerAfter_eq_of_sameLetter`: and the case of ASCII letters is lost, wherever they stand.
* `eq_of_mem_lowerChars`, `eq_of_mem_upperChars`: an underscore comes from an underscore only.
-/

namespace Triage.Text

variable {c d : Char} {cs ds before before' : List Char}

/-- A character that a sigma sees, and that is no reason for it to change. -/
def IsBoundary (c : Char) : Prop := isCased c = false ∧ isCaseIgnorable c = false

theorem isBoundary_underscore : IsBoundary '_' := by
  unfold IsBoundary isCased isCaseIgnorable
  rw [CodeRanges.covers_eq_any, CodeRanges.covers_eq_any]
  decide +kernel

theorem IsBoundary.ne_sigma (h : IsBoundary c) : c ≠ 'Σ' := by
  rintro rfl
  have hcased : isCased 'Σ' = true := by decide +kernel
  rw [h.1] at hcased
  cases hcased

/-! ## What a sigma sees -/

theorem meetsCased_cons (c : Char) (cs : List Char) :
    meetsCased (c :: cs) = if isCaseIgnorable c then meetsCased cs else isCased c := by
  unfold meetsCased
  cases h : isCaseIgnorable c with
  | true => rw [List.dropWhile_cons_of_pos h, if_pos rfl]
  | false =>
    have hkept : ¬ isCaseIgnorable c = true := by simp [h]
    rw [List.dropWhile_cons_of_neg hkept, if_neg Bool.false_ne_true, List.head?_cons, Option.any_some]

/-- **Nothing is seen beyond a boundary.** -/
theorem meetsCased_append (h : IsBoundary c) (cs ds : List Char) : meetsCased (cs ++ c :: ds) = meetsCased cs := by
  induction cs with
  | nil =>
    have hnone : meetsCased [] = false := rfl
    rw [List.nil_append, meetsCased_cons, h.2, h.1, hnone]
    rfl
  | cons x cs ih => rw [List.cons_append, meetsCased_cons, meetsCased_cons, ih]

theorem lowerAfter_behind_boundary (h : IsBoundary c) (before rest cs : List Char) :
    lowerAfter (before ++ c :: rest) cs = lowerAfter before cs := by
  induction cs generalizing before with
  | nil => rfl
  | cons x cs ih => rw [lowerAfter, lowerAfter, meetsCased_append h, ← List.cons_append, ih]

/-- **Both sides of a boundary** are put in lower case each by itself. -/
theorem lowerAfter_append_boundary (h : IsBoundary c) (before as bs : List Char) :
    lowerAfter before (as ++ c :: bs) = lowerAfter before as ++ (lowerChars c ++ lowerAfter [] bs) := by
  induction as generalizing before with
  | nil =>
    have hsigma : ¬ (c == 'Σ') = true := by simpa using h.ne_sigma
    have hbehind : lowerAfter (c :: before) bs = lowerAfter [] bs := lowerAfter_behind_boundary h [] before bs
    have hnone : lowerAfter before [] = [] := rfl
    rw [hnone, List.nil_append, List.nil_append, lowerAfter.eq_2, if_neg hsigma, hbehind]
  | cons x as ih => rw [List.cons_append, lowerAfter, lowerAfter, meetsCased_append h, ih, List.append_assoc]

theorem toList_lower (text : String) : (lower text).toList = lowerAfter [] text.toList := String.toList_ofList

/-! ## The case of letters -/

theorem SameLetter.isCased_eq (h : SameLetter c d) : isCased c = isCased d := by
  -- two of the ranges are those of the letters
  have hcapital : (0x41, 0x5a) ∈ casedRanges.toList := by decide +kernel
  have hsmall : (0x61, 0x7a) ∈ casedRanges.toList := by decide +kernel
  have hletter : ∀ n, IsLetterPoint n → (!casedRanges.covers n) = false := by
    intro n hn
    rw [Bool.not_eq_false', CodeRanges.covers_eq_any, List.any_eq_true]
    rcases hn with hn | hn
    · exact ⟨_, hcapital, by simpa using hn⟩
    · exact ⟨_, hsmall, by simpa using hn⟩
  have hnot := SameLetter.eq_of_no_letter (p := fun n => !casedRanges.covers n) hletter h
  exact Bool.not_inj hnot

theorem SameLetter.isCaseIgnorable_eq (h : SameLetter c d) : isCaseIgnorable c = isCaseIgnorable d := by
  -- all ranges are below, between or above the letters
  have hranges : ∀ r ∈ caseIgnorableRanges.toList, r.2 < 0x41 ∨ (0x5a < r.1 ∧ r.2 < 0x61) ∨ 0x7a < r.1 := by
    decide +kernel
  refine SameLetter.eq_of_no_letter (p := caseIgnorableRanges.covers) (fun n hn => ?_) h
  rw [CodeRanges.covers_eq_any, List.any_eq_false]
  intro r hr hin
  have hrange := hranges r hr
  rw [Bool.and_eq_true, decide_eq_true_iff, decide_eq_true_iff] at hin
  unfold IsLetterPoint at hn
  omega

theorem SameLetter.isSigma_eq (h : SameLetter c d) : (c == 'Σ') = (d == 'Σ') :=
  h.eq_of_letters (f := (· == 'Σ')) (by decide)

theorem SameLetter.lowerChars_eq (h : SameLetter c d) : lowerChars c = lowerChars d := h.eq_of_letters (by decide +kernel)

theorem meetsCased_eq_of_sameLetter (h : List.Forall₂ SameLetter cs ds) : meetsCased cs = meetsCased ds := by
  induction h with
  | nil => rfl
  | cons hcd _ ih => rw [meetsCased_cons, meetsCased_cons, hcd.isCaseIgnorable_eq, hcd.isCased_eq, ih]

/-- **The case of ASCII letters is lost**, and no sigma depends on it. -/
theorem lowerAfter_eq_of_sameLetter (hbefore : List.Forall₂ SameLetter before before')
    (h : List.Forall₂ SameLetter cs ds) : lowerAfter before cs = lowerAfter before' ds := by
  induction h generalizing before before' with
  | nil => rfl
  | cons hcd hrest ih =>
    have hseen := meetsCased_eq_of_sameLetter hbefore
    have hnext := meetsCased_eq_of_sameLetter hrest
    rw [lowerAfter, lowerAfter, hcd.isSigma_eq, hcd.lowerChars_eq, hseen, hnext, ih (.cons hcd hbefore)]

/-! ## Underscores -/

/-- **An underscore** is in the lower case of an underscore only. -/
theorem eq_of_mem_lowerChars (h : '_' ∈ lowerChars c) : c = '_' := by
  have hascii : c.toNat < 128 := lt_of_mem_lowerChars h (by decide)
  rw [lowerChars_of_ascii hascii, List.mem_singleton] at h
  have hletter : '_' = c.toLower → c = '_' :=
    forall_ascii (P := fun c => '_' = c.toLower → c = '_') (by decide) hascii
  exact hletter h

/-- Above ASCII nothing has an underscore in its upper case, and within ASCII only the underscore itself. -/
theorem eq_of_mem_upperChars (h : '_' ∈ upperChars c) : c = '_' := by
  rcases Nat.lt_or_ge c.toNat 128 with hc | hc
  · rw [(upperChars_of_ascii hc).1, List.mem_singleton] at h
    have hletter : '_' = c.toUpper → c = '_' :=
      forall_ascii (P := fun c => '_' = c.toUpper → c = '_') (by decide) hc
    exact hletter h
  · exfalso
    rw [upperChars_of_not_ascii hc] at h
    have hspecials : ∀ p ∈ upperSpecials, ∀ n ∈ p.2, n ≠ 0x5f := by decide +kernel
    have hruns : ∀ r ∈ upperRuns, r.image + (r.last - r.first) < 0x5f ∨ 0x5f < r.image := by decide +kernel
    have hself : c.toNat ≠ 0x5f := by omega
    have hnone := forall_mem_mapCase (P := (· ≠ 0x5f)) (by decide) hspecials (fun r hr n hlow hhigh => by
      have hrange := hruns r hr
      omega) hself '_' h
    exact hnone rfl

theorem not_mem_lowerAfter (h : '_' ∉ cs) : '_' ∉ lowerAfter before cs := by
  induction cs generalizing before with
  | nil => exact List.not_mem_nil
  | cons x cs ih =>
    intro hmem
    rw [lowerAfter, List.mem_append] at hmem
    rcases hmem with hmem | hmem
    · split at hmem
      · have hsigma : ∀ final : Bool, '_' ∉ [if final then 'ς' else 'σ'] := by decide
        exact hsigma _ hmem
      · exact h (List.mem_cons.2 (.inl (eq_of_mem_lowerChars hmem).symm))
    · exact ih (fun hrest => h (List.mem_cons_of_mem x hrest)) hmem

end Triage.Text
