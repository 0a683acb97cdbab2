import Mathlib.Data.List.Basic
import Triage.Fault.Label
import Triage.Proofs.Text.LetterCase
import Triage.Proofs.Text.LowerCase

/-!
# What is left of a name in camel case

Underscores go and the parts between them are capitalised, so that nothing may be left of a name, or one word.

* `underscoreParts_append`: **an underscore is a boundary**; `joined_append`.
* `joined_eq_nil_iff`: nothing is left exactly of underscores.
* `joined_eq_error_iff`: `Error` is left exactly of one part, since a second one would begin with a capital letter.
* `IsPadded`: a word between underscores, in any case; `camelCase_eq_empty_iff`, `camelCase_eq_error_iff`.
-/

namespace Triage

variable {cs p : List Char} {ps : List (List Char)} {c : Char}

/-! ## Parts -/

theorem exists_underscoreParts (cs : List Char) : ∃ p ps, underscoreParts cs = p :: ps := by
  cases cs with
  | nil => exact ⟨[], [], rfl⟩
  | cons c cs =>
    rw [underscoreParts]
    split
    · exact ⟨_, _, rfl⟩
    · split
      · exact ⟨_, _, rfl⟩
      · exact ⟨_, _, rfl⟩

theorem underscoreParts_underscore (cs : List Char) : underscoreParts ('_' :: cs) = [] :: underscoreParts cs := rfl

theorem underscoreParts_cons (hc : c ≠ '_') (hcs : underscoreParts cs = p :: ps) :
    underscoreParts (c :: cs) = (c :: p) :: ps := by
  rw [underscoreParts, if_neg (by simpa using hc), hcs]

/-- **An underscore is a boundary** between the parts. -/
theorem underscoreParts_append (as bs : List Char) :
    underscoreParts (as ++ '_' :: bs) = underscoreParts as ++ underscoreParts bs := by
  induction as with
  | nil => rfl
  | cons a as ih =>
    by_cases ha : a = '_'
    · subst ha
      rw [List.cons_append, underscoreParts_underscore, underscoreParts_underscore, ih, List.cons_append]
    · obtain ⟨p, ps, hparts⟩ := exists_underscoreParts as
      rw [hparts, List.cons_append] at ih
      rw [List.cons_append, underscoreParts_cons ha ih, underscoreParts_cons ha hparts, List.cons_append]

/-! ## One word -/

/-- The parts of a text as one word. -/
def joined (cs : List Char) : List Char := (underscoreParts cs).flatMap capitalize

theorem toList_camelCase (name : String) : (camelCase name).toList = joined (Text.lower name).toList :=
  String.toList_ofList

theorem joined_append (as bs : List Char) : joined (as ++ '_' :: bs) = joined as ++ joined bs := by
  rw [joined, underscoreParts_append, List.flatMap_append]
  rfl

theorem joined_underscore (cs : List Char) : joined ('_' :: cs) = joined cs := rfl

theorem joined_cons (hc : c ≠ '_') (hcs : underscoreParts cs = p :: ps) :
    joined (c :: cs) = Text.upperChars c ++ (p ++ ps.flatMap capitalize) := by
  rw [joined, underscoreParts_cons hc hcs, List.flatMap_cons, capitalize, List.append_assoc]

/-- Underscores in front and behind are gone. -/
theorem joined_padded (i j : Nat) (cs : List Char) :
    joined (List.replicate i '_' ++ cs ++ List.replicate j '_') = joined cs := by
  have hbehind (cs : List Char) : joined (cs ++ List.replicate j '_') = joined cs := by
    induction j generalizing cs with
    | zero => rw [List.replicate_zero, List.append_nil]
    | succ j ih =>
      have hnil : joined (List.replicate j '_') = [] := ih []
      rw [List.replicate_succ, joined_append, hnil, List.append_nil]
  rw [hbehind]
  induction i with
  | zero => rfl
  | succ i ih => rw [List.replicate_succ, List.cons_append, joined_underscore, ih]

/-- **Nothing is left** exactly of underscores: every other character has a capital form. -/
theorem joined_eq_nil_iff : joined cs = [] ↔ ∃ n, cs = List.replicate n '_' := by
  constructor
  · intro h
    induction cs with
    | nil => exact ⟨0, rfl⟩
    | cons c cs ih =>
      by_cases hc : c = '_'
      · subst hc
        obtain ⟨n, rfl⟩ := ih (joined_underscore cs ▸ h)
        exact ⟨n + 1, rfl⟩
      · obtain ⟨p, ps, hparts⟩ := exists_underscoreParts cs
        rw [joined_cons hc hparts] at h
        exact absurd (List.append_eq_nil_iff.1 h).1 (Text.upperChars_ne_nil c)
  · rintro ⟨n, rfl⟩
    have hpadded := joined_padded n 0 []
    rwa [List.append_nil, List.replicate_zero, List.append_nil] at hpadded

/-- Behind a part that is followed by nothing else there are only underscores. -/
theorem eq_append_of_underscoreParts (hcs : underscoreParts cs = p :: ps) (hps : ps.flatMap capitalize = []) :
    ∃ j, cs = p ++ List.replicate j '_' := by
  induction cs generalizing p with
  | nil =>
    obtain ⟨rfl, -⟩ := List.cons.inj hcs
    exact ⟨0, rfl⟩
  | cons c cs ih =>
    by_cases hc : c = '_'
    · subst hc
      obtain ⟨rfl, rfl⟩ := List.cons.inj hcs
      obtain ⟨n, rfl⟩ := joined_eq_nil_iff.1 hps
      exact ⟨n + 1, rfl⟩
    · obtain ⟨q, qs, hparts⟩ := exists_underscoreParts cs
      rw [underscoreParts_cons hc hparts] at hcs
      obtain ⟨rfl, rfl⟩ := List.cons.inj hcs
      obtain ⟨j, rfl⟩ := ih hparts
      exact ⟨j, rfl⟩

/-- Of what is left of further parts, something is no small letter. -/
theorem exists_capital (hps : ps.flatMap capitalize ≠ []) : ∃ x ∈ ps.flatMap capitalize, x.isLower = false := by
  obtain ⟨y, hy⟩ := List.exists_mem_of_ne_nil _ hps
  obtain ⟨p, hp, hy⟩ := List.mem_flatMap.1 hy
  cases p with
  | nil => cases hy
  | cons c cs =>
    obtain ⟨x, hx⟩ := List.exists_mem_of_ne_nil _ (Text.upperChars_ne_nil c)
    exact ⟨x, List.mem_flatMap.2 ⟨_, hp, List.mem_append_left _ hx⟩, Text.isLower_of_mem_upperChars hx⟩

/-- **A word with one capital letter is left** exactly of one part: a second one would bring another. -/
theorem joined_eq_error_iff :
    joined cs = 'E' :: "rror".toList ↔
      ∃ i j, ∃ c ∈ ['e', 'E'], cs = List.replicate i '_' ++ c :: "rror".toList ++ List.replicate j '_' := by
  constructor
  · intro h
    induction cs with
    | nil => cases h
    | cons c cs ih =>
      by_cases hc : c = '_'
      · subst hc
        obtain ⟨i, j, d, hd, rfl⟩ := ih (joined_underscore cs ▸ h)
        exact ⟨i + 1, j, d, hd, rfl⟩
      obtain ⟨p, ps, hparts⟩ := exists_underscoreParts cs
      rw [joined_cons hc hparts] at h
      -- the word begins with the upper case of `c`
      have hE : 'E' ∈ Text.upperChars c := by
        rcases hupper : Text.upperChars c with _ | ⟨x, xs⟩
        · exact absurd hupper (Text.upperChars_ne_nil c)
        · rw [hupper] at h
          rw [(List.cons.inj h).1]
          exact List.mem_cons_self
      have hletter : c = 'e' ∨ c = 'E' := Text.eq_e_of_mem_upperChars hE
      have hupper : Text.upperChars c = ['E'] := by rcases hletter with rfl | rfl <;> decide
      rw [hupper] at h
      have hrest : p ++ ps.flatMap capitalize = "rror".toList := (List.cons.inj h).2
      have hnone : ps.flatMap capitalize = [] := by
        -- a second part would bring another capital letter
        by_contra hps
        obtain ⟨x, hx, hcapital⟩ := exists_capital hps
        have hsmall : ∀ y ∈ "rror".toList, y.isLower = true := by decide
        have hlower := hsmall x (hrest ▸ List.mem_append_right _ hx)
        rw [hcapital] at hlower
        cases hlower
      obtain ⟨j, rfl⟩ := eq_append_of_underscoreParts hparts hnone
      rw [hnone, List.append_nil] at hrest
      rw [hrest]
      exact ⟨0, j, c, by simpa using hletter, rfl⟩
  · rintro ⟨i, j, c, hc, rfl⟩
    rw [joined_padded]
    rcases List.mem_pair.1 hc with rfl | rfl <;> decide

/-! ## Names -/

/-- A name that is a word between underscores, whatever the case of its letters. -/
def IsPadded (word name : String) : Prop :=
  ∃ i j, name.toList.map Char.toLower = List.replicate i '_' ++ word.toList ++ List.replicate j '_'

/-- **Nothing is left of a name** exactly if it is made of underscores. -/
theorem camelCase_eq_empty_iff {name : String} : camelCase name = "" ↔ IsPadded "" name := by
  have hlower (n : Nat) : (Text.lower name).toList = List.replicate n '_' ↔
      name.toList.map Char.toLower = List.replicate n '_' :=
    Text.toList_lower_eq_iff fun d hd => List.eq_of_mem_replicate hd ▸ by decide
  rw [← String.toList_inj, toList_camelCase, String.toList_empty, joined_eq_nil_iff]
  simp only [hlower, IsPadded, String.toList_empty, List.append_nil, List.replicate_append_replicate]
  constructor
  · rintro ⟨n, hn⟩
    exact ⟨n, 0, hn⟩
  · rintro ⟨i, j, hij⟩
    exact ⟨i + j, hij⟩

theorem toLower_ne_capital (c : Char) : c.toLower ≠ 'E' := by
  intro h
  rcases Text.toLower_cases c with hc | ⟨n, hn, -, hl⟩
  · rw [hc] at h
    subst h
    revert hc
    decide
  · have hsmall : ∀ n < 26, Char.ofNat (0x61 + n) ≠ 'E' := by decide
    exact hsmall n hn (hl ▸ h)

/-- **`Error` is left of a name** exactly if it is `error` between underscores. -/
theorem camelCase_eq_error_iff {name : String} : camelCase name = "Error" ↔ IsPadded "error" name := by
  have hown (i j : Nat) (c : Char) (hc : c ∈ ['e', 'E']) :
      ∀ d ∈ List.replicate i '_' ++ c :: "rror".toList ++ List.replicate j '_', Text.IsOwn d := by
    intro d hd
    have hletters : ∀ d ∈ '_' :: 'e' :: 'E' :: "rror".toList, Text.IsOwn d := by decide
    apply hletters
    simp only [List.mem_append, List.mem_cons, List.mem_replicate] at hd hc ⊢
    grind
  have herror : "Error".toList = 'E' :: "rror".toList := rfl
  rw [← String.toList_inj, toList_camelCase, herror, joined_eq_error_iff]
  unfold IsPadded
  constructor
  · rintro ⟨i, j, c, hc, h⟩
    have hmap := (Text.toList_lower_eq_iff (hown i j c hc)).1 h
    rcases List.mem_pair.1 hc with rfl | rfl
    · exact ⟨i, j, hmap⟩
    · have hmem : 'E' ∈ name.toList.map Char.toLower := by
        rw [hmap]
        simp
      obtain ⟨x, -, hx⟩ := List.mem_map.1 hmem
      exact absurd hx (toLower_ne_capital x)
  · rintro ⟨i, j, h⟩
    exact ⟨i, j, 'e', by simp, (Text.toList_lower_eq_iff (hown i j 'e' (by simp))).2 h⟩

end Triage
