import Mathlib.Data.List.TakeWhile
import Triage.Proofs.Yaml.PlainScalar
import Triage.Text.Blank
import Triage.Yaml.Tag

/-!
# Forms of numbers

What is a number by its form is made of characters of ASCII without any white space.

* `isGraphic_of_isFloatForm`, `isGraphic_of_isIntegerForm`: **no white space in numbers**.
* `ofPlain_of_mem`: the tag of a text with a digit or white space, but without a dash, is told by its form as a number.
-/

namespace Triage.Yaml

open Triage.Text (hexValue? isBlank)

/-! ## Forms -/

/-- A character of ASCII that is neither white space nor a control character. -/
def Graphic (c : Char) : Prop := 0x21 ≤ c.toNat ∧ c.toNat ≤ 0x7e

instance (c : Char) : Decidable (Graphic c) := inferInstanceAs (Decidable (_ ∧ _))

/-- A text of such characters. -/
def IsGraphic (cs : List Char) : Prop := ∀ c ∈ cs, Graphic c

instance (cs : List Char) : Decidable (IsGraphic cs) := inferInstanceAs (Decidable (∀ c ∈ cs, Graphic c))

theorem Graphic.isBlank_eq {c : Char} (h : Graphic c) : isBlank c = false := by
  obtain ⟨hlow, hhigh⟩ := h
  rw [isBlank, Text.CodeRanges.covers_eq_any, List.any_eq_false]
  intro r hr
  have hranges : ∀ r ∈ Text.blankRanges.toList, r.2 ≤ 0x20 ∨ 0x85 ≤ r.1 := by decide
  have := hranges r hr
  simp only [Bool.and_eq_true, decide_eq_true_iff]
  omega

section Forms

variable {cs ds rest : List Char}

theorem IsGraphic.cons {c : Char} (hc : Graphic c) (hcs : IsGraphic cs) : IsGraphic (c :: cs) :=
  List.forall_mem_cons.2 ⟨hc, hcs⟩

theorem graphic_of_isDigit {c : Char} (h : c.isDigit = true) : Graphic c :=
  forall_isDigit (p := Graphic) (by decide) h

theorem graphic_of_isDigitOrUnderscore {c : Char} (h : isDigitOrUnderscore c = true) : Graphic c := by
  rcases Bool.or_eq_true_iff.1 h with hdigit | hunderscore
  · exact graphic_of_isDigit hdigit
  · rw [eq_of_beq hunderscore]
    decide

theorem isGraphic_of_dropWhile {p : Char → Bool} (hp : ∀ c, p c = true → Graphic c) (h : IsGraphic (cs.dropWhile p)) :
    IsGraphic cs := by
  rw [← List.takeWhile_append_dropWhile (p := p) (l := cs)]
  exact List.forall_mem_append.2 ⟨fun c hc => hp c (List.mem_takeWhile_imp hc), h⟩

theorem isGraphic_of_dropSign (h : IsGraphic (dropSign cs)) : IsGraphic cs := by
  unfold dropSign at h
  split at h
  · exact .cons (by decide) h
  · exact .cons (by decide) h
  · exact h

theorem isGraphic_of_afterDigits? (h : afterDigits? cs = some rest) (hrest : IsGraphic rest) : IsGraphic cs := by
  cases cs with
  | nil => cases h
  | cons c cs =>
    rw [afterDigits?] at h
    obtain ⟨hdigit, h⟩ := Option.ite_none_right_eq_some.1 h
    cases h
    exact .cons (graphic_of_isDigit hdigit) (isGraphic_of_dropWhile (fun _ => graphic_of_isDigitOrUnderscore) hrest)

theorem isGraphic_of_isSignedExponent (h : isSignedExponent cs = true) : IsGraphic cs := by
  unfold isSignedExponent at h
  split at h
  · exact List.forall_mem_nil _
  · next e s ds =>
    simp only [Bool.and_eq_true, Bool.or_eq_true, beq_iff_eq, List.all_eq_true] at h
    obtain ⟨⟨⟨he, hs⟩, -⟩, hds⟩ := h
    refine .cons ?_ (.cons ?_ fun c hc => graphic_of_isDigit (hds c hc))
    · rcases he with rfl | rfl <;> decide
    · rcases hs with rfl | rfl <;> decide
  · cases h

/-- A group to base sixty is one digit or two, and another group follows or the rest. -/
theorem exists_tail_of_afterSixties? {fuel : Nat} {a : Char}
    (h : afterSixties? (fuel + 1) (':' :: a :: ds) = some rest) :
    a.isDigit = true ∧ ∃ tail, (afterSixties? fuel tail = some rest ∨ tail = rest) ∧
      (IsGraphic tail → IsGraphic ds) := by
  rw [afterSixties?.eq_def] at h
  dsimp only at h
  obtain ⟨ha, h⟩ := Option.ite_none_left_eq_some.1 h
  refine ⟨by simpa using ha, ?_⟩
  cases ds with
  | nil =>
    dsimp only at h
    split at h
    · next hread => exact ⟨[], .inl (hread.trans h), id⟩
    · exact ⟨[], .inr (Option.some.inj (Option.ite_none_left_eq_some.1 h).2), id⟩
  | cons b more =>
    dsimp only at h
    by_cases hb : (decide (a ≤ '5') && b.isDigit) = true
    · have hdigit : Graphic b := graphic_of_isDigit (Bool.and_eq_true_iff.1 hb).2
      simp only [if_pos hb] at h
      split at h
      · next hread => exact ⟨more, .inl (hread.trans h), .cons hdigit⟩
      · exact ⟨more, .inr (Option.some.inj (Option.ite_none_left_eq_some.1 h).2), .cons hdigit⟩
    · simp only [if_neg hb] at h
      split at h
      · next hread => exact ⟨b :: more, .inl (hread.trans h), id⟩
      · exact ⟨b :: more, .inr (Option.some.inj (Option.ite_none_left_eq_some.1 h).2), id⟩

theorem isGraphic_of_afterSixties? {fuel : Nat} (h : afterSixties? fuel cs = some rest) (hrest : IsGraphic rest) :
    IsGraphic cs := by
  induction fuel generalizing cs with
  | zero => cases h
  | succ fuel ih =>
    obtain ⟨a, ds, rfl⟩ : ∃ a ds, cs = ':' :: a :: ds := by
      rw [afterSixties?.eq_def] at h
      split at h
      · cases h
      · exact ⟨_, _, rfl⟩
      · cases h
    obtain ⟨ha, tail, hread | rfl, hgroup⟩ := exists_tail_of_afterSixties? h
    · exact .cons (by decide) (.cons (graphic_of_isDigit ha) (hgroup (ih hread)))
    · exact .cons (by decide) (.cons (graphic_of_isDigit ha) (hgroup hrest))

theorem isGraphic_of_contains {words : List String} (hwords : ∀ w ∈ words, ∀ c ∈ w.toList, Graphic c)
    (h : words.contains (String.ofList cs) = true) : IsGraphic cs := by
  have hall := hwords _ (List.contains_iff_mem.1 h)
  rwa [String.toList_ofList] at hall

/-- **What has the form of a number with a point** has no white space in it. -/
theorem isGraphic_of_isFloatForm (h : isFloatForm cs = true) : IsGraphic cs := by
  unfold isFloatForm at h
  dsimp only at h
  simp only [Bool.or_eq_true] at h
  obtain ((hpointed | hleading) | hinf) | hnan := h
  · refine isGraphic_of_dropSign ?_
    split at hpointed
    · next rest hdigits =>
      refine isGraphic_of_afterDigits? hdigits (.cons (by decide) ?_)
      exact isGraphic_of_dropWhile (fun _ => graphic_of_isDigitOrUnderscore) (isGraphic_of_isSignedExponent hpointed)
    · next rest _ hdigits =>
      split at hpointed
      · next fraction hsixties =>
        refine isGraphic_of_afterDigits? hdigits (isGraphic_of_afterSixties? hsixties (.cons (by decide) ?_))
        exact fun c hc => graphic_of_isDigitOrUnderscore (List.all_eq_true.1 hpointed c hc)
      · cases hpointed
    · cases hpointed
  · split at hleading
    · split at hleading
      · next hdigits =>
        exact .cons (by decide) (isGraphic_of_afterDigits? hdigits (isGraphic_of_isSignedExponent hleading))
      · cases hleading
    · cases hleading
  · exact isGraphic_of_dropSign (isGraphic_of_contains (by decide) hinf)
  · exact isGraphic_of_contains (by decide) hnan

theorem graphic_of_between {c low high : Char} (hlow : Graphic low) (hhigh : Graphic high)
    (h : (decide (low ≤ c) && decide (c ≤ high)) = true) : Graphic c := by
  obtain ⟨hge, hle⟩ := Bool.and_eq_true_iff.1 h
  exact ⟨Nat.le_trans hlow.1 (show low.toNat ≤ c.toNat from of_decide_eq_true hge),
    Nat.le_trans (show c.toNat ≤ high.toNat from of_decide_eq_true hle) hhigh.2⟩

theorem graphic_of_isHexDigit {c : Char} (h : Text.isHexDigit c = true) : Graphic c := by
  unfold Text.isHexDigit hexValue? at h
  split at h
  · next hdigit => exact graphic_of_isDigit hdigit
  · split at h
    · next hletter =>
      exact graphic_of_between (by decide) (by decide) hletter
    · split at h
      · next hletter =>
        exact graphic_of_between (by decide) (by decide) hletter
      · cases h

theorem graphic_of_isOctalDigit {c : Char} (h : Text.isOctalDigit c = true) : Graphic c :=
  graphic_of_between (by decide) (by decide) h

/-- **What has the form of an integer** has no white space in it. -/
theorem isGraphic_of_isIntegerForm (h : isIntegerForm cs = true) : IsGraphic cs := by
  refine isGraphic_of_dropSign ?_
  unfold isIntegerForm at h
  have hdigits {p : Char → Bool} {ds : List Char} (hp : ∀ c, p c = true → Graphic c)
      (hds : ds.all (fun c => p c || c == '_') = true) : IsGraphic ds := by
    intro c hc
    rcases Bool.or_eq_true_iff.1 (List.all_eq_true.1 hds c hc) with hdigit | hunderscore
    · exact hp c hdigit
    · rw [eq_of_beq hunderscore]
      decide
  split at h
  · next heq => exact heq ▸ (by decide)
  · next ds heq =>
    rw [heq]
    refine .cons (by decide) (.cons (by decide) (hdigits (p := fun c => c == '0' || c == '1') ?_
      (Bool.and_eq_true_iff.1 h).2))
    intro c hc
    rcases Bool.or_eq_true_iff.1 hc with hc | hc <;> rw [eq_of_beq hc] <;> decide
  · next ds heq =>
    rw [heq]
    exact .cons (by decide) (.cons (by decide) (hdigits (fun _ => graphic_of_isHexDigit) (Bool.and_eq_true_iff.1 h).2))
  · next ds _ _ heq =>
    rw [heq]
    exact .cons (by decide) (hdigits (fun _ => graphic_of_isOctalDigit) h)
  · split at h
    · next hread => exact isGraphic_of_afterDigits? hread (List.forall_mem_nil _)
    · next _ hread =>
      exact isGraphic_of_afterDigits? hread (isGraphic_of_afterSixties? (eq_of_beq h) (List.forall_mem_nil _))
    · cases h

end Forms

/-! ## Tags -/

/-- A date has a dash behind its year. -/
theorem not_isForm_timestamp {cs : List Char} (h : '-' ∉ cs) : Timestamp.isForm cs = false := by
  have hnone : Timestamp.ofText? cs = none := by
    rw [Option.eq_none_iff_forall_ne_some]
    intro t ht
    obtain ⟨⟨year, rest⟩, hyear, ht⟩ := Option.bind_eq_some_iff.1 ht
    obtain ⟨after, hdash, -⟩ := Option.bind_eq_some_iff.1 ht
    have hrest : rest ⊆ cs := by
      unfold Timestamp.number? at hyear
      dsimp only at hyear
      obtain ⟨-, hyear⟩ := Option.ite_none_left_eq_some.1 hyear
      cases hyear
      exact List.drop_subset _ _
    cases rest with
    | nil => cases hdash
    | cons c rest =>
      rw [Timestamp.char?] at hdash
      obtain ⟨hc, -⟩ := Option.ite_none_right_eq_some.1 hdash
      exact h (hrest (by rw [eq_of_beq hc]; exact List.mem_cons_self))
  unfold Timestamp.isForm
  rw [hnone]

/-- A text that has a digit or white space in it, but neither a dash nor a line feed, is a number or nothing special. -/
theorem ofPlain_of_mem {cs : List Char} (hmem : ∃ c ∈ cs, c.isDigit = true ∨ isBlank c = true) (hdash : '-' ∉ cs)
    (hfeed : '\n' ∉ cs) :
    Tag.ofPlain (String.ofList cs) =
      if isFloatForm cs then Tag.core "float" else if isIntegerForm cs then Tag.core "int" else Tag.text := by
  have hlast : (1 < cs.length && cs.getLast? == some '\n') = false := by
    rw [Bool.and_eq_false_iff]
    exact .inr (beq_false_of_ne fun h => hfeed (List.mem_of_getLast? h))
  -- the words are graphic and have no digits
  have hword {w : String} (hw : ∀ c ∈ w.toList, c.isDigit = false ∧ Graphic c) : String.ofList cs ≠ w := by
    obtain ⟨c, hc, hdigit⟩ := hmem
    rintro rfl
    rw [String.toList_ofList] at hw
    obtain ⟨hnone, hgraphic⟩ := hw c hc
    rw [hnone, hgraphic.isBlank_eq] at hdigit
    simp at hdigit
  have hwords {l : List String} (hl : ∀ w ∈ l, ∀ c ∈ w.toList, c.isDigit = false ∧ Graphic c) :
      l.contains (String.ofList cs) = false := by
    rw [Bool.eq_false_iff]
    exact fun hmem => hword (hl _ (List.contains_iff_mem.1 hmem)) rfl
  unfold Tag.ofPlain
  dsimp only
  rw [String.toList_ofList, hlast, if_neg Bool.false_ne_true, hwords (l := boolForms) (by decide),
    beq_false_of_ne (hword (w := "<<") (by decide)), hwords (l := nullForms) (by decide), not_isForm_timestamp hdash,
    beq_false_of_ne (hword (w := "=") (by decide))]
  rfl

end Triage.Yaml
