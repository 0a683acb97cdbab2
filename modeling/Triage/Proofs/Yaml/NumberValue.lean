import Triage.Proofs.Text.LowerCase
import Triage.Proofs.Yaml.PlainScalar
import Triage.Yaml.Construction

/-!
# What words and numbers stand for

A plain scalar has the tag of the first kind whose form it has, and its value is read under this tag. Both are done here
for the words and numbers of JSON, which are written in the same way there.

* `ofPlain_integer`, `ofPlain_float`: the tag of a number.
* `integerOf_numeral`, `floatOf_numeral`: its value.
* `valueOf_word`, `valueOf_numeral`: **a word or plain number stands for the same value in both formats**.
-/

namespace Triage.Yaml

open Triage.Json (Numeral Exponent)
open Triage.Text (hexValue? digitValue? natOfText natOfDigits trimList isBlank separatedDigits? takeWhile_upTo
  dropWhile_upTo)

/-! ## Texts of digits -/

section Digits

variable {ds rest : List Char}

theorem isDigitOrUnderscore_of_isDigit {c : Char} (h : c.isDigit = true) : isDigitOrUnderscore c = true := by
  unfold isDigitOrUnderscore
  rw [h, Bool.true_or]

/-- The digits before something else. -/
theorem afterDigits?_append (hds : ∀ c ∈ ds, c.isDigit = true) (hne : ds ≠ [])
    (hrest : ∀ c ∈ rest.head?, isDigitOrUnderscore c = false) : afterDigits? (ds ++ rest) = some rest := by
  obtain ⟨d, ds, rfl⟩ := List.exists_cons_of_ne_nil hne
  rw [List.cons_append, afterDigits?, if_pos (hds d (by simp)),
    dropWhile_upTo (fun c hc => isDigitOrUnderscore_of_isDigit (hds c (List.mem_cons_of_mem _ hc))) hrest]

theorem dropSign_digits (hds : ∀ c ∈ ds, c.isDigit = true) (hne : ds ≠ []) : dropSign (ds ++ rest) = ds ++ rest := by
  obtain ⟨d, ds, rfl⟩ := List.exists_cons_of_ne_nil hne
  have hdigit : d ≠ '+' ∧ d ≠ '-' :=
    forall_isDigit (p := fun c => c ≠ '+' ∧ c ≠ '-') (by decide) (hds d (by simp))
  unfold dropSign
  split
  · next h => exact absurd (List.cons.inj h).1 hdigit.1
  · next h => exact absurd (List.cons.inj h).1 hdigit.2
  · rfl

/-- A text that starts with a digit has no sign. -/
theorem isNegated_digits (hds : ∀ c ∈ ds, c.isDigit = true) (hne : ds ≠ []) : isNegated (ds ++ rest) = false := by
  obtain ⟨d, ds, rfl⟩ := List.exists_cons_of_ne_nil hne
  have hdigit : d ≠ '-' := forall_isDigit (p := fun c => c ≠ '-') (by decide) (hds d (by simp))
  exact beq_false_of_ne fun h => hdigit (Option.some.inj h)

theorem separatedDigits?_digits {afterDigit : Bool} (hds : ∀ c ∈ ds, c.isDigit = true)
    (hne : afterDigit = true ∨ ds ≠ []) :
    separatedDigits? afterDigit ds = some (ds.map fun c => (hexValue? c).getD 0) := by
  induction ds generalizing afterDigit with
  | nil =>
    rw [hne.resolve_right fun h => h rfl]
    rfl
  | cons d ds ih =>
    have hdigit : d ≠ '_' ∧ digitValue? d = some ((hexValue? d).getD 0) :=
      forall_isDigit (p := fun c => c ≠ '_' ∧ digitValue? c = some ((hexValue? c).getD 0)) (by decide) (hds d (by simp))
    unfold separatedDigits?
    rw [if_neg (by simp [hdigit.1]), hdigit.2, ih (fun c hc => hds c (List.mem_cons_of_mem _ hc)) (.inl rfl)]
    rfl

end Digits

/-! ## Texts of numbers -/

theorem isBlank_bare {c : Char} (hc : c ∈ bareChars) : isBlank c = false := by
  have hnone : ∀ c ∈ bareChars, (Text.blankRanges.toList.any fun r => r.1 ≤ c.toNat && c.toNat ≤ r.2) = false := by
    decide
  rw [isBlank, Text.CodeRanges.covers_eq_any]
  exact hnone c hc

theorem trimList_bare {xs : List Char} (hxs : IsBare xs) : trimList isBlank xs = xs := by
  have hdrop (ys : List Char) (hys : IsBare ys) : ys.dropWhile isBlank = ys := by
    cases ys with
    | nil => rfl
    | cons y ys => exact List.dropWhile_cons_of_neg (by simp [isBlank_bare (hys y (by simp))])
  rw [trimList, hdrop xs hxs, hdrop _ fun c hc => hxs c (List.mem_reverse.1 hc), List.reverse_reverse]

theorem withoutUnderscores_bare {xs : List Char} (hxs : IsBare xs) : withoutUnderscores (String.ofList xs) = xs := by
  have hnone : ∀ c ∈ bareChars, (c != '_') = true := by decide
  rw [withoutUnderscores, String.toList_ofList, List.filter_eq_self]
  exact fun c hc => hnone c (hxs c hc)

theorem not_mem_bare {xs : List Char} (hxs : IsBare xs) {c : Char} (hc : c ∉ bareChars) : xs.contains c = false := by
  rw [Bool.eq_false_iff]
  intro h
  exact hc (hxs c (by simpa using h))

/-- No word starts like the text. -/
theorem contains_eq_false {words : List String} {cs : List Char} (h : ∀ w ∈ words, w.toList.head? ≠ cs.head?) :
    words.contains (String.ofList cs) = false := by
  rw [Bool.eq_false_iff]
  intro hmem
  refine h _ (List.contains_iff_mem.1 hmem) ?_
  rw [String.toList_ofList]

section Numeral

variable (n : Numeral)

theorem dropSign_numeral : dropSign n.text = n.unsigned := by
  rw [Numeral.text]
  cases n.negative
  · exact show dropSign (n.whole ++ _) = n.whole ++ _ from dropSign_digits n.whole_ok n.nonempty
  · rfl

theorem isNegated_numeral : isNegated n.text = n.negative := by
  rw [Numeral.text]
  cases n.negative
  · exact show isNegated (n.whole ++ _) = false from isNegated_digits n.whole_ok n.nonempty
  · rfl

/-- The sign put aside, a number starts with a digit. -/
theorem head?_unsigned : ∃ c ∈ digitChars, n.unsigned.head? = some c := by
  obtain ⟨d, ds, hds⟩ := List.exists_cons_of_ne_nil n.nonempty
  exact ⟨d, mem_digitChars (n.whole_ok d (by simp [hds])), by simp [Numeral.unsigned, hds]⟩

/-- A number starts with a minus sign or a digit. -/
theorem head?_numeral : ∃ c ∈ '-' :: digitChars, n.text.head? = some c := by
  rw [Numeral.text]
  cases n.negative
  · obtain ⟨c, hc, hhead⟩ := head?_unsigned n
    exact ⟨c, List.mem_cons_of_mem _ hc, hhead⟩
  · exact ⟨'-', List.mem_cons_self, rfl⟩

theorem numeral_ne_nil : n.text ≠ [] := by
  obtain ⟨c, -, hc⟩ := head?_numeral n
  intro h
  rw [h] at hc
  cases hc

end Numeral

/-! ## Tags -/

variable {n : Numeral}

/-- A line feed at the end would not count, but there is none. -/
theorem ofPlain_bare {xs : List Char} (hxs : IsBare xs) :
    Tag.ofPlain (String.ofList xs) =
      if boolForms.contains (String.ofList xs) then Tag.core "bool"
      else if isFloatForm xs then Tag.core "float"
      else if isIntegerForm xs then Tag.core "int"
      else if String.ofList xs == "<<" then Tag.merge
      else if nullForms.contains (String.ofList xs) then Tag.core "null"
      else if Timestamp.isForm xs then Tag.core "timestamp"
      else if String.ofList xs == "=" then Tag.value
      else Tag.text := by
  have hlast : (1 < xs.length && xs.getLast? == some '\n') = false := by
    rw [Bool.and_eq_false_iff]
    refine .inr (beq_false_of_ne fun h => ?_)
    exact absurd (hxs _ (List.mem_of_getLast? h)) (by decide)
  unfold Tag.ofPlain
  dsimp only
  rw [String.toList_ofList, hlast, if_neg Bool.false_ne_true]

/-- No number is a truth value. -/
theorem boolForms_numeral (n : Numeral) : boolForms.contains (String.ofList n.text) = false := by
  obtain ⟨c, hc, hhead⟩ := head?_numeral n
  have hnone : ∀ w ∈ boolForms, ∀ c ∈ '-' :: digitChars, w.toList.head? ≠ some c := by decide
  exact contains_eq_false fun w hw => hhead ▸ hnone w hw c hc

theorem isFloatForm_integer (h : n.isInteger = true) : isFloatForm n.text = false := by
  obtain ⟨hfraction, hexponent⟩ := Bool.and_eq_true_iff.1 h
  have hunsigned : n.unsigned = n.whole ++ [] := by
    rw [Numeral.unsigned, List.isEmpty_iff.1 hfraction, Option.isNone_iff_eq_none.1 hexponent]
    rfl
  have hdigits : afterDigits? n.unsigned = some [] := by
    rw [hunsigned]
    exact afterDigits?_append n.whole_ok n.nonempty fun c hc => absurd hc (by simp)
  obtain ⟨c, hc, hhead⟩ := head?_numeral n
  obtain ⟨d, hd, hdigit⟩ := head?_unsigned n
  have hpoint : ∀ c ∈ '-' :: digitChars, some c ≠ some '.' := by decide
  have hinf : [".inf", ".Inf", ".INF"].contains (String.ofList n.unsigned) = false :=
    contains_eq_false fun w hw => hdigit ▸ (show ∀ w ∈ [".inf", ".Inf", ".INF"], ∀ c ∈ digitChars,
      w.toList.head? ≠ some c by decide) w hw d hd
  have hnan : [".nan", ".NaN", ".NAN"].contains (String.ofList n.text) = false :=
    contains_eq_false fun w hw => hhead ▸ (show ∀ w ∈ [".nan", ".NaN", ".NAN"], ∀ c ∈ '-' :: digitChars,
      w.toList.head? ≠ some c by decide) w hw c hc
  unfold isFloatForm
  rw [dropSign_numeral]
  dsimp only
  rw [hdigits, hinf, hnan]
  simp only [show afterSixties? ([] : List Char).length [] = none from rfl, Bool.or_false, Bool.false_or]
  split
  · next htext =>
    rw [htext] at hhead
    exact absurd hhead.symm (hpoint c hc)
  · rfl

theorem isIntegerForm_integer (h : n.isInteger = true) : isIntegerForm n.text = true := by
  obtain ⟨hfraction, hexponent⟩ := Bool.and_eq_true_iff.1 h
  have hunsigned : n.unsigned = n.whole := by
    rw [Numeral.unsigned, List.isEmpty_iff.1 hfraction, Option.isNone_iff_eq_none.1 hexponent]
    exact List.append_nil _
  have hdigits : afterDigits? n.whole = some [] := by
    rw [← List.append_nil n.whole]
    exact afterDigits?_append n.whole_ok n.nonempty fun c hc => absurd hc (by simp)
  unfold isIntegerForm
  rw [dropSign_numeral, hunsigned]
  by_cases hzero : n.whole = ['0']
  · rw [hzero]
    rfl
  · have hhead : n.whole.head? ≠ some '0' := fun h => hzero (n.no_leading_zero h)
    split
    · rfl
    iterate 3
      next hwhole => exact absurd (by rw [hwhole]; rfl) hhead
    · rw [hdigits]

/-- **An integer has the tag of integers.** -/
theorem ofPlain_integer (h : n.isInteger = true) : Tag.ofPlain (String.ofList n.text) = Tag.core "int" := by
  rw [ofPlain_bare (isBare_numeral n), boolForms_numeral, isFloatForm_integer h, isIntegerForm_integer h]
  rfl

/-- An exponent with a sign has the form of one. -/
theorem isSignedExponent_exponent {e : Option Exponent} (h : ∀ x ∈ e, x.sign.isSome = true) :
    isSignedExponent (Numeral.exponentText e) = true := by
  cases e with
  | none => rfl
  | some e =>
    obtain ⟨sign, hsign⟩ := Option.isSome_iff_exists.1 (h e rfl)
    have htext : Numeral.exponentText (some e) = e.letter :: sign :: e.digits := by
      simp [Numeral.exponentText, Exponent.text, hsign]
    have hdigits : e.digits.all Char.isDigit = true := List.all_eq_true.2 e.digits_ok
    have hne : e.digits.isEmpty = false := by simpa using e.nonempty
    rw [htext]
    unfold isSignedExponent
    dsimp only
    rw [hdigits, hne]
    rcases e.letter_ok with hletter | hletter <;> rcases e.sign_ok sign hsign with rfl | rfl <;> rw [hletter] <;> rfl

/-- An exponent starts with a letter. -/
theorem head?_exponent {e : Option Exponent} :
    ∀ c ∈ (Numeral.exponentText e).head?, c = 'e' ∨ c = 'E' := by
  intro c hc
  cases e with
  | none => cases hc
  | some e =>
    cases hc
    exact e.letter_ok

/-- A number with a point whose exponent, if there is one, has a sign. -/
theorem isFloatForm_float (hfraction : n.fraction ≠ []) (hexponent : ∀ e ∈ n.exponent, e.sign.isSome = true) :
    isFloatForm n.text = true := by
  have hpointed : afterDigits? n.unsigned = some ('.' :: (n.fraction ++ Numeral.exponentText n.exponent)) := by
    have htext : Numeral.fractionText n.fraction = '.' :: n.fraction := by
      rw [Numeral.fractionText, if_neg (by simpa using hfraction)]
    rw [Numeral.unsigned, htext]
    refine afterDigits?_append n.whole_ok n.nonempty fun c hc => ?_
    cases hc
    rfl
  have hrest : (n.fraction ++ Numeral.exponentText n.exponent).dropWhile isDigitOrUnderscore =
      Numeral.exponentText n.exponent := by
    refine dropWhile_upTo (fun c hc => isDigitOrUnderscore_of_isDigit (n.fraction_ok c hc)) fun c hc => ?_
    rcases head?_exponent c hc with rfl | rfl <;> rfl
  unfold isFloatForm
  rw [dropSign_numeral]
  dsimp only
  rw [hpointed]
  simp only [hrest, isSignedExponent_exponent hexponent, Bool.true_or]

/-- **A number with a point has the tag of numbers with a point.** -/
theorem ofPlain_float (hfraction : n.fraction ≠ []) (hexponent : ∀ e ∈ n.exponent, e.sign.isSome = true) :
    Tag.ofPlain (String.ofList n.text) = Tag.core "float" := by
  rw [ofPlain_bare (isBare_numeral n), boolForms_numeral, isFloatForm_float hfraction hexponent]
  rfl

/-! ## Values -/

theorem integer?_digits {ds : List Char} (hds : ∀ c ∈ ds, c.isDigit = true) (hne : ds ≠ []) :
    Text.integer? (String.ofList ds) = some (natOfText 10 ds : Int) := by
  unfold Text.integer?
  rw [String.toList_ofList, trimList_bare (isBare_digits hds)]
  obtain ⟨d, ds, rfl⟩ := List.exists_cons_of_ne_nil hne
  have hdigit : d ≠ '+' ∧ d ≠ '-' :=
    forall_isDigit (p := fun c => c ≠ '+' ∧ c ≠ '-') (by decide) (hds d (by simp))
  split
  · next h => exact absurd (List.cons.inj h).1 hdigit.2
  · next h => exact absurd (List.cons.inj h).1 hdigit.1
  · rw [separatedDigits?_digits hds (.inr hne)]
    rfl

theorem decimalOf_digits {ds : List Char} (hds : ∀ c ∈ ds, c.isDigit = true) (hne : ds ≠ [])
    (hfew : ds.length ≤ Text.maxDigits) : decimalOf ds = .ok (natOfText 10 ds : Int) := by
  have hsign : dropSign ds = ds := by
    rw [← List.append_nil ds]
    exact dropSign_digits hds hne
  unfold decimalOf
  dsimp only
  rw [integer?_digits hds hne, trimList_bare (isBare_digits hds), hsign]
  dsimp only
  rw [if_neg (by omega)]

/-- **The value of an integer.** -/
theorem integerOf_numeral (h : n.isInteger = true) (hfew : n.whole.length ≤ Text.maxDigits) :
    integerOf (String.ofList n.text) = .ok n.value := by
  obtain ⟨hfraction, hexponent⟩ := Bool.and_eq_true_iff.1 h
  have hunsigned : n.unsigned = n.whole := by
    rw [Numeral.unsigned, List.isEmpty_iff.1 hfraction, Option.isNone_iff_eq_none.1 hexponent]
    exact List.append_nil _
  have hempty : n.text.isEmpty = false := by simpa using numeral_ne_nil n
  have hcolon : n.whole.contains ':' = false := not_mem_bare (isBare_digits n.whole_ok) (by decide)
  unfold integerOf
  dsimp only
  rw [withoutUnderscores_bare (isBare_numeral n), isNegated_numeral, dropSign_numeral, hunsigned, Numeral.value, if_pos h,
    hempty, if_neg Bool.false_ne_true]
  by_cases hzero : n.whole = ['0']
  · rw [hzero]
    cases n.negative <;> rfl
  · have hhead : n.whole.head? ≠ some '0' := fun h => hzero (n.no_leading_zero h)
    split
    · next hwhole => exact absurd hwhole n.nonempty
    iterate 4
      next hwhole => exact absurd (by rw [hwhole]; rfl) hhead
    · rw [hcolon, if_neg Bool.false_ne_true, decimalOf_digits n.whole_ok n.nonempty hfew]
      cases n.negative
      · exact congrArg (fun i => Except.ok (Value.int i)) (Int.one_mul _)
      · exact congrArg (fun i => Except.ok (Value.int i)) (Int.neg_one_mul _)

/-! ## Values of numbers with a point -/

/-- Bare characters are of ASCII, and their lower case is taken one by one. -/
theorem lower_bare {xs : List Char} (hxs : IsBare xs) :
    Text.lower (String.ofList xs) = String.ofList (xs.map Char.toLower) := by
  have hascii : ∀ c ∈ bareChars, c.toNat < 128 := by decide
  exact Text.lower_of_ascii fun c hc => hascii c (hxs c hc)

theorem map_toLower_digits {ds : List Char} (hds : ∀ c ∈ ds, c.isDigit = true) : ds.map Char.toLower = ds := by
  refine (List.map_congr_left fun c hc => ?_).trans (List.map_id ds)
  exact forall_isDigit (p := fun c => c.toLower = id c) (by decide) (hds c hc)

/-- The exponent with a small letter. -/
def lowered (e : Exponent) : Exponent := { e with letter := 'e', letter_ok := .inl rfl }

/-- In lower case a number is the same number, its exponent with a small letter. -/
theorem map_toLower_numeral (n : Numeral) :
    n.text.map Char.toLower = ({ n with exponent := n.exponent.map lowered } : Numeral).text := by
  have hsign : (Numeral.signText n.negative).map Char.toLower = Numeral.signText n.negative := by
    cases n.negative <;> rfl
  have hfraction : (Numeral.fractionText n.fraction).map Char.toLower = Numeral.fractionText n.fraction := by
    unfold Numeral.fractionText
    split
    · rfl
    · rw [List.map_cons, map_toLower_digits n.fraction_ok]
      rfl
  have hexponent : (Numeral.exponentText n.exponent).map Char.toLower =
      Numeral.exponentText (n.exponent.map lowered) := by
    cases n.exponent with
    | none => rfl
    | some e =>
      have hsign : e.sign.toList.map Char.toLower = e.sign.toList := by
        cases hs : e.sign with
        | none => rfl
        | some c => rcases e.sign_ok c hs with rfl | rfl <;> rfl
      have hletter : e.letter.toLower = 'e' := by
        rcases e.letter_ok with h | h <;> rw [h] <;> rfl
      show Char.toLower e.letter :: (e.sign.toList ++ e.digits).map Char.toLower = 'e' :: (e.sign.toList ++ e.digits)
      rw [List.map_append, hsign, hletter, map_toLower_digits e.digits_ok]
  unfold Numeral.text Numeral.unsigned
  rw [List.map_append, List.map_append, List.map_append, hsign, hfraction, hexponent, map_toLower_digits n.whole_ok]

/-- What an exponent is made of is found again. -/
theorem exponent_parts (e : Exponent) :
    dropSign (e.sign.toList ++ e.digits) = e.digits ∧
      isNegated (e.sign.toList ++ e.digits) = decide (e.sign = some '-') := by
  cases hs : e.sign with
  | none =>
    rw [Option.toList_none, List.nil_append, ← List.append_nil e.digits]
    exact ⟨dropSign_digits e.digits_ok e.nonempty, isNegated_digits e.digits_ok e.nonempty⟩
  | some c =>
    rcases e.sign_ok c hs with rfl | rfl <;> exact ⟨rfl, rfl⟩

/-- A number is no word that does not start with a digit. -/
theorem lower_unsigned_ne {w : String} (hw : ∀ c ∈ digitChars, w.toList.head? ≠ some c) :
    (Text.lower (String.ofList n.unsigned) == w) = false := by
  obtain ⟨d, hd, hhead⟩ := head?_unsigned n
  have hsame : ∀ c ∈ digitChars, c.toLower = c := by decide
  rw [lower_bare (isBare_unsigned n)]
  refine beq_false_of_ne fun h => hw d hd ?_
  rw [← h, String.toList_ofList, List.head?_map, hhead, Option.map_some, hsame d hd]

/-- The value of a number with a point, its sign put aside. -/
theorem plainFloatOf_unsigned (hfraction : n.fraction ≠ []) :
    plainFloatOf n.unsigned = .ok (.ofDecimal false (natOfText 10 (n.whole ++ n.fraction))
      ((n.exponent.map Exponent.value).getD 0 - n.fraction.length)) := by
  have hbare := isBare_unsigned n
  have hascii : n.unsigned.map asciiDigit = n.unsigned := by
    have hsame : ∀ c ∈ bareChars, asciiDigit c = id c := by decide
    exact (List.map_congr_left fun c hc => hsame c (hbare c hc)).trans (List.map_id _)
  have htext : n.unsigned = n.whole ++ ('.' :: (n.fraction ++ Numeral.exponentText n.exponent)) := by
    rw [Numeral.unsigned, Numeral.fractionText, if_neg (by simpa using hfraction)]
    rfl
  have hpoint : ∀ c ∈ ('.' :: (n.fraction ++ Numeral.exponentText n.exponent)).head?, c.isDigit = false := by
    intro c hc
    cases hc
    rfl
  have hletter : ∀ c ∈ (Numeral.exponentText n.exponent).head?, c.isDigit = false := by
    intro c hc
    rcases head?_exponent c hc with rfl | rfl <;> rfl
  have hsign : dropSign n.unsigned = n.unsigned := dropSign_digits n.whole_ok n.nonempty
  have hnegated : isNegated n.unsigned = false := isNegated_digits n.whole_ok n.nonempty
  have hfractionEmpty : n.fraction.isEmpty = false := by simpa using hfraction
  unfold plainFloatOf
  dsimp only
  rw [trimList_bare hbare, hascii, hsign, hnegated, lower_unsigned_ne (by decide), lower_unsigned_ne (by decide),
    lower_unsigned_ne (by decide)]
  simp only [Bool.or_false, Bool.false_eq_true, if_false]
  rw [htext, takeWhile_upTo n.whole_ok hpoint, dropWhile_upTo n.whole_ok hpoint]
  simp only [takeWhile_upTo n.fraction_ok hletter, dropWhile_upTo n.fraction_ok hletter, hfractionEmpty, Bool.and_false,
    Bool.false_eq_true, if_false]
  cases n.exponent with
  | none =>
    show Except.ok _ = _
    rw [Option.map_none, Option.getD_none, Int.zero_sub]
  | some e =>
    obtain ⟨hdrop, hminus⟩ := exponent_parts e
    have hletter : (e.letter == 'e' || e.letter == 'E') = true := by simpa using e.letter_ok
    have hdigits : e.digits.all Char.isDigit = true := List.all_eq_true.2 e.digits_ok
    have hempty : e.digits.isEmpty = false := by simpa using e.nonempty
    have hexponentText : Numeral.exponentText (some e) = e.letter :: (e.sign.toList ++ e.digits) := rfl
    simp only [hexponentText, hdrop, hminus, hletter, hdigits, hempty, Bool.not_false, Bool.and_self, if_true,
      decide_eq_true_iff, Option.map_some, Option.getD_some]
    rw [Int.add_comm, ← Int.sub_eq_add_neg]
    rfl

/-- **The value of a number with a point.** -/
theorem floatOf_numeral (hfraction : n.fraction ≠ []) : floatOf (String.ofList n.text) = .ok n.value := by
  have hinteger : n.isInteger = false := by
    rw [Numeral.isInteger, show n.fraction.isEmpty = false by simpa using hfraction, Bool.false_and]
  -- what is read is the number in lower case
  let low : Numeral := { n with exponent := n.exponent.map lowered }
  have hlow : (Text.lower (String.ofList n.text)).toList = low.text := by
    rw [lower_bare (isBare_numeral n), String.toList_ofList, map_toLower_numeral]
  have hvalue : (low.exponent.map Exponent.value).getD 0 = (n.exponent.map Exponent.value).getD 0 := by
    show ((n.exponent.map lowered).map Exponent.value).getD 0 = _
    rw [Option.map_map]
    rfl
  have hempty : low.text.isEmpty = false := by simpa using numeral_ne_nil low
  have hcolon : low.unsigned.contains ':' = false := not_mem_bare (isBare_unsigned low) (by decide)
  obtain ⟨d, hd, hhead⟩ := head?_unsigned low
  have hword {w : String} (hw : ∀ c ∈ digitChars, w.toList.head? ≠ some c) :
      (String.ofList low.unsigned == w) = false := by
    refine beq_false_of_ne fun h => hw d hd ?_
    rw [← h, String.toList_ofList, hhead]
  unfold floatOf
  dsimp only
  rw [withoutUnderscores_bare (isBare_numeral n), hlow, hempty, dropSign_numeral, isNegated_numeral, hword (by decide),
    hword (by decide), hcolon, plainFloatOf_unsigned (n := low) hfraction, hvalue, Numeral.value, hinteger]
  simp only [Bool.false_eq_true, if_false]
  have hsign (x : Binary64) : (if n.negative then (if false then x.neg else x).neg else if false then x.neg else x) =
      if n.negative then x.neg else x := by cases n.negative <;> rfl
  exact congrArg (fun x => Except.ok (Value.float x)) (hsign (.decimal (natOfText 10 (n.whole ++ n.fraction))
    ((n.exponent.map Exponent.value).getD 0 - n.fraction.length)))

/-! ## Values of nodes -/

section Nodes

variable {around : Around} {level fuel : Nat} {m : Mark}

theorem scalarText_scalar (h : Head) (s : String) : scalarText level fuel (.scalar h s) = .ok s := by
  cases fuel <;> rfl

/-- A scalar has the value that its tag gives to its text. -/
theorem valueOf_scalar {tag s : String} (htag : scalarTags.contains tag = true) :
    valueOf around level (fuel + 1) (.scalar ⟨tag, none, m⟩ s) =
      scalarValue level tag (.scalar ⟨tag, none, m⟩ s) fuel := by
  rw [valueOf]
  · exact if_pos htag
  · intro h isMapping heq
    cases heq

/-- A text stands for itself. -/
theorem valueOf_text (s : String) :
    valueOf around level (fuel + 1) (.scalar ⟨Tag.text, none, m⟩ s) = .ok (.text s) := by
  rw [valueOf_scalar rfl, scalarValue, scalarText_scalar]
  rfl

theorem scalarValue_integer_eq (s : String) :
    scalarValue level (Tag.core "int") (.scalar ⟨Tag.core "int", none, m⟩ s) fuel =
      (integerOf s).mapError fun e => (level, .misfit e) := by
  rw [scalarValue, scalarText_scalar]
  dsimp only [bind, Except.bind]
  rw [if_neg (by decide), if_neg (by decide), if_pos (by decide)]

theorem scalarValue_integer {s : String} {v : Value} (h : integerOf s = .ok v) :
    scalarValue level (Tag.core "int") (.scalar ⟨Tag.core "int", none, m⟩ s) fuel = .ok v := by
  rw [scalarValue_integer_eq, h]
  rfl

theorem scalarValue_float {s : String} {v : Value} (h : floatOf s = .ok v) :
    scalarValue level (Tag.core "float") (.scalar ⟨Tag.core "float", none, m⟩ s) fuel = .ok v := by
  rw [scalarValue, scalarText_scalar]
  dsimp only [bind, Except.bind]
  rw [if_neg (by decide), if_neg (by decide), if_neg (by decide), if_pos (by decide), h]
  rfl

/-- A word or number. -/
def isWordOrNumber : Json.Term → Bool
  | .null | .bool _ | .number _ => true
  | _ => false

theorem isBare_term {t : Json.Term} (h : isWordOrNumber t = true) : IsBare t.text ∧ t.text ≠ [] := by
  unfold IsBare
  cases t with
  | null => decide
  | bool b => cases b <;> decide
  | number n => exact ⟨isBare_numeral n, numeral_ne_nil n⟩
  | _ => cases h

/-- **A word or plain number stands for the same value in both formats.** -/
theorem valueOf_bare {t : Json.Term} (hbare : isWordOrNumber t = true) (hplain : t.isPlain = true) :
    valueOf around level (fuel + 1)
      (.scalar ⟨Tag.ofPlain (String.ofList t.text), none, m⟩ (String.ofList t.text)) = .ok t.value := by
  cases t with
  | null =>
    rw [show Tag.ofPlain (String.ofList (Json.Term.text .null)) = Tag.core "null" from rfl, valueOf_scalar rfl,
      scalarValue, scalarText_scalar]
    rfl
  | bool b =>
    have htag : Tag.ofPlain (String.ofList (Json.Term.text (.bool b))) = Tag.core "bool" := by cases b <;> rfl
    rw [htag, valueOf_scalar rfl, scalarValue, scalarText_scalar]
    cases b <;> rfl
  | number n =>
    have hplain : n.isPlain = true := hplain
    unfold Numeral.isPlain at hplain
    split at hplain
    · next hinteger =>
      rw [Json.Term.text, ofPlain_integer hinteger, valueOf_scalar rfl]
      exact scalarValue_integer (integerOf_numeral hinteger (of_decide_eq_true hplain))
    · obtain ⟨hfraction, hexponent⟩ := Bool.and_eq_true_iff.1 hplain
      have hfraction : n.fraction ≠ [] := by simpa using hfraction
      have hexponent : ∀ e ∈ n.exponent, e.sign.isSome = true := by
        intro e he
        rw [Option.mem_def.1 he] at hexponent
        exact hexponent
      rw [Json.Term.text, ofPlain_float hfraction hexponent, valueOf_scalar rfl]
      exact scalarValue_float (floatOf_numeral hfraction)
  | _ => cases hbare

end Nodes

end Triage.Yaml
