import Mathlib.Data.List.Basic
import Triage.Proofs.Number.Nearest
import Triage.Proofs.Settings.Spelling
import Triage.Proofs.Yaml.NumberForm

/-!
# Spelled numbers as plain scalars

A positive integer that settings take as text may stand in a document, too, as a plain scalar. There its form decides
what it is: with a point it is a number with a point, and a zero in front of octal digits makes it a number to base
eight.

* `Spelling.isFloatForm_text`, `Spelling.isIntegerForm_text`: the form of a spelled number.
* `Spelling.integerOf_octal`, `Spelling.integerOf_decimal`, `Spelling.floatOf_text`: its value.
* `Spelling.ReadsAs`: what a document makes of it. `Spelling.ReadsAs.eq_decimal_iff`: **when this is its decimal value**.
* `Spelling.readsAs_of_valueOf`, `Spelling.eq_decimal_of_checkIntegerText`: a spelled number in a document, and as text.
-/

namespace Triage.Spelling

open Triage.Yaml
open Triage.Text (hexValue? natOfText natOfDigits trimList isBlank isOctalDigit natOfText_append_zeros)

variable (n : Spelling)

/-- A zero in front of octal digits, and no point. -/
def isOctal : Bool := n.zeros.isNone && n.digits.head? == some '0' && n.digits.all fun c => isOctalDigit c || c == '_'

/-- What the digits spell to base eight. -/
def octal : Nat := natOfText 8 n.bare

/-! ## The parts of a spelled number -/

theorem exists_digits_cons : ∃ d ds, n.digits = d :: ds ∧ d.isDigit = true := by
  obtain ⟨d, hd, hdigit⟩ := n.areDigits.head
  cases hds : n.digits with
  | nil =>
    rw [hds] at hd
    cases hd
  | cons c ds =>
    rw [hds] at hd
    cases hd
    exact ⟨d, ds, rfl, hdigit⟩

theorem dropSign_text : dropSign n.text = n.unsigned := by
  obtain ⟨d, ds, hds, hdigit⟩ := n.exists_digits_cons
  have hd : d ≠ '+' ∧ d ≠ '-' := forall_isDigit (p := fun c => c ≠ '+' ∧ c ≠ '-') (by decide) hdigit
  rw [text, signText, unsigned, hds]
  cases n.plus with
  | true => rfl
  | false =>
    show dropSign (d :: (ds ++ pointText n.zeros)) = d :: (ds ++ pointText n.zeros)
    unfold dropSign
    split
    · next h => exact absurd (List.cons.inj h).1 hd.1
    · next h => exact absurd (List.cons.inj h).1 hd.2
    · rfl

theorem head?_pointText (zeros : Option Nat) : ∀ c ∈ (pointText zeros).head?, isDigitOrUnderscore c = false := by
  cases zeros with
  | none => exact fun c hc => nomatch hc
  | some z =>
    intro c hc
    cases hc
    rfl

/-- The digits are found again in the text. -/
theorem digits_eq : n.digits = (dropSign n.text).takeWhile isDigitOrUnderscore := by
  rw [dropSign_text, unsigned, Text.takeWhile_upTo (p := isDigitOrUnderscore) n.areDigits.digits (head?_pointText _)]

/-- One text spells one number. -/
theorem decimal_eq {n n' : Spelling} (h : n.text = n'.text) : n.decimal = n'.decimal := by
  rw [decimal, decimal, bare, bare, digits_eq, digits_eq, h]

theorem afterDigits?_unsigned : afterDigits? n.unsigned = some (pointText n.zeros) := by
  obtain ⟨d, ds, hds, hdigit⟩ := n.exists_digits_cons
  have hrest : ∀ c ∈ ds, isDigitOrUnderscore c = true :=
    fun c hc => n.areDigits.digits c (by rw [hds]; exact List.mem_cons_of_mem d hc)
  rw [unsigned, hds, List.cons_append, afterDigits?, if_pos hdigit, Text.dropWhile_upTo hrest (head?_pointText _)]

theorem isDigit_bare {c : Char} (h : c ∈ n.bare) : c.isDigit = true := by
  obtain ⟨hmem, hne⟩ := List.mem_filter.1 h
  have := n.areDigits.digits c hmem
  rwa [show (c == '_') = false by simpa using hne, Bool.or_false] at this

theorem exists_bare_cons : ∃ d ds, n.bare = d :: ds ∧ n.digits.head? = some d := by
  obtain ⟨d, ds, hds, hdigit⟩ := n.exists_digits_cons
  have hd : (d != '_') = true := forall_isDigit (p := fun c => (c != '_') = true) (by decide) hdigit
  refine ⟨d, ds.filter (· != '_'), ?_, by rw [hds]; rfl⟩
  rw [bare, hds, List.filter_cons_of_pos (p := (· != '_')) hd]

theorem isOctal_iff : n.isOctal = true ↔
    n.zeros = none ∧ n.digits.head? = some '0' ∧ ∀ c ∈ n.digits, (isOctalDigit c || c == '_') = true := by
  unfold isOctal
  rw [Bool.and_eq_true, Bool.and_eq_true, Option.isNone_iff_eq_none, beq_iff_eq, List.all_eq_true, and_assoc]

theorem isOctalDigit_bare (h : n.isOctal = true) : ∀ c ∈ n.bare, isOctalDigit c = true := by
  intro c hc
  obtain ⟨hmem, hne⟩ := List.mem_filter.1 hc
  have := (n.isOctal_iff.1 h).2.2 c hmem
  rwa [show (c == '_') = false by simpa using hne, Bool.or_false] at this

/-- Without underscores the sign, the bare digits and the zeros are left. -/
theorem withoutUnderscores_text :
    withoutUnderscores (String.ofList n.text) = n.signText ++ (n.bare ++ pointText n.zeros) := by
  have hsign : n.signText.filter (· != '_') = n.signText := by
    unfold signText
    cases n.plus <;> rfl
  have hzeros : (pointText n.zeros).filter (· != '_') = pointText n.zeros := by
    rw [List.filter_eq_self]
    intro c hc
    cases hz : n.zeros with
    | none =>
      rw [hz] at hc
      cases hc
    | some z =>
      rw [hz] at hc
      rcases List.mem_cons.1 hc with rfl | hc
      · rfl
      · rw [List.eq_of_mem_replicate hc]
        rfl
  rw [withoutUnderscores, String.toList_ofList, text, unsigned, List.filter_append, List.filter_append, hsign, hzeros,
    bare]

/-! ## Its form -/

/-- A spelled number starts with a plus sign or a digit. -/
theorem head?_text : ∃ c ∈ '+' :: digitChars, n.text.head? = some c := by
  obtain ⟨d, ds, hds, hdigit⟩ := n.exists_digits_cons
  rw [text, signText, unsigned, hds]
  cases n.plus with
  | true => exact ⟨'+', List.mem_cons_self, rfl⟩
  | false => exact ⟨d, List.mem_cons_of_mem _ (mem_digitChars hdigit), rfl⟩

theorem head?_unsigned : ∃ c ∈ digitChars, n.unsigned.head? = some c := by
  obtain ⟨d, ds, hds, hdigit⟩ := n.exists_digits_cons
  rw [unsigned, hds]
  exact ⟨d, mem_digitChars hdigit, rfl⟩

/-- **It has the form of a number with a point** just if it has a point. -/
theorem isFloatForm_text : isFloatForm n.text = n.zeros.isSome := by
  obtain ⟨c, hc, hhead⟩ := n.head?_text
  obtain ⟨d, hd, hdigit⟩ := n.head?_unsigned
  unfold isFloatForm
  rw [dropSign_text]
  dsimp only
  rw [afterDigits?_unsigned]
  cases n.zeros with
  | some z =>
    have hrest : (List.replicate z '0').dropWhile isDigitOrUnderscore = [] := by
      rw [List.dropWhile_eq_nil_iff]
      intro c hc
      rw [List.eq_of_mem_replicate hc]
      rfl
    simp only [pointText, hrest, isSignedExponent, Bool.true_or, Option.isSome_some]
  | none =>
    have hinf : [".inf", ".Inf", ".INF"].contains (String.ofList n.unsigned) = false :=
      contains_eq_false fun w hw => hdigit ▸ (show ∀ w ∈ [".inf", ".Inf", ".INF"], ∀ c ∈ digitChars,
        w.toList.head? ≠ some c by decide) w hw d hd
    have hnan : [".nan", ".NaN", ".NAN"].contains (String.ofList n.text) = false :=
      contains_eq_false fun w hw => hhead ▸ (show ∀ w ∈ [".nan", ".NaN", ".NAN"], ∀ c ∈ '+' :: digitChars,
        w.toList.head? ≠ some c by decide) w hw c hc
    have hpoint : ∀ c ∈ '+' :: digitChars, some c ≠ some '.' := by decide
    rw [hinf, hnan]
    simp only [pointText, show afterSixties? ([] : List Char).length [] = none from rfl, Bool.or_false, Bool.false_or,
      Option.isSome_none]
    split
    · next htext =>
      rw [htext] at hhead
      exact absurd hhead.symm (hpoint c hc)
    · rfl

/-- **A zero in front** leaves it an integer only if the other digits are octal. -/
theorem isIntegerForm_text (hzeros : n.zeros = none) (hhead : n.digits.head? = some '0') :
    isIntegerForm n.text = n.isOctal := by
  have hunsigned : n.unsigned = n.digits := by rw [unsigned, hzeros, pointText, List.append_nil]
  obtain ⟨d, ds, hds, -⟩ := n.exists_digits_cons
  obtain rfl : d = '0' := by
    rw [hds] at hhead
    exact Option.some.inj hhead
  have hrest : ∀ c ∈ ds.head?, c ≠ 'b' ∧ c ≠ 'x' := by
    intro c hc
    have := n.areDigits.digits c (by rw [hds]; exact List.mem_cons_of_mem _ (List.mem_of_head? hc))
    rcases Bool.or_eq_true_iff.1 this with hdigit | hunderscore
    · exact forall_isDigit (p := fun c => c ≠ 'b' ∧ c ≠ 'x') (by decide) hdigit
    · rw [eq_of_beq hunderscore]
      decide
  unfold isIntegerForm isOctal
  rw [dropSign_text, hunsigned, hds, hzeros]
  split
  · next heq =>
    cases heq
    rfl
  · next heq =>
    cases heq
    exact absurd rfl (hrest 'b' rfl).1
  · next heq =>
    cases heq
    exact absurd rfl (hrest 'x' rfl).2
  · next heq =>
    cases heq
    rfl
  · next hother => exact absurd rfl (hother ds)

/-! ## Its value -/

theorem isNegated_text : isNegated (n.signText ++ (n.bare ++ pointText n.zeros)) = false := by
  obtain ⟨d, ds, hds, -⟩ := n.exists_bare_cons
  have hdigit : d.isDigit = true := n.isDigit_bare (by rw [hds]; exact List.mem_cons_self)
  have hd : d ≠ '-' := forall_isDigit (p := fun c => c ≠ '-') (by decide) hdigit
  unfold isNegated
  refine beq_false_of_ne ?_
  rw [signText, hds]
  cases n.plus with
  | true => exact fun h => absurd (Option.some.inj h) (by decide)
  | false => exact fun h => hd (Option.some.inj h)

theorem dropSign_bare : dropSign (n.signText ++ (n.bare ++ pointText n.zeros)) = n.bare ++ pointText n.zeros := by
  obtain ⟨d, ds, hds, -⟩ := n.exists_bare_cons
  have hne : n.bare ≠ [] := by rw [hds]; simp
  unfold signText
  cases n.plus with
  | true => rfl
  | false =>
    rw [if_neg Bool.false_ne_true, List.nil_append]
    exact dropSign_digits (fun _ => n.isDigit_bare) hne

/-- Octal digits to base eight. -/
theorem integerToBase_octal {cs : List Char} (hcs : ∀ c ∈ cs, isOctalDigit c = true) (hne : cs ≠ []) :
    integerToBase 8 cs = .ok (natOfText 8 cs : Int) := by
  have hdigits : ∀ c ∈ cs, c.isDigit = true := fun c hc => Text.isDigit_of_isOctalDigit (hcs c hc)
  have hsign : dropSign cs = cs := by
    rw [← List.append_nil cs]
    exact dropSign_digits hdigits hne
  have hnegated : isNegated cs = false := by
    rw [← List.append_nil cs]
    exact isNegated_digits hdigits hne
  have hvalues : cs.filterMap (fun c => ((hexValue? c).or (Text.digitValue? c)).filter (· < 8)) =
      cs.map fun c => (hexValue? c).getD 0 := by
    refine List.filterMap_eq_map_iff_forall_eq_some.2 fun c hc => ?_
    obtain ⟨k, hk, hless⟩ := Text.hexValue?_octal (hcs c hc)
    rw [hk]
    simp [hless]
  have hempty : cs.isEmpty = false := by simpa using hne
  have hread : (if (cs.isEmpty ||
        (cs.filterMap fun c => ((hexValue? c).or (Text.digitValue? c)).filter (· < 8)).length != cs.length) = true then
        Except.error (Misfit.noInteger 8 (String.ofList cs))
      else .ok ((natOfDigits 8 (cs.filterMap fun c => ((hexValue? c).or (Text.digitValue? c)).filter (· < 8)) : Nat) :
        Int)) = .ok (natOfText 8 cs : Int) := by
    rw [hvalues, hempty, List.length_map, bne_self_eq_false, Bool.or_false, if_neg Bool.false_ne_true]
    rfl
  unfold integerToBase
  dsimp only
  rw [trimList_bare (isBare_digits hdigits), hsign, hnegated]
  simp only [Bool.false_eq_true, if_false]
  split
  · next m ds =>
    -- no digit is the mark of a base
    have hm : (m.toLower == baseMark 8) = false :=
      forall_isDigit (p := fun c => (c.toLower == baseMark 8) = false) (by decide) (hdigits m (by simp))
    rw [hm, Bool.false_and, if_neg Bool.false_ne_true]
    exact hread
  · exact hread

/-- An integer without its underscores, and without its sign. -/
theorem withoutUnderscores_integer (hzeros : n.zeros = none) :
    (withoutUnderscores (String.ofList n.text)).isEmpty = false ∧
      isNegated (withoutUnderscores (String.ofList n.text)) = false ∧
      dropSign (withoutUnderscores (String.ofList n.text)) = n.bare := by
  obtain ⟨d, ds, hds, -⟩ := n.exists_bare_cons
  have hpoint : pointText n.zeros = [] := by rw [hzeros]; rfl
  have hnegated := n.isNegated_text
  have hdrop := n.dropSign_bare
  rw [hpoint, List.append_nil] at hnegated hdrop
  rw [withoutUnderscores_text, hpoint, List.append_nil]
  exact ⟨by simp [hds], hnegated, hdrop⟩

/-- **The value of an integer with a zero in front** is what its digits spell to base eight. -/
theorem integerOf_octal {v : Value} (hoctal : n.isOctal = true) (h : integerOf (String.ofList n.text) = .ok v) :
    v = .int n.octal := by
  obtain ⟨hzeros, hfirst, -⟩ := n.isOctal_iff.1 hoctal
  obtain ⟨hempty, hnegated, hdrop⟩ := n.withoutUnderscores_integer hzeros
  obtain ⟨d, ds, hds, hhead⟩ := n.exists_bare_cons
  obtain rfl : '0' = d := Option.some.inj (hfirst.symm.trans hhead)
  have hall := n.isOctalDigit_bare hoctal
  have hbase := integerToBase_octal hall (by rw [hds]; simp)
  unfold integerOf at h
  dsimp only at h
  rw [hempty, hnegated, hdrop, if_neg Bool.false_ne_true, if_neg Bool.false_ne_true] at h
  rw [hds] at h hall hbase
  rw [octal, hds]
  split at h
  · next heq => cases heq
  · next heq =>
    cases heq
    exact (Except.ok.inj h).symm
  · next heq =>
    cases heq
    exact absurd (hall 'b' (by simp)) (by decide)
  · next heq =>
    cases heq
    exact absurd (hall 'x' (by simp)) (by decide)
  · next heq =>
    cases heq
    rw [hbase] at h
    exact (Except.ok.inj h).symm.trans (congrArg Value.int (Int.one_mul _))
  · next hother => exact absurd rfl (hother ds)

/-- **The value of an integer without a zero in front** is its decimal value. -/
theorem integerOf_decimal {v : Value} (hzeros : n.zeros = none) (hfirst : n.digits.head? ≠ some '0')
    (h : integerOf (String.ofList n.text) = .ok v) : v = .int n.decimal := by
  obtain ⟨hempty, hnegated, hdrop⟩ := n.withoutUnderscores_integer hzeros
  obtain ⟨d, ds, hds, hhead⟩ := n.exists_bare_cons
  have hne : n.bare ≠ [] := by rw [hds]; simp
  have hd : d ≠ '0' := fun heq => hfirst (hhead.trans (congrArg some heq))
  have hcolon : n.bare.contains ':' = false := not_mem_bare (isBare_digits fun _ => n.isDigit_bare) (by decide)
  unfold integerOf at h
  dsimp only at h
  rw [hempty, hnegated, hdrop, if_neg Bool.false_ne_true, if_neg Bool.false_ne_true] at h
  split at h
  · next heq => exact absurd heq hne
  iterate 4
    next heq => exact absurd (List.cons.inj (hds.symm.trans heq)).1 hd
  · rw [hcolon, if_neg Bool.false_ne_true] at h
    cases hread : decimalOf n.bare with
    | error e =>
      rw [hread] at h
      cases h
    | ok i =>
      have hi : i = n.decimal := by
        unfold decimalOf at hread
        dsimp only at hread
        rw [integer?_digits (fun _ => n.isDigit_bare) hne] at hread
        dsimp only at hread
        split at hread
        · cases hread
        · exact (Except.ok.inj hread).symm
      rw [hread, hi] at h
      exact (Except.ok.inj h).symm.trans (congrArg Value.int (Int.one_mul _))

/-- Digits with a point and zeros behind them. -/
theorem plainFloatOf_zeros {whole : List Char} (hwhole : ∀ c ∈ whole, c.isDigit = true) (hne : whole ≠ []) (z : Nat) :
    plainFloatOf (whole ++ '.' :: List.replicate z '0') =
      .ok (.ofDecimal false (natOfText 10 whole * 10 ^ z) (-(z : Int))) := by
  have hzeros : ∀ c ∈ List.replicate z '0', c.isDigit = true := fun c hc => by rw [List.eq_of_mem_replicate hc]; rfl
  have hbare : IsBare (whole ++ '.' :: List.replicate z '0') :=
    (isBare_digits hwhole).append (.cons (by decide) (isBare_digits hzeros))
  have hascii : (whole ++ '.' :: List.replicate z '0').map asciiDigit = whole ++ '.' :: List.replicate z '0' := by
    have hsame : ∀ c ∈ bareChars, asciiDigit c = id c := by decide
    exact (List.map_congr_left fun c hc => hsame c (hbare c hc)).trans (List.map_id _)
  have hpoint : ∀ c ∈ ('.' :: List.replicate z '0').head?, c.isDigit = false := by
    intro c hc
    cases hc
    rfl
  -- it is none of the names, which start with a letter
  have hname {w : String} (hw : ∀ c ∈ digitChars, w.toList.head? ≠ some c) :
      (Text.lower (String.ofList (whole ++ '.' :: List.replicate z '0')) == w) = false := by
    obtain ⟨d, ds, rfl⟩ := List.exists_cons_of_ne_nil hne
    have hd := mem_digitChars (hwhole d (by simp))
    have hsame : ∀ c ∈ digitChars, c.toLower = c := by decide
    rw [lower_bare hbare]
    refine beq_false_of_ne fun h => hw d hd ?_
    rw [← h, String.toList_ofList, List.cons_append, List.map_cons, hsame d hd]
    rfl
  have htake : (List.replicate z '0').takeWhile Char.isDigit = List.replicate z '0' := by
    rw [List.takeWhile_eq_self_iff]
    exact hzeros
  have hdrop : (List.replicate z '0').dropWhile Char.isDigit = [] := List.dropWhile_eq_nil_iff.2 hzeros
  have hempty : whole.isEmpty = false := by simpa using hne
  unfold plainFloatOf
  dsimp only
  rw [trimList_bare hbare, hascii, dropSign_digits hwhole hne, isNegated_digits hwhole hne, hname (by decide),
    hname (by decide), hname (by decide)]
  simp only [Bool.or_false, Bool.false_eq_true, if_false]
  rw [Text.takeWhile_upTo hwhole hpoint, Text.dropWhile_upTo hwhole hpoint]
  simp only [htake, hdrop, hempty, Bool.false_and, Bool.false_eq_true, if_false, List.length_replicate,
    natOfText_append_zeros]

/-- **The value of a number with a point.** -/
theorem floatOf_text {z : Nat} (hzeros : n.zeros = some z) :
    floatOf (String.ofList n.text) = .ok (.float (.ofDecimal false (n.decimal * 10 ^ z) (-(z : Int)))) := by
  obtain ⟨d, ds, hds, -⟩ := n.exists_bare_cons
  have hne : n.bare ≠ [] := by rw [hds]; simp
  have hd : d ∈ digitChars := mem_digitChars (n.isDigit_bare (by rw [hds]; simp))
  have hcs := n.withoutUnderscores_text
  have hnegated := n.isNegated_text
  have hdrop := n.dropSign_bare
  rw [hzeros, pointText] at hcs hnegated hdrop
  have hunsigned : ∀ c ∈ n.bare ++ '.' :: List.replicate z '0', c ∈ '.' :: digitChars := by
    refine List.forall_mem_append.2 ⟨fun c hc => ?_, List.forall_mem_cons.2 ⟨List.mem_cons_self, fun c hc => ?_⟩⟩
    · exact List.mem_cons_of_mem _ (mem_digitChars (n.isDigit_bare hc))
    · rw [List.eq_of_mem_replicate hc]
      decide
  have hall : ∀ c ∈ n.signText ++ (n.bare ++ '.' :: List.replicate z '0'), c ∈ '+' :: '.' :: digitChars := by
    refine List.forall_mem_append.2 ⟨?_, fun c hc => List.mem_cons_of_mem _ (hunsigned c hc)⟩
    unfold signText
    split
    · exact List.forall_mem_singleton.2 List.mem_cons_self
    · exact List.forall_mem_nil _
  have hlower : (Text.lower (String.ofList (n.signText ++ (n.bare ++ '.' :: List.replicate z '0')))).toList =
      n.signText ++ (n.bare ++ '.' :: List.replicate z '0') := by
    have hbare : ∀ c ∈ '+' :: '.' :: digitChars, c ∈ bareChars := by decide
    have hsame : ∀ c ∈ '+' :: '.' :: digitChars, c.toLower = id c := by decide
    rw [lower_bare fun c hc => hbare c (hall c hc), String.toList_ofList]
    exact (List.map_congr_left fun c hc => hsame c (hall c hc)).trans (List.map_id _)
  have hempty : (n.signText ++ (n.bare ++ '.' :: List.replicate z '0')).isEmpty = false := by simp
  have hcolon : (n.bare ++ '.' :: List.replicate z '0').contains ':' = false := by
    rw [Bool.eq_false_iff]
    intro h
    exact absurd (hunsigned ':' (List.contains_iff_mem.1 h)) (by decide)
  have hname {w : String} (hw : ∀ c ∈ digitChars, w.toList.head? ≠ some c) :
      (String.ofList (n.bare ++ '.' :: List.replicate z '0') == w) = false := by
    refine beq_false_of_ne fun h => hw d hd ?_
    rw [← h, String.toList_ofList, hds]
    rfl
  unfold floatOf
  dsimp only
  rw [hcs, hlower, hempty, hdrop, hnegated, hname (by decide), hname (by decide), hcolon,
    plainFloatOf_zeros (fun _ => n.isDigit_bare) hne]
  simp only [Bool.false_eq_true, if_false, bind, Except.bind, pure, Except.pure, decimal]

/-! ## In documents and in texts -/

/-- What a document makes of a spelled number: a nearest number that the format of numbers with a point holds, if it has
a point; and what its digits spell, to base eight where a zero leads octal digits. -/
inductive ReadsAs (n : Spelling) : Int → Prop
  | pointed {x : Nat} (point : n.zeros.isSome = true) (nearest : Binary64.IsNearest n.decimal x) : ReadsAs n x
  | octal (octal : n.isOctal = true) : ReadsAs n n.octal
  | decimal (plain : n.zeros = none) (decimal : n.isOctal = false) : ReadsAs n n.decimal

/-- Octal digits spell less to base eight, unless they spell less than eight anyway. -/
theorem octal_eq_decimal_iff {n : Spelling} (h : n.isOctal = true) : n.octal = n.decimal ↔ n.decimal < 8 :=
  Text.natOfText_octal_eq_iff (n.isOctalDigit_bare h)

/-- **Where a document makes the same number of it**: its decimal value is below eight if a zero leads octal digits, and
the format holds it if there is a point. -/
theorem ReadsAs.eq_decimal_iff {n : Spelling} {x : Int} (h : n.ReadsAs x) :
    x = n.decimal ↔ (n.isOctal = true → n.decimal < 8) ∧ (n.zeros.isSome = true → Binary64.Holds n.decimal) := by
  have hnone (hoctal : n.isOctal = true) : n.zeros = none := (n.isOctal_iff.1 hoctal).1
  cases h with
  | pointed hpoint hnearest =>
    have hoctal : n.isOctal = true → n.decimal < 8 := by
      intro hoctal
      rw [hnone hoctal] at hpoint
      cases hpoint
    rw [Int.natCast_inj, hnearest.eq_iff]
    exact ⟨fun hholds => ⟨hoctal, fun _ => hholds⟩, fun hboth => hboth.2 hpoint⟩
  | octal hoctal =>
    rw [Int.natCast_inj, octal_eq_decimal_iff hoctal]
    refine ⟨fun hless => ⟨fun _ => hless, fun hpoint => ?_⟩, fun hboth => hboth.1 hoctal⟩
    rw [hnone hoctal] at hpoint
    cases hpoint
  | decimal hplain hdecimal =>
    refine iff_of_true rfl ⟨fun hoctal => ?_, fun hpoint => ?_⟩
    · rw [hdecimal] at hoctal
      cases hoctal
    · rw [hplain] at hpoint
      cases hpoint

/-- The characters of a spelled number. -/
theorem mem_text {c : Char} (hc : c ∈ n.text) : c ∈ '+' :: '.' :: '_' :: digitChars := by
  rcases List.mem_append.1 hc with hsign | hc
  · unfold signText at hsign
    split at hsign
    · rw [List.mem_singleton.1 hsign]
      decide
    · cases hsign
  rcases List.mem_append.1 hc with hdigit | hpoint
  · rcases Bool.or_eq_true_iff.1 (n.areDigits.digits c hdigit) with hdigit | hunderscore
    · exact List.mem_append_right ['+', '.', '_'] (mem_digitChars hdigit)
    · rw [eq_of_beq hunderscore]
      decide
  · cases hz : n.zeros with
    | none =>
      rw [hz] at hpoint
      cases hpoint
    | some z =>
      rw [hz] at hpoint
      rcases List.mem_cons.1 hpoint with rfl | hzero
      · decide
      · rw [List.eq_of_mem_replicate hzero]
        decide

theorem isGraphic_text : IsGraphic n.text := by
  have hall : ∀ c ∈ '+' :: '.' :: '_' :: digitChars, Graphic c := by decide
  exact fun c hc => hall c (n.mem_text hc)

theorem exists_isDigit_text : ∃ c ∈ n.text, c.isDigit = true := by
  obtain ⟨d, ds, hds, hdigit⟩ := n.exists_digits_cons
  refine ⟨d, List.mem_append_right _ (List.mem_append_left _ ?_), hdigit⟩
  rw [hds]
  exact List.mem_cons_self

/-- There is no white space around it. -/
theorem trimList_text {p : Char → Bool} (hp : ∀ c, isBlank c = false → p c = false) : trimList p n.text = n.text :=
  Text.trimList_eq_self (fun c hc => hp c (n.isGraphic_text c (List.mem_of_head? hc)).isBlank_eq)
    fun c hc => hp c (n.isGraphic_text c (List.mem_of_getLast? hc)).isBlank_eq

theorem isWhiteSpace_of_not_isBlank {c : Char} (h : isBlank c = false) : isWhiteSpace c = false := by
  rw [isWhiteSpace, h, Bool.false_and]

/-- **As a text** it is its decimal value. -/
theorem eq_decimal_of_checkIntegerText {k : Int} (h : checkIntegerText (String.ofList n.text) = .ok k) (hk : 1 ≤ k) :
    k = n.decimal := by
  obtain ⟨n', htext, hvalue⟩ := exists_spelling h hk
  rw [String.toList_ofList, n.trimList_text fun _ => isWhiteSpace_of_not_isBlank] at htext
  rw [hvalue, decimal_eq htext]

section Scalar

variable {around : Around} {level fuel : Nat} {m : Mark} {v : Value} {k : Int}

/-- **As a plain scalar of a document** it is read by its form. -/
theorem readsAs_of_valueOf (hv : valueOf around level (fuel + 1)
      (.scalar ⟨Tag.ofPlain (String.ofList n.text), none, m⟩ (String.ofList n.text)) = .ok v)
    (hk : checkIntegerFrom 1 v = .ok k) : n.ReadsAs k := by
  obtain ⟨hk, hone⟩ := checkIntegerFrom_eq_ok_iff.1 hk
  have hdash : '-' ∉ n.text := fun h => absurd (n.mem_text h) (by decide)
  have hfeed : '\n' ∉ n.text := fun h => absurd (n.mem_text h) (by decide)
  have hmem : ∃ c ∈ n.text, c.isDigit = true ∨ isBlank c = true := by
    obtain ⟨c, hc, hdigit⟩ := n.exists_isDigit_text
    exact ⟨c, hc, .inl hdigit⟩
  rw [ofPlain_of_mem hmem hdash hfeed, isFloatForm_text] at hv
  cases hzeros : n.zeros with
  | some z =>
    rw [hzeros, Option.isSome_some, if_pos rfl, valueOf_scalar rfl, scalarValue_float (n.floatOf_text hzeros)] at hv
    cases hv
    obtain ⟨x, rfl, hnearest⟩ := Binary64.toInt?_decimal hone (toInt?_of_checkInteger hk)
    exact .pointed (by rw [hzeros]; rfl) hnearest
  | none =>
    rw [hzeros, Option.isSome_none, if_neg Bool.false_ne_true] at hv
    cases hform : isIntegerForm n.text with
    | true =>
      rw [hform, if_pos rfl, valueOf_scalar rfl, scalarValue_integer_eq] at hv
      cases hread : integerOf (String.ofList n.text) with
      | error e =>
        rw [hread] at hv
        cases hv
      | ok read =>
        rw [hread] at hv
        by_cases hfirst : n.digits.head? = some '0'
        · have hoctal : n.isOctal = true := by rw [← n.isIntegerForm_text hzeros hfirst, hform]
          rw [n.integerOf_octal hoctal hread] at hv
          cases hv
          cases hk
          exact .octal hoctal
        · rw [n.integerOf_decimal hzeros hfirst hread] at hv
          cases hv
          cases hk
          exact .decimal hzeros (Bool.eq_false_iff.2 fun hoctal => hfirst (n.isOctal_iff.1 hoctal).2.1)
    | false =>
      rw [hform, if_neg Bool.false_ne_true, valueOf_text] at hv
      cases hv
      have hoctal : n.isOctal = false := by
        rw [Bool.eq_false_iff]
        intro hoctal
        rw [← n.isIntegerForm_text hzeros (n.isOctal_iff.1 hoctal).2.1, hform] at hoctal
        cases hoctal
      rw [n.eq_decimal_of_checkIntegerText hk hone]
      exact .decimal hzeros hoctal

end Scalar

end Triage.Spelling
