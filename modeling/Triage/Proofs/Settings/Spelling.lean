import Triage.Proofs.Text.Digits
import Triage.Proofs.Text.Trim
import Triage.Proofs.Yaml.NumberValue
import Triage.Settings.Scalar

/-!
# How positive integers are spelled

Settings may give an integer as text. Where it is positive, all spellings are alike: perhaps a plus sign, digits with
underscores among them, and perhaps a point with zeros behind it.

* `Spelling`: such a text, in its parts. `Spelling.decimal`: the number that its digits spell.
* `exists_spelling`: **a text that is taken for a positive integer** is spelled so, and is taken for that number.
-/

namespace Triage

open Triage.Text (natOfText natOfText_zeros_append trimList)

/-- Digits, or underscores behind the first of them. -/
structure AreDigits (ds : List Char) : Prop where
  digits : ∀ c ∈ ds, (c.isDigit || c == '_') = true
  head : ∃ d ∈ ds.head?, d.isDigit = true

/-- A number as it is spelled: perhaps with a plus sign, with underscores among its digits, and perhaps with a point and
zeros behind it. -/
structure Spelling where
  plus : Bool
  digits : List Char
  areDigits : AreDigits digits
  /-- How many zeros there are behind the point, if there is one. -/
  zeros : Option Nat

/-- A point and zeros behind it. -/
def pointText : Option Nat → List Char
  | some z => '.' :: List.replicate z '0'
  | none => []

namespace Spelling

variable (n : Spelling)

/-- The text of the sign. -/
def signText : List Char := if n.plus then ['+'] else []

/-- The text without the sign. -/
def unsigned : List Char := n.digits ++ pointText n.zeros

/-- The text as it is spelled. -/
def text : List Char := n.signText ++ n.unsigned

/-- The digits without the underscores among them. -/
def bare : List Char := n.digits.filter (· != '_')

/-- The number that the digits spell. -/
def decimal : Nat := natOfText 10 n.bare

end Spelling

/-! ## Plain and long integers -/

variable {cs ds : List Char} {k : Int}

/-- A text is what follows behind a plus sign or none. -/
def IsSigned (cs ds : List Char) : Prop := cs = '+' :: ds ∨ cs = ds

theorem filter_digits (h : ∀ c ∈ ds, c.isDigit = true) : ds.filter (· != '_') = ds := by
  rw [List.filter_eq_self]
  intro c hc
  exact Yaml.forall_isDigit (p := fun c => (c != '_') = true) (by decide) (h c hc)

/-- A text that starts with a minus sign is not positive. -/
theorem splitSign_cases (cs : List Char) :
    (splitSign cs).1 = true ∨ (splitSign cs).1 = false ∧ IsSigned cs (splitSign cs).2 := by
  unfold splitSign IsSigned
  split
  · exact .inl rfl
  · exact .inr ⟨rfl, .inl rfl⟩
  · exact .inr ⟨rfl, .inr rfl⟩

/-- **A positive integer** without further ado. -/
theorem exists_digits_of_direct (h : directInteger? cs = some k) (hk : 1 ≤ k) :
    ∃ ds, IsSigned cs ds ∧ AreDigits ds ∧ k = natOfText 10 (ds.filter (· != '_')) := by
  unfold directInteger? at h
  split at h
  · unfold plainInteger? at h
    dsimp only at h
    split at h
    · cases h
    · next hdigits =>
      rw [Bool.or_eq_true, not_or, List.isEmpty_iff, Bool.not_eq_true', Bool.not_eq_false, List.all_eq_true] at hdigits
      obtain ⟨hne, hall⟩ := hdigits
      have hk' := Option.some.inj h
      rcases splitSign_cases cs with hminus | ⟨hplus, hsigned⟩
      · rw [hminus, if_pos rfl] at hk'
        omega
      · rw [hplus, if_neg Bool.false_ne_true] at hk'
        obtain ⟨d, rest, hds⟩ := List.exists_cons_of_ne_nil hne
        refine ⟨_, hsigned, ⟨fun c hc => ?_, d, by rw [hds]; rfl, hall d (by rw [hds]; simp)⟩, ?_⟩
        · rw [hall c hc, Bool.true_or]
        · rw [filter_digits hall]
          exact hk'.symm
  · unfold longInteger? at h
    dsimp only at h
    rcases splitSign_cases cs with hminus | ⟨hplus, hsigned⟩
    · rw [hminus, if_pos rfl] at h
      obtain ⟨-, h⟩ := Option.ite_none_left_eq_some.1 h
      have := Option.some.inj h
      rw [if_pos rfl] at this
      omega
    · rw [hplus, if_neg Bool.false_ne_true] at h
      obtain ⟨hdigits, h⟩ := Option.ite_none_left_eq_some.1 h
      have hk' := Option.some.inj h
      rw [if_neg Bool.false_ne_true] at hk'
      simp only [Bool.or_eq_true, not_or, List.isEmpty_iff, beq_iff_eq, Bool.not_eq_true', Bool.not_eq_false,
        List.all_eq_true] at hdigits
      obtain ⟨⟨hne, hhead⟩, hall⟩ := hdigits
      obtain ⟨d, rest, hds⟩ := List.exists_cons_of_ne_nil hne
      have hd : d.isDigit = true := by
        have := hall d (by rw [hds]; simp)
        rw [hds] at hhead
        simpa [show d ≠ '_' from fun heq => hhead (by rw [heq]; rfl)] using this
      exact ⟨_, hsigned, ⟨fun c hc => by simpa using hall c hc, d, by rw [hds]; rfl, hd⟩, hk'.symm⟩

/-! ## Cleaned integers -/

theorem dropLeadingZeros_go_cases (h : dropLeadingZeros.go cs = some ds) :
    (∃ front, cs = front ++ ds ∧ (∀ c ∈ front, c = '0' ∨ c = '_') ∧ ∃ d ∈ ds.head?, d.isDigit = true) ∨
      ds = ['0'] ∨ ∃ rest, ds = '0' :: '.' :: rest := by
  induction cs with
  | nil => exact .inr (.inl (Option.some.inj h).symm)
  | cons c cs ih =>
    unfold dropLeadingZeros.go at h
    split at h
    · next hzero =>
      rcases ih h with ⟨front, rfl, hfront, hhead⟩ | hrest
      · refine .inl ⟨c :: front, rfl, List.forall_mem_cons.2 ⟨?_, hfront⟩, hhead⟩
        simpa using hzero
      · exact .inr hrest
    · split at h
      · next hdigit =>
        cases h
        exact .inl ⟨[], rfl, List.forall_mem_nil _, c, rfl, hdigit⟩
      · split at h
        · next hpoint =>
          obtain rfl : c = '.' := by simpa using hpoint
          cases h
          exact .inr (.inr ⟨cs, rfl⟩)
        · cases h

/-- What is left without leading zeros: the rest of the text, from a digit or a minus sign on, or a zero. -/
theorem dropLeadingZeros_cases (h : dropLeadingZeros cs = some ds) :
    (∃ front, cs = front ++ ds ∧ (∀ c ∈ front, c = '0' ∨ c = '_') ∧ (∀ c ∈ front.head?, c = '0') ∧
      ∃ d ∈ ds.head?, d.isDigit = true ∨ d = '-') ∨ ds = ['0'] ∨ ∃ rest, ds = '0' :: '.' :: rest := by
  cases cs with
  | nil => cases h
  | cons c cs =>
    rw [dropLeadingZeros] at h
    by_cases hzero : (c == '0') = true
    · rw [if_pos hzero] at h
      obtain rfl := eq_of_beq hzero
      rcases dropLeadingZeros_go_cases h with ⟨front, rfl, hfront, d, hd, hdigit⟩ | hrest
      · refine .inl ⟨'0' :: front, rfl, List.forall_mem_cons.2 ⟨.inl rfl, hfront⟩, ?_, d, hd, .inl hdigit⟩
        intro c hc
        cases hc
        rfl
      · exact .inr hrest
    · rw [if_neg hzero] at h
      obtain ⟨hfirst, h⟩ := Option.ite_none_right_eq_some.1 h
      cases h
      refine .inl ⟨[], rfl, List.forall_mem_nil _, fun c hc => (nomatch hc), c, rfl, ?_⟩
      simpa using hfirst

/-- The zeros of a fraction, if nothing else stands behind the point. -/
theorem exists_pointText (ds : List Char) : ∃ zeros, ds = dropZeroFraction ds ++ pointText zeros := by
  unfold dropZeroFraction
  dsimp only
  split
  · next hzeros =>
    obtain ⟨hpoint, hall⟩ := Bool.and_eq_true_iff.1 hzeros
    have hsplit : ds.takeWhile (· != '.') ++ ds.dropWhile (· != '.') = ds := List.takeWhile_append_dropWhile
    cases hdrop : ds.dropWhile (· != '.') with
    | nil =>
      have hmem : '.' ∈ ds := List.contains_iff_mem.1 hpoint
      have := List.dropWhile_eq_nil_iff.1 hdrop '.' hmem
      cases this
    | cons c fraction =>
      have hc : c = '.' := by
        have hhead := List.head_dropWhile_not (· != '.') (l := ds) (by rw [hdrop]; simp)
        simpa [hdrop] using hhead
      rw [hdrop] at hall
      have hfraction : fraction = List.replicate fraction.length '0' :=
        List.eq_replicate_iff.2 ⟨rfl, by simpa using hall⟩
      refine ⟨some fraction.length, ?_⟩
      rw [pointText, ← hfraction]
      rw [hdrop, hc] at hsplit
      exact hsplit.symm
  · exact ⟨none, (List.append_nil ds).symm⟩

theorem dropUnderscores_cases (ds : List Char) :
    dropUnderscores ds = ds ∨ dropUnderscores ds = ds.filter (· != '_') := by
  unfold dropUnderscores
  split
  · exact .inl rfl
  · exact .inr rfl

/-- A text that is digits without its underscores is digits with them, if a digit comes first. -/
theorem AreDigits.of_filter (hhead : ∃ d ∈ ds.head?, d.isDigit = true) (h : AreDigits (ds.filter (· != '_'))) :
    AreDigits ds where
  digits := by
    intro c hc
    by_cases hunderscore : c = '_'
    · rw [hunderscore]
      rfl
    · exact h.digits c (List.mem_filter.2 ⟨hc, by simpa using hunderscore⟩)
  head := hhead

/-- **A positive integer from which a fraction of zeros and underscores are cleaned away.** -/
theorem exists_digits_of_cleared (hhead : ∃ d ∈ ds.head?, d.isDigit = true ∨ d = '-')
    (h : directInteger? (dropUnderscores (dropZeroFraction ds)) = some k) (hk : 1 ≤ k) :
    ∃ w zeros, ds = w ++ pointText zeros ∧ AreDigits w ∧ k = natOfText 10 (w.filter (· != '_')) := by
  obtain ⟨zeros, hsplit⟩ := exists_pointText ds
  obtain ⟨es, hsigned, hes, hvalue⟩ := exists_digits_of_direct h hk
  obtain ⟨d, hd, hfirst⟩ := hhead
  refine ⟨_, zeros, hsplit, ?_⟩
  generalize dropZeroFraction ds = w at hsplit hsigned
  have hother : d ≠ '.' ∧ d ≠ '_' ∧ d ≠ '+' := by
    rcases hfirst with hdigit | rfl
    · exact Yaml.forall_isDigit (p := fun c => c ≠ '.' ∧ c ≠ '_' ∧ c ≠ '+') (by decide) hdigit
    · decide
  -- the first character is neither the point nor an underscore, so that it stays the first one
  obtain ⟨rest, rfl⟩ : ∃ rest, w = d :: rest := by
    cases w with
    | nil =>
      rw [hsplit, List.nil_append] at hd
      cases zeros with
      | none => cases hd
      | some z =>
        cases hd
        exact absurd rfl hother.1
    | cons c rest =>
      rw [hsplit] at hd
      cases hd
      exact ⟨rest, rfl⟩
  have hkept : ∃ rest', dropUnderscores (d :: rest) = d :: rest' := by
    rcases dropUnderscores_cases (d :: rest) with heq | heq
    · exact ⟨rest, heq⟩
    · rw [List.filter_cons_of_pos (by simpa using hother.2.1)] at heq
      exact ⟨_, heq⟩
  obtain ⟨rest', hrest'⟩ := hkept
  obtain rfl : dropUnderscores (d :: rest) = es := by
    rcases hsigned with hplus | hsame
    · rw [hrest'] at hplus
      exact absurd (List.cons.inj hplus).1 hother.2.2
    · exact hsame
  have hdigit : d.isDigit = true := by
    obtain ⟨c, hc, hdigit⟩ := hes.head
    rw [hrest'] at hc
    cases hc
    exact hdigit
  rcases dropUnderscores_cases (d :: rest) with heq | heq
  · rw [heq] at hes hvalue
    exact ⟨hes, hvalue⟩
  · rw [heq] at hes hvalue
    refine ⟨.of_filter ⟨d, rfl, hdigit⟩ hes, hvalue.trans ?_⟩
    simp only [List.filter_filter, Bool.and_self]

/-! ## Checks -/

theorem checkIntegerFrom_eq_ok_iff {minimum : Int} {v : Value} :
    checkIntegerFrom minimum v = .ok k ↔ checkInteger v = .ok k ∧ minimum ≤ k := by
  unfold checkIntegerFrom
  rw [Checked.andThen_eq_ok]
  constructor
  · rintro ⟨i, hi, hik⟩
    split at hik
    · cases hik
    · next hle =>
      cases hik
      exact ⟨hi, Int.not_lt.1 hle⟩
  · rintro ⟨hi, hle⟩
    exact ⟨k, hi, if_neg (Int.not_lt.2 hle)⟩

/-- A number with a point counts as an integer if it is one. -/
theorem toInt?_of_checkInteger {x : Binary64} (h : checkInteger (.float x) = .ok k) : x.toInt? = some k := by
  unfold checkInteger at h
  dsimp only at h
  split at h
  · cases h
  · split at h
    · next i hi =>
      split at h
      · cases h
        exact hi
      · cases h
    · cases h

/-! ## Texts -/

/-- The text behind a plus sign, if there is one. -/
theorem isSigned_iff : IsSigned cs ds ↔ ∃ plus : Bool, cs = (if plus then ['+'] else []) ++ ds := by
  unfold IsSigned
  rw [Bool.exists_bool, or_comm]
  rfl

theorem AreDigits.append {front : List Char} (hfront : ∀ c ∈ front, c = '0' ∨ c = '_')
    (hhead : ∀ c ∈ front.head?, c = '0') (h : AreDigits ds) : AreDigits (front ++ ds) where
  digits := by
    refine List.forall_mem_append.2 ⟨fun c hc => ?_, h.digits⟩
    rcases hfront c hc with rfl | rfl <;> rfl
  head := by
    cases front with
    | nil => exact h.head
    | cons c front =>
      refine ⟨c, rfl, ?_⟩
      rw [hhead c rfl]
      rfl

/-- Where a single zero is left, also before a point, the integer is not positive. -/
theorem not_one_le_of_zero (hzero : ds = ['0'] ∨ ∃ rest, ds = '0' :: '.' :: rest)
    (h : directInteger? (dropUnderscores (dropZeroFraction ds)) = some k) : ¬ 1 ≤ k := by
  intro hk
  have hhead : ∃ d ∈ ds.head?, d.isDigit = true ∨ d = '-' := by
    rcases hzero with rfl | ⟨rest, rfl⟩ <;> exact ⟨'0', rfl, .inl rfl⟩
  obtain ⟨w, zeros, hsplit, hw, hvalue⟩ := exists_digits_of_cleared hhead h hk
  obtain ⟨rest, rfl⟩ : ∃ rest, w = '0' :: rest := by
    obtain ⟨d, hd, -⟩ := hw.head
    cases w with
    | nil => cases hd
    | cons c rest =>
      rcases hzero with rfl | ⟨more, rfl⟩ <;> exact ⟨rest, by rw [(List.cons.inj hsplit).1]⟩
  have hrest : rest = [] := by
    cases rest with
    | nil => rfl
    | cons c rest =>
      exfalso
      rcases hzero with rfl | ⟨more, rfl⟩
      · cases hsplit
      · cases hsplit
        have := hw.digits '.' (by simp)
        cases this
  rw [hrest] at hvalue
  have hnone : natOfText 10 (['0'].filter (· != '_')) = 0 := rfl
  omega

/-- The text of a positive integer that is not read without further ado. -/
theorem exists_spelling_of_cleaned (h : cleanedInteger? cs = some k) (hk : 1 ≤ k) :
    ∃ n : Spelling, cs = n.text ∧ k = n.decimal := by
  obtain ⟨unsigned, hsigned, hread⟩ : ∃ unsigned, IsSigned cs unsigned ∧
      ∃ ds, dropLeadingZeros unsigned = some ds ∧
        directInteger? (dropUnderscores (dropZeroFraction ds)) = some k := by
    unfold cleanedInteger? at h
    obtain ⟨ds, hdrop, hdirect⟩ := Option.bind_eq_some_iff.1 h
    split at hdrop
    · split at hdrop
      · cases hdrop
      · exact ⟨_, .inl rfl, ds, hdrop, hdirect⟩
    · exact ⟨_, .inr rfl, ds, hdrop, hdirect⟩
  obtain ⟨plus, rfl⟩ := isSigned_iff.1 hsigned
  obtain ⟨ds, hdrop, hdirect⟩ := hread
  rcases dropLeadingZeros_cases hdrop with ⟨front, rfl, hfront, hzero, hhead⟩ | hzero
  · obtain ⟨w, zeros, rfl, hw, hvalue⟩ := exists_digits_of_cleared hhead hdirect hk
    refine ⟨⟨plus, front ++ w, hw.append hfront hzero, zeros⟩, ?_, hvalue.trans ?_⟩
    · simp only [Spelling.text, Spelling.signText, Spelling.unsigned, List.append_assoc]
    · -- the leading zeros do not count
      have hzeros : ∀ c ∈ front.filter (· != '_'), c = '0' := by
        intro c hc
        obtain ⟨hmem, hne⟩ := List.mem_filter.1 hc
        exact (hfront c hmem).resolve_right (by simpa using hne)
      show _ = ((natOfText 10 ((front ++ w).filter (· != '_')) : Nat) : Int)
      rw [List.filter_append, natOfText_zeros_append hzeros]
  · exact absurd hk (not_one_le_of_zero hzero hdirect)

/-- **A text that is taken for a positive integer** is spelled as one between white space, and is taken for the number
that its digits spell. -/
theorem exists_spelling {s : String} (h : checkIntegerText s = .ok k) (hk : 1 ≤ k) :
    ∃ n : Spelling, trimList isWhiteSpace s.toList = n.text ∧ k = n.decimal := by
  unfold checkIntegerText at h
  dsimp only at h
  split at h
  · cases h
  · split at h
    · next read hread =>
      obtain rfl := Checked.ok.inj h
      cases hdirect : directInteger? (trimList isWhiteSpace s.toList) with
      | some read' =>
        rw [hdirect] at hread
        obtain rfl := Option.some.inj hread
        obtain ⟨ds, hsigned, hds, hvalue⟩ := exists_digits_of_direct hdirect hk
        obtain ⟨plus, heq⟩ := isSigned_iff.1 hsigned
        refine ⟨⟨plus, ds, hds, none⟩, heq.trans ?_, hvalue⟩
        simp only [Spelling.text, Spelling.signText, Spelling.unsigned, pointText, List.append_nil]
      | none =>
        rw [hdirect] at hread
        exact exists_spelling_of_cleaned hread hk
    · cases h

end Triage
