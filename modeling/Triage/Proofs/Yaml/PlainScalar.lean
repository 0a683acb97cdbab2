import Triage.Proofs.Json.Plain
import Triage.Proofs.Yaml.Cursor

/-!
# Words and numbers of JSON as plain scalars

The words `null`, `true` and `false` and the numbers are made of few characters, none of which ends a plain scalar.

* `bareChars`: these characters. `Closes`: what stands after such a word or number and the white space behind it.
* `readPlain_bare`: **a word or number is read as it is**, and the white space behind it with it.
-/

namespace Triage.Yaml

open Triage.Json (Numeral Exponent)

/-- The characters of numbers and of the words `null`, `true` and `false`. -/
def bareChars : List Char := "+-.0123456789Eaeflnrstu".toList

/-- A text of such characters. -/
def IsBare (xs : List Char) : Prop := ∀ c ∈ xs, c ∈ bareChars

theorem IsBare.nil : IsBare [] := fun _ hc => absurd hc List.not_mem_nil

theorem IsBare.append {xs ys : List Char} (hx : IsBare xs) (hy : IsBare ys) : IsBare (xs ++ ys) :=
  fun c hc => (List.mem_append.1 hc).elim (hx c) (hy c)

theorem IsBare.cons {x : Char} {xs : List Char} (hx : x ∈ bareChars) (hxs : IsBare xs) : IsBare (x :: xs) :=
  List.forall_mem_cons.2 ⟨hx, hxs⟩

theorem IsBare.begins {xs : List Char} (h : IsBare xs) (hne : xs ≠ []) (rest : List Char) : Begins (xs ++ rest) := by
  obtain ⟨x, xs, rfl⟩ := List.exists_cons_of_ne_nil hne
  have hgoes : ∀ c ∈ bareChars, c ≠ ' ' ∧ isBreak c = false ∧ c ≠ '#' ∧ c ≠ '\ufeff' := by decide
  exact .cons (hgoes x (h x (by simp))) _

/-! ## Digits -/

/-- The decimal digits of ASCII. -/
def digitChars : List Char := "0123456789".toList

theorem mem_digitChars {c : Char} (h : c.isDigit = true) : c ∈ digitChars := by
  obtain ⟨hlow, hhigh⟩ := Bool.and_eq_true_iff.1 h
  have hlow : '0'.toNat ≤ c.toNat := show '0' ≤ c from of_decide_eq_true hlow
  have hhigh : c.toNat ≤ '9'.toNat := show c ≤ '9' from of_decide_eq_true hhigh
  have hc : c = Char.ofNat c.toNat := (Char.ofNat_toNat c).symm
  have hnumbers : ∀ n ∈ List.range 10, Char.ofNat ('0'.toNat + n) ∈ digitChars := by decide
  have hzero : '0'.toNat = 48 := rfl
  have hnine : '9'.toNat = 57 := rfl
  rw [hc, show c.toNat = '0'.toNat + (c.toNat - '0'.toNat) by omega]
  exact hnumbers _ (List.mem_range.2 (by omega))

/-- What holds for ten digits holds for every digit. -/
theorem forall_isDigit {p : Char → Prop} (h : ∀ c ∈ digitChars, p c) {c : Char} (hc : c.isDigit = true) : p c :=
  h c (mem_digitChars hc)

theorem isBare_digits {ds : List Char} (h : ∀ c ∈ ds, c.isDigit = true) : IsBare ds :=
  fun c hc => forall_isDigit (by decide) (h c hc)

/-! ## The texts of numbers -/

theorem isBare_exponent (e : Exponent) : IsBare e.text := by
  unfold Exponent.text
  refine .cons ?_ (.append ?_ (isBare_digits e.digits_ok))
  · rcases e.letter_ok with h | h <;> rw [h] <;> decide
  · intro c hc
    rcases e.sign_ok c (by simpa using hc) with rfl | rfl <;> decide

theorem isBare_unsigned (n : Numeral) : IsBare n.unsigned := by
  refine IsBare.append (isBare_digits n.whole_ok) (IsBare.append ?_ ?_)
  · unfold Numeral.fractionText
    split
    · exact .nil
    · exact .cons (by decide) (isBare_digits n.fraction_ok)
  · unfold Numeral.exponentText
    cases n.exponent with
    | none => exact .nil
    | some e => exact isBare_exponent e

theorem isBare_numeral (n : Numeral) : IsBare n.text := by
  refine IsBare.append ?_ (isBare_unsigned n)
  unfold Numeral.signText
  split
  · exact .cons (by decide) .nil
  · exact .nil

/-! ## Reading -/

/-- What stands after a word or number and white space: the end of the text, or between brackets a comma or closing
bracket. -/
def Closes (inFlow : Bool) (rest : List Char) : Prop :=
  rest = [] ∨ inFlow = true ∧ ∃ ch more, rest = ch :: more ∧ (ch = ',' ∨ ch = ']' ∨ ch = '\x7d')

namespace Closes

variable {inFlow : Bool} {rest : List Char}

theorem begins (h : Closes inFlow rest) : Begins rest := by
  rcases h with rfl | ⟨-, ch, more, rfl, hch⟩
  · exact .nil
  · intro c hc
    cases hc
    rcases hch with rfl | rfl | rfl <;> decide

theorem noSeparator (h : Closes inFlow rest) : ∀ ch ∈ rest.head?, ch ≠ '-' ∧ ch ≠ '.' := by
  rcases h with rfl | ⟨-, ch, more, rfl, hch⟩
  · exact fun c hc => absurd hc (by simp)
  · intro c hc
    cases hc
    rcases hch with rfl | rfl | rfl <;> decide

theorem plainChars_eq (h : Closes inFlow rest) : plainChars inFlow rest = [] := by
  rcases h with rfl | ⟨rfl, ch, more, rfl, hch⟩
  · rfl
  · unfold plainChars endsPlain
    rcases hch with rfl | rfl | rfl <;> simp

end Closes

theorem plainChars_filler {inFlow : Bool} {g rest : List Char} (hg : IsFiller g)
    (hrest : plainChars inFlow rest = []) : plainChars inFlow (g ++ rest) = [] := by
  cases g with
  | nil => exact hrest
  | cons ch g =>
    unfold plainChars endsPlain isBlankOrEnd isSpaceOrEnd isLineEnd
    rcases hg ch (by simp) with rfl | rfl | rfl <;> simp [isBreak]

theorem plainChars_bare {inFlow : Bool} {xs more : List Char} (hxs : IsBare xs)
    (hmore : plainChars inFlow more = []) : plainChars inFlow (xs ++ more) = xs := by
  induction xs with
  | nil => exact hmore
  | cons ch xs ih =>
    have hgoes : ∀ c ∈ bareChars, isBlankOrEnd c = false ∧ c ≠ ':' ∧ ",?[]\x7b\x7d".toList.contains c = false := by
      decide
    obtain ⟨hblank, hcolon, hindicator⟩ := hgoes ch (hxs ch (by simp))
    rw [List.cons_append, plainChars, if_neg, ih fun c hc => hxs c (List.mem_cons_of_mem _ hc)]
    unfold endsPlain
    rw [hblank, hindicator, beq_false_of_ne hcolon, Bool.false_and, Bool.and_false]
    exact Bool.false_ne_true

/-- A plain scalar ends where no character belongs to it. -/
theorem readPlainParts_stop {inFlow : Bool} {indent : Int} {fuel : Nat} {gap : List Char} {p : Plain}
    (h : plainChars inFlow p.after.rest = []) : readPlainParts inFlow indent fuel gap p = p := by
  cases fuel with
  | zero => rfl
  | succ fuel =>
    unfold readPlainParts
    dsimp only
    rw [h, if_pos (by simp)]

/-- **A word or number is read as it is**, and the white space behind it with it. -/
theorem readPlain_bare {inFlow : Bool} (indent : Int) {c : Cursor} {xs g rest : List Char} (hxs : IsBare xs)
    (hne : xs ≠ []) (hg : IsFiller g) (hrest : Closes inFlow rest) (hc : c.rest = xs ++ (g ++ rest)) :
    (readPlain inFlow indent c).text = xs ∧
      (readPlain inFlow indent c).after = c.advanceBy (xs.length + g.length) := by
  have hchars : plainChars inFlow c.rest = xs := by
    rw [hc]
    exact plainChars_bare hxs (plainChars_filler hg hrest.plainChars_eq)
  have hafter : (c.advanceBy xs.length).rest = g ++ rest := Cursor.rest_advanceBy_append hc
  have hgap := readPlainGap_filler hg hrest.begins hrest.noSeparator hafter
  rw [← Cursor.advanceBy_add] at hgap
  have hpeek : (c.peek == '#' || xs.isEmpty) = false := by
    obtain ⟨x, xs, rfl⟩ := List.exists_cons_of_ne_nil hne
    have hgoes : ∀ c ∈ bareChars, c ≠ '#' := by decide
    rw [Cursor.peek_cons hc, beq_false_of_ne (hgoes x (hxs x (by simp)))]
    rfl
  -- behind the white space nothing is left to be read
  have hend : plainChars inFlow (readPlainGap (c.advanceBy xs.length)).after.rest = [] := by
    rw [hgap, Cursor.advanceBy_add, Cursor.rest_advanceBy_append hafter]
    exact hrest.plainChars_eq
  unfold readPlain
  rw [readPlainParts]
  dsimp only
  rw [hchars, hpeek, if_neg Bool.false_ne_true]
  split
  · exact ⟨rfl, hgap⟩
  · rw [readPlainParts_stop hend]
    exact ⟨rfl, hgap⟩

end Triage.Yaml
