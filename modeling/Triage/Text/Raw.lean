import Triage.Text.Quoted

/-!
# Raw texts

An argument from outside need not be text: what is none in it comes in as surrogates, which have code points but are no
characters.

* `RawText`: characters and surrogates in a row; every text is one.
* `RawText.toText`: the text, unless there is a surrogate; `toText_eq_ok_iff`: it is the only one.
* `SurrogateError`: where the first surrogate is.
-/

namespace Triage

/-- What a raw text is made of. -/
inductive RawChar where
  | char (c : Char)
  /-- A surrogate, by its number among them. -/
  | surrogate (n : Fin 0x800)
  deriving DecidableEq, Repr

/-- Whether it is a surrogate. -/
def RawChar.isSurrogate : RawChar → Bool
  | char _ => false
  | surrogate _ => true

/-- A text that may hold surrogates. -/
structure RawText where
  chars : List RawChar
  deriving DecidableEq, Repr

/-- A raw text is no text. -/
structure SurrogateError where
  /-- The position of the first surrogate. -/
  position : Nat
  surrogate : Fin 0x800
  /-- How many more follow at once. -/
  further : Nat
  deriving DecidableEq, Repr

/-- The wording for it. -/
def SurrogateError.message (e : SurrogateError) : String :=
  let escape := String.ofList (Text.numericEscape (0xd800 + e.surrogate.val))
  let what :=
    if e.further = 0 then s!"character '{escape}' in position {e.position}"
    else s!"characters in position {e.position}-{e.position + e.further}"
  s!"'utf-8' codec can't encode {what}: surrogates not allowed"

namespace RawText

/-- A text as a raw one. -/
def ofString (s : String) : RawText := ⟨s.toList.map .char⟩

instance : Coe String RawText := ⟨ofString⟩

/-- The characters, unless there is a surrogate. -/
def decode : List RawChar → Except SurrogateError (List Char)
  | [] => .ok []
  | .char c :: rest =>
    match decode rest with
    | .ok cs => .ok (c :: cs)
    | .error e => .error { e with position := e.position + 1 }
  | .surrogate n :: rest => .error ⟨0, n, (rest.takeWhile RawChar.isSurrogate).length⟩

/-- The text, unless there is a surrogate. -/
def toText (t : RawText) : Except SurrogateError String := (decode t.chars).map String.ofList

theorem decode_eq_ok_iff {rs : List RawChar} {cs : List Char} : decode rs = .ok cs ↔ rs = cs.map .char := by
  induction rs generalizing cs with
  | nil => cases cs <;> simp [decode]
  | cons r rs ih =>
    cases r with
    | surrogate n => cases cs <;> simp [decode]
    | char c =>
      cases cs with
      | nil => cases hrest : decode rs <;> simp [decode, hrest]
      | cons d ds =>
        rw [List.map_cons, List.cons.injEq, ← @ih ds, decode]
        cases decode rs <;> simp

theorem exists_decode_error_iff {rs : List RawChar} : (∃ e, decode rs = .error e) ↔ ∃ n, .surrogate n ∈ rs := by
  induction rs with
  | nil => simp [decode]
  | cons r rs ih =>
    cases r with
    | surrogate n => exact iff_of_true ⟨_, rfl⟩ ⟨n, List.mem_cons_self⟩
    | char c =>
      have hmore : (∃ n, .surrogate n ∈ RawChar.char c :: rs) ↔ ∃ n, .surrogate n ∈ rs := by simp
      rw [hmore, ← ih, decode]
      cases decode rs <;> simp

/-- **Only a text is one.** -/
theorem toText_eq_ok_iff {t : RawText} {s : String} : t.toText = .ok s ↔ t = s := by
  have hchars : t = ofString s ↔ t.chars = s.toList.map .char := by
    cases t
    exact RawText.mk.injEq _ _ ▸ Iff.rfl
  rw [hchars, ← decode_eq_ok_iff]
  unfold toText
  cases decode t.chars with
  | error e => simp [Except.map]
  | ok cs =>
    simp only [Except.map, Except.ok.injEq]
    exact ⟨fun h => h ▸ (String.toList_ofList).symm, fun h => h ▸ String.ofList_toList⟩

@[simp] theorem toText_ofString (s : String) : (ofString s).toText = .ok s := toText_eq_ok_iff.2 rfl

/-- **There is no text** exactly where there is a surrogate. -/
theorem exists_error_iff {t : RawText} : (∃ e, t.toText = .error e) ↔ ∃ n, .surrogate n ∈ t.chars := by
  rw [← exists_decode_error_iff]
  unfold toText
  cases decode t.chars <;> simp [Except.map]

end RawText

end Triage
