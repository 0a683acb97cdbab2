import Triage.Proofs.Validation.Acceptance

/-!
# What checks let escape

A check collects what is wrong with a value. A pattern beyond a limit of the matcher is no issue to be collected: it
ends the whole check. Which patterns a check comes to is said here without the check, for every value.

* `Checked.Escapes`: the check ended at a pattern beyond a limit.
* `Checked.escapes_ap`, `Checked.escapes_andThen`, `Checked.escapes_items`, `Checked.escapes_untilFailure`:
  **how an escape passes through the combinations of checks**.
* `ComesTo`: the texts that a check reads as patterns. It is kept by lists, fields and records: `ComesTo.list`,
  `ComesTo.optional`, `ComesTo.record`.
-/

namespace Triage

/-- The text is a pattern beyond a limit of the matcher. -/
def Pattern.BeyondLimit (source : String) : Prop :=
  compile source = .error .countTooLarge ∨ compile source = .error .codePointTooLarge

namespace Checked

variable {α β : Type}

/-- The check ended at a pattern beyond a limit. -/
def Escapes (x : Checked α) : Prop := ∃ f, x = failed (.beyondLimit f)

@[simp] theorem not_escapes_ok {a : α} : ¬ (ok a).Escapes := fun ⟨_, h⟩ => nomatch h

@[simp] theorem escapes_failed {r : Rejection} : (failed r : Checked α).Escapes ↔ ∃ f, r = .beyondLimit f := by
  simp [Escapes]

@[simp] theorem not_escapes_fail {c : Complaint} : ¬ (fail c : Checked α).Escapes := by simp [fail]

/-- **Independent parts** let through what either of them lets through. -/
theorem escapes_ap {f : Checked (α → β)} {x : Unit → Checked α} : (f.ap x).Escapes ↔ f.Escapes ∨ (x ()).Escapes := by
  unfold ap
  split
  · split <;> simp_all
  · simp
  · split <;> simp_all

theorem escapes_andThen {x : Checked α} {f : α → Checked β} :
    (x.andThen f).Escapes ↔ x.Escapes ∨ ∃ a, x = ok a ∧ (f a).Escapes := by
  cases x with
  | ok a => simp [andThen]
  | failed r => cases r <;> simp [andThen]

@[simp] theorem escapes_inside {l : Locator} {x : Checked α} : (x.inside l).Escapes ↔ x.Escapes := by
  cases x with
  | ok a => simp [inside]
  | failed r => cases r <;> simp [inside]

theorem escapes_items {check : Value → Checked α} {i : Nat} {vs : List Value} :
    (items check i vs).Escapes ↔ ∃ v ∈ vs, (check v).Escapes := by
  induction vs generalizing i with
  | nil => simp [items]
  | cons v vs ih => simp [items, escapes_ap, ih]

/-- **One after the other**: the item that lets something through stands behind items that succeed. -/
theorem escapes_untilFailure {check : β → Checked α} {bs : List β} :
    (untilFailure check bs).Escapes ↔
      ∃ before b after, bs = before ++ b :: after ∧ (∀ c ∈ before, ∃ a, check c = ok a) ∧ (check b).Escapes := by
  induction bs with
  | nil => simp [untilFailure]
  | cons b bs ih =>
    simp only [untilFailure, escapes_andThen, not_escapes_ok, and_false, exists_false, or_false, ih]
    constructor
    · rintro (hb | ⟨a, ha, before, c, after, rfl, hbefore, hc⟩)
      · exact ⟨[], b, bs, rfl, by simp, hb⟩
      · exact ⟨b :: before, c, after, rfl, List.forall_mem_cons.2 ⟨⟨a, ha⟩, hbefore⟩, hc⟩
    · rintro ⟨before, c, after, hbs, hbefore, hc⟩
      cases before with
      | nil =>
        cases hbs
        exact .inl hc
      | cons d before =>
        cases hbs
        obtain ⟨⟨a, ha⟩, hbefore⟩ := List.forall_mem_cons.1 hbefore
        exact .inr ⟨a, ha, before, c, after, rfl, hbefore, hc⟩

end Checked

open Checked

/-! ## Single values -/

theorem escapes_checkPattern {source : String} : (checkPattern source).Escapes ↔ Pattern.BeyondLimit source := by
  unfold checkPattern Pattern.BeyondLimit
  split <;> simp_all

theorem not_escapes_checkText {v : Value} : ¬ (checkText v).Escapes := by
  unfold checkText
  split
  · simp
  · split <;> simp
  · simp

theorem not_escapes_checkNonEmptyText {v : Value} : ¬ (checkNonEmptyText v).Escapes := by
  unfold checkNonEmptyText
  simp only [escapes_andThen, not_escapes_checkText, false_or]
  rintro ⟨s, -, hs⟩
  split at hs <;> simp at hs

theorem not_escapes_checkNoUnknownKeys {fields : List FieldName} {es : List (Value × Value)} :
    ¬ (checkNoUnknownKeys fields es).Escapes := by
  unfold checkNoUnknownKeys
  dsimp only
  split <;> simp

/-! ## Checks that come to patterns -/

/-- **The check comes to the given texts as patterns**: one of them is beyond a limit exactly if it escapes. -/
def ComesTo {α : Type} (check : Value → Checked α) (texts : Value → String → Prop) : Prop :=
  ∀ v, (check v).Escapes ↔ ∃ s, texts v s ∧ Pattern.BeyondLimit s

/-- The text of a value. Bytes are texts in UTF-8. -/
inductive Value.Spells : Value → String → Prop where
  | text (s : String) : Spells (.text s) s
  | bytes {bs : List UInt8} {s : String} (decodes : String.fromUTF8? ⟨bs.toArray⟩ = some s) : Spells (.bytes bs) s

theorem checkText_eq_ok_iff_spells {v : Value} {s : String} : checkText v = .ok s ↔ v.Spells s := by
  constructor
  · intro h
    unfold checkText at h
    split at h
    · cases h
      exact .text s
    · split at h
      · next t ht =>
        cases h
        exact .bytes ht
      · cases h
    · cases h
  · rintro (_ | h)
    · rfl
    · simp [checkText, h]

/-- The texts of the items of what counts as a list. -/
def InItems (texts : Value → String → Prop) (v : Value) (s : String) : Prop :=
  ∃ vs, v.items? = some vs ∧ ∃ u ∈ vs, texts u s

/-- The texts of the value of a field. -/
def FieldName.Has (f : FieldName) (texts : Value → String → Prop) (es : List (Value × Value)) (s : String) : Prop :=
  ∃ key v, f.find? es = some (key, v) ∧ texts v s

/-- The texts of the entries of a record. -/
inductive InRecord (parts : List (Value × Value) → String → Prop) : Value → String → Prop where
  | map {es : List (Value × Value)} {s : String} (part : parts es s) : InRecord parts (.map es) s

section ComesTo

variable {α β : Type} {check : Value → Checked α} {texts : Value → String → Prop}

theorem comesTo_pattern : ComesTo checkPatternText Value.Spells := fun v => by
  simp only [checkPatternText, escapes_andThen, not_escapes_checkText, false_or, checkText_eq_ok_iff_spells,
    escapes_checkPattern]

theorem ComesTo.map (g : α → β) (h : ComesTo check texts) :
    ComesTo (fun v => (check v).andThen fun a => .ok (g a)) texts := fun v => by
  simp only [escapes_andThen, not_escapes_ok, and_false, exists_false, or_false, h v]

/-- **A list** comes to what its items come to. -/
theorem ComesTo.list (h : ComesTo check texts) : ComesTo (checkList check) (InItems texts) := fun v => by
  rw [checkList_eq]
  unfold InItems
  cases v.items? with
  | none => simp
  | some vs =>
    simp only [escapes_items, h _, Option.some.injEq]
    constructor
    · rintro ⟨u, hu, s, hs, hlimit⟩
      exact ⟨s, ⟨vs, rfl, u, hu, hs⟩, hlimit⟩
    · rintro ⟨s, ⟨_, rfl, u, hu, hs⟩, hlimit⟩
      exact ⟨u, hu, s, hs, hlimit⟩

/-- Null comes to nothing where it is taken for a default. -/
theorem ComesTo.orNull {check' : Value → Checked α} (h : ComesTo check texts) (hnull : ¬ (check' .null).Escapes)
    (htexts : ∀ s, ¬ texts .null s) (hrest : ∀ v, v ≠ .null → check' v = check v) :
    ComesTo check' texts := fun v => by
  by_cases hv : v = .null
  · subst hv
    exact iff_of_false hnull fun ⟨s, hs, _⟩ => htexts s hs
  · rw [hrest v hv, h v]

theorem ComesTo.optionalList (h : ComesTo check texts) : ComesTo (checkOptionalList check) (InItems texts) :=
  h.list.orNull (by simp [checkOptionalList]) (fun _ ⟨_, hvs, _⟩ => nomatch hvs)
    fun _ => checkOptionalList_of_ne_null check

variable {f : FieldName} {es : List (Value × Value)}

/-- **A field with a default** comes to what its value comes to. -/
theorem ComesTo.optional (h : ComesTo check texts) {default : α} :
    (f.optional default check es).Escapes ↔ ∃ s, f.Has texts es s ∧ Pattern.BeyondLimit s := by
  unfold FieldName.optional FieldName.Has
  cases f.find? es with
  | none => simp
  | some x =>
    obtain ⟨key, v⟩ := x
    simp [h v]

/-- **A record** comes to what its fields come to. -/
theorem ComesTo.record {parts : List (Value × Value) → String → Prop}
    (hmap : ∀ es, (check (.map es)).Escapes ↔ ∃ s, parts es s ∧ Pattern.BeyondLimit s)
    (hrecord : OfRecords check) : ComesTo check (InRecord parts) := fun v => by
  rcases hrecord v with ⟨es, rfl⟩ | ⟨c, hc⟩
  · rw [hmap]
    exact exists_congr fun s => and_congr_left fun _ => ⟨.map, fun | .map h => h⟩
  · refine iff_of_false (by simp [hc]) ?_
    rintro ⟨s, ⟨part⟩, hlimit⟩
    have hescapes := (hmap _).2 ⟨s, part, hlimit⟩
    simp [hc] at hescapes

theorem not_escapes_required (h : ∀ v, ¬ (check v).Escapes) : ¬ (f.required check es).Escapes := by
  unfold FieldName.required
  cases f.find? es with
  | none => simp
  | some x => simpa using h x.2

theorem not_escapes_optional (h : ∀ v, ¬ (check v).Escapes) {default : α} :
    ¬ (f.optional default check es).Escapes := by
  unfold FieldName.optional
  cases f.find? es with
  | none => simp
  | some x => simpa using h x.2

end ComesTo

end Triage
