import Triage.Proofs.Fault.Endings
import Triage.Proofs.Text.Capital
import Triage.Proofs.Text.LowerCase

/-!
# Labels are normal forms

A label that is labelled again stays as it is, since it ends in `Error`, and its first letter is a capital already. Other
endings may be left in front of the last one, and stay, too.

* `IsLabel`: the texts with a capital first letter and `Error` at their end.
* `capitalize_eq_self_iff`, `capital_capitalize`: **a capital stays**, also where it is the first of several characters.
* `isLabel_prettyLabel`: **every name is given such a text**; `prettyLabel_eq_self_iff`: **and such a text stays as it is**.
* `prettyLabel_capitalized`: the case of the first letter does not matter.
-/

namespace Triage

variable {cs ds : List Char} {text : String}

/-- The name with a capital first letter. -/
def capitalized (name : String) : String := String.ofList (capitalize name.toList)

/-- **A label in normal form**: a text that ends in `Error`, and whose first letter is its own upper case. -/
structure IsLabel (text : String) : Prop where
  ending : ∃ bare, text = bare ++ "Error"
  capital : ∀ c ∈ text.toList.head?, Text.upperChars c = [c]

/-! ## Capitals -/

theorem capitalize_eq_self_iff : capitalize cs = cs ↔ ∀ c ∈ cs.head?, Text.upperChars c = [c] := by
  cases cs with
  | nil => simp [capitalize]
  | cons c cs =>
    have hsplit : c :: cs = [c] ++ cs := rfl
    rw [capitalize, hsplit, List.append_left_inj]
    simp

/-- **A capital stays**, whatever the first letter became. -/
theorem capital_capitalize (cs : List Char) : ∀ c ∈ (capitalize cs).head?, Text.upperChars c = [c] := by
  cases cs with
  | nil => exact nofun
  | cons c cs =>
    intro x hx
    rw [capitalize, List.head?_append_of_ne_nil _ (Text.upperChars_ne_nil c)] at hx
    exact Text.upperChars_of_mem_upperChars (List.mem_of_head? hx)

theorem capitalize_capitalize (cs : List Char) : capitalize (capitalize cs) = capitalize cs :=
  capitalize_eq_self_iff.2 (capital_capitalize cs)

/-- The front of a text begins with the same capital. -/
theorem capitalize_of_prefix (h : cs <+: ds) (hds : capitalize ds = ds) : capitalize cs = cs := by
  rw [capitalize_eq_self_iff] at hds ⊢
  obtain ⟨rest, rfl⟩ := h
  cases cs with
  | nil => exact nofun
  | cons c cs => exact hds

/-! ## Endings -/

theorem dropEnding_isPrefix (ending text : List Char) : dropEnding ending text <+: text := by
  unfold dropEnding
  split
  · exact List.take_prefix _ _
  · exact List.prefix_rfl

theorem stem_isPrefix (text : List Char) : stem text <+: text :=
  (dropEnding_isPrefix _ _).trans (dropEnding_isPrefix _ _)

/-- Behind `Error` no `Exception` is seen, so that `Error` alone is taken off. -/
theorem stem_append_error (text : List Char) : stem (text ++ "Error".toList) = text := by
  have hexception : ¬ "Exception".toList <:+ text ++ "Error".toList := by
    intro h
    have hsame : Ending.exception = Ending.error := Ending.eq_of_suffix h
    cases hsame
  rw [stem, dropEnding_of_not_suffix hexception, dropEnding_of_suffix]

/-! ## Labels -/

/-- **Every name is given a label in normal form.** -/
theorem isLabel_prettyLabel (name : String) : IsLabel (prettyLabel name) where
  ending := by
    refine ⟨String.ofList (stem (capitalize name.toList)), ?_⟩
    rw [← String.toList_inj, toList_prettyLabel, String.toList_append,
      String.toList_ofList (l := stem (capitalize name.toList))]
  capital := by
    have hstem := capitalize_of_prefix (stem_isPrefix _) (capitalize_capitalize name.toList)
    rw [toList_prettyLabel, ← capitalize_eq_self_iff, capitalize_append_error, hstem]

/-- **A label in normal form stays as it is**, and no other text does. -/
theorem prettyLabel_eq_self_iff : prettyLabel text = text ↔ IsLabel text := by
  constructor
  · intro h
    exact h ▸ isLabel_prettyLabel text
  · rintro ⟨⟨bare, rfl⟩, hcapital⟩
    rw [← String.toList_inj, toList_prettyLabel, capitalize_eq_self_iff.2 hcapital, String.toList_append,
      stem_append_error]

/-- **The case of the first letter does not matter.** -/
theorem prettyLabel_capitalized (name : String) : prettyLabel (capitalized name) = prettyLabel name := by
  rw [← String.toList_inj, toList_prettyLabel, toList_prettyLabel, capitalized, String.toList_ofList,
    capitalize_capitalize]

end Triage
