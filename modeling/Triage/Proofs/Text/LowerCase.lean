import Triage.Proofs.Text.UpperCase

/-!
# Which characters lower case is made of

A text is put in lower case character by character, and above ASCII a character may become several, or become a letter
of ASCII. Only two letters of ASCII come about so.

* `lowerChars_ne_nil`, `upperChars_ne_nil`: no character is lost when its case is changed.
* `lower_of_ascii`: the lower case of a text of ASCII.
* `IsOwn`: the characters of ASCII that nothing above ASCII becomes; `lt_of_mem_lowerChars`.
* `toList_lower_eq_iff`: **a text becomes one of such characters** exactly if it does so letter by letter.
-/

namespace Triage.Text

theorem mapCase_ne_nil {runs : Array CaseRun} {specials : Array (Nat × List Nat)}
    (hspecials : ∀ p ∈ specials, p.2 ≠ []) (c : Char) : mapCase runs specials c ≠ [] := by
  unfold mapCase
  split
  · next n cs hfind =>
    exact fun h => hspecials _ (Array.mem_of_find?_eq_some hfind) (List.map_eq_nil_iff.1 h)
  · split
    · exact List.cons_ne_nil _ _
    · exact List.cons_ne_nil _ _

theorem lowerChars_ne_nil (c : Char) : lowerChars c ≠ [] := by
  unfold lowerChars
  split
  · exact List.cons_ne_nil _ _
  · exact mapCase_ne_nil (by decide +kernel) c

theorem upperChars_ne_nil (c : Char) : upperChars c ≠ [] := by
  unfold upperChars
  split
  · exact List.cons_ne_nil _ _
  · exact mapCase_ne_nil (by decide +kernel) c

theorem lowerChars_of_ascii {c : Char} (hc : c.toNat < 128) : lowerChars c = [c.toLower] :=
  if_pos hc

theorem lowerChars_of_not_ascii {c : Char} (hc : 128 ≤ c.toNat) :
    lowerChars c = mapCase lowerRuns lowerSpecials c :=
  if_neg (Nat.not_lt.2 hc)

/-- Above ASCII every character is its own small letter, as far as ASCII goes. -/
theorem toLower_of_not_ascii {c : Char} (hc : 128 ≤ c.toNat) : c.toLower = c := by
  unfold Char.toLower
  rw [dif_neg]
  rintro ⟨-, hhigh⟩
  have hnat : c.toNat ≤ 0x5a := hhigh
  omega

/-- A character of ASCII that no character above ASCII has in its lower case. -/
def IsOwn (c : Char) : Prop := 0 < c.toNat ∧ c.toNat < 128 ∧ c ≠ 'i' ∧ c ≠ 'k'

instance (c : Char) : Decidable (IsOwn c) :=
  inferInstanceAs (Decidable (0 < c.toNat ∧ c.toNat < 128 ∧ c ≠ 'i' ∧ c ≠ 'k'))

/-- **Only what is of ASCII becomes** such a character. -/
theorem lt_of_mem_lowerChars {c x : Char} (hx : x ∈ lowerChars c) (hown : IsOwn x) : c.toNat < 128 := by
  rcases Nat.lt_or_ge c.toNat 128 with hc | hc
  · exact hc
  rw [lowerChars_of_not_ascii hc] at hx
  have hspecials : ∀ p ∈ lowerSpecials, ∀ n ∈ p.2, n = 0 ∨ 128 ≤ n ∨ n = 0x69 ∨ n = 0x6b := by decide +kernel
  have hruns : ∀ r ∈ lowerRuns, 128 ≤ r.image ∨ (r.image = 0x6b ∧ r.last = r.first) := by decide +kernel
  have himage : x.toNat = 0 ∨ 128 ≤ x.toNat ∨ x.toNat = 0x69 ∨ x.toNat = 0x6b := by
    refine forall_mem_mapCase (P := fun n => n = 0 ∨ 128 ≤ n ∨ n = 0x69 ∨ n = 0x6b) (.inl rfl) hspecials
      (fun r hr n hlow hhigh => ?_) (.inr (.inl hc)) x hx
    have hrange := hruns r hr
    omega
  obtain ⟨hpos, hascii, hi, hk⟩ := hown
  rcases himage with h | h | h | h
  · omega
  · omega
  · exact absurd (Char.toNat_inj.1 h) hi
  · exact absurd (Char.toNat_inj.1 h) hk

/-- Of what a character above ASCII becomes in a text, nothing is such a character. -/
theorem not_isOwn_of_not_ascii {c : Char} (hc : 128 ≤ c.toNat) (final : Bool) :
    ∃ x ∈ if c == 'Σ' then [if final then 'ς' else 'σ'] else lowerChars c, ¬ IsOwn x := by
  by_cases hsigma : (c == 'Σ') = true
  · rw [if_pos hsigma]
    cases final <;> exact ⟨_, List.mem_singleton_self _, by decide⟩
  · rw [if_neg hsigma]
    obtain ⟨x, hx⟩ := List.exists_mem_of_ne_nil _ (lowerChars_ne_nil c)
    exact ⟨x, hx, fun hown => absurd (lt_of_mem_lowerChars hx hown) (Nat.not_lt.2 hc)⟩

theorem lowerAfter_cons_of_ascii {before cs : List Char} {c : Char} (hc : c.toNat < 128) :
    lowerAfter before (c :: cs) = c.toLower :: lowerAfter (c :: before) cs := by
  have hsigma : c ≠ 'Σ' := by
    rintro rfl
    exact absurd hc (by decide)
  rw [lowerAfter, if_neg (by simp [hsigma]), lowerChars_of_ascii hc]
  rfl

/-- Of ASCII, the lower case is taken character by character. -/
theorem lower_of_ascii {cs : List Char} (hcs : ∀ c ∈ cs, c.toNat < 128) :
    lower (String.ofList cs) = String.ofList (cs.map Char.toLower) := by
  have hmap (before : List Char) : lowerAfter before cs = cs.map Char.toLower := by
    induction cs generalizing before with
    | nil => rfl
    | cons c cs ih =>
      rw [lowerAfter_cons_of_ascii (hcs c List.mem_cons_self), ih fun d hd => hcs d (List.mem_cons_of_mem _ hd)]
      rfl
  rw [lower, String.toList_ofList, hmap]

/-- **A text becomes one of such characters** exactly if it does so letter by letter. -/
theorem lowerAfter_eq_iff {before cs ds : List Char} (hds : ∀ d ∈ ds, IsOwn d) :
    lowerAfter before cs = ds ↔ cs.map Char.toLower = ds := by
  induction cs generalizing before ds with
  | nil => exact Iff.rfl
  | cons c cs ih =>
    rcases Nat.lt_or_ge c.toNat 128 with hc | hc
    · rw [lowerAfter_cons_of_ascii hc, List.map_cons]
      cases ds with
      | nil => exact ⟨fun h => (nomatch h), fun h => (nomatch h)⟩
      | cons d ds => rw [List.cons.injEq, List.cons.injEq, ih fun e he => hds e (List.mem_cons_of_mem _ he)]
    · -- above ASCII nothing of the kind comes about on either side
      rw [lowerAfter, List.map_cons]
      refine iff_of_false (fun h => ?_) fun h => ?_
      · obtain ⟨x, hx, hown⟩ := not_isOwn_of_not_ascii hc (meetsCased before && !meetsCased cs)
        exact hown (hds x (h ▸ List.mem_append_left _ hx))
      · have hmem : c ∈ ds := by
          rw [← h, toLower_of_not_ascii hc]
          exact List.mem_cons_self
        exact absurd (hds c hmem).2.1 (Nat.not_lt.2 hc)

theorem toList_lower_eq_iff {text : String} {ds : List Char} (hds : ∀ d ∈ ds, IsOwn d) :
    (lower text).toList = ds ↔ text.toList.map Char.toLower = ds := by
  rw [lower, String.toList_ofList, lowerAfter_eq_iff hds]

end Triage.Text
