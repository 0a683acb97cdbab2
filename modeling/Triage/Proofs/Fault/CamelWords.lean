import Triage.Proofs.Fault.CamelCase
import Triage.Proofs.Text.Boundary

/-!
# Camel case word by word

A name is put in lower case as a whole, and only then taken apart at its underscores. Since an underscore is a boundary
for that, each word becomes what it would become alone.

* `parts_induction`: a text is a word, or a word in front of an underscore and another text.
* `underscoreParts_lowerAfter`: **taking apart and lower case commute**.
* `words`, `toList_camelCase_words`: a name in camel case is made of its words, each for itself.
* `camelCase_word_by_word`: **names that are joined are appended**, and only the words matter, in any case.
-/

namespace Triage

open Text (SameLetter lowerAfter)

variable {cs p w : List Char} {a b name : String}

/-! ## Parts -/

/-- **A text is a word**, or a word in front of an underscore and another text. -/
theorem parts_induction {P : List Char → Prop} (word : ∀ p, '_' ∉ p → P p)
    (join : ∀ p rest, '_' ∉ p → P rest → P (p ++ '_' :: rest)) (cs : List Char) : P cs := by
  -- the word that is being read so far
  have hread : ∀ p, '_' ∉ p → P (p ++ cs) := by
    induction cs with
    | nil =>
      intro p hp
      rw [List.append_nil]
      exact word p hp
    | cons c cs ih =>
      intro p hp
      by_cases hc : c = '_'
      · subst hc
        exact join p cs hp (ih [] List.not_mem_nil)
      · have hlonger : '_' ∉ p ++ [c] := by simp [hp, Ne.symm hc]
        have h := ih (p ++ [c]) hlonger
        rwa [List.append_assoc] at h
  exact hread [] List.not_mem_nil

theorem underscoreParts_word (hp : '_' ∉ p) : underscoreParts p = [p] := by
  induction p with
  | nil => rfl
  | cons c p ih =>
    have hc : c ≠ '_' := fun h => hp (h ▸ List.mem_cons_self)
    have hrest : '_' ∉ p := fun h => hp (List.mem_cons_of_mem c h)
    exact underscoreParts_cons hc (ih hrest)

theorem not_mem_of_mem_underscoreParts (hp : p ∈ underscoreParts cs) : '_' ∉ p := by
  induction cs using parts_induction with
  | word q hq =>
    rw [underscoreParts_word hq, List.mem_singleton] at hp
    exact hp ▸ hq
  | join q rest hq ih =>
    rw [underscoreParts_append, underscoreParts_word hq, List.singleton_append, List.mem_cons] at hp
    rcases hp with rfl | hp
    · exact hq
    · exact ih hp

/-- **Taking apart and lower case commute**: no part sees the others. -/
theorem underscoreParts_lowerAfter (cs : List Char) :
    underscoreParts (lowerAfter [] cs) = (underscoreParts cs).map (lowerAfter []) := by
  induction cs using parts_induction with
  | word p hp => rw [underscoreParts_word hp, underscoreParts_word (Text.not_mem_lowerAfter hp), List.map_singleton]
  | join p rest hp ih =>
    have hsplit : lowerAfter [] (p ++ '_' :: rest) = lowerAfter [] p ++ '_' :: lowerAfter [] rest :=
      Text.lowerAfter_append_boundary Text.isBoundary_underscore [] p rest
    have hlower : '_' ∉ lowerAfter [] p := Text.not_mem_lowerAfter hp
    rw [hsplit, underscoreParts_append, underscoreParts_append, underscoreParts_word hlower, ih, underscoreParts_word hp,
      List.map_append, List.map_singleton]

/-! ## Words -/

/-- The words of a name: its parts that are not empty. -/
def words (name : String) : List (List Char) := (underscoreParts name.toList).filter (!·.isEmpty)

/-- A word in camel case. -/
def camelWord (w : List Char) : List Char := capitalize (lowerAfter [] w)

theorem words_append (a b : String) : words (a ++ "_" ++ b) = words a ++ words b := by
  have htext : (a ++ "_" ++ b).toList = a.toList ++ '_' :: b.toList := by simp
  rw [words, htext, underscoreParts_append, List.filter_append]
  rfl

/-- **A name in camel case** is made of its words, each for itself. -/
theorem toList_camelCase_words (name : String) : (camelCase name).toList = (words name).flatMap camelWord := by
  have hempty (ps : List (List Char)) : ps.flatMap camelWord = (ps.filter (!·.isEmpty)).flatMap camelWord := by
    induction ps with
    | nil => rfl
    | cons p ps ih =>
      cases p with
      | nil =>
        have hnone : camelWord [] = [] := rfl
        rw [List.flatMap_cons, hnone, List.nil_append, ih]
        rfl
      | cons c p => rw [List.flatMap_cons, ih, List.filter_cons_of_pos rfl, List.flatMap_cons]
  rw [toList_camelCase, joined, Text.toList_lower, underscoreParts_lowerAfter, List.flatMap_map, words, ← hempty]
  rfl

theorem not_mem_camelWord (hw : '_' ∉ w) : '_' ∉ camelWord w := by
  have hlower : '_' ∉ lowerAfter [] w := Text.not_mem_lowerAfter hw
  unfold camelWord
  cases hcs : lowerAfter [] w with
  | nil => exact List.not_mem_nil
  | cons c cs =>
    rw [hcs] at hlower
    intro hmem
    rw [capitalize, List.mem_append] at hmem
    rcases hmem with hfirst | hrest
    · exact hlower (List.mem_cons.2 (.inl (Text.eq_of_mem_upperChars hfirst).symm))
    · exact hlower (List.mem_cons_of_mem c hrest)

/-- Two names of **the same words**, whatever the case of ASCII letters in them, and wherever there are more underscores
than one between them, or some in front or behind. -/
def SameWords (a b : String) : Prop := List.Forall₂ (List.Forall₂ SameLetter) (words a) (words b)

instance (a b : String) : Decidable (SameWords a b) :=
  inferInstanceAs (Decidable (List.Forall₂ (List.Forall₂ SameLetter) (words a) (words b)))

/-- Words that differ in the case of ASCII letters become the same in camel case. -/
theorem flatMap_camelWord_eq {ws vs : List (List Char)} (h : List.Forall₂ (List.Forall₂ SameLetter) ws vs) :
    ws.flatMap camelWord = vs.flatMap camelWord := by
  induction h with
  | nil => rfl
  | cons hword _ ih =>
    have hlower := Text.lowerAfter_eq_of_sameLetter .nil hword
    rw [List.flatMap_cons, List.flatMap_cons, ih, camelWord, camelWord, hlower]

/-- **Camel case is taken word by word.** Names that are joined by an underscore are appended, whatever stands in them and
however many underscores there are. So no underscore is left, and names of the same words become the same. -/
theorem camelCase_word_by_word :
    (∀ a b, camelCase (a ++ "_" ++ b) = camelCase a ++ camelCase b) ∧
      (∀ name, '_' ∉ (camelCase name).toList) ∧
      ∀ a b, SameWords a b → camelCase a = camelCase b := by
  refine ⟨fun a b => ?_, fun name hmem => ?_, fun a b h => ?_⟩
  · rw [← String.toList_inj, String.toList_append]
    simp only [toList_camelCase_words, words_append, List.flatMap_append]
  · rw [toList_camelCase_words] at hmem
    obtain ⟨w, hw, hmem⟩ := List.mem_flatMap.1 hmem
    have hpart : w ∈ underscoreParts name.toList := (List.mem_filter.1 hw).1
    exact not_mem_camelWord (not_mem_of_mem_underscoreParts hpart) hmem
  · rw [← String.toList_inj, toList_camelCase_words, toList_camelCase_words]
    exact flatMap_camelWord_eq h

/-- A sigma at the end of a word is the final one, also in front of an underscore. -/
theorem camelCase_word_by_word_sigma :
    SameWords "__ΟΔΌΣ___Pure_" "ΟΔΌΣ_pURE" ∧ camelCase "__ΟΔΌΣ___Pure_" = camelCase "ΟΔΌΣ_pURE" ∧
      camelCase ("ΟΔΌΣ" ++ "_" ++ "pURE") = "Οδός" ++ "Pure" := by
  have hsame : SameWords "__ΟΔΌΣ___Pure_" "ΟΔΌΣ_pURE" := by decide +kernel
  have hignored : Text.isCaseIgnorable 'Ό' = false := by
    rw [Text.isCaseIgnorable, Text.CodeRanges.covers_eq_any]
    decide +kernel
  have hseen : Text.meetsCased ['Ό', 'Δ', 'Ο'] = true := by
    rw [Text.meetsCased_cons, hignored]
    decide +kernel
  have hfirst : camelCase "ΟΔΌΣ" = "Οδός" := by
    have hwords : words "ΟΔΌΣ" = [['Ο', 'Δ', 'Ό', 'Σ']] := by decide +kernel
    rw [← String.toList_inj, toList_camelCase_words, hwords, List.flatMap_singleton, camelWord]
    simp only [lowerAfter, hseen]
    decide +kernel
  have hsecond : camelCase "pURE" = "Pure" := by decide +kernel
  refine ⟨hsame, camelCase_word_by_word.2.2 _ _ hsame, ?_⟩
  rw [camelCase_word_by_word.1, hfirst, hsecond]

end Triage
