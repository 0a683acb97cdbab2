import Triage.Fault.Label
import Triage.Proofs.Text.UpperCase

/-!
# First letter and ending of a label

A label is a name with a capital first letter and one `Error` at its end. The first letter is seen to first and the
ending afterwards. In the other order a label comes out the same, unless the first letter becomes part of an ending when
it is capitalised.

* `dropEnding_append`: an ending is taken off behind other text, unless it reaches into that text.
* `suffix_capitalize_cases`: capitalising makes an ending of the same letters with a small one in front, and of nothing
  else.
* `Loses`, `CapitalFirst`, `EndingFirst`: the two orders, said without the functions.
* `capitalFirst_iff`, `exists_endingFirst_iff`: **every name has one label in each order**, and it gets the first one.
* `lowerEndings`: three names; `endingFirst_prettyLabel_iff`: **the orders agree on all names but these**.
-/

namespace Triage

/-! ## Endings -/

theorem dropEnding_of_suffix (text ending : List Char) : dropEnding ending (text ++ ending) = text := by
  unfold dropEnding
  rw [if_pos (List.isSuffixOf_iff_suffix.2 (List.suffix_append _ _)), List.length_append, Nat.add_sub_cancel,
    List.take_left]

theorem dropEnding_of_not_suffix {ending text : List Char} (h : ¬ ending <:+ text) : dropEnding ending text = text := by
  unfold dropEnding
  rw [if_neg]
  rwa [List.isSuffixOf_iff_suffix]

/-- An ending is taken off behind other text, unless it reaches into that text. -/
theorem dropEnding_append {ending front text : List Char} (h : ending <:+ front ++ text → ending <:+ text) :
    dropEnding ending (front ++ text) = front ++ dropEnding ending text := by
  by_cases hsuffix : ending <:+ text
  · obtain ⟨bare, rfl⟩ := hsuffix
    rw [← List.append_assoc, dropEnding_of_suffix, dropEnding_of_suffix]
  · have hfront : ¬ ending <:+ front ++ text := fun hreach => hsuffix (h hreach)
    rw [dropEnding_of_not_suffix hfront, dropEnding_of_not_suffix hsuffix]

theorem dropEnding_cons {ending cs : List Char} {c : Char} (h : ending ≠ c :: cs) :
    dropEnding ending (c :: cs) = c :: dropEnding ending cs := by
  have hreach : ending <:+ [c] ++ cs → ending <:+ cs := fun hsuffix =>
    (List.suffix_cons_iff.1 hsuffix).resolve_left h
  exact dropEnding_append hreach

/-- What is left of a text without the ending `ending`: it is taken off where it stands, and nothing else ever is. -/
theorem dropEnding_eq_iff {ending text bare : List Char} :
    dropEnding ending text = bare ↔ text = bare ++ ending ∨ (¬ ending <:+ text ∧ text = bare) := by
  by_cases h : ending <:+ text
  · obtain ⟨front, rfl⟩ := h
    rw [dropEnding_of_suffix, List.append_left_inj]
    constructor
    · intro hbare
      exact .inl hbare
    · rintro (hbare | ⟨hnot, -⟩)
      · exact hbare
      · exact absurd (List.suffix_append _ _) hnot
  · rw [dropEnding_of_not_suffix h]
    constructor
    · intro hbare
      exact .inr ⟨h, hbare⟩
    · rintro (hbare | ⟨-, hbare⟩)
      · exact absurd (hbare ▸ List.suffix_append _ _) h
      · exact hbare

/-! ## The first letter -/

variable {rest name : List Char} {c : Char} {cs : List Char}

/-- **Capitalising makes an ending** of the same letters with a small `e` in front, and of nothing else: small letters
are not what upper case is made of. -/
theorem suffix_capitalize_cases (hrest : rest.all Char.isLower = true)
    (h : 'E' :: rest <:+ Text.upperChars c ++ cs) :
    'E' :: rest <:+ cs ∨ ((c = 'e' ∨ c = 'E') ∧ cs = rest) := by
  obtain ⟨front, hfront⟩ := h
  rcases List.append_eq_append_iff.1 hfront with ⟨reach, hupper, hending⟩ | ⟨bare, -, hcs⟩
  · -- the ending begins within the upper case of the first letter
    cases reach with
    | nil => exact .inl (hending ▸ List.suffix_refl _)
    | cons x reach =>
      obtain ⟨rfl, hreach⟩ := List.cons.inj hending
      have hE : 'E' ∈ Text.upperChars c := by rw [hupper]; simp
      cases reach with
      | nil => exact .inr ⟨Text.eq_e_of_mem_upperChars hE, hreach.symm⟩
      | cons y reach =>
        have hy : y ∈ Text.upperChars c := by rw [hupper]; simp
        have hsmall : y.isLower = true := List.all_eq_true.1 hrest y (by rw [hreach]; simp)
        rw [Text.isLower_of_mem_upperChars hy] at hsmall
        cases hsmall
  · exact .inl ⟨bare, hcs.symm⟩

/-- So an ending may be taken off before or after the first letter is capitalised, but for that name. -/
theorem dropEnding_capitalize (hrest : rest.all Char.isLower = true) (hname : name ≠ 'e' :: rest) :
    dropEnding ('E' :: rest) (capitalize name) = capitalize (dropEnding ('E' :: rest) name) := by
  cases name with
  | nil =>
    have hnil : ¬ 'E' :: rest <:+ [] := fun h => nomatch List.suffix_nil.1 h
    have hcapital : capitalize [] = [] := rfl
    rw [hcapital, dropEnding_of_not_suffix hnil, hcapital]
  | cons c cs =>
    by_cases hwhole : 'E' :: rest = c :: cs
    · -- the name is nothing but the ending
      have hcapital : capitalize ('E' :: rest) = 'E' :: rest := rfl
      have hnothing : dropEnding ('E' :: rest) ('E' :: rest) = [] := dropEnding_of_suffix [] ('E' :: rest)
      rw [← hwhole, hcapital, hnothing]
      rfl
    · have hreach : 'E' :: rest <:+ Text.upperChars c ++ cs → 'E' :: rest <:+ cs := by
        intro h
        rcases suffix_capitalize_cases hrest h with hcs | ⟨rfl | rfl, rfl⟩
        · exact hcs
        · exact absurd rfl hname
        · exact absurd rfl hwhole
      rw [dropEnding_cons hwhole]
      exact dropEnding_append hreach

/-- `Error` is put at the end before or after the first letter is capitalised. -/
theorem capitalize_append_error (text : List Char) :
    capitalize (text ++ "Error".toList) = capitalize text ++ "Error".toList := by
  cases text with
  | nil => rfl
  | cons c cs => exact (List.append_assoc _ _ _).symm

/-! ## Two orders of the steps -/

/-- A text without an ending, taken off once if it is there. -/
inductive Loses (ending : String) : String → String → Prop where
  | off (bare : String) : Loses ending (bare ++ ending) bare
  | kept {text : String} (lacks : ∀ bare, text ≠ bare ++ ending) : Loses ending text text

/-- The label of a name if its ending is seen to first: one `Exception` is taken off, then one `Error`, then `Error` is
put there, and last the first letter is capitalised. -/
inductive EndingFirst (name : String) : String → Prop where
  | label {bare stem : String} (exception : Loses "Exception" name bare) (error : Loses "Error" bare stem) :
    EndingFirst name (String.ofList (capitalize (stem ++ "Error").toList))

/-- The label of a name if its first letter is seen to first: it is capitalised, then one `Exception` is taken off, then
one `Error`, and last `Error` is put there. -/
inductive CapitalFirst (name : String) : String → Prop where
  | label {bare stem : String} (exception : Loses "Exception" (String.ofList (capitalize name.toList)) bare)
    (error : Loses "Error" bare stem) : CapitalFirst name (stem ++ "Error")

theorem loses_iff {ending text bare : String} :
    Loses ending text bare ↔ dropEnding ending.toList text.toList = bare.toList := by
  rw [dropEnding_eq_iff]
  constructor
  · intro h
    cases h with
    | off bare => exact .inl String.toList_append
    | kept lacks =>
      refine .inr ⟨?_, rfl⟩
      rintro ⟨front, hfront⟩
      refine lacks (String.ofList front) (String.toList_inj.1 ?_)
      rw [String.toList_append, String.toList_ofList, hfront]
  · rintro (h | ⟨hnot, h⟩)
    · rw [← String.toList_append] at h
      rw [String.toList_inj.1 h]
      exact .off bare
    · rw [← String.toList_inj.1 h]
      refine .kept fun front hfront => hnot ?_
      rw [hfront, String.toList_append]
      exact List.suffix_append _ _

/-- The name without one `Exception` and then one `Error` at its end. -/
def stem (name : List Char) : List Char := dropEnding "Error".toList (dropEnding "Exception".toList name)

theorem exists_loses_iff {name left : String} :
    (∃ bare, Loses "Exception" name bare ∧ Loses "Error" bare left) ↔ left.toList = stem name.toList := by
  simp only [loses_iff]
  constructor
  · rintro ⟨bare, hexception, herror⟩
    rw [← herror, ← hexception]
    rfl
  · intro h
    refine ⟨String.ofList (dropEnding "Exception".toList name.toList), String.toList_ofList.symm, ?_⟩
    exact (congrArg (dropEnding "Error".toList) String.toList_ofList).trans h.symm

theorem endingFirst_iff {name label : String} :
    EndingFirst name label ↔ label.toList = capitalize (stem name.toList) ++ "Error".toList := by
  rw [← capitalize_append_error]
  constructor
  · intro h
    cases h with
    | @label bare left exception error =>
      rw [String.toList_ofList, String.toList_append, exists_loses_iff.1 ⟨bare, exception, error⟩]
  · intro h
    obtain ⟨bare, hexception, herror⟩ := exists_loses_iff.2 (String.toList_ofList (l := stem name.toList))
    have hlabel : label = String.ofList (capitalize (String.ofList (stem name.toList) ++ "Error").toList) := by
      rw [String.toList_append, String.toList_ofList, ← h, String.ofList_toList]
    rw [hlabel]
    exact .label hexception herror

/-- **Every name has one label** with the ending first. -/
theorem exists_endingFirst_iff (name : String) : ∃ stated, ∀ label, EndingFirst name label ↔ label = stated := by
  obtain ⟨stated, hstated⟩ : ∃ stated : String, stated.toList = capitalize (stem name.toList) ++ "Error".toList :=
    ⟨_, String.toList_ofList⟩
  refine ⟨stated, fun label => ?_⟩
  rw [endingFirst_iff, ← hstated, String.toList_inj]

theorem toList_prettyLabel (name : String) :
    (prettyLabel name).toList = stem (capitalize name.toList) ++ "Error".toList := String.toList_ofList

/-- **Every name has one label** with the capital first, and it is the one it gets. -/
theorem capitalFirst_iff {name label : String} : CapitalFirst name label ↔ prettyLabel name = label := by
  rw [← String.toList_inj, toList_prettyLabel]
  constructor
  · intro h
    cases h with
    | @label bare left exception error =>
      have hleft := exists_loses_iff.1 ⟨bare, exception, error⟩
      rw [String.toList_ofList] at hleft
      rw [String.toList_append, hleft]
  · intro h
    have hstem : (String.ofList (stem (capitalize name.toList))).toList =
        stem (String.ofList (capitalize name.toList)).toList := by
      rw [String.toList_ofList, String.toList_ofList]
    obtain ⟨bare, hexception, herror⟩ := exists_loses_iff.2 hstem
    have hlabel : label = String.ofList (stem (capitalize name.toList)) ++ "Error" := by
      rw [← String.toList_inj, String.toList_append, String.toList_ofList, h]
    rw [hlabel]
    exact .label hexception herror

/-! ## Where the orders agree -/

/-- The names that become an ending, or one ending behind another, when their first letter is capitalised. -/
def lowerEndings : List String := ["exception", "error", "errorException"]

theorem mem_lowerEndings_iff {name : String} :
    name ∈ lowerEndings ↔
      name.toList = 'e' :: "xception".toList ∨ dropEnding "Exception".toList name.toList = 'e' :: "rror".toList := by
  have hexception : name = "exception" ↔ name.toList = 'e' :: "xception".toList := String.toList_inj.symm
  have herror : name = "error" ↔ name.toList = 'e' :: "rror".toList := String.toList_inj.symm
  have hboth : name = "errorException" ↔ name.toList = 'e' :: "rror".toList ++ "Exception".toList :=
    String.toList_inj.symm
  simp only [lowerEndings, List.mem_cons, List.not_mem_nil, or_false]
  rw [dropEnding_eq_iff, ← hexception, ← hboth, ← herror]
  constructor
  · rintro (h | h | h)
    · exact .inl h
    · refine .inr (.inr ⟨?_, h⟩)
      rw [h]
      decide
    · exact .inr (.inl h)
  · rintro (h | h | ⟨-, h⟩)
    · exact .inl h
    · exact .inr (.inr h)
    · exact .inr (.inl h)

theorem stem_capitalize {name : String} (h : name ∉ lowerEndings) :
    stem (capitalize name.toList) = capitalize (stem name.toList) := by
  rw [mem_lowerEndings_iff, not_or] at h
  have hxception : "xception".toList.all Char.isLower = true := by decide
  have hrror : "rror".toList.all Char.isLower = true := by decide
  have hexception : dropEnding "Exception".toList (capitalize name.toList) =
      capitalize (dropEnding "Exception".toList name.toList) := dropEnding_capitalize hxception h.1
  have herror : dropEnding "Error".toList (capitalize (dropEnding "Exception".toList name.toList)) =
      capitalize (stem name.toList) := dropEnding_capitalize hrror h.2
  exact (congrArg (dropEnding "Error".toList) hexception).trans herror

/-- A first letter that is its own upper case stays, unless an ending may begin with it. -/
theorem toList_prettyLabel_of_cons {name : String} (hname : name.toList = c :: cs) (hupper : Text.upperChars c = [c])
    (hE : c ≠ 'E') : (prettyLabel name).toList = c :: (stem cs ++ "Error".toList) := by
  have hcapital : capitalize (c :: cs) = c :: cs := congrArg (· ++ cs) hupper
  have hne : ∀ rest text : List Char, 'E' :: rest ≠ c :: text := fun _ _ h => hE (List.cons.inj h).1.symm
  have hexception : dropEnding "Exception".toList (c :: cs) = c :: dropEnding "Exception".toList cs :=
    dropEnding_cons (hne _ _)
  have hstem : stem (c :: cs) = c :: stem cs :=
    (congrArg (dropEnding "Error".toList) hexception).trans (dropEnding_cons (hne _ _))
  rw [toList_prettyLabel, hname, hcapital, hstem, List.cons_append]

/-- **Capitalised before the ending is seen to**, each of the three names becomes an ending and nothing of it is left. -/
theorem prettyLabel_of_mem {name : String} (h : name ∈ lowerEndings) : prettyLabel name = "Error" := by
  simp only [lowerEndings, List.mem_cons, List.not_mem_nil, or_false] at h
  rcases h with rfl | rfl | rfl <;> decide

/-- **The two orders agree** exactly on the other names. -/
theorem endingFirst_prettyLabel_iff {name : String} : EndingFirst name (prettyLabel name) ↔ name ∉ lowerEndings := by
  rw [endingFirst_iff, toList_prettyLabel]
  constructor
  · intro h hmem
    simp only [lowerEndings, List.mem_cons, List.not_mem_nil, or_false] at hmem
    rcases hmem with rfl | rfl | rfl <;> revert h <;> decide
  · intro h
    rw [stem_capitalize h]

end Triage
