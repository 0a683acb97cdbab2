import Triage.Proofs.Fault.LabelSteps

/-!
# Stacked endings

A class may be named with several endings, such as `JsonErrorException`. A name is put into a label without one
`Exception` and then without one `Error`, so that what is left may end in `Error` or `Exception` again.

* `Ending`, `Ending.stacked`: the two endings, and several of them as they are written one behind the other.
* `Ending.Parts`: a text as a core that ends in neither, with the endings behind it. `parts_iff`: every text has one core.
* `Ending.remaining`: the endings that are left; `stem_stacked`: the core keeps them.
* `label_ends_once_iff`: **a label ends in a single `Error` exactly if none are left**, and names with the same core
  share a label exactly if the same are left of both. `label_not_ends_once`: neither is so for every name.
-/

namespace Triage

/-- What a class name may end in. -/
inductive Ending where
  | error
  | exception
  deriving DecidableEq, Repr

namespace Ending

/-- The letters of an ending. -/
def letters : Ending → List Char
  | error => "Error".toList
  | exception => "Exception".toList

/-- The two endings do not end alike. -/
theorem eq_of_suffix {e e' : Ending} {text : List Char} (h : e.letters <:+ text ++ e'.letters) : e = e' := by
  obtain ⟨front, hfront⟩ := h
  have hlast : e.letters.getLast? = e'.letters.getLast? := by
    have hend := congrArg List.getLast? hfront
    have hne : ∀ e : Ending, e.letters ≠ [] := by
      intro e
      cases e <;> decide
    rwa [List.getLast?_append_of_ne_nil _ (hne e), List.getLast?_append_of_ne_nil _ (hne e')] at hend
  cases e <;> cases e' <;> first | rfl | exact absurd hlast (by decide)

/-- Endings one behind the other, the last one first. -/
def stacked : List Ending → List Char
  | [] => []
  | e :: es => stacked es ++ e.letters

/-- The text ends in neither. -/
def IsCore (text : List Char) : Prop := ∀ e : Ending, ¬ e.letters <:+ text

/-- A text is a core with endings behind it, the last one first. -/
structure Parts (text core : List Char) (endings : List Ending) : Prop where
  text_eq : text = core ++ stacked endings
  isCore : IsCore core

variable {text core core' : List Char} {e : Ending} {es es' : List Ending}

theorem append_stacked_cons (core : List Char) (e : Ending) (es : List Ending) :
    core ++ stacked (e :: es) = core ++ stacked es ++ e.letters := (List.append_assoc _ _ _).symm

/-- Behind a core nothing but the last of the endings is an ending. -/
theorem suffix_stacked_iff (h : IsCore core) : e.letters <:+ core ++ stacked es ↔ es.head? = some e := by
  cases es with
  | nil =>
    rw [stacked, List.append_nil]
    exact ⟨fun hsuffix => absurd hsuffix (h e), fun hhead => nomatch hhead⟩
  | cons e' es =>
    rw [append_stacked_cons, List.head?_cons, Option.some.injEq]
    constructor
    · intro hsuffix
      exact (Ending.eq_of_suffix hsuffix).symm
    · rintro rfl
      exact List.suffix_append _ _

theorem isCore_stacked_iff (h : IsCore core) : IsCore (core ++ stacked es) ↔ es = [] := by
  constructor
  · intro hcore
    cases es with
    | nil => rfl
    | cons e es => exact absurd ((suffix_stacked_iff h).2 rfl) (hcore e)
  · rintro rfl
    rwa [stacked, List.append_nil]

/-- The endings of a text are taken off one by one, so that a core is left. -/
theorem exists_parts (text : List Char) : ∃ core endings, Parts text core endings := by
  induction hlength : text.length using Nat.strong_induction_on generalizing text with
  | _ n ih =>
    by_cases hcore : IsCore text
    · exact ⟨text, [], (List.append_nil _).symm, hcore⟩
    · obtain ⟨e, front, rfl⟩ : ∃ e : Ending, e.letters <:+ text := by
        unfold IsCore at hcore
        push Not at hcore
        exact hcore
      have hshort : front.length < n := by
        have hpos : 0 < e.letters.length := by cases e <;> decide
        rw [← hlength, List.length_append]
        omega
      obtain ⟨core, es, rfl, hbare⟩ := ih _ hshort front rfl
      exact ⟨core, e :: es, (append_stacked_cons core e es).symm, hbare⟩

theorem Parts.eq (h : Parts text core es) (h' : Parts text core' es') : core' = core ∧ es' = es := by
  obtain ⟨rfl, hcore⟩ := h
  obtain ⟨htext, hcore'⟩ := h'
  -- Both stacks have the same last ending, and it is taken off both.
  induction es generalizing es' with
  | nil =>
    have hnone : es' = [] := by
      rw [← isCore_stacked_iff hcore', ← htext, isCore_stacked_iff hcore]
    subst hnone
    exact ⟨(List.append_left_inj _).1 htext.symm, rfl⟩
  | cons e es ih =>
    have hhead : es'.head? = some e := by
      rw [← suffix_stacked_iff hcore', ← htext, suffix_stacked_iff hcore, List.head?_cons]
    obtain ⟨es', rfl⟩ : ∃ more, es' = e :: more := List.head?_eq_some_iff.1 hhead
    rw [append_stacked_cons, append_stacked_cons, List.append_left_inj] at htext
    obtain ⟨hsame, hrest⟩ := ih htext
    exact ⟨hsame, congrArg (e :: ·) hrest⟩

/-- **Every text has one core**, and one stack of endings. -/
theorem parts_iff (h : Parts text core es) : Parts text core' es' ↔ core' = core ∧ es' = es := by
  constructor
  · exact h.eq
  · rintro ⟨rfl, rfl⟩
    exact h

/-! ## What is left -/

/-- The endings without the last one, if it is this one. -/
def without (e : Ending) : List Ending → List Ending
  | [] => []
  | e' :: es => if e' = e then es else e' :: es

/-- The endings without one `Exception` and then without one `Error`. -/
def remaining (endings : List Ending) : List Ending := without .error (without .exception endings)

theorem dropEnding_stacked (h : IsCore core) (e : Ending) (es : List Ending) :
    dropEnding e.letters (core ++ stacked es) = core ++ stacked (without e es) := by
  by_cases hhead : es.head? = some e
  · obtain ⟨es, rfl⟩ := List.head?_eq_some_iff.1 hhead
    rw [append_stacked_cons, dropEnding_of_suffix, without, if_pos rfl]
  · rw [dropEnding_of_not_suffix (mt (suffix_stacked_iff h).1 hhead)]
    cases es with
    | nil => rfl
    | cons e' es =>
      have hne : e' ≠ e := fun heq => hhead (congrArg some heq)
      rw [without, if_neg hne]

/-- **The core keeps what is left** of its endings. -/
theorem stem_stacked (h : IsCore core) (es : List Ending) : stem (core ++ stacked es) = core ++ stacked (remaining es) :=
  (congrArg (dropEnding Ending.error.letters) (dropEnding_stacked h .exception es)).trans
    (dropEnding_stacked h .error _)

/-- Nothing is left of four stacks: no ending, one of the two, and an `Exception` behind an `Error`. -/
def spentStacks : List (List Ending) := [[], [.error], [.exception], [.exception, .error]]

theorem remaining_eq_nil_iff : remaining es = [] ↔ es ∈ spentStacks := by
  simp only [spentStacks, List.mem_cons, List.not_mem_nil, or_false]
  constructor
  · intro h
    match es with
    | [] => simp
    | [.error] => simp
    | [.exception] => simp
    | [.exception, .error] => simp
    | .error :: e :: es => cases h
    | .exception :: .exception :: es => cases h
    | .exception :: .error :: e :: es => cases h
  · rintro (rfl | rfl | rfl | rfl) <;> rfl

/-! ## Labels -/

/-- The label ends in `Error`, and what stands before it ends in neither `Error` nor `Exception`. -/
def EndsOnce (label : String) : Prop := ∃ front : String, label = front ++ "Error" ∧ IsCore front.toList

theorem prettyLabel_eq {name : String} (h : Parts (capitalize name.toList) core es) :
    prettyLabel name = String.ofList (core ++ stacked (remaining es)) ++ "Error" := by
  rw [← String.toList_inj, toList_prettyLabel, h.text_eq, stem_stacked h.isCore, String.toList_append,
    String.toList_ofList (l := core ++ stacked (remaining es))]

theorem endsOnce_iff (h : IsCore core) :
    EndsOnce (String.ofList (core ++ stacked es) ++ "Error") ↔ es = [] := by
  rw [← isCore_stacked_iff h]
  constructor
  · rintro ⟨front, hfront, hcore⟩
    have hsame : core ++ stacked es = front.toList := by
      have hlist := congrArg String.toList hfront
      rw [String.toList_append, String.toList_append, String.toList_ofList] at hlist
      exact (List.append_left_inj _).1 hlist
    rwa [hsame]
  · intro hcore
    exact ⟨_, rfl, by rwa [String.toList_ofList]⟩

end Ending

namespace FaultGraph

open Ending

variable {g : FaultGraph} {i : Nat} {f : Fault} {token : String} {core : List Char} {es : List Ending}

theorem label_of_nameOf {name : String} (h : g.NameOf i token name)
    (hparts : Parts (capitalize name.toList) core es) :
    g.label i token = some (String.ofList (core ++ stacked (remaining es)) ++ "Error") := by
  rw [label_iff_capitalFirst h, capitalFirst_iff, prettyLabel_eq hparts]

/-- **A label ends in a single `Error` exactly if no ending is left of its name.** Every fault has one name, which with a
capital first letter is a core with endings behind it, in one way.

* The label is the core with what is left of the endings, and `Error`.
* It ends in a single `Error` exactly if the name has no ending, one, or an `Exception` behind an `Error`.
* A fault whose name has the same core has the same label exactly if the same endings are left of both. -/
theorem label_ends_once_iff (hf : g.fault? i = some f) (token : String) :
    ∃ name core endings, (∀ other, g.NameOf i token other ↔ other = name) ∧
      (∀ core' endings', Parts (capitalize name.toList) core' endings' ↔ core' = core ∧ endings' = endings) ∧
      g.label i token = some (String.ofList (core ++ stacked (remaining endings)) ++ "Error") ∧
      ((∃ label, g.label i token = some label ∧ EndsOnce label) ↔ endings ∈ spentStacks) ∧
      ∀ (g' : FaultGraph) (i' : Nat) (token' name' : String) (endings' : List Ending), g'.NameOf i' token' name' →
        Parts (capitalize name'.toList) core endings' →
          (g'.label i' token' = g.label i token ↔ remaining endings' = remaining endings) := by
  obtain ⟨name, hname⟩ : ∃ name, ∀ other, g.NameOf i token other ↔ other = name := ⟨_, fun _ => nameOf_iff hf⟩
  obtain ⟨core, endings, hparts⟩ := exists_parts (capitalize name.toList)
  have hlabel := label_of_nameOf ((hname name).2 rfl) hparts
  refine ⟨name, core, endings, hname, fun _ _ => parts_iff hparts, hlabel, ?_, ?_⟩
  · rw [← remaining_eq_nil_iff, ← endsOnce_iff hparts.isCore, hlabel]
    simp only [Option.some.injEq, exists_eq_left']
  · intro g' i' token' name' endings' hname' hparts'
    rw [label_of_nameOf hname' hparts', hlabel, Option.some.injEq]
    constructor
    · intro hsame
      -- both texts in front of the last ending are that core with a stack behind it
      have hlist := congrArg String.toList hsame
      simp only [String.toList_append, String.toList_ofList, List.append_left_inj, List.append_right_inj] at hlist
      have hstack : Parts (core ++ stacked (remaining endings)) core (remaining endings') :=
        ⟨by rw [hlist], hparts.isCore⟩
      exact (Parts.eq ⟨rfl, hparts.isCore⟩ hstack).2
    · intro hleft
      rw [hleft]

/-- Faults of two classes that are named alike but for their endings. -/
def stackedPair : FaultGraph :=
  ⟨#[Fault.plain (.derive "JsonExceptionError" .exception) [.text "x"],
    Fault.plain (.derive "JsonErrorException" .exception) [.text "x"]]⟩

theorem isCore_json : IsCore "Json".toList := by
  intro e
  rw [← List.isSuffixOf_iff_suffix]
  cases e <;> decide

theorem nameOf_stackedPair :
    stackedPair.NameOf 0 "Unrecognised" "JsonExceptionError" ∧
      stackedPair.NameOf 1 "Unrecognised" "JsonErrorException" :=
  ⟨(nameOf_iff rfl).2 (by decide), (nameOf_iff rfl).2 (by decide)⟩

theorem parts_stackedPair :
    Parts (capitalize "JsonExceptionError".toList) "Json".toList [.error, .exception] ∧
      Parts (capitalize "JsonErrorException".toList) "Json".toList [.exception, .error] :=
  ⟨⟨by decide, isCore_json⟩, ⟨by decide, isCore_json⟩⟩

theorem label_ends_once_iff_stackedPair :
    (stackedPair.label 0 "Unrecognised" = some "JsonExceptionError" ∧
        ¬ ∃ label, stackedPair.label 0 "Unrecognised" = some label ∧ EndsOnce label) ∧
      stackedPair.label 1 "Unrecognised" ≠ stackedPair.label 0 "Unrecognised" := by
  obtain ⟨name, core, endings, hname, hparts, -, honce, hshared⟩ :=
    label_ends_once_iff (g := stackedPair) (i := 0) rfl "Unrecognised"
  obtain rfl := (hname _).1 nameOf_stackedPair.1
  obtain ⟨rfl, rfl⟩ := (hparts _ _).1 parts_stackedPair.1
  refine ⟨⟨by decide, fun h => absurd (honce.1 h) (by decide)⟩, fun hsame => ?_⟩
  have hleft := (hshared stackedPair 1 _ _ _ nameOf_stackedPair.2 parts_stackedPair.2).1 hsame
  exact absurd hleft (by decide)

/-- **Not every label ends in a single `Error`**, and not all names with the same core share a label: one pass leaves an
ending of `JsonExceptionError`, and none of `JsonErrorException`. -/
theorem label_not_ends_once :
    (¬ ∀ (g : FaultGraph) (i : Nat) (f : Fault) (token : String), g.fault? i = some f →
      ∃ label, g.label i token = some label ∧ EndsOnce label) ∧
      ¬ ∀ (g : FaultGraph) (i i' : Nat) (token name name' : String) (core : List Char) (endings endings' : List Ending),
        g.NameOf i token name → g.NameOf i' token name' → Parts (capitalize name.toList) core endings →
          Parts (capitalize name'.toList) core endings' → g.label i token = g.label i' token := by
  have hlabel := label_of_nameOf nameOf_stackedPair.1 parts_stackedPair.1
  constructor
  · intro honce
    obtain ⟨label, hsome, hends⟩ := honce stackedPair 0 _ "Unrecognised" rfl
    rw [hlabel, Option.some.injEq] at hsome
    subst hsome
    exact absurd ((endsOnce_iff isCore_json).1 hends) (by decide)
  · intro hshare
    have hsame := hshare stackedPair 0 1 _ _ _ _ _ _ nameOf_stackedPair.1 nameOf_stackedPair.2 parts_stackedPair.1
      parts_stackedPair.2
    exact absurd hsame (by decide)

end FaultGraph

end Triage
