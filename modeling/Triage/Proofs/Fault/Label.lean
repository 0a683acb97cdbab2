import Triage.Proofs.Fault.PrettyLabel
import Triage.Proofs.Fault.Walk

/-!
# What a label depends on

A label is made from the class of a fault and from the error type of a structured one, or from those of its cause. So
faults that share these are labelled alike, whatever else they hold.

* `Fault.named`: the fault that gives its names to a label, which may be the cause.
* `Fault.TakesToken`: the faults whose labels begin with the token.
* `Fault.Alike`: two faults share what their labels are made from.
* `FaultGraph.Alike`: two graphs are linked alike, and their faults are alike.
* `Fault.Alike.label_eq`, `FaultGraph.Alike.label_eq`: **alike faults have the same label**.
* `label_forall_token_iff`, `label_forall_cause_iff`: which labels do not depend on the token, and on the cause.
* `label_sees_names_alone`: **nothing else shows in a label**, of whatever two faults in whatever two graphs.
-/

namespace Triage

/-- Two faults are **alike**: they have the same class, and the same error type if they are structured ones. -/
structure Fault.Alike (f f' : Fault) : Prop where
  cls : f'.cls = f.cls
  errorType : f.cls.isEngine = true → f'.errorType = f.errorType

/-- Two graphs are **alike**: they are linked alike, and at every position their faults are alike. -/
structure FaultGraph.Alike (g g' : FaultGraph) : Prop extends g.SameLinks g' where
  faults : ∀ i, Option.Rel Fault.Alike (g.fault? i) (g'.fault? i)

namespace Fault

/-- The fault that gives its names to a label: of a class that says nothing, the cause, if there is one. -/
def named (f : Fault) (cause : Option Fault) : Fault := if f.cls.generic.isSome then cause.getD f else f

theorem label_eq_prettyLabel (f : Fault) (cause : Option Fault) (token : String) :
    f.label cause token = prettyLabel ((f.named cause).labelToken token ++ (f.named cause).cls.name) := rfl

/-- A fault of one of the two classes that say nothing and are not structured. -/
def IsAnonymous (f : Fault) : Prop := f.cls.generic = some .exception ∨ f.cls.generic = some .runtime

/-- A fault whose label begins with the token: an anonymous one, or a structured one without an error type. -/
def TakesToken (f : Fault) : Prop := f.IsAnonymous ∨ f.cls.isEngine = true ∧ f.errorType = none

variable {f f' : Fault}

theorem labelToken_of_anonymous (h : f.IsAnonymous) (token : String) : f.labelToken token = token := by
  unfold labelToken
  rcases h with h | h <;> rw [h]

theorem labelToken_of_not_anonymous (h : ¬ f.IsAnonymous) (token : String) :
    f.labelToken token = if f.cls.isEngine then ((f.errorType.map Text.lower).getD token) else "" := by
  unfold labelToken
  unfold IsAnonymous at h
  rcases hg : f.cls.generic with _ | _ | _ | _
  · rfl
  · exact absurd (.inl hg) h
  · exact absurd (.inr hg) h
  · rfl

theorem labelToken_of_takesToken (h : f.TakesToken) (token : String) : f.labelToken token = token := by
  by_cases ha : f.IsAnonymous
  · exact labelToken_of_anonymous ha token
  · obtain ⟨hengine, htype⟩ := h.resolve_left ha
    rw [labelToken_of_not_anonymous ha, if_pos hengine, htype]
    rfl

theorem labelToken_of_not_takesToken (h : ¬ f.TakesToken) (token token' : String) :
    f.labelToken token = f.labelToken token' := by
  unfold TakesToken at h
  rw [not_or, not_and] at h
  rw [labelToken_of_not_anonymous h.1, labelToken_of_not_anonymous h.1]
  cases hengine : f.cls.isEngine with
  | false => rfl
  | true =>
    obtain ⟨errorType, htype⟩ := Option.ne_none_iff_exists'.1 (h.2 hengine)
    rw [htype]
    rfl

namespace Alike

theorem refl (f : Fault) : f.Alike f := ⟨rfl, fun _ => rfl⟩

theorem rel_refl (fault : Option Fault) : Option.Rel Alike fault fault := by
  cases fault with
  | none => exact .none
  | some f => exact .some (refl f)

theorem labelToken_eq (h : f.Alike f') (token : String) : f'.labelToken token = f.labelToken token := by
  unfold labelToken
  rw [h.cls]
  by_cases he : f.cls.isEngine = true
  · rw [h.errorType he]
  · rw [if_neg he, if_neg he]

/-- The faults that give their names are the causes in both cases, or the faults themselves in both. -/
theorem named (h : f.Alike f') {cause cause' : Option Fault} (hcause : Option.Rel Alike cause cause') :
    (f.named cause).Alike (f'.named cause') := by
  unfold Fault.named
  rw [h.cls]
  cases f.cls.generic.isSome with
  | false => exact h
  | true =>
    cases hcause with
    | none => exact h
    | some hp => exact hp

/-- **Alike faults** with alike causes have the same label. -/
theorem label_eq (h : f.Alike f') {cause cause' : Option Fault} (hcause : Option.Rel Alike cause cause')
    (token : String) : f'.label cause' token = f.label cause token := by
  have hnamed := h.named hcause
  rw [label_eq_prettyLabel, label_eq_prettyLabel, hnamed.labelToken_eq, hnamed.cls]

end Alike

/-! ## The token and the cause -/

/-- Behind two different letters no text makes the same label. -/
theorem prettyLabel_token_ne (text : String) : prettyLabel ("A" ++ text) ≠ prettyLabel ("B" ++ text) := by
  intro h
  have hA : (prettyLabel ("A" ++ text)).toList = 'A' :: (stem text.toList ++ "Error".toList) :=
    toList_prettyLabel_of_cons String.toList_append (by decide) (by decide)
  have hB : (prettyLabel ("B" ++ text)).toList = 'B' :: (stem text.toList ++ "Error".toList) :=
    toList_prettyLabel_of_cons String.toList_append (by decide) (by decide)
  rw [h, hB] at hA
  exact absurd (List.cons.inj hA).1 (by decide)

/-- **The token does not matter** exactly if the fault that gives its names does not take it. -/
theorem label_forall_token_iff (f : Fault) (cause : Option Fault) :
    (∀ token token', f.label cause token = f.label cause token') ↔ ¬ (f.named cause).TakesToken := by
  simp only [label_eq_prettyLabel]
  constructor
  · intro h htakes
    have hletters := h "A" "B"
    rw [labelToken_of_takesToken htakes, labelToken_of_takesToken htakes] at hletters
    exact prettyLabel_token_ne _ hletters
  · intro h token token'
    rw [labelToken_of_not_takesToken h token token']

/-- **The cause does not matter** exactly if the class of the fault is none of those that say nothing. -/
theorem label_forall_cause_iff (f : Fault) (token : String) :
    (∀ cause cause', f.label cause token = f.label cause' token) ↔ f.cls.generic = none := by
  constructor
  · intro h
    cases hgeneric : f.cls.generic with
    | none => rfl
    | some generic =>
      -- causes of two ordinary classes give it two labels
      have hcause := h (some (.plain (.derive "A" .exception) [])) (some (.plain (.derive "B" .exception) []))
      simp only [label_eq_prettyLabel, named, hgeneric, Option.isSome_some, if_true, Option.getD_some] at hcause
      have hletters : prettyLabel ("" ++ "A") = prettyLabel ("" ++ "B") := hcause
      exact absurd hletters (by decide)
  · intro h cause cause'
    simp only [label_eq_prettyLabel, named, h, Option.isSome_none, Bool.false_eq_true, if_false]

end Fault

namespace FaultGraph

variable {g g' : FaultGraph} {i i' : Nat} {f f' : Fault}

theorem label_of_fault (hf : g.fault? i = some f) (token : String) :
    g.label i token = some (f.label (g.causeFault? i) token) := by
  unfold label
  rw [hf]
  rfl

/-- A fault alike can have any cause, or none. -/
theorem exists_caused (f : Fault) (cause : Option Fault) :
    ∃ (g : FaultGraph) (f' : Fault), g.fault? 0 = some f' ∧ f.Alike f' ∧ g.causeFault? 0 = cause := by
  cases cause with
  | none =>
    let f' := { f with cause := none, suppressesContext := true }
    exact ⟨⟨#[f']⟩, f', rfl, ⟨rfl, fun _ => rfl⟩, rfl⟩
  | some p =>
    let f' := { f with cause := some 1 }
    exact ⟨⟨#[f', p]⟩, f', rfl, ⟨rfl, fun _ => rfl⟩, rfl⟩

namespace Alike

theorem causeFault?_rel (h : g.Alike g') (i : Nat) : Option.Rel Fault.Alike (g.causeFault? i) (g'.causeFault? i) := by
  unfold causeFault?
  rw [h.causeOf_eq]
  cases g.causeOf i with
  | none => exact .none
  | some j => exact h.faults j

/-- **Alike graphs** have the same labels. -/
theorem label_eq (h : g.Alike g') (i : Nat) (token : String) : g'.label i token = g.label i token := by
  unfold label
  have hfault := h.faults i
  generalize g.fault? i = f, g'.fault? i = f' at hfault
  cases hfault with
  | none => rw [Option.map_none, Option.map_none]
  | some hf => exact congrArg some (hf.label_eq (h.causeFault?_rel i) token)

end Alike

/-- **Nothing but names shows in a label.**

* Any two faults of one class, and of one error type if they are structured, have the same label under every token, in
  whatever graphs they stand, if both have no cause or causes that are alike in the same sense: whatever their messages,
  how they are shown, their categories, and what caused their causes.
* The label is the same under every token exactly if the fault that gives its names is not anonymous, and not a
  structured one without an error type.
* The label is the same whatever the cause exactly if the class of the fault is none of those that say nothing. -/
theorem label_sees_names_alone (hf : g.fault? i = some f) :
    (∀ (g' : FaultGraph) (i' : Nat) (f' : Fault), g'.fault? i' = some f' → f.Alike f' →
        Option.Rel Fault.Alike (g.causeFault? i) (g'.causeFault? i') →
          ∀ token, ∃ label, g.label i token = some label ∧ g'.label i' token = some label) ∧
      ((∀ token token', g.label i token = g.label i token') ↔ ¬ (f.named (g.causeFault? i)).TakesToken) ∧
      ((∀ (g' : FaultGraph) (i' : Nat) (f' : Fault), g'.fault? i' = some f' → f.Alike f' →
        ∀ token, g'.label i' token = g.label i token) ↔ f.cls.generic = none) := by
  refine ⟨fun g' i' f' hf' halike hcause token => ?_, ?_, ?_⟩
  · refine ⟨_, label_of_fault hf token, ?_⟩
    rw [label_of_fault hf', halike.label_eq hcause]
  · rw [← Fault.label_forall_token_iff]
    simp only [label_of_fault hf, Option.some.injEq]
  · constructor
    · intro h
      -- whatever the cause, a fault alike stands with it in some graph
      have hone : ∀ cause, f.label cause "" = f.label (g.causeFault? i) "" := by
        intro cause
        obtain ⟨g', f', hf', halike, rfl⟩ := exists_caused f cause
        have hlabel := h g' 0 f' hf' halike ""
        rw [label_of_fault hf, label_of_fault hf', Option.some.injEq] at hlabel
        rw [← hlabel, halike.label_eq (Fault.Alike.rel_refl _)]
      rw [← Fault.label_forall_cause_iff f ""]
      intro cause cause'
      rw [hone cause, hone cause']
    · intro hgeneric g' i' f' hf' halike token
      rw [label_of_fault hf, label_of_fault hf', Option.some.injEq]
      calc f'.label (g'.causeFault? i') token
        _ = f'.label (g.causeFault? i) token :=
          (Fault.label_forall_cause_iff f' token).2 (halike.cls ▸ hgeneric) _ _
        _ = f.label (g.causeFault? i) token := halike.label_eq (Fault.Alike.rel_refl _) token

/-- A fault that says nothing, caused by a structured one with an error type. -/
def stuck : FaultGraph :=
  ⟨#[{ Fault.plain .exception [.text "gave up"] with cause := some 1 },
    { Fault.plain .engineError [.text "no column"] with errorType := some "PARSER" }]⟩

/-- The same in other words, with a category, and with a cause of the cause. -/
def stuckAgain : FaultGraph :=
  ⟨#[Fault.plain .engineError [],
    { Fault.plain .engineError [] with
      errorType := some "PARSER", category := some (.checked .other), cause := some 0 },
    { Fault.plain .exception [.null, .text "again"] with context := some 1 }]⟩

theorem label_sees_names_alone_stuck :
    (∀ token, ∃ label, stuck.label 0 token = some label ∧ stuckAgain.label 2 token = some label) ∧
      ∀ token token', stuck.label 0 token = stuck.label 0 token' := by
  obtain ⟨hwords, htoken, -⟩ := label_sees_names_alone (g := stuck) (i := 0) rfl
  constructor
  · exact hwords stuckAgain 2 _ rfl ⟨rfl, fun _ => rfl⟩ (.some ⟨rfl, fun _ => rfl⟩)
  · rw [htoken]
    rintro ((hnamed | hnamed) | ⟨-, hnamed⟩) <;> exact absurd hnamed (by decide)

end FaultGraph

end Triage
