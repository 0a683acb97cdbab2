import Triage.Proofs.Fault.Label

/-!
# How a label comes about

A label is made in steps: a fault that says nothing gives way to its cause, something is put before the class name, and
the name is given its capital letter and its ending. Each step is said here as a relation, without the function.

* `Fault.GivesWay`, `Fault.Fronted`: the fault that gives its names, and what stands before its class name.
* `FaultGraph.NameOf`: the name that these make; `nameOf_iff`: every fault has one.
* `label_iff_capitalFirst`: **a label is made in these steps**, the capital letter before the ending.
* `label_by_steps`: **with the ending before the capital letter it is the same label**, except of three names.
-/

namespace Triage

namespace Fault

variable {f p : Fault} {cause : Option Fault} {token front : String}

/-- A fault of a class that says nothing **gives way** to its cause, once. Every other fault keeps its place, and so
does a fault without a cause. -/
inductive GivesWay (f : Fault) : Option Fault → Fault → Prop where
  | cause {p : Fault} (generic : f.cls.generic ≠ none) : GivesWay f (some p) p
  | own {cause : Option Fault} (specific : f.cls.generic = none) : GivesWay f cause f
  | alone : GivesWay f none f

/-- What stands **before the class name**: the token for an anonymous fault, the error type in lower case for a
structured one, or the token if it has none, and nothing for any other. -/
inductive Fronted (f : Fault) (token : String) : String → Prop where
  | anonymous (anonymous : f.IsAnonymous) : Fronted f token token
  | typed {errorType : String} (specific : ¬ f.IsAnonymous) (engine : f.cls.isEngine = true)
    (typed : f.errorType = some errorType) : Fronted f token (Text.lower errorType)
  | untyped (specific : ¬ f.IsAnonymous) (engine : f.cls.isEngine = true) (untyped : f.errorType = none) :
    Fronted f token token
  | bare (specific : ¬ f.IsAnonymous) (other : f.cls.isEngine = false) : Fronted f token ""

theorem givesWay_iff : f.GivesWay cause p ↔ p = f.named cause := by
  unfold named
  constructor
  · intro h
    cases h with
    | cause generic => rw [if_pos (Option.isSome_iff_ne_none.2 generic), Option.getD_some]
    | own specific => rw [specific, Option.isSome_none, if_neg Bool.false_ne_true]
    | alone => rw [Option.getD_none, ite_self]
  · rintro rfl
    cases hgeneric : f.cls.generic with
    | none =>
      rw [Option.isSome_none, if_neg Bool.false_ne_true]
      exact .own hgeneric
    | some generic =>
      rw [Option.isSome_some, if_pos rfl]
      cases cause with
      | none => exact .alone
      | some p => exact .cause (hgeneric ▸ Option.some_ne_none generic)

theorem fronted_iff : p.Fronted token front ↔ front = p.labelToken token := by
  constructor
  · intro h
    cases h with
    | anonymous anonymous => rw [labelToken_of_anonymous anonymous]
    | typed specific engine typed =>
      rw [labelToken_of_not_anonymous specific, if_pos engine, typed]
      rfl
    | untyped specific engine untyped =>
      rw [labelToken_of_not_anonymous specific, if_pos engine, untyped]
      rfl
    | bare specific other => rw [labelToken_of_not_anonymous specific, other, if_neg Bool.false_ne_true]
  · rintro rfl
    by_cases hanonymous : p.IsAnonymous
    · rw [labelToken_of_anonymous hanonymous]
      exact .anonymous hanonymous
    rw [labelToken_of_not_anonymous hanonymous]
    cases hengine : p.cls.isEngine with
    | false => exact .bare hanonymous hengine
    | true =>
      rw [if_pos rfl]
      cases htype : p.errorType with
      | none => exact .untyped hanonymous hengine htype
      | some errorType => exact .typed hanonymous hengine htype

end Fault

namespace FaultGraph

variable {g : FaultGraph} {i : Nat} {f : Fault} {token : String}

/-- The **name** that the label of a fault is made from: the class name of the fault itself or of the one that it gives
way to, behind what stands before it. -/
inductive NameOf (g : FaultGraph) (i : Nat) (token : String) : String → Prop where
  | name {f p : Fault} {front : String} (fault : g.fault? i = some f) (way : f.GivesWay (g.causeFault? i) p)
    (fronted : p.Fronted token front) : NameOf g i token (front ++ p.cls.name)

/-- Every fault has **one name**, and its label is made from it. -/
theorem nameOf_iff (hf : g.fault? i = some f) {name : String} :
    g.NameOf i token name ↔
      name = (f.named (g.causeFault? i)).labelToken token ++ (f.named (g.causeFault? i)).cls.name := by
  constructor
  · intro h
    cases h with
    | name fault way fronted =>
      rw [hf, Option.some.injEq] at fault
      subst fault
      rw [Fault.givesWay_iff.1 way] at fronted ⊢
      rw [Fault.fronted_iff.1 fronted]
  · rintro rfl
    exact .name hf (Fault.givesWay_iff.2 rfl) (Fault.fronted_iff.2 rfl)

/-- **The label is made in these steps**: the name, its capital letter, its ending. -/
theorem label_iff_capitalFirst {name label : String} (h : g.NameOf i token name) :
    g.label i token = some label ↔ CapitalFirst name label := by
  rw [capitalFirst_iff]
  obtain ⟨fault, -, -⟩ := id h
  rw [nameOf_iff fault] at h
  rw [label_of_fault fault, Fault.label_eq_prettyLabel, ← h, Option.some.injEq]

/-- **A label with the ending seen to before the capital letter.** Every fault has one name, and that name has one label
in this order. It is the label of the fault, unless the name is one of the three that become an ending when they are
capitalised: nothing is left of these but `Error`, which is not what they get in this order. -/
theorem label_by_steps (hf : g.fault? i = some f) (token : String) :
    ∃ name, (∀ other, g.NameOf i token other ↔ other = name) ∧
      (∃ stated, ∀ label, EndingFirst name label ↔ label = stated) ∧
      (name ∉ lowerEndings → ∀ label, g.label i token = some label ↔ EndingFirst name label) ∧
      (name ∈ lowerEndings → g.label i token = some "Error" ∧ ¬ EndingFirst name "Error") := by
  obtain ⟨name, hname⟩ : ∃ name, ∀ other, g.NameOf i token other ↔ other = name := ⟨_, fun _ => nameOf_iff hf⟩
  have hlabel : ∀ label, g.label i token = some label ↔ prettyLabel name = label := fun label =>
    (label_iff_capitalFirst ((hname name).2 rfl)).trans capitalFirst_iff
  obtain ⟨stated, hstated⟩ := exists_endingFirst_iff name
  refine ⟨name, hname, ⟨stated, hstated⟩, ?_, ?_⟩
  · intro hnot label
    have hpretty : prettyLabel name = stated := (hstated _).1 (endingFirst_prettyLabel_iff.2 hnot)
    rw [hlabel, hstated, hpretty]
    exact eq_comm
  · intro hmem
    -- capitalised, the name is nothing but endings
    have herror : prettyLabel name = "Error" := prettyLabel_of_mem hmem
    refine ⟨(hlabel "Error").2 herror, ?_⟩
    rw [← herror]
    exact fun h => endingFirst_prettyLabel_iff.1 h hmem

/-- A fault that says nothing, caused by one of a structured class with an error type. -/
def late : FaultGraph :=
  ⟨#[{ Fault.plain ⟨"RuntimeError", .ordinary, some .runtime⟩ [.text "gave up"] with cause := some 1 },
    { Fault.plain (.derive "LateException" .engineError) [] with errorType := some "PARSER" }]⟩

theorem label_by_steps_late :
    late.NameOf 0 "Unrecognised" "parserLateException" ∧ EndingFirst "parserLateException" "ParserLateError" ∧
      late.label 0 "Unrecognised" = some "ParserLateError" := by
  obtain ⟨name, hname, -, hlabel, -⟩ := label_by_steps (g := late) (i := 0) rfl "Unrecognised"
  have hlate : late.NameOf 0 "Unrecognised" "parserLateException" := (nameOf_iff rfl).2 (by decide)
  have hpretty : late.label 0 "Unrecognised" = some "ParserLateError" := by decide
  obtain rfl := (hname _).1 hlate
  exact ⟨hlate, (hlabel (by decide) _).1 hpretty, hpretty⟩

/-- A fault of a class that is named like the ending in small letters. -/
def small : FaultGraph := ⟨#[Fault.plain (.derive "error" .exception) [.text "bad escape"]]⟩

/-- With the ending first it would be labelled `ErrorError`. -/
theorem label_not_by_steps_small :
    small.NameOf 0 "Unrecognised" "error" ∧ (∀ label, EndingFirst "error" label ↔ label = "ErrorError") ∧
      small.label 0 "Unrecognised" = some "Error" := by
  refine ⟨(nameOf_iff rfl).2 (by decide), fun label => ?_, by decide⟩
  have hlist : capitalize (stem "error".toList) ++ "Error".toList = "ErrorError".toList := by decide
  rw [endingFirst_iff, hlist, String.toList_inj]

end FaultGraph

end Triage
