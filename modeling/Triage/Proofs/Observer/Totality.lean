import Triage.Proofs.Fault.Label
import Triage.Proofs.Observer.Answer
import Triage.Proofs.Observer.UnknownCategory
import Triage.Proofs.Taxonomy.Compilation

/-!
# Classifying always answers

Once the taxonomy is there, nothing that a fault holds makes classifying fail, as long as the categories that were given
are legal. What is answered comes from a known vocabulary, and a fault that cannot be shown counts as one without a
message.

* `Taxonomy.Knows`: a category is one of the taxonomy or a standard one; `verdict_known`: an observer always comes to
  such a category.
* `isSuffix_prettyLabel`: every label has the same ending.
* `FaultGraph.quieted`: the graph in which a message that cannot be shown is empty. Walks, given categories, selections
  and labels are the same in it.
* `classify_always_answers`: **a proper call is always answered**, within the vocabulary, and as if every message could
  be shown.
-/

namespace Triage

/-! ## The vocabulary -/

/-- A category that classifying with a taxonomy may come to. -/
def Taxonomy.Knows (t : Taxonomy) (category : String) : Prop :=
  category ∈ t.names ∨ ∃ k : StandardCategory, category = k.name

/-- What a taxonomy selects is one of its categories. -/
theorem Taxonomy.mem_names_of_matchFault {t : Taxonomy} {f : Fault} {x : Selection} (h : t.matchFault f = some x) :
    x.category ∈ t.names := by
  obtain ⟨m, n, c, hleads, rfl⟩ := matchFault_eq_some_iff.1 h
  exact List.mem_map_of_mem (List.mem_of_getElem? hleads.selects.1)

/-- **A classifier always answers** on legal faults, within the vocabulary. -/
theorem Classifier.classify_known (cl : Classifier) {g : FaultGraph} (hg : g.IsLegal) (i : Nat) :
    ∃ v, cl.classify g i = .ok v ∧ cl.taxonomy.Knows v.category := by
  unfold classify Taxonomy.classify
  rw [Taxonomy.firstVerdict_eq (hg.walkFaults i cl.depthLimit)]
  cases hv : (g.walkFaults i cl.depthLimit).findSome? cl.taxonomy.verdict? with
  | none => exact ⟨_, rfl, .inr ⟨.unknown, rfl⟩⟩
  | some v =>
    refine ⟨v, rfl, ?_⟩
    obtain ⟨before, f, after, -, hf, -⟩ := List.findSome?_eq_some_iff.1 hv
    cases hgiven : f.givenCategory? with
    | some k =>
      rw [Taxonomy.verdict?_of_given hgiven] at hf
      cases hf
      exact .inr ⟨k, rfl⟩
    | none =>
      rw [Taxonomy.verdict?_of_ungiven hgiven, Option.map_eq_some_iff] at hf
      obtain ⟨x, hx, rfl⟩ := hf
      exact .inl (Taxonomy.mem_names_of_matchFault hx)

/-- **An observer always comes to a category** on legal faults, within the vocabulary. -/
theorem Observer.verdict_known (o : Observer) (cl : Classifier) {g : FaultGraph} (hg : g.IsLegal) (i : Nat) :
    ∃ v, o.verdict (o.consulted cl) g i = .ok v ∧ cl.taxonomy.Knows v.category := by
  unfold verdict
  rw [findExplicit_eq (hg.walkFaults i o.depthLimit)]
  cases (g.walkFaults i o.depthLimit).findSome? Fault.givenCategory? with
  | some k => exact ⟨_, rfl, .inr ⟨k, rfl⟩⟩
  | none =>
    cases he : o.categorises with
    | false =>
      rw [consulted_of_disabled he]
      exact ⟨_, rfl, .inr ⟨.unknown, rfl⟩⟩
    | true =>
      rw [consulted_of_enabled he]
      exact cl.classify_known hg i

/-! ## Labels and services -/

/-- **Every label ends alike.** -/
theorem isSuffix_prettyLabel (name : String) : "Error".toList <:+ (prettyLabel name).toList := by
  rw [toList_prettyLabel]
  exact List.suffix_append _ _

/-- The label of a fault of the graph. -/
theorem FaultGraph.isSuffix_label {g : FaultGraph} {i : Nat} {f : Fault} (hf : g.fault? i = some f) (token : String) :
    "Error".toList <:+ ((g.label i token).getD "").toList := by
  unfold label
  rw [hf]
  exact isSuffix_prettyLabel _

/-- A service that is a text, or none at all, is fit to be counted. -/
theorem Observer.checkService_eq_ok {v : Value} (h : v = .null ∨ ∃ text, v = .text text) :
    ∃ service, checkService v = .ok service := by
  rcases h with rfl | ⟨text, rfl⟩
  · exact ⟨noService, rfl⟩
  · exact ⟨text, rfl⟩

/-! ## Messages that cannot be shown -/

/-- The fault with an empty message in place of one that cannot be shown. -/
def Fault.quieted (f : Fault) : Fault := { f with message := .text f.matchText }

/-- The graph with an empty message in place of each one that cannot be shown. -/
def FaultGraph.quieted (g : FaultGraph) : FaultGraph := ⟨g.faults.map Fault.quieted⟩

theorem Fault.explicitCategory_quieted (f : Fault) : f.quieted.explicitCategory = f.explicitCategory := rfl

/-- Matching takes a message that cannot be shown for an empty one. -/
theorem Fault.matchFault_quieted (t : Taxonomy) (f : Fault) : t.matchFault f.quieted = t.matchFault f := rfl

theorem Fault.alike_quieted (f : Fault) : f.Alike f.quieted := ⟨rfl, fun _ => rfl⟩

namespace FaultGraph

variable (g : FaultGraph)

theorem fault?_quieted (i : Nat) : g.quieted.fault? i = (g.fault? i).map Fault.quieted := by
  unfold fault? quieted
  rw [Array.getElem?_map]

theorem sameLinks_quieted : g.SameLinks g.quieted where
  size := Array.size_map
  link i := by
    rw [fault?_quieted]
    cases g.fault? i <;> rfl

/-- **The walk stays**, and each of its faults is quieted. -/
theorem walkFaults_quieted (i : Nat) (limit : Int) :
    g.quieted.walkFaults i limit = (g.walkFaults i limit).map Fault.quieted := by
  unfold walkFaults
  rw [g.sameLinks_quieted.walk_eq, List.map_filterMap]
  exact List.filterMap_congr fun j _ => g.fault?_quieted j

/-- **The labels stay**: they have nothing to do with messages. -/
theorem alike_quieted : g.Alike g.quieted where
  toSameLinks := g.sameLinks_quieted
  faults i := by
    rw [fault?_quieted]
    cases g.fault? i with
    | none => exact .none
    | some f => exact .some f.alike_quieted

end FaultGraph

/-- **The category that was given stays.** -/
theorem findExplicit_quieted (fs : List Fault) : findExplicit (fs.map Fault.quieted) = findExplicit fs := by
  rw [findExplicit_eq_firstAnswer, findExplicit_eq_firstAnswer]
  exact firstAnswer_map Fault.explicitCategory_quieted fs

/-- **The answer of a taxonomy stays.** -/
theorem Taxonomy.firstVerdict_quieted (t : Taxonomy) (fs : List Fault) :
    t.firstVerdict (fs.map Fault.quieted) = t.firstVerdict fs := by
  rw [firstVerdict_eq_firstAnswer, firstVerdict_eq_firstAnswer]
  refine firstAnswer_map (fun f => ?_) fs
  unfold answer
  rw [f.explicitCategory_quieted, f.matchFault_quieted]

namespace Observer

variable {o : Observer} {s : State}

theorem verdict_quieted (o : Observer) (classifier : Option Classifier) (g : FaultGraph) (i : Nat) :
    o.verdict classifier g.quieted i = o.verdict classifier g i := by
  have hclassify (cl : Classifier) : cl.classify g.quieted i = cl.classify g i := by
    unfold Classifier.classify Taxonomy.classify
    rw [g.walkFaults_quieted, Taxonomy.firstVerdict_quieted]
  unfold verdict
  rw [g.walkFaults_quieted, findExplicit_quieted]
  cases classifier with
  | none => rfl
  | some cl => simp only [hclassify]

/-- **Classifying does not mind a message that cannot be shown**, in any state. -/
theorem classify_quieted (o : Observer) (s : State) (origin : Origin) (g : FaultGraph) (i : Nat) (service : Value) :
    (o.classify ⟨origin, g.quieted, .fault i, service⟩).on s = (o.classify ⟨origin, g, .fault i, service⟩).on s :=
  classify_congr (g.alike_quieted.label_eq i) fun cl _ => o.verdict_quieted cl g i

/-- **A proper call is always answered.** Let the taxonomy be there, let all categories that were given to the faults of
a graph be legal, and let the origin have a name and the service be a text or nothing. Whatever else the faults hold,
and whether or not they can be shown:

* classifying answers with a series; its category is one of the taxonomy or a standard one, its label ends in `Error`,
  and origin and service are those of the call;
* the classifier answers, also if every pattern is compiled only when it is searched for: compiling never fails;
* the answer, and the state that is left, are the same as with an empty message in place of each one that cannot be
  shown. -/
theorem classify_always_answers {cl : Classifier} (hs : s.stage = .ready cl) (origin : Origin) {g : FaultGraph}
    {i : Nat} {f : Fault} (hf : g.fault? i = some f) (hg : g.IsLegal) {source : String}
    (hsource : origin.source = .ok source) {service : Value} (hservice : service = .null ∨ ∃ text, service = .text text) :
    (∃ u, ((o.classify ⟨origin, g, .fault i, service⟩).on s).1 = .ok u ∧ cl.taxonomy.Knows u.category ∧
        "Error".toList <:+ u.label.toList ∧ u.source = source ∧ checkService service = .ok u.service) ∧
      (∃ v, cl.classifyAnew g i = .ok (.ok v) ∧ cl.classify g i = .ok v) ∧
      (o.classify ⟨origin, g.quieted, .fault i, service⟩).on s =
        (o.classify ⟨origin, g, .fault i, service⟩).on s := by
  obtain ⟨name, hname⟩ := checkService_eq_ok hservice
  obtain ⟨v, hv, hknown⟩ := o.verdict_known cl hg i
  obtain ⟨w, hw, -⟩ := cl.classify_known hg i
  refine ⟨?_, ⟨w, by rw [cl.classifyAnew_eq, hw], hw⟩, o.classify_quieted s origin g i service⟩
  have hconsulted : (o.classifier?.on s).1 = .ok (o.consulted cl) := by rw [classifier?_of_ready hs]
  have hanswer := classify_on_verdict (c := ⟨origin, g, .fault i, service⟩) hconsulted rfl hv
  rw [Call.answer_eq_ok rfl hsource hname] at hanswer
  exact ⟨_, hanswer, hknown, FaultGraph.isSuffix_label hf source, rfl, hname⟩

end Observer

/-- A structured fault with an error type, whose message cannot be shown, and a fault with a boom, which cannot be shown
as a cause; each one has caused the other. -/
def FaultGraph.muteRing : FaultGraph where
  faults :=
    #[{ Fault.plain (.derive "PlanFailure" .engineError) [] with
        message := .broken "broken str", errorType := some "PARSER", cause := some 1 },
      { Fault.plain (.derive "ValueError" .exception) [.text "a boom"] with
        shown := .broken "broken repr", cause := some 0 }]

/-- The fault is answered for under its error type, and with the category that its cause is selected for. -/
theorem classify_always_answers_muteRing :
    FaultGraph.muteRing.IsLegal ∧
      ((Observer.standard.classify ⟨.callSite .compileModel, .muteRing, .fault 0, .text "plans"⟩).on
        .rivals).1.toOption = some ⟨"ParserPlanFailureError", "LateError", "CompileModel", "plans"⟩ ∧
      Taxonomy.rivals.Knows "LateError" ∧
      (∃ v, (Observer.standard.classifierOf .rivals).classifyAnew .muteRing 0 = .ok (.ok v)) ∧
      ((Observer.standard.classify ⟨.callSite .compileModel, FaultGraph.muteRing.quieted, .fault 0,
        .text "plans"⟩).on .rivals).1.toOption =
          some ⟨"ParserPlanFailureError", "LateError", "CompileModel", "plans"⟩ := by
  have hg : FaultGraph.muteRing.IsLegal := by decide +kernel
  obtain ⟨⟨u, hu, hknown, -⟩, ⟨v, hv, -⟩, hquieted⟩ :=
    Observer.classify_always_answers (o := .standard) (s := .rivals) rfl (.callSite .compileModel)
      (g := .muteRing) (i := 0) rfl hg rfl (.inr ⟨"plans", rfl⟩)
  have hanswer : ((Observer.standard.classify ⟨.callSite .compileModel, .muteRing, .fault 0, .text "plans"⟩).on
      .rivals).1.toOption = some ⟨"ParserPlanFailureError", "LateError", "CompileModel", "plans"⟩ := by decide +kernel
  refine ⟨hg, hanswer, ?_, ⟨v, hv⟩, by rw [hquieted, hanswer]⟩
  rw [hu] at hanswer
  obtain rfl : u = ⟨"ParserPlanFailureError", "LateError", "CompileModel", "plans"⟩ := Option.some.inj hanswer
  exact hknown

end Triage
