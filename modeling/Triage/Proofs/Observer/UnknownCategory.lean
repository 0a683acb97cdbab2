import Triage.Fault.Build
import Triage.Proofs.Fault.Label
import Triage.Proofs.Observer.Category

/-!
# The unknown category

The unknown category says that no category was given, and a structured fault that has it is meant to be treated as one
that has none. So it is, unless the bare name of the category was put on the fault after it was made: a name is taken
for a category that was given.

* `UnknownForm`: the category itself, which is also what an argument of that name is turned into, or its bare name.
* `FaultGraph.withUnknown`, `FaultGraph.withNone`: two graphs to be compared, which differ in the category of the
  marked faults.
* `FaultGraph.ComesToName`: a search along a walk comes to a fault with the bare name.
* `firstAnswer_withUnknown`: **what a search finds** on the two graphs.
* `unknown_given_only_by_name`: a given category, the answer of a classifier and that of an observer are the same on
  both graphs, **unless the search comes to a bare name**; then they are the unknown category.
-/

namespace Triage

/-- The two forms in which the unknown category stands on a fault. -/
inductive UnknownForm where
  /-- The category itself. -/
  | category
  /-- Its name, put there afterwards as it is. -/
  | name
  deriving DecidableEq, Repr

/-- The unknown category as it stands on a fault. -/
def UnknownForm.assigned : UnknownForm → AssignedCategory
  | category => .checked .unknown
  | name => .unchecked (.text StandardCategory.unknown.name)

/-- The fault with another category, if one is given here. Only a structured fault takes it. -/
def Fault.recategorised (f : Fault) : Option (Option AssignedCategory) → Fault
  | some a => if f.cls.isEngine then { f with category := a } else f
  | none => f

namespace FaultGraph

/-- The graph in which the faults at some positions have another category. -/
def recategorise (g : FaultGraph) (change : Nat → Option (Option AssignedCategory)) : FaultGraph :=
  ⟨g.faults.mapIdx fun i f => f.recategorised (change i)⟩

/-- The graph with the unknown category on the marked faults, each in its form. -/
def withUnknown (g : FaultGraph) (forms : Nat → Option UnknownForm) : FaultGraph :=
  g.recategorise fun i => (forms i).map fun form => some form.assigned

/-- The graph without a category on the marked faults. -/
def withNone (g : FaultGraph) (forms : Nat → Option UnknownForm) : FaultGraph :=
  g.recategorise fun i => (forms i).map fun _ => none

end FaultGraph

/-! ## What another category leaves alone -/

section Recategorise

variable (f : Fault) (g : FaultGraph)

/-- All but the category stays. -/
theorem Fault.recategorised_eq (a : Option (Option AssignedCategory)) :
    ∃ category, f.recategorised a = { f with category } := by
  unfold recategorised
  cases a with
  | none => exact ⟨f.category, rfl⟩
  | some a =>
    cases f.cls.isEngine with
    | false => exact ⟨f.category, rfl⟩
    | true => exact ⟨a, rfl⟩

theorem Fault.matchFault_recategorised (t : Taxonomy) (a : Option (Option AssignedCategory)) :
    t.matchFault (f.recategorised a) = t.matchFault f := by
  obtain ⟨category, h⟩ := f.recategorised_eq a
  rw [h]
  rfl

theorem Fault.alike_recategorised (a : Option (Option AssignedCategory)) : f.Alike (f.recategorised a) := by
  obtain ⟨category, h⟩ := f.recategorised_eq a
  rw [h]
  exact ⟨rfl, fun _ => rfl⟩

namespace FaultGraph

variable (change : Nat → Option (Option AssignedCategory))

theorem fault?_recategorise (i : Nat) :
    (g.recategorise change).fault? i = (g.fault? i).map fun f => f.recategorised (change i) := by
  unfold fault? recategorise
  rw [Array.getElem?_mapIdx]

/-- **The links stay**, and with them every walk. -/
theorem sameLinks_recategorise : g.SameLinks (g.recategorise change) where
  size := Array.size_mapIdx
  link i := by
    rw [fault?_recategorise]
    cases g.fault? i with
    | none => rfl
    | some f =>
      obtain ⟨category, h⟩ := f.recategorised_eq (change i)
      rw [Option.map_some, h]
      rfl

/-- **The labels stay.** -/
theorem alike_recategorise : g.Alike (g.recategorise change) where
  toSameLinks := g.sameLinks_recategorise change
  faults i := by
    rw [fault?_recategorise]
    cases g.fault? i with
    | none => exact .none
    | some f => exact .some (f.alike_recategorised (change i))

end FaultGraph

end Recategorise

/-! ## What the bare name does -/

section Search

variable {α β ε : Type}

/-- The first answer of a question that is put to several in turn; an error ends the search. -/
def firstAnswer (ask : α → Except ε (Option β)) : List α → Except ε (Option β)
  | [] => .ok none
  | a :: as =>
    match ask a with
    | .error e => .error e
    | .ok (some b) => .ok (some b)
    | .ok none => firstAnswer ask as

/-- A change of those who are asked that no answer shows does not matter. -/
theorem firstAnswer_map {ask : α → Except ε (Option β)} {change : α → α} (h : ∀ a, ask (change a) = ask a)
    (as : List α) : firstAnswer ask (as.map change) = firstAnswer ask as := by
  induction as with
  | nil => rfl
  | cons a as ih => rw [List.map_cons, firstAnswer, firstAnswer, h, ih]

theorem findExplicit_eq_firstAnswer (fs : List Fault) : findExplicit fs = firstAnswer Fault.explicitCategory fs := by
  induction fs with
  | nil => rfl
  | cons f fs ih =>
    rw [findExplicit, firstAnswer, ih]
    rcases f.explicitCategory with e | _ | c <;> rfl

/-- What a taxonomy answers for a single fault. -/
def Taxonomy.answer (t : Taxonomy) (f : Fault) : Except IllegalCategory (Option Taxonomy.Verdict) :=
  match f.explicitCategory with
  | .error e => .error e
  | .ok (some c) => .ok (some ⟨c.name, none⟩)
  | .ok none => .ok ((t.matchFault f).map fun s => ⟨s.category, some s⟩)

theorem Taxonomy.firstVerdict_eq_firstAnswer (t : Taxonomy) (fs : List Fault) :
    t.firstVerdict fs = firstAnswer t.answer fs := by
  induction fs with
  | nil => rfl
  | cons f fs ih =>
    rw [firstVerdict, firstAnswer, answer, ih]
    rcases f.explicitCategory with e | _ | c
    · rfl
    · cases t.matchFault f <;> rfl
    · rfl

/-- A search along a walk comes to a structured fault with the bare name of the unknown category: what stands before
it would answer nothing without the marks. -/
inductive FaultGraph.ComesToName (g : FaultGraph) (forms : Nat → Option UnknownForm)
    (ask : Fault → Except ε (Option β)) : List Nat → Prop where
  | here {j : Nat} {js : List Nat} {f : Fault} (fault : g.fault? j = some f) (engine : f.cls.isEngine = true)
      (name : forms j = some .name) : ComesToName g forms ask (j :: js)
  | later {j : Nat} {js : List Nat} (silent : ∀ f ∈ (g.withNone forms).fault? j, ask f = .ok none)
      (rest : ComesToName g forms ask js) : ComesToName g forms ask (j :: js)

variable {g : FaultGraph} {forms : Nat → Option UnknownForm} {ask : Fault → Except ε (Option β)} {unknown : β}

/-- A question that is answered alike with the unknown category and without any, but for the bare name: that is taken
for an answer. -/
structure TakesName (ask : Fault → Except ε (Option β)) (unknown : β) : Prop where
  category : ∀ f : Fault, ask (f.recategorised (some (some UnknownForm.category.assigned))) =
    ask (f.recategorised (some none))
  name : ∀ f : Fault, f.cls.isEngine = true →
    ask (f.recategorised (some (some UnknownForm.name.assigned))) = .ok (some unknown)

/-- Only a structured fault takes another category. -/
theorem Fault.recategorised_of_plain {f : Fault} (h : ¬ f.cls.isEngine = true)
    (a : Option (Option AssignedCategory)) : f.recategorised a = f := by
  cases a with
  | none => rfl
  | some a => exact if_neg h

/-- A fault without the bare name answers alike on both graphs. -/
theorem TakesName.ask_eq (h : TakesName ask unknown) {f : Fault} {form : Option UnknownForm}
    (hname : ¬ (f.cls.isEngine = true ∧ form = some .name)) :
    ask (f.recategorised (form.map fun form => some form.assigned)) =
      ask (f.recategorised (form.map fun _ => none)) := by
  rcases form with _ | _ | _
  · rfl
  · exact h.category f
  · have hplain : ¬ f.cls.isEngine = true := fun he => hname ⟨he, rfl⟩
    rw [Fault.recategorised_of_plain hplain, Fault.recategorised_of_plain hplain]

/-- **What a search finds** on the two graphs: the unknown category where it comes to a bare name, and the same on
both where it does not. -/
theorem firstAnswer_withUnknown (h : TakesName ask unknown) (g : FaultGraph) (forms : Nat → Option UnknownForm)
    (js : List Nat) :
    (g.ComesToName forms ask js →
        firstAnswer ask (js.filterMap (g.withUnknown forms).fault?) = .ok (some unknown)) ∧
      (¬ g.ComesToName forms ask js →
        firstAnswer ask (js.filterMap (g.withUnknown forms).fault?) =
          firstAnswer ask (js.filterMap (g.withNone forms).fault?)) := by
  induction js with
  | nil => exact ⟨fun hc => (nomatch hc), fun _ => rfl⟩
  | cons j js ih =>
    have hsome : (g.withUnknown forms).fault? j = _ := g.fault?_recategorise _ j
    have hnone : (g.withNone forms).fault? j = _ := g.fault?_recategorise _ j
    rw [List.filterMap_cons, List.filterMap_cons, hsome, hnone]
    cases hf : g.fault? j with
    | none =>
      -- nobody is asked here, so the search comes to a name exactly if it does so later
      refine ⟨fun hc => ?_, fun hc => ih.2 fun hrest => hc (.later (by simp [hnone, hf]) hrest)⟩
      cases hc with
      | here fault => rw [hf] at fault; cases fault
      | later _ rest => exact ih.1 rest
    | some f =>
      rw [hf, Option.map_some] at hnone
      dsimp only [Option.map_some]
      by_cases hname : f.cls.isEngine = true ∧ forms j = some .name
      · refine ⟨fun _ => ?_, fun hc => absurd (.here hf hname.1 hname.2) hc⟩
        rw [firstAnswer, hname.2, Option.map_some, h.name f hname.1]
      · rw [firstAnswer, firstAnswer, h.ask_eq hname]
        have hlater : g.ComesToName forms ask (j :: js) →
            ask (f.recategorised ((forms j).map fun _ => none)) = .ok none ∧ g.ComesToName forms ask js := by
          intro hc
          cases hc with
          | here fault engine name =>
            rw [hf] at fault
            cases fault
            exact absurd ⟨engine, name⟩ hname
          | later silent rest => exact ⟨silent _ hnone, rest⟩
        -- the search goes on only behind a fault that answers nothing
        cases hask : ask (f.recategorised ((forms j).map fun _ => none)) with
        | error e =>
          refine ⟨fun hc => ?_, fun _ => rfl⟩
          cases hask.symm.trans (hlater hc).1
        | ok answer =>
          cases answer with
          | some b =>
            refine ⟨fun hc => ?_, fun _ => rfl⟩
            cases hask.symm.trans (hlater hc).1
          | none =>
            refine ⟨fun hc => ih.1 (hlater hc).2, fun hc => ih.2 fun hrest => hc (.later ?_ hrest)⟩
            intro p hp
            rw [hnone] at hp
            exact Option.some.inj hp ▸ hask

/-- What a search comes to, it also comes to with a question that has fewer answers. -/
theorem FaultGraph.ComesToName.mono {β' : Type} {ask' : Fault → Except ε (Option β')}
    (h : ∀ f, ask f = .ok none → ask' f = .ok none) {js : List Nat} (hc : g.ComesToName forms ask js) :
    g.ComesToName forms ask' js := by
  induction hc with
  | here fault engine name => exact .here fault engine name
  | later silent _ ih => exact .later (fun f hf => h f (silent f hf)) ih

/-- Without bare names no search comes to one. -/
theorem FaultGraph.not_comesToName (h : ∀ j, forms j ≠ some .name) (js : List Nat) :
    ¬ g.ComesToName forms ask js := by
  intro hc
  induction hc with
  | here _ _ name => exact h _ name
  | later _ _ ih => exact ih

/-- A search ends with an answer exactly if somebody gives it, and all before him answer nothing. -/
theorem firstAnswer_eq_some_iff {ask : α → Except ε (Option β)} {as : List α} {b : β} :
    firstAnswer ask as = .ok (some b) ↔ ∃ before a after, as = before ++ a :: after ∧
      (∀ p ∈ before, ask p = .ok none) ∧ ask a = .ok (some b) := by
  induction as with
  | nil => simp [firstAnswer]
  | cons a as ih =>
    have hhead (h : ask a ≠ .ok none) : (∃ before c after, a :: as = before ++ c :: after ∧
        (∀ p ∈ before, ask p = .ok none) ∧ ask c = .ok (some b)) ↔ ask a = .ok (some b) := by
      constructor
      · rintro ⟨_ | ⟨d, before⟩, c, after, hsplit, hsilent, hc⟩
        · cases hsplit
          exact hc
        · cases hsplit
          exact absurd (hsilent a (by simp)) h
      · exact fun hb => ⟨[], a, as, rfl, by simp, hb⟩
    rw [firstAnswer]
    cases hask : ask a with
    | error e => rw [hhead (by rw [hask]; simp), hask]
    | ok answer =>
      cases answer with
      | some c => rw [hhead (by rw [hask]; simp), hask]
      | none =>
        dsimp only
        rw [ih]
        constructor
        · rintro ⟨before, c, after, rfl, hsilent, hc⟩
          exact ⟨a :: before, c, after, rfl, List.forall_mem_cons.2 ⟨hask, hsilent⟩, hc⟩
        · rintro ⟨_ | ⟨d, before⟩, c, after, hsplit, hsilent, hc⟩
          · cases hsplit
            cases hask.symm.trans hc
          · cases hsplit
            exact ⟨before, c, after, rfl, fun p hp => hsilent p (by simp [hp]), hc⟩

end Search

/-! ## The questions that are asked -/

theorem Fault.recategorised_of_engine {f : Fault} (h : f.cls.isEngine = true) (a : Option AssignedCategory) :
    f.recategorised (some a) = { f with category := a } :=
  if_pos h

/-- The category that a fault was given takes the bare name for one. -/
theorem takesName_explicitCategory : TakesName Fault.explicitCategory StandardCategory.unknown where
  category f := by
    by_cases he : f.cls.isEngine = true
    · rw [Fault.recategorised_of_engine he, Fault.recategorised_of_engine he]
      unfold Fault.explicitCategory
      rw [if_pos he, if_pos he]
      rfl
    · rw [Fault.recategorised_of_plain he, Fault.recategorised_of_plain he]
  name f he := by
    rw [Fault.recategorised_of_engine he]
    unfold Fault.explicitCategory
    rw [if_pos he]
    rfl

/-- So does what a taxonomy answers. -/
theorem takesName_answer (t : Taxonomy) :
    TakesName t.answer ⟨StandardCategory.unknown.name, none⟩ where
  category f := by
    unfold Taxonomy.answer
    rw [takesName_explicitCategory.category, f.matchFault_recategorised, f.matchFault_recategorised]
  name f he := by
    unfold Taxonomy.answer
    rw [takesName_explicitCategory.name f he]

/-- A fault of which a taxonomy says nothing was given no category. -/
theorem explicitCategory_of_answer {t : Taxonomy} {f : Fault} (h : t.answer f = .ok none) :
    f.explicitCategory = .ok none := by
  unfold Taxonomy.answer at h
  rcases he : f.explicitCategory with e | _ | c
  · rw [he] at h
    cases h
  · rfl
  · rw [he] at h
    cases h

theorem StandardCategory.ofName?_eq_some_iff {name : String} {c : StandardCategory} :
    ofName? name = some c ↔ name = c.name := by
  constructor
  · intro h
    exact (beq_iff_eq.1 (List.find?_some (p := fun c : StandardCategory => c.name == name) h)).symm
  · rintro rfl
    cases c <;> rfl

theorem StandardCategory.ofValue?_eq_some_iff {v : Value} {c : StandardCategory} :
    ofValue? v = some c ↔ v = .text c.name := by
  cases v with
  | text name =>
    show ofName? name = some c ↔ _
    rw [ofName?_eq_some_iff, Value.text.injEq]
  | _ => simp [ofValue?]

/-- **The unknown category counts as given** exactly if it stands on a structured fault by its bare name. -/
theorem explicitCategory_eq_unknown_iff {f : Fault} :
    f.explicitCategory = .ok (some .unknown) ↔
      f.cls.isEngine = true ∧ f.category = some UnknownForm.name.assigned := by
  unfold Fault.explicitCategory UnknownForm.assigned
  by_cases he : f.cls.isEngine = true
  · rw [if_pos he]
    rcases f.category with _ | ⟨c⟩ | ⟨v⟩
    · simp
    · cases c <;> simp
    · have hv := StandardCategory.ofValue?_eq_some_iff (v := v) (c := .unknown)
      dsimp only
      rw [Option.some.injEq, AssignedCategory.unchecked.injEq, ← hv]
      cases StandardCategory.ofValue? v <;> simp [he]
  · rw [if_neg he]
    simp [he]

/-- An argument by the name of the unknown category is turned into the category itself. -/
theorem buildEngine_unknown (cls : FaultClass) (args : List Value) (errorType : Option Value) :
    Fault.buildEngine cls args ⟨some (.text StandardCategory.unknown.name), errorType⟩ =
      (Fault.buildEngine cls args ⟨none, errorType⟩).map fun f =>
        { f with category := some UnknownForm.category.assigned } := by
  unfold Fault.buildEngine
  by_cases hlen : 1 < args.length
  · rw [if_pos hlen, if_pos hlen]
    rfl
  · rw [if_neg hlen, if_neg hlen]
    rcases errorType with _ | v
    · rfl
    · cases v with
      | null => rfl
      | text name =>
        dsimp only
        cases EnginePhase.ofValue? (.text name) <;> rfl
      | _ => rfl

/-! ## The three answers -/

section Answers

variable {g : FaultGraph} {forms : Nat → Option UnknownForm} {i : Nat}

theorem FaultGraph.walkFaults_recategorise (g : FaultGraph) (change : Nat → Option (Option AssignedCategory))
    (i : Nat) (limit : Int) :
    (g.recategorise change).walkFaults i limit = (g.walk i limit).filterMap (g.recategorise change).fault? := by
  unfold walkFaults
  rw [(g.sameLinks_recategorise change).walk_eq]

/-- **The category that was given along a walk.** -/
theorem findExplicit_withUnknown (limit : Int) :
    (g.ComesToName forms Fault.explicitCategory (g.walk i limit) →
        findExplicit ((g.withUnknown forms).walkFaults i limit) = .ok (some .unknown)) ∧
      (¬ g.ComesToName forms Fault.explicitCategory (g.walk i limit) →
        findExplicit ((g.withUnknown forms).walkFaults i limit) =
          findExplicit ((g.withNone forms).walkFaults i limit)) := by
  unfold FaultGraph.withUnknown FaultGraph.withNone
  rw [FaultGraph.walkFaults_recategorise, FaultGraph.walkFaults_recategorise, findExplicit_eq_firstAnswer,
    findExplicit_eq_firstAnswer]
  exact firstAnswer_withUnknown takesName_explicitCategory g forms _

/-- **The answer of a classifier.** -/
theorem classify_withUnknown (cl : Classifier) :
    (g.ComesToName forms cl.taxonomy.answer (g.walk i cl.depthLimit) →
        cl.classify (g.withUnknown forms) i = .ok ⟨StandardCategory.unknown.name, none⟩) ∧
      (¬ g.ComesToName forms cl.taxonomy.answer (g.walk i cl.depthLimit) →
        cl.classify (g.withUnknown forms) i = cl.classify (g.withNone forms) i) := by
  have h := firstAnswer_withUnknown (takesName_answer cl.taxonomy) g forms (g.walk i cl.depthLimit)
  unfold Classifier.classify Taxonomy.classify
  unfold FaultGraph.withUnknown FaultGraph.withNone at h ⊢
  rw [FaultGraph.walkFaults_recategorise, FaultGraph.walkFaults_recategorise,
    Taxonomy.firstVerdict_eq_firstAnswer, Taxonomy.firstVerdict_eq_firstAnswer]
  refine ⟨fun hc => ?_, fun hc => ?_⟩
  · rw [h.1 hc]
    rfl
  · rw [h.2 hc]

namespace Observer

variable {o : Observer} {s : State} {classifier : Option Classifier}

/-- The category of a fault that an observer reports, where no search comes to a bare name. -/
theorem verdict_withUnknown (h : ¬ g.ComesToName forms Fault.explicitCategory (g.walk i o.depthLimit))
    (hcl : ∀ cl ∈ classifier, ¬ g.ComesToName forms cl.taxonomy.answer (g.walk i cl.depthLimit)) :
    o.verdict classifier (g.withUnknown forms) i = o.verdict classifier (g.withNone forms) i := by
  unfold verdict
  rw [(findExplicit_withUnknown o.depthLimit).2 h]
  cases classifier with
  | none => rfl
  | some cl =>
    dsimp only
    rw [(classify_withUnknown cl).2 (hcl cl rfl)]

/-- Where the search for a given category comes to a bare name, it is the unknown one. -/
theorem verdict_of_comesToName (h : g.ComesToName forms Fault.explicitCategory (g.walk i o.depthLimit))
    (classifier : Option Classifier) :
    o.verdict classifier (g.withUnknown forms) i = .ok ⟨StandardCategory.unknown.name, none⟩ := by
  unfold verdict
  rw [(findExplicit_withUnknown o.depthLimit).1 h]

/-- Two faults of the same label and the same verdict are classified alike. -/
theorem classify_congr {g g' : FaultGraph} {origin : Origin} {service : Value}
    (hlabel : ∀ token, g.label i token = g'.label i token)
    (hverdict : ∀ cl, (o.classifier?.on s).1 = .ok cl → o.verdict cl g i = o.verdict cl g' i) :
    (o.classify ⟨origin, g, .fault i, service⟩).on s = (o.classify ⟨origin, g', .fault i, service⟩).on s := by
  have hcheck : Call.check ⟨origin, g, .fault i, service⟩ = Call.check ⟨origin, g', .fault i, service⟩ := rfl
  rw [classify_on, classify_on, hcheck]
  cases hc : Call.check ⟨origin, g', .fault i, service⟩ with
  | error e => rfl
  | ok j =>
    obtain rfl : i = j := Subject.fault.inj (check_eq_ok_iff.1 hc).2
    rcases hx : o.classifier?.on s with ⟨e | cl, s'⟩
    · rfl
    · have hv := hverdict cl (by rw [hx])
      dsimp only
      rw [series_on, series_on]
      unfold seriesOf selectionOf
      simp only [hv, hlabel]

/-- Where another graph gives a fault of the same label a known verdict, it is named the same series but for the
category. -/
theorem classify_of_verdict {g g' : FaultGraph} {origin : Origin} {service : Value} {v : Taxonomy.Verdict} {u : Series}
    (hlabel : ∀ token, g'.label i token = g.label i token) (hverdict : ∀ cl, o.verdict cl g' i = .ok v)
    (h : ((o.classify ⟨origin, g, .fault i, service⟩).on s).1 = .ok u) :
    ((o.classify ⟨origin, g', .fault i, service⟩).on s).1 = .ok { u with category := v.category } := by
  have hcheck : Call.check ⟨origin, g', .fault i, service⟩ = Call.check ⟨origin, g, .fault i, service⟩ := rfl
  rw [classify_on] at h ⊢
  rw [hcheck]
  cases hc : Call.check ⟨origin, g, .fault i, service⟩ with
  | error e =>
    rw [hc] at h
    cases h
  | ok j =>
    obtain rfl : i = j := Subject.fault.inj (check_eq_ok_iff.1 hc).2
    rw [hc] at h
    rcases hx : o.classifier?.on s with ⟨e | cl, s'⟩
    · rw [hx] at h
      cases h
    · rw [hx] at h
      dsimp only at h ⊢
      rw [series_on] at h ⊢
      dsimp only at h ⊢
      obtain ⟨source, v₀, name, -, hv₀, -, -⟩ := seriesOf_eq_ok_iff.1 h
      rw [seriesOf_of_verdicts hlabel hv₀ (hverdict cl), h]
      rfl

/-- The classifier that a reachable observer consults looks as far as the observer. -/
theorem Reachable.depthLimit_eq (hr : Reachable o s) {cl : Classifier}
    (h : (o.classifier?.on s).1 = .ok (some cl)) : cl.depthLimit = o.depthLimit := by
  cases he : o.categorises with
  | false =>
    rw [classifier?_of_disabled he] at h
    cases h
  | true =>
    rw [classifier?_of_enabled he] at h
    cases hp : (o.prepare.on s).1 with
    | error e =>
      rw [hp] at h
      cases h
    | ok cl' =>
      rw [hp] at h
      cases h
      have hafter : (o.step .prepare s).2 = (o.prepare.on s).2 := by
        unfold Observer.step serve
        rw [on_map]
      have hready : (o.step .prepare s).2.stage = .ready cl := by
        rw [hafter]
        exact stage_of_prepare hp
      rw [(hr.step .prepare).classifier_eq hready]
      rfl

end Observer

/-- On two graphs the same category is found as given, every classifier answers alike, and so does every observer, which
also tells the same. -/
structure SameAnswers (g g' : FaultGraph) (i : Nat) : Prop where
  explicit : ∀ limit, findExplicit (g.walkFaults i limit) = findExplicit (g'.walkFaults i limit)
  classifier : ∀ cl : Classifier, cl.classify g i = cl.classify g' i
  observer : ∀ (o : Observer) (s : Observer.State) (origin : Origin) (service : Value),
    (o.classify ⟨origin, g, .fault i, service⟩).on s = (o.classify ⟨origin, g', .fault i, service⟩).on s

/-- Marking faults leaves their labels alone. -/
theorem label_withUnknown (g : FaultGraph) (forms : Nat → Option UnknownForm) (i : Nat) (token : String) :
    (g.withUnknown forms).label i token = (g.withNone forms).label i token :=
  ((g.alike_recategorise _).label_eq i token).trans ((g.alike_recategorise _).label_eq i token).symm

/-- **The unknown category itself is no category**: where it stands in this form, all three answer as if there was
none. -/
theorem sameAnswers_of_no_name (h : ∀ j, forms j ≠ some .name) :
    SameAnswers (g.withUnknown forms) (g.withNone forms) i where
  explicit limit := (findExplicit_withUnknown limit).2 (FaultGraph.not_comesToName h _)
  classifier cl := (classify_withUnknown cl).2 (FaultGraph.not_comesToName h _)
  observer o s origin service := by
    refine Observer.classify_congr (label_withUnknown g forms i) fun cl _ => ?_
    exact Observer.verdict_withUnknown (FaultGraph.not_comesToName h _) fun _ _ => FaultGraph.not_comesToName h _

/-- **The unknown category counts as given only by its bare name.** Let it stand on the marked faults of a graph, in
either form, and compare with the graph in which these faults have none.

* An argument by its name is turned into the category itself.
* A search for a given category finds the unknown one exactly if the first fault with an answer is a structured one
  that has the bare name.
* Without bare names a search for a given category, a classifier and an observer answer as if there was no category.
* With bare names they still do, unless the search along the walk comes to one: then the unknown category is found as
  given, is what the classifier answers, and stands in the series that an observer reports in place of any other
  one. -/
theorem unknown_given_only_by_name (g : FaultGraph) (forms : Nat → Option UnknownForm) (i : Nat) :
    (∀ cls args errorType,
        Fault.buildEngine cls args ⟨some (.text "UnknownError"), errorType⟩ =
          (Fault.buildEngine cls args ⟨none, errorType⟩).map fun f =>
            { f with category := some UnknownForm.category.assigned }) ∧
      (∀ fs, findExplicit fs = .ok (some .unknown) ↔ ∃ before f after, fs = before ++ f :: after ∧
        (∀ p ∈ before, p.explicitCategory = .ok none) ∧
          f.cls.isEngine = true ∧ f.category = some UnknownForm.name.assigned) ∧
      ((∀ j, forms j ≠ some .name) → SameAnswers (g.withUnknown forms) (g.withNone forms) i) ∧
      (∀ limit,
        (g.ComesToName forms Fault.explicitCategory (g.walk i limit) →
          findExplicit ((g.withUnknown forms).walkFaults i limit) = .ok (some .unknown)) ∧
        (¬ g.ComesToName forms Fault.explicitCategory (g.walk i limit) →
          findExplicit ((g.withUnknown forms).walkFaults i limit) =
            findExplicit ((g.withNone forms).walkFaults i limit))) ∧
      (∀ cl : Classifier,
        (g.ComesToName forms cl.taxonomy.answer (g.walk i cl.depthLimit) →
          cl.classify (g.withUnknown forms) i = .ok ⟨"UnknownError", none⟩) ∧
        (¬ g.ComesToName forms cl.taxonomy.answer (g.walk i cl.depthLimit) →
          cl.classify (g.withUnknown forms) i = cl.classify (g.withNone forms) i)) ∧
      ∀ (o : Observer) (s : Observer.State), Observer.Reachable o s → ∀ (origin : Origin) (service : Value),
        (g.ComesToName forms Fault.explicitCategory (g.walk i o.depthLimit) →
          ∀ u, ((o.classify ⟨origin, g.withNone forms, .fault i, service⟩).on s).1 = .ok u →
            ((o.classify ⟨origin, g.withUnknown forms, .fault i, service⟩).on s).1 =
              .ok { u with category := "UnknownError" }) ∧
        (¬ g.ComesToName forms Fault.explicitCategory (g.walk i o.depthLimit) →
          (o.classify ⟨origin, g.withUnknown forms, .fault i, service⟩).on s =
            (o.classify ⟨origin, g.withNone forms, .fault i, service⟩).on s) := by
  refine ⟨buildEngine_unknown, fun fs => ?_, sameAnswers_of_no_name, fun limit => findExplicit_withUnknown limit,
    fun cl => classify_withUnknown cl, fun o s hr origin service => ⟨fun hc u hu => ?_, fun hc => ?_⟩⟩
  · rw [findExplicit_eq_firstAnswer, firstAnswer_eq_some_iff]
    simp only [explicitCategory_eq_unknown_iff]
  · exact Observer.classify_of_verdict (label_withUnknown g forms i) (Observer.verdict_of_comesToName hc) hu
  · refine Observer.classify_congr (label_withUnknown g forms i) fun cl hcl => ?_
    refine Observer.verdict_withUnknown hc fun cl' hcl' hname => hc ?_
    cases hcl'
    -- the classifier looks as far as the observer, and answers nothing where no category was given
    rw [← hr.depthLimit_eq hcl]
    exact hname.mono fun f => explicitCategory_of_answer

end Answers

/-- A structured fault with a boom in its message. -/
def FaultGraph.boom : FaultGraph := ⟨#[Fault.plain .engineError [.text "a boom"]]⟩

/-- The earlier rival selects the fault by its keyword, also if the unknown category stands on it. The bare name of that
category hides the boom from a classifier and from an observer. -/
theorem unknown_given_only_by_name_boom :
    ((Classifier.mk .rivals 5 (by decide)).classify (FaultGraph.boom.withNone fun _ => some .name) 0).toOption.map
        (·.category) = some "EarlyError" ∧
      (Classifier.mk .rivals 5 (by decide)).classify (FaultGraph.boom.withUnknown fun _ => some .category) 0 =
        (Classifier.mk .rivals 5 (by decide)).classify (FaultGraph.boom.withNone fun _ => some .category) 0 ∧
      (Classifier.mk .rivals 5 (by decide)).classify (FaultGraph.boom.withUnknown fun _ => some .name) 0 =
        .ok ⟨"UnknownError", none⟩ ∧
      ∃ u, ((Observer.standard.classify ⟨.callSite .unrecognised, FaultGraph.boom.withNone fun _ => some .name,
          .fault 0, .null⟩).on .rivals).1 = .ok u ∧ u.category = "EarlyError" ∧
        ((Observer.standard.classify ⟨.callSite .unrecognised, FaultGraph.boom.withUnknown fun _ => some .name,
          .fault 0, .null⟩).on .rivals).1 = .ok { u with category := "UnknownError" } := by
  have hstart : Observer.Reachable Observer.standard .rivals :=
    .start (show Observer.make ⟨.kept, "errors_total", "", .empty⟩ .empty (some .rivals) none 5 true = _ from rfl)
  have hname {ε β : Type} (ask : Fault → Except ε (Option β)) (limit : Int) (h : 1 ≤ limit) :
      FaultGraph.boom.ComesToName (fun _ => some .name) ask (FaultGraph.boom.walk 0 limit) := by
    obtain ⟨n, hn⟩ : ∃ n, limit.toNat = n + 1 := ⟨limit.toNat - 1, by omega⟩
    unfold FaultGraph.walk
    rw [hn]
    exact .here rfl rfl rfl
  obtain ⟨-, -, hcategory, -, -, -⟩ := unknown_given_only_by_name .boom (fun _ => some .category) 0
  obtain ⟨-, -, -, -, hclassifier, hobserver⟩ := unknown_given_only_by_name .boom (fun _ => some .name) 0
  have hearly : ((Observer.standard.classify ⟨.callSite .unrecognised, FaultGraph.boom.withNone fun _ => some .name,
      .fault 0, .null⟩).on .rivals).1.toOption.map (·.category) = some "EarlyError" := by decide +kernel
  refine ⟨by decide +kernel, (hcategory fun _ => by simp).classifier _,
    (hclassifier _).1 (hname _ _ (by decide)), ?_⟩
  cases hu : ((Observer.standard.classify ⟨.callSite .unrecognised, FaultGraph.boom.withNone fun _ => some .name,
      .fault 0, .null⟩).on .rivals).1 with
  | error e =>
    rw [hu] at hearly
    cases hearly
  | ok u =>
    rw [hu] at hearly
    exact ⟨u, rfl, Option.some.inj hearly,
      (hobserver _ _ hstart _ _).1 (hname _ _ (by decide)) u hu⟩

end Triage
