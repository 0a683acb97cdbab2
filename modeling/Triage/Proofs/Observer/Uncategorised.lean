import Triage.Fault.Build
import Triage.Proofs.Observer.Loading
import Triage.Proofs.Observer.Recording

/-!
# Observers that do not categorise

An observer in which patterns may not decide has no use for a taxonomy. It behaves like one that categorises with the
empty taxonomy: a classifier without categories finds what the search for a given category has found before, that is
nothing where it is consulted.

* `Taxonomy.firstVerdict_empty`: **the empty taxonomy** finds given categories only.
* `verdict_empty`: both observers come to the same verdict.
* `Request.isCall`: the requests to classify and to observe; `answers`: what a run of requests is answered.
* `Abreast`: two states, one of each observer, that nothing asked so far tells apart; `step_abreast`, `run_abreast`:
  **no call does**.
* `disabled_like_empty`: **not to categorise is to categorise with the empty taxonomy**.
-/

namespace Triage

theorem Taxonomy.matchFault_empty (f : Fault) : Taxonomy.empty.matchFault f = none := by
  unfold matchFault
  rw [List.findSome?_eq_none_iff]
  intro m _
  rfl

/-- **The empty taxonomy** finds the first category that was given to a fault of the list, and fails where the search
for it fails. -/
theorem Taxonomy.firstVerdict_empty (fs : List Fault) :
    Taxonomy.empty.firstVerdict fs = (findExplicit fs).map (Option.map fun c => ⟨c.name, none⟩) := by
  induction fs with
  | nil => rfl
  | cons f fs ih =>
    rw [firstVerdict, findExplicit]
    rcases f.explicitCategory with e | _ | c
    · rfl
    · rw [matchFault_empty]
      exact ih
    · rfl

namespace Observer

variable {o o' : Observer} {s s' : State}

/-- **An observer that does not categorise** comes to the same verdict as one with the empty taxonomy. -/
theorem verdict_empty (hlimit : o.depthLimit = o'.depthLimit) (g : FaultGraph) (i : Nat) :
    o.verdict none g i = o'.verdict (some (o'.classifierOf .empty)) g i := by
  have hclassify : (o'.classifierOf .empty).classify g i =
      (Taxonomy.empty.firstVerdict (g.walkFaults i o'.depthLimit)).map
        fun v => v.getD ⟨StandardCategory.unknown.name, none⟩ := rfl
  unfold verdict
  rw [hlimit]
  cases hfind : findExplicit (g.walkFaults i o'.depthLimit) with
  | error e => rfl
  | ok category =>
    cases category with
    | some c => rfl
    | none =>
      -- only here the classifier is consulted, and then no fault of its walk was given a category
      dsimp only
      rw [hclassify, Taxonomy.firstVerdict_empty, hfind]
      rfl

/-- With the same verdict a fault is named the same series, -/
theorem seriesOf_congr {classifier classifier' : Option Classifier} {g : FaultGraph} {i : Nat}
    (h : o.verdict classifier g i = o'.verdict classifier' g i) (origin : Origin) (service : Value) :
    o.seriesOf classifier origin g i service = o'.seriesOf classifier' origin g i service := by
  unfold seriesOf
  rw [h]

/-- and the same selection is told of. -/
theorem selectionOf_congr {classifier classifier' : Option Classifier} {g : FaultGraph} {i : Nat}
    (h : o.verdict classifier g i = o'.verdict classifier' g i) (origin : Origin) :
    o.selectionOf classifier origin g i = o'.selectionOf classifier' origin g i := by
  unfold selectionOf
  rw [h]

/-! ## Two observers side by side -/

/-- Whether a request is one to classify or to observe. -/
def Request.isCall : Request → Bool
  | .prepare => false
  | .classify _ | .observe _ => true

/-- What the requests of a run are answered, one after the other. -/
def answers (o : Observer) (s : State) : List Request → List (Except Error Reply)
  | [] => []
  | r :: rs => (o.step r s).1 :: o.answers (o.step r s).2 rs

/-- Two states with the same counter and the same log book. Only the second one has a classifier, that of the empty
taxonomy. -/
structure Abreast (o' : Observer) (s s' : State) : Prop where
  counter : s.counter = s'.counter
  book : s.book = s'.book
  stage : s'.stage = .ready (o'.classifierOf .empty)

theorem Abreast.tell (h : Abreast o' s s') (x : Option Selection) : Abreast o' (s.tell x) (s'.tell x) := by
  cases x with
  | none => exact h
  | some selection =>
    refine ⟨h.counter, ?_, h.stage⟩
    show s.book.write _ _ = s'.book.write _ _
    rw [h.book]

theorem Abreast.enter (h : Abreast o' s s') (u : Series) (d : Except String String) :
    Abreast o' (s.enter u d) (s'.enter u d) := by
  refine ⟨?_, ?_, h.stage⟩
  · rw [State.enter_counter, State.enter_counter, h.counter]
  · unfold State.enter
    rw [h.counter, h.book]

/-- Once the classifier is there, **naming and counting** do not tell the two apart. -/
theorem serveWith_abreast (hd : o.categorises = false) (he : o'.categorises = true)
    (hlimit : o.depthLimit = o'.depthLimit) (h : Abreast o' s s') {r : Request} (hr : r.isCall = true)
    (classifier : Classifier) :
    ((o.serveWith classifier r).on s).1 = ((o'.serveWith (o'.classifierOf .empty) r).on s').1 ∧
      Abreast o' ((o.serveWith classifier r).on s).2 ((o'.serveWith (o'.classifierOf .empty) r).on s').2 := by
  unfold serveWith
  -- the classifier that the first one is served with is not consulted
  rw [consulted_of_disabled hd, consulted_of_enabled he]
  cases r with
  | prepare => cases hr
  | classify c =>
    simp only [on_bind, on_lift, on_map, series_on]
    cases c.check with
    | error e => exact ⟨rfl, h⟩
    | ok i =>
      have hverdict := verdict_empty hlimit c.graph i
      dsimp only
      rw [seriesOf_congr hverdict, selectionOf_congr hverdict]
      exact ⟨rfl, h.tell _⟩
  | observe c =>
    simp only [on_bind, on_lift, on_map, record_on]
    cases c.check with
    | error e => exact ⟨rfl, h⟩
    | ok i =>
      have hverdict := verdict_empty hlimit c.graph i
      dsimp only
      rw [seriesOf_congr hverdict, selectionOf_congr hverdict]
      cases o'.seriesOf (some (o'.classifierOf .empty)) c.origin c.graph i c.service with
      | error e => exact ⟨rfl, h.tell _⟩
      | ok u => exact ⟨rfl, (h.tell _).enter _ _⟩

/-- A call never needs the classifier of an observer that does not categorise. -/
theorem unneeded_of_disabled (hd : o.categorises = false) {r : Request} (hr : r.isCall = true) : o.needs r = false := by
  cases r with
  | prepare => cases hr
  | classify c =>
    show (o.categorises && c.isProper) = false
    rw [hd, Bool.false_and]
  | observe c =>
    show (o.categorises && c.isProper) = false
    rw [hd, Bool.false_and]

/-- **No call tells the two apart**: it is answered alike, and leaves them abreast. -/
theorem step_abreast (hd : o.categorises = false) (he : o'.categorises = true) (hlimit : o.depthLimit = o'.depthLimit)
    (h : Abreast o' s s') {r : Request} (hr : r.isCall = true) :
    (o.step r s).1 = (o'.step r s').1 ∧ Abreast o' (o.step r s).2 (o'.step r s').2 := by
  rw [step_of_unneeded (unneeded_of_disabled hd hr) (o.classifierOf .empty), step_of_ready h.stage]
  exact serveWith_abreast hd he hlimit h hr _

/-- **Nor does a run of calls.** -/
theorem run_abreast (hd : o.categorises = false) (he : o'.categorises = true) (hlimit : o.depthLimit = o'.depthLimit)
    (h : Abreast o' s s') {rs : List Request} (hrs : ∀ r ∈ rs, r.isCall = true) :
    o.answers s rs = o'.answers s' rs ∧ Abreast o' (o.after s rs) (o'.after s' rs) := by
  induction rs generalizing s s' with
  | nil => exact ⟨rfl, h⟩
  | cons r rs ih =>
    obtain ⟨hanswer, hstep⟩ := step_abreast hd he hlimit h (hrs r (by simp))
    obtain ⟨hanswers, hrun⟩ := ih hstep fun r' hr' => hrs r' (by simp [hr'])
    refine ⟨?_, hrun⟩
    unfold answers
    rw [hanswer, hanswers]

/-- An observer can be made with any limit that lets a fault through, if there is a taxonomy or a loader. It starts with
the counter and the log book that it is given, and with a classifier if it was given a taxonomy. -/
theorem exists_make (counter : Counter) (book : Log.Book) (taxonomy : Option Taxonomy) (loader : Option Loader)
    {limit : Int} (hl : 1 ≤ limit) (hgiven : taxonomy.isSome = true ∨ loader.isSome = true) (enabled : Bool) :
    ∃ s, make counter book taxonomy loader limit enabled = .ok (⟨limit, hl, enabled⟩, s) ∧ s.counter = counter ∧
      s.book = book ∧ ∀ t ∈ taxonomy, s.stage = .ready ⟨t, limit, hl⟩ := by
  unfold make
  rw [dif_pos hl]
  rcases taxonomy with _ | t
  · rcases loader with _ | l
    · rcases hgiven with h | h <;> cases h
    · exact ⟨_, rfl, rfl, rfl, fun t ht => nomatch ht⟩
  · refine ⟨⟨.ready ⟨t, limit, hl⟩, 0, counter, book⟩, ?_, rfl, rfl, fun t' ht' => ?_⟩
    · cases loader <;> rfl
    · cases ht'
      rfl

/-- **Not to categorise is to categorise with the empty taxonomy.** Let an observer that does not categorise have any
taxonomy or any loader, also one that fails, and let another one with the same limit categorise with the empty taxonomy.
Both can be made. Whatever calls they are then asked, to classify or to observe, in whatever order and whether refused
or not: they answer with the same series and the same errors at the same calls, and are left with equal counters and
equal log books. -/
theorem disabled_like_empty (counter : Counter) (book : Log.Book) (taxonomy : Option Taxonomy)
    (loader loader' : Option Loader) {limit : Int} (hl : 1 ≤ limit)
    (hgiven : taxonomy.isSome = true ∨ loader.isSome = true) :
    ∃ o s o' s', make counter book taxonomy loader limit false = .ok (o, s) ∧
      make counter book (some .empty) loader' limit true = .ok (o', s') ∧
        ∀ rs : List Request, (∀ r ∈ rs, r.isCall = true) →
          o.answers s rs = o'.answers s' rs ∧ (o.after s rs).counter = (o'.after s' rs).counter ∧
            (o.after s rs).book = (o'.after s' rs).book := by
  obtain ⟨s, hmake, hcounter, hbook, -⟩ := exists_make counter book taxonomy loader hl hgiven false
  obtain ⟨s', hmake', hcounter', hbook', hready⟩ := exists_make counter book (some .empty) loader' hl (.inl rfl) true
  refine ⟨_, s, _, s', hmake, hmake', fun rs hrs => ?_⟩
  have hd : Observer.categorises ⟨limit, hl, false⟩ = false := rfl
  have he : Observer.categorises ⟨limit, hl, true⟩ = true := rfl
  have habreast : Abreast ⟨limit, hl, true⟩ s s' :=
    ⟨hcounter.trans hcounter'.symm, hbook.trans hbook'.symm, hready _ rfl⟩
  obtain ⟨hanswers, hrun⟩ := run_abreast hd he rfl habreast hrs
  exact ⟨hanswers, hrun.counter, hrun.book⟩

/-- Calls of all kinds: one without an origin, one with a fault of a category that is none, one that is classified, and
one whose fault is counted and cannot be shown. -/
def mixedCalls : List Request :=
  [.observe ⟨.absent, muteCall.graph, .fault 0, .null⟩,
    .classify { muteCall with
      graph := ⟨#[{ Fault.plain .engineError [] with category := some (.unchecked (.text "Nonsense")) }]⟩ },
    .classify muteCall, .observe muteCall]

/-- An observer that does not categorise and waits for a loader that fails, beside one with the empty taxonomy: the
third call is answered with the same series, the fourth one raises what showing the fault raises, and the series was
counted. -/
theorem disabled_like_empty_mixedCalls :
    (1 : Int) ≤ 5 ∧ (∀ r ∈ mixedCalls, r.isCall = true) ∧
      ∃ o s o' s', make ⟨.kept, "errors_total", "", .empty⟩ .empty none (some emptyDocument) 5 false = .ok (o, s) ∧
        make ⟨.kept, "errors_total", "", .empty⟩ .empty (some .empty) none 5 true = .ok (o', s') ∧
          o.answers s mixedCalls = o'.answers s' mixedCalls ∧
            (o'.answers s' mixedCalls)[2]? = some (.ok (.series muteSeries)) ∧
              (o.after s mixedCalls).counter = (o'.after s' mixedCalls).counter ∧
                (o.after s mixedCalls).counter.tally.count muteSeries = 1 := by
  have hlimit : (1 : Int) ≤ 5 := by decide
  have hcalls : ∀ r ∈ mixedCalls, r.isCall = true := by decide +kernel
  obtain ⟨o, s, o', s', hmake, hmake', hrun⟩ :=
    disabled_like_empty ⟨.kept, "errors_total", "", .empty⟩ .empty none (some emptyDocument) none hlimit (.inr rfl)
  obtain ⟨hanswers, hcounter, -⟩ := hrun mixedCalls hcalls
  have hstandard : make ⟨.kept, "errors_total", "", .empty⟩ .empty (some .empty) none 5 true =
      .ok (standard, .bare) := rfl
  obtain ⟨rfl, rfl⟩ := Prod.mk.inj (Except.ok.inj (hstandard.symm.trans hmake'))
  refine ⟨hlimit, hcalls, o, s, standard, .bare, hmake, hmake', hanswers, rfl, hcounter, ?_⟩
  rw [hcounter]
  rfl

end Observer

end Triage
