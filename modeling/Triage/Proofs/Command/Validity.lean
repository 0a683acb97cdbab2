import Triage.Command.Run
import Triage.Proofs.Observer.Category
import Triage.Proofs.Observer.Loading
import Triage.Proofs.Settings.Spelling
import Triage.Proofs.Validation.Acceptance

/-!
# What the commands say of a taxonomy

Both commands load the same taxonomy: one to list it, the other to classify with it. One is told of any error of
loading by its observer; the other looks at the error itself, and lets through those that it does not know.

* `Taxonomy.LoadError.isExpected_iff`: the errors that are let through, by their names.
* `classify_of_loaded`, `classify_of_failed`: a fault is classified, or any error of loading is complained of.
* `check_of_loaded`, `check_of_failed`: the taxonomy is listed, or an error that is known is complained of.
* `commands_agree_unless_let_through`: **the commands agree on whether a taxonomy is valid, unless the error is one
  that is let through**.
-/

namespace Triage

/-! ## Accepted settings -/

/-- **Accepted settings** look at one fault of a walk at least. -/
theorem Settings.one_le_of_ofEntries {es : List (Value × Value)} {s : Settings} (h : ofEntries es = .ok s) :
    1 ≤ s.depthLimit := by
  -- of the seven fields only the limit matters, the third one
  simp only [ofEntries, Checked.ap_eq_ok] at h
  obtain ⟨_, _, ⟨_, _, ⟨_, _, ⟨_, _, ⟨_, limit, ⟨_, _, ⟨_, _, hbuild, _, rfl⟩, _, rfl⟩, hlimit, rfl⟩, _, rfl⟩,
    _, rfl⟩, _, rfl⟩, _, rfl⟩ := h
  cases hbuild
  show 1 ≤ limit
  rcases FieldName.optional_cases hlimit with rfl | ⟨v, hv⟩
  · decide
  · exact (checkIntegerFrom_eq_ok_iff.1 hv).2

theorem Settings.one_le_of_ofFile {tree : FileTree} {path : Option String} {env : Environment} {s : Settings}
    (h : ofFile tree path env = .ok s) : 1 ≤ s.depthLimit := by
  unfold ofFile at h
  split at h
  · cases h
  · unfold ofAnyEntries at h
    split at h
    · cases h
    · split at h
      · next hs =>
        cases h
        exact one_le_of_ofEntries hs
      · cases h

/-! ## Faults of a named class -/

namespace Fault

/-- A name without the character that no name of a class has gives a fault. -/
theorem ofName_eq_ok {name : String} (h : '\x00' ∉ name.toList) (message : Option String) :
    ∃ cls, ofName name message = .ok (plain cls (messageArguments message)) := by
  rw [ofName_ofString]
  unfold ofClassName
  cases FaultClass.known? name with
  | some cls => exact ⟨cls, rfl⟩
  | none =>
    refine ⟨.derive name .exception, if_neg ?_⟩
    simpa using h

theorem isLegal_plain (cls : FaultClass) (args : List Value) : (⟨#[plain cls args]⟩ : FaultGraph).IsLegal := by
  intro f hf _ a ha
  obtain rfl : f = plain cls args := by simpa using hf
  cases ha

end Fault

/-- Every call site is counted under a name. -/
theorem Origin.source_callSite (c : CallSite) : ∃ source, (callSite c).source = .ok source := by
  unfold source friendlyName
  rw [ownFriendlyName]
  cases nonEmptyText? (.text (camelCase c.name)) with
  | some s => exact ⟨_, rfl⟩
  | none => exact ⟨_, rfl⟩

/-! ## Errors of loading -/

namespace Taxonomy.LoadError

/-- The names of the errors that are neither of files, nor of the format, nor of values. -/
def strangeNames : List String := ["AttributeError", "IndexError", "KeyError", "OverflowError", "TypeError"]

/-- **The errors that are expected**, by their names. -/
theorem isExpected_iff {e : LoadError} : e.isExpected = true ↔ e.name ∉ strangeNames := by
  cases e with
  | unreadable path e => cases e <;> simp [isExpected, name, ReadError.name, strangeNames]
  | emptyDocument => simp [isExpected, name, strangeNames]
  | malformed source e =>
    cases e with
    | unreadable => simp [isExpected, name, Yaml.Error.isOfFormat, Yaml.Error.name, strangeNames]
    | located e =>
      refine iff_of_true rfl ?_
      show e.stage.errorName ∉ strangeNames
      cases e.stage <;> decide
    | misfit m =>
      cases m <;>
        simp [isExpected, name, Yaml.Error.isOfFormat, Yaml.Error.name, Yaml.Misfit.errorName, strangeNames]
  | refused r => cases r <;> simp [isExpected, name, strangeNames]

end Taxonomy.LoadError

namespace Observer

variable {tree : FileTree} {path : Option String}

theorem fileLoader_of_ok {t : Taxonomy} {line : String} (h : Taxonomy.ofFile tree path = .ok (t, line)) (n : Nat) :
    fileLoader tree path n = .ok (t, [line]) := by
  unfold fileLoader
  rw [h]

theorem fileLoader_of_error {e : Taxonomy.LoadError} (h : Taxonomy.ofFile tree path = .error e) (n : Nat) :
    fileLoader tree path n = .error (.document e) := by
  unfold fileLoader
  rw [h]

end Observer

/-- **A first attempt that fails** and can be told of is raised as one error, whatever the fault to classify. -/
theorem Observer.classify_of_failing {o : Observer} {s : State} {c : Call} {i : Nat} {loader : Loader}
    {f : LoadFailure} (he : o.categorises = true) (hc : c.check = .ok i) (hs : s.stage = .untried loader)
    (hl : loader s.attempts = .error f) (hf : f.IsShowable) :
    ∃ s', (o.classify c).on s = (.error (.configuration ⟨s.attempts, f⟩), s') := by
  obtain ⟨line, hfail⟩ := fail_of_isShowable (α := Classifier) hf o s.attempts { s with attempts := s.attempts + 1 }
  rw [classify_on, hc, classifier?_of_enabled he, prepare_of_untried hs, hl]
  dsimp only
  rw [hfail]
  exact ⟨_, rfl⟩

namespace Command

/-! ## Requests -/

variable {tree : FileTree} {s : Settings} {t : Taxonomy} {line : String} {e : Taxonomy.LoadError}

/-- A taxonomy that loads is listed. -/
theorem check_of_loaded (h : Taxonomy.ofFile tree s.taxonomyFile = .ok (t, line)) :
    check s tree = .ok (.ok (taxonomyLines t), Log.Book.empty.write .info line) := by
  unfold check
  rw [h]

/-- An error of loading is complained of if it is expected, and let through otherwise. -/
theorem check_of_failed (h : Taxonomy.ofFile tree s.taxonomyFile = .error e) :
    check s tree = if e.isExpected then .ok (.error e.message, .empty) else .error (.taxonomy e) := by
  unfold check
  rw [h]

section Classify

variable {name : String} {raw : RawText} {fault : Fault}

/-- The observer of a request. -/
def observerOf (s : Settings) (h : 1 ≤ s.depthLimit) : Observer := ⟨s.depthLimit, h, s.categorisationEnabled⟩

/-- Its first state. -/
def startOf (s : Settings) (tree : FileTree) (raw : RawText) : Observer.State :=
  ⟨.untried (Observer.fileLoader tree s.taxonomyFile), 0, ⟨.kept, s.metricName, s.metricDescription, .empty⟩,
    bookBefore raw⟩

theorem make_eq (h : 1 ≤ s.depthLimit) (tree : FileTree) (raw : RawText) :
    Observer.make ⟨.kept, s.metricName, s.metricDescription, .empty⟩ (bookBefore raw) none
      (some (Observer.fileLoader tree s.taxonomyFile)) s.depthLimit s.categorisationEnabled =
      .ok (observerOf s h, startOf s tree raw) := by
  unfold Observer.make
  exact dif_pos h

/-- The service of a request. -/
def serviceOf : Option String → Value
  | some s => .text s
  | none => .null

theorem exists_checkService (service : Option String) :
    ∃ name, Observer.checkService (serviceOf service) = .ok name := by
  cases service <;> exact ⟨_, rfl⟩

/-- What a request shows to its observer. -/
def callOf (fault : Fault) (origin : CallSite) (service : Option String) : Observer.Call :=
  ⟨.callSite origin, ⟨#[fault]⟩, .fault 0, serviceOf service⟩

/-- What a request comes to, from what its observer answers and leaves. -/
def resultOf (answer : Except Observer.Error Series) (left : Observer.State) : Except Failure Result :=
  match answer with
  | .ok u => .ok (.ok (seriesLines u), left.book)
  | .error (.configuration e) => .ok (.error e.message, left.book)
  | .error e => .error (.observer e)

/-- **Classifying** shows the fault to an observer that loads the taxonomy. -/
theorem classify_eq (h : 1 ≤ s.depthLimit) {message : Option String} (hf : Fault.ofName raw message = .ok fault)
    (origin : CallSite) (service : Option String) :
    classify s tree raw message origin service =
      resultOf (((observerOf s h).classify (callOf fault origin service)).on (startOf s tree raw)).1
        (((observerOf s h).classify (callOf fault origin service)).on (startOf s tree raw)).2 := by
  unfold classify
  dsimp only
  rw [make_eq h, hf]
  cases service <;> rfl

variable (h : 1 ≤ s.depthLimit) (he : s.categorisationEnabled = true) (origin : CallSite) (service : Option String)
include h he

/-- **A fault is classified** with a taxonomy that loads. -/
theorem classify_of_loaded (hname : '\x00' ∉ name.toList) (ht : Taxonomy.ofFile tree s.taxonomyFile = .ok (t, line))
    (message : Option String) :
    ∃ u book, classify s tree name message origin service = .ok (.ok (seriesLines u), book) := by
  obtain ⟨cls, hf⟩ := Fault.ofName_eq_ok hname message
  obtain ⟨source, hsource⟩ := Origin.source_callSite origin
  have hlegal := Fault.isLegal_plain cls (Fault.messageArguments message)
  obtain ⟨v, hv, -⟩ := (observerOf s h).verdict_of_isLegal t hlegal 0
  obtain ⟨service', hservice⟩ := exists_checkService service
  have hoffers : (startOf s tree name).Offers t := ⟨[line], Observer.fileLoader_of_ok ht 0⟩
  have hanswer := Observer.classify_on_offers (.start (make_eq h tree name)) he hoffers
    (c := callOf (.plain cls (Fault.messageArguments message)) origin service) (Observer.check_of_source rfl hsource)
  have hseries := Observer.seriesOf_eq_ok_iff.2 ⟨source, v, service', hsource, hv, hservice, rfl⟩
  rw [classify_eq h hf, hanswer.trans hseries]
  exact ⟨_, _, rfl⟩

/-- **Any error of loading is complained of**, whatever its class. -/
theorem classify_of_failed (hname : '\x00' ∉ name.toList) (ht : Taxonomy.ofFile tree s.taxonomyFile = .error e)
    (message : Option String) :
    ∃ complaint book, classify s tree name message origin service = .ok (.error complaint, book) := by
  obtain ⟨cls, hf⟩ := Fault.ofName_eq_ok hname message
  obtain ⟨source, hsource⟩ := Origin.source_callSite origin
  have hload := Observer.fileLoader_of_error ht 0
  obtain ⟨left, hanswer⟩ := Observer.classify_of_failing (o := observerOf s h) (s := startOf s tree name)
    (c := callOf (.plain cls (Fault.messageArguments message)) origin service) he
    (Observer.check_of_source rfl hsource) rfl hload (LoadFailure.isShowable_document e)
  rw [classify_eq h hf, hanswer]
  exact ⟨_, _, rfl⟩

end Classify

/-! ## Commands -/

/-- A report that finds nothing wrong with the taxonomy. -/
structure Report.Accepts (r : Report) : Prop where
  exit : r.exit = 0
  complaint : r.complaint = none

/-- A report of nothing but a complaint about the taxonomy. -/
structure Report.Refuses (r : Report) : Prop where
  exit : r.exit = 1
  answer : r.answer = []
  complaint : ∃ message, r.complaint = some (complaintLine message)

/-- The same command line with another request. -/
def Options.asking (o : Options) (q : Request) : Options := { o with request := q }

variable {o : Options} {env env' : Environment} {faulty : List Nat} {q : Request}

section Run

variable (henv : o.environment tree env = .ok (env', faulty)) (hs : o.settings tree env' = .ok s)
include henv hs

/-- A command reports what its request comes to. -/
theorem run_asking (q : Request) :
    (o.asking q).run tree env = (q.run s tree).map fun
      | (.ok answer, book) => ⟨0, answer, faulty.map faultyLineWarning, consoleLines s.logLevel book, none⟩
      | (.error message, book) =>
        ⟨1, [], faulty.map faultyLineWarning, consoleLines s.logLevel book, some (complaintLine message)⟩ := by
  -- neither the environment nor the settings depend on what is requested
  have henv : (o.asking q).environment tree env = .ok (env', faulty) := henv
  have hs : (o.asking q).settings tree env' = .ok s := hs
  have hq : (o.asking q).request = q := rfl
  unfold Options.run
  simp only [henv, hs, hq, bind, Except.bind]
  rcases q.run s tree with f | ⟨_ | _, _⟩ <;> rfl

theorem run_of_answer {answer : List String} {book : Log.Book} (h : q.run s tree = .ok (.ok answer, book)) :
    ∃ r, (o.asking q).run tree env = .ok r ∧ r.Accepts := by
  rw [run_asking henv hs, h]
  exact ⟨_, rfl, rfl, rfl⟩

theorem run_of_complaint {message : String} {book : Log.Book} (h : q.run s tree = .ok (.error message, book)) :
    ∃ r, (o.asking q).run tree env = .ok r ∧ r.Refuses := by
  rw [run_asking henv hs, h]
  exact ⟨_, rfl, rfl, rfl, message, rfl⟩

theorem run_of_failure {f : Failure} (h : q.run s tree = .error f) : (o.asking q).run tree env = .error f := by
  rw [run_asking henv hs, h]
  rfl

end Run

theorem one_le_of_settings (h : o.settings tree env = .ok s) : 1 ≤ s.depthLimit := by
  unfold Options.settings at h
  cases hfile : Settings.ofFile tree o.settingsFile env with
  | error e =>
    rw [hfile] at h
    cases h
  | ok s' =>
    rw [hfile] at h
    cases h
    have := Settings.one_le_of_ofFile hfile
    exact this

/-- **The commands agree on whether a taxonomy is valid, unless the error of it is let through.** Let the settings be
accepted, and classification enabled. Whatever is in the files, and whatever text the name of the class is:

* if the taxonomy loads, both commands report and neither complains;
* if it does not, the command that classifies complains. The other one complains as well if the error is one of files,
  of the format or of values, and ends without a report if its name is a strange one. -/
theorem commands_agree_unless_let_through (henv : o.environment tree env = .ok (env', faulty))
    (hs : o.settings tree env' = .ok s) (he : s.categorisationEnabled = true) {name : String}
    (hname : '\x00' ∉ name.toList) (message : Option String) (origin : CallSite) (service : Option String) :
    ∃ r, (o.asking (.classify name message origin service)).run tree env = .ok r ∧
      (∀ x, Taxonomy.ofFile tree s.taxonomyFile = .ok x →
        r.Accepts ∧ ∃ r', (o.asking .check).run tree env = .ok r' ∧ r'.Accepts) ∧
      ∀ e, Taxonomy.ofFile tree s.taxonomyFile = .error e →
        r.Refuses ∧
          (e.name ∉ Taxonomy.LoadError.strangeNames → ∃ r', (o.asking .check).run tree env = .ok r' ∧ r'.Refuses) ∧
          (e.name ∈ Taxonomy.LoadError.strangeNames → (o.asking .check).run tree env = .error (.taxonomy e)) := by
  have hlimit := one_le_of_settings hs
  cases ht : Taxonomy.ofFile tree s.taxonomyFile with
  | ok x =>
    obtain ⟨t, line⟩ := x
    obtain ⟨u, book, hclassify⟩ := classify_of_loaded hlimit he origin service hname ht message
    obtain ⟨r, hr, haccepts⟩ := run_of_answer henv hs (q := .classify name message origin service) hclassify
    refine ⟨r, hr, fun _ _ => ⟨haccepts, ?_⟩, fun e h => nomatch h⟩
    exact run_of_answer henv hs (q := .check) (check_of_loaded ht)
  | error e =>
    obtain ⟨complaint, book, hclassify⟩ := classify_of_failed hlimit he origin service hname ht message
    obtain ⟨r, hr, hrefuses⟩ := run_of_complaint henv hs (q := .classify name message origin service) hclassify
    refine ⟨r, hr, fun x h => (nomatch h), fun e' h => ?_⟩
    cases h
    have hcheck := check_of_failed ht
    -- the observer has caught the error whatever it is; the other command asks whether it is expected
    refine ⟨hrefuses, fun hexpected => ?_, fun hstrange => ?_⟩
    · rw [if_pos (Taxonomy.LoadError.isExpected_iff.2 hexpected)] at hcheck
      exact run_of_complaint henv hs (q := .check) hcheck
    · rw [if_neg fun h => Taxonomy.LoadError.isExpected_iff.1 h hstrange] at hcheck
      exact run_of_failure henv hs (q := .check) hcheck

/-- A command line that names a taxonomy file. -/
def namingFile : Options where
  settingsFile := none
  environmentFile := ".env"
  consoleLevel := none
  taxonomyFile := some "faults.yaml"
  request := .check

/-- A tree in which that file holds a truth value that is none. -/
def strangeTree : FileTree := .ofList [("faults.yaml", "!!bool maybe".toUTF8.toList)]

/-- One command complains, and the other one ends without a report. -/
theorem commands_agree_unless_let_through_noBool :
    ∃ e, Taxonomy.ofFile strangeTree (some "faults.yaml") = .error e ∧ e.name = "KeyError" ∧
      (∃ r, (namingFile.asking (.classify "ValueError" none .unrecognised none)).run strangeTree [] = .ok r ∧
        r.Refuses) ∧
      (namingFile.asking .check).run strangeTree [] = .error (.taxonomy e) := by
  have hstrange : (match Taxonomy.ofFile strangeTree (some "faults.yaml") with
      | .error e => e.name == "KeyError"
      | .ok _ => false) = true := by decide +kernel
  have henv : namingFile.environment strangeTree [] = .ok ([], []) := rfl
  have hs : namingFile.settings strangeTree [] =
      .ok { Settings.standard with taxonomyFile := some "faults.yaml" } := rfl
  have hclass : '\x00' ∉ "ValueError".toList := by decide
  obtain ⟨r, hr, -, hfailed⟩ := commands_agree_unless_let_through henv hs rfl hclass none .unrecognised none
  cases ht : Taxonomy.ofFile strangeTree (some "faults.yaml") with
  | ok x =>
    rw [ht] at hstrange
    cases hstrange
  | error e =>
    rw [ht] at hstrange
    have hname : e.name = "KeyError" := by simpa using hstrange
    obtain ⟨hrefuses, -, hthrough⟩ := hfailed e ht
    exact ⟨e, rfl, hname, ⟨r, hr, hrefuses⟩, hthrough (by rw [hname]; decide)⟩

end Command

end Triage
