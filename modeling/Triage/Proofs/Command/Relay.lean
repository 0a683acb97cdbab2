import Triage.Proofs.Command.Precedence
import Triage.Proofs.Observer.Totality
import Triage.Proofs.Observer.Wiring

/-!
# The command that classifies, beside the observer

The command makes an observer and a fault of its own. What it reports is what any observer of the same settings answers
to the same fault, whatever that observer counts with and logs to.

* `Observer.classify_answer_congr`: **an answer is up to the taxonomy and its loading**, and not to the counter or the
  log book.
* `Observer.classify_first`: the first call of an observer that loads a file is answered with a series, or with the
  error of a file without a taxonomy.
* `Command.Report.Relays`: a report says what an observer has answered.
* `Command.exists_relayed`, `Command.run_of_surrogate`: what the command does with a name that is a text, and with others.
* `Command.classify_relays_unless_surrogate`: **the command relays what the observer answers**, and always reports unless
  the name of the class is no text.
-/

namespace Triage

namespace Observer

variable {o : Observer} {s s' : State} {c : Call} {i : Nat} {tree : FileTree} {path : Option String}

/-! ## Answers -/

/-- **The answer to a call** is up to the classifier that the observer gets. -/
theorem classify_answer (o : Observer) (c : Call) (s : State) :
    ((o.classify c).on s).1 = c.check.bind fun i => (o.classifier?.on s).1.bind fun classifier =>
      o.seriesOf classifier c.origin c.graph i c.service := by
  rw [classify_on]
  cases c.check with
  | error e => rfl
  | ok i =>
    rcases o.classifier?.on s with ⟨e | classifier, left⟩
    · rfl
    · dsimp only
      rw [series_on]
      rfl

/-- A failed attempt is answered alike in all states. -/
theorem fail_answer {α : Type} (o : Observer) (attempt : Nat) (f : LoadFailure) (s s' : State) :
    ((o.fail attempt f : Action α).on s').1 = ((o.fail attempt f : Action α).on s).1 := by
  rw [fail_on, fail_on]
  cases f.isCaught with
  | false => rfl
  | true => cases f.describe <;> rfl

theorem prepare_answer_congr (hstage : s'.stage = s.stage) (hattempts : s'.attempts = s.attempts) :
    (o.prepare.on s').1 = (o.prepare.on s).1 := by
  cases hs : s.stage with
  | ready cl => rw [prepare_of_ready hs, prepare_of_ready (hstage.trans hs)]
  | failed e => rw [prepare_of_failed hs, prepare_of_failed (hstage.trans hs)]
  | untried loader =>
    rw [prepare_of_untried hs, prepare_of_untried (hstage.trans hs), hattempts]
    cases loader s.attempts with
    | ok x => rfl
    | error f => exact o.fail_answer s.attempts f _ _

/-- **An answer is up to the taxonomy and its loading**: neither the counter nor the log book matters. -/
theorem classify_answer_congr (o : Observer) (hstage : s'.stage = s.stage) (hattempts : s'.attempts = s.attempts)
    (c : Call) :
    ((o.classify c).on s').1 = ((o.classify c).on s).1 := by
  have hclassifier : (o.classifier?.on s').1 = (o.classifier?.on s).1 := by
    cases he : o.categorises with
    | false => rw [classifier?_of_disabled he, classifier?_of_disabled he]
    | true => rw [classifier?_of_enabled he, classifier?_of_enabled he, prepare_answer_congr hstage hattempts]
  rw [classify_answer, classify_answer, hclassifier]

/-- A legal fault is always named a series, whether the classifier is consulted or not. -/
theorem exists_seriesOf (o : Observer) (classifier : Classifier) (hg : c.graph.IsLegal) {source service : String}
    (hsource : c.origin.source = .ok source) (hservice : checkService c.service = .ok service) (i : Nat) :
    ∃ u, o.seriesOf (o.consulted classifier) c.origin c.graph i c.service = .ok u := by
  obtain ⟨v, hv, -⟩ := o.verdict_known classifier hg i
  exact ⟨_, seriesOf_eq_ok_iff.2 ⟨source, v, service, hsource, hv, hservice, rfl⟩⟩

/-- **The first call** of an observer that loads a file is answered with a series, or with the error of a file without a
taxonomy. -/
theorem classify_first (hs : s.stage = .untried (fileLoader tree path)) (hc : c.check = .ok i)
    (hg : c.graph.IsLegal) {source service : String} (hsource : c.origin.source = .ok source)
    (hservice : checkService c.service = .ok service) :
    (∃ u, ((o.classify c).on s).1 = .ok u) ∨
      ∃ e, Taxonomy.ofFile tree path = .error e ∧
        ((o.classify c).on s).1 = .error (.configuration ⟨s.attempts, .document e⟩) := by
  cases he : o.categorises with
  | false =>
    -- nothing is loaded, and any classifier would not be consulted
    obtain ⟨u, hu⟩ := exists_seriesOf o (o.classifierOf .empty) hg hsource hservice i
    rw [consulted_of_disabled he] at hu
    rw [classify_answer, hc, classifier?_of_disabled he]
    exact .inl ⟨u, hu⟩
  | true =>
    cases ht : Taxonomy.ofFile tree path with
    | ok x =>
      obtain ⟨t, line⟩ := x
      obtain ⟨u, hu⟩ := exists_seriesOf o (o.classifierOf t) hg hsource hservice i
      rw [consulted_of_enabled he] at hu
      rw [classify_answer, hc, classifier?_of_enabled he, prepare_of_untried hs, fileLoader_of_ok ht]
      exact .inl ⟨u, hu⟩
    | error e =>
      obtain ⟨left, hanswer⟩ := classify_of_failing he hc hs (fileLoader_of_error ht s.attempts)
        (LoadFailure.isShowable_document e)
      exact .inr ⟨e, rfl, congrArg Prod.fst hanswer⟩

end Observer

namespace Command

/-! ## Faults -/

/-- A class whose faults cannot be made from a message is replaced by a new one of its name. -/
theorem ofName_of_isUnbuildable {name : String} (h : Fault.isUnbuildable name = true) (message : Option String) :
    Fault.ofName name message = .ok (.plain (.derive name .exception) (Fault.messageArguments message)) := by
  have hnames : ∀ n ∈ FaultClass.unbuildableNames, FaultClass.known? n = none ∧ n.toList.contains '\x00' = false := by
    decide +kernel
  obtain ⟨hknown, hnul⟩ := hnames name (List.contains_iff_mem.1 h)
  rw [Fault.ofName_ofString]
  unfold Fault.ofClassName
  rw [hknown]
  dsimp only
  rw [hnul]
  rfl

/-! ## Reports -/

/-- **A report relays an answer.** A series is printed in four lines, and nothing is complained of. Of the error that
there is no taxonomy only the complaint is printed, behind what was told and logged before. -/
inductive Report.Relays (r : Report) : Except Observer.Error Series → Prop where
  | series {u : Series} (exit : r.exit = 0)
      (output : r.output = "label:    " ++ u.label ++ "\n" ++ ("category: " ++ u.category ++ "\n") ++
        ("source:   " ++ u.source ++ "\n") ++ ("service:  " ++ u.service ++ "\n"))
      (errors : ∀ time, r.errors time = Report.textOf r.warnings ++ Log.textOfLines time r.log) :
    Relays r (.ok u)
  | complaint {e : ConfigError} (exit : r.exit = 1) (output : r.output = "")
      (errors : ∀ time, r.errors time = Report.textOf r.warnings ++ Log.textOfLines time r.log ++
        ("Invalid exception data: " ++ e.message ++ "\n")) :
    Relays r (.error (.configuration e))

variable {o : Options} {tree : FileTree} {env env' : Environment} {faulty : List Nat} {cfg s : Settings}
  {name : RawText} {message service : Option String} {origin : CallSite}

theorem relays_of_series (faulty : List Nat) (level : Log.LevelName) (u : Series) (book : Log.Book) :
    (reportOf faulty level (.ok (seriesLines u), book)).Relays (.ok u) := by
  refine .series rfl ?_ fun time => ?_
  · show Report.textOf ["label:    " ++ u.label, "category: " ++ u.category, "source:   " ++ u.source,
      "service:  " ++ u.service] = _
    simp [Report.textOf, String.append_assoc]
  · exact String.append_empty

theorem relays_of_complaint (faulty : List Nat) (level : Log.LevelName) (e : ConfigError) (book : Log.Book) :
    (reportOf faulty level (.error e.message, book)).Relays (.error (.configuration e)) := by
  refine .complaint rfl rfl fun time => ?_
  have hline : Report.textOf [complaintLine e.message] = "Invalid exception data: " ++ e.message ++ "\n" := by
    show Report.textOf ["Invalid exception data: " ++ e.message] = _
    simp [Report.textOf]
  rw [← hline]
  rfl

/-- The command reports, and relays what the observer of its own answers. -/
theorem run_relays (hs : o.RunsWith tree env s) (hlimit : 1 ≤ s.depthLimit)
    (hq : o.request = .classify name message origin service) {cls : FaultClass}
    (hfault : Fault.ofName name message = .ok (.plain cls (Fault.messageArguments message))) :
    ∃ r, o.run tree env = .ok r ∧
      r.Relays (((observerOf s hlimit).classify
        (callOf (.plain cls (Fault.messageArguments message)) origin service)).on (startOf s tree name)).1 := by
  obtain ⟨source, hsource⟩ := Origin.source_callSite origin
  obtain ⟨service', hservice⟩ := exists_checkService service
  obtain ⟨faulty, hrun⟩ := run_of_runsWith hs
  have hrequest : o.request.run s tree = classify s tree name message origin service := by
    rw [hq]
    rfl
  rw [hrequest, classify_eq hlimit hfault] at hrun
  rcases Observer.classify_first (o := observerOf s hlimit) (s := startOf s tree name)
    (c := callOf (.plain cls (Fault.messageArguments message)) origin service) rfl
    (Observer.check_of_source rfl hsource) (Fault.isLegal_plain cls _) hsource hservice with ⟨u, hu⟩ | ⟨e, -, he⟩
  · rw [hu] at hrun ⊢
    exact ⟨_, hrun, relays_of_series faulty s.logLevel u _⟩
  · rw [he] at hrun ⊢
    exact ⟨_, hrun, relays_of_complaint faulty s.logLevel _ _⟩

/-- Of a name that is a text there is a fault, and the report relays what the observer answers to it, with whatever
counter and log book. -/
theorem exists_relayed (hs : o.RunsWith tree env s) (hlimit : 1 ≤ s.depthLimit) {text : String}
    (hq : o.request = .classify text message origin service) (hnul : '\x00' ∉ text.toList) (counter : Counter)
    (book : Log.Book) :
    ∃ fault r, Fault.ofName text message = .ok fault ∧
      (Fault.isUnbuildable text = true → fault = .plain (.derive text .exception) (Fault.messageArguments message)) ∧
      o.run tree env = .ok r ∧
      r.Relays (((observerOf s hlimit).classify (callOf fault origin service)).on
        { startOf s tree text with counter, book }).1 := by
  obtain ⟨cls, hfault⟩ := Fault.ofName_eq_ok hnul message
  obtain ⟨r, hrun, hrelays⟩ := run_relays hs hlimit hq hfault
  refine ⟨_, r, hfault, fun hunbuildable => ?_, hrun, ?_⟩
  · exact Except.ok.inj (hfault.symm.trans (ofName_of_isUnbuildable hunbuildable message))
  · -- the observer of the command starts with another counter and another log book, and with nothing else
    have hstage : ({ startOf s tree text with counter, book } : Observer.State).stage = (startOf s tree text).stage := rfl
    have hsame := (observerOf s hlimit).classify_answer_congr hstage rfl
    rw [hsame]
    exact hrelays

/-- Of a name that is no text the command makes no fault, and ends without a report. -/
theorem run_of_surrogate (hs : o.RunsWith tree env s) (hlimit : 1 ≤ s.depthLimit)
    (hq : o.request = .classify name message origin service) {e : SurrogateError} (hname : name.toText = .error e) :
    o.run tree env = .error (.fault (.notText e)) := by
  obtain ⟨faulty, hrun⟩ := run_of_runsWith hs
  have hrequest : o.request.run s tree = .error (.fault (.notText e)) := by
    rw [hq]
    show classify s tree name message origin service = _
    unfold classify
    dsimp only
    rw [make_eq hlimit, Fault.ofName_of_error hname]
    rfl
  rw [hrun, hrequest]
  rfl

/-- **The command relays what the observer answers, unless the name of the class is no text.** Let the environment be
read and the settings be accepted. Whatever the name of a class and the origin that the command is asked for, whatever
the texts given as message and service, whatever the files, and whatever counter and log book an observer of the settings
with the named taxonomy file is given:

* the observer can be made;
* if the name is a text, so can the fault; if no message makes a fault of the class, a new class of its name stands in.
  The command ends with a report that relays what this observer answers to this fault: the series, or the one error that
  there is no taxonomy;
* if the name is no text, no fault can be made, and this is what the command ends with, without a report;
* so it reports exactly if there is no surrogate in the name. -/
theorem classify_relays_unless_surrogate (henv : o.environment tree env = .ok (env', faulty))
    (hcfg : Settings.ofFile tree o.settingsFile env' = .ok cfg)
    (hq : o.request = .classify name message origin service) (hname : .char '\x00' ∉ name.chars) (counter : Counter)
    (book : Log.Book) :
    ∃ observer start,
      Observer.fromSettings { cfg with taxonomyFile := o.taxonomyFile.or cfg.taxonomyFile } tree counter book =
        .ok (observer, start) ∧
      (∀ text : String, name = text → ∃ fault r, Fault.ofName name message = .ok fault ∧
        (Fault.isUnbuildable text = true →
          fault = .plain (.derive text .exception) (Fault.messageArguments message)) ∧
        o.run tree env = .ok r ∧ r.Relays ((observer.classify (callOf fault origin service)).on start).1) ∧
      (∀ e, name.toText = .error e →
        Fault.ofName name message = .error (.notText e) ∧ o.run tree env = .error (.fault (.notText e))) ∧
      ((∃ r, o.run tree env = .ok r) ↔ ∀ n, .surrogate n ∉ name.chars) := by
  set s : Settings :=
    { cfg with logLevel := o.consoleLevel.getD cfg.logLevel, taxonomyFile := o.taxonomyFile.or cfg.taxonomyFile }
  have hs : o.settings tree env' = .ok s := settings_eq_ok_iff.2 ⟨cfg, hcfg, rfl⟩
  have hruns : o.RunsWith tree env s := ⟨env', faulty, henv, hs⟩
  have hlimit := one_le_of_settings hs
  set start : Observer.State := { startOf s tree name with counter, book }
  have hmake : Observer.fromSettings { cfg with taxonomyFile := o.taxonomyFile.or cfg.taxonomyFile } tree counter book =
      .ok (observerOf s hlimit, start) := Observer.fromSettings_eq hlimit tree counter book
  have hrelayed (text : String) (htext : name = text) : ∃ fault r, Fault.ofName name message = .ok fault ∧
      (Fault.isUnbuildable text = true →
        fault = .plain (.derive text .exception) (Fault.messageArguments message)) ∧
      o.run tree env = .ok r ∧
        r.Relays (((observerOf s hlimit).classify (callOf fault origin service)).on start).1 := by
    subst htext
    exact exists_relayed hruns hlimit hq (fun h => hname (List.mem_map_of_mem h)) counter book
  have hrefused (e : SurrogateError) (he : name.toText = .error e) : o.run tree env = .error (.fault (.notText e)) :=
    run_of_surrogate hruns hlimit hq he
  refine ⟨observerOf s hlimit, start, hmake, hrelayed, fun e he => ⟨Fault.ofName_of_error he message, hrefused e he⟩, ?_⟩
  rw [← not_exists, ← RawText.exists_error_iff]
  cases ht : name.toText with
  | ok text =>
    obtain ⟨fault, r, -, -, hrun, -⟩ := hrelayed text (RawText.toText_eq_ok_iff.1 ht)
    exact iff_of_true ⟨r, hrun⟩ fun ⟨e, he⟩ => nomatch he
  | error e =>
    rw [hrefused e ht]
    exact iff_of_false (fun ⟨r, hr⟩ => nomatch hr) fun h => h ⟨e, rfl⟩

/-- A tree with a taxonomy without categories. -/
def bareTree : FileTree := .ofList [("faults.yaml", "[]".toUTF8.toList)]

/-- A command line that asks for a fault that no message makes. -/
def unbuildableRequest : Options :=
  namingFile.asking (.classify "UnicodeDecodeError" (some "bad byte") .unrecognised none)

/-- A command line that names a class by a byte that is no text. -/
def loneByteRequest : Options :=
  namingFile.asking (.classify ⟨[.surrogate 0x4ff]⟩ none .unrecognised none)

/-- A fault of a new class is classified, and the four lines are printed. Of the byte there is no fault. -/
theorem classify_relays_unless_surrogate_loneByte :
    (∃ fault observer start r, Fault.ofName "UnicodeDecodeError" (some "bad byte") = .ok fault ∧
      fault.cls.name = "UnicodeDecodeError" ∧ fault.message = .text "bad byte" ∧
      Observer.fromSettings { Settings.standard with taxonomyFile := some "faults.yaml" } bareTree
        ⟨.discarded, "errors_total", "", .empty⟩ .empty = .ok (observer, start) ∧
      ((observer.classify (callOf fault .unrecognised none)).on start).1 =
        .ok ⟨"UnicodeDecodeError", "UnknownError", "Unrecognised", "N/A"⟩ ∧
      unbuildableRequest.run bareTree [] = .ok r ∧ r.exit = 0 ∧
      r.output = "label:    UnicodeDecodeError\ncategory: UnknownError\nsource:   Unrecognised\nservice:  N/A\n") ∧
      ∃ f, loneByteRequest.run bareTree [] = .error f ∧
        f.message = "'utf-8' codec can't encode character '\\udcff' in position 0: surrogates not allowed" := by
  have hcfg : Settings.ofFile bareTree namingFile.settingsFile [] = .ok Settings.standard := rfl
  have hnul : RawChar.char '\x00' ∉ (RawText.ofString "UnicodeDecodeError").chars := by decide
  have hunbuildable : Fault.isUnbuildable "UnicodeDecodeError" = true := by decide
  have henv : unbuildableRequest.environment bareTree [] = .ok ([], []) := rfl
  obtain ⟨observer, start, hmake, htext, -, -⟩ :=
    classify_relays_unless_surrogate henv hcfg rfl hnul ⟨.discarded, "errors_total", "", .empty⟩ .empty
  obtain ⟨fault, r, hfault, hreplaced, hrun, hrelays⟩ := htext "UnicodeDecodeError" rfl
  obtain rfl := hreplaced hunbuildable
  have hanswer : ((observer.classify (callOf (.plain (.derive "UnicodeDecodeError" .exception)
      (Fault.messageArguments (some "bad byte"))) .unrecognised none)).on start).1 =
        .ok ⟨"UnicodeDecodeError", "UnknownError", "Unrecognised", "N/A"⟩ := by
    cases hmake
    exact Settings.eq_ok_of_toOption (by decide +kernel)
  rw [hanswer] at hrelays
  have henv' : loneByteRequest.environment bareTree [] = .ok ([], []) := rfl
  obtain ⟨_, _, -, -, hlone, -⟩ :=
    classify_relays_unless_surrogate henv' hcfg rfl (by decide) ⟨.kept, "errors_total", "", .empty⟩ .empty
  cases hrelays with
  | series exit output =>
    refine ⟨⟨_, observer, start, r, hfault, rfl, rfl, hmake, hanswer, hrun, exit, output.trans (by decide +kernel)⟩, ?_⟩
    exact ⟨_, (hlone ⟨0, 0x4ff, 0⟩ rfl).2, by decide +kernel⟩

end Command

end Triage
