import Triage.Proofs.Command.Validity
import Triage.Proofs.Settings.Overrides
import Triage.Proofs.Taxonomy.RoundTrip

/-!
# Wiring an observer

Accepted settings are wired in two steps: the counter is made for a backend, and the observer is made on that counter.
The second step asks for a limit that the settings have been checked for. The first one asks an exporter to take the
name of the metric, and of that name only the emptiness has been checked.

* `IsInstrumentName`: the names that an exporter takes; `isMetricName_iff`: they are what the counter asks for.
* `Settings.ofEntries_metricName_iff`: **any name of a metric is accepted unless it is empty**.
* `Observer.fromSettings`, `Observer.wire`: the second step, and both; `Observer.Wired`: the observer that comes of it.
* `Observer.exists_fromSettings`: **the second step never fails**.
* `Observer.wire_unless_exported_misnamed`: **accepted settings are wired to each backend**, unless the counts are to be
  exported under a name that is none of an instrument.
-/

namespace Triage

/-! ## Names of instruments -/

/-- A letter of ASCII. -/
def IsAsciiLetter (c : Char) : Prop := 'A' ≤ c ∧ c ≤ 'Z' ∨ 'a' ≤ c ∧ c ≤ 'z'

/-- **The name of an instrument** is a letter and at most 254 letters, digits, and signs that join words. -/
def IsInstrumentName (name : String) : Prop :=
  ∃ c cs, name.toList = c :: cs ∧ IsAsciiLetter c ∧ cs.length ≤ 254 ∧
    ∀ d ∈ cs, IsAsciiLetter d ∨ ('0' ≤ d ∧ d ≤ '9') ∨ d ∈ ['-', '_', '.', '/']

theorem isAlpha_iff {c : Char} : c.isAlpha = true ↔ IsAsciiLetter c := by
  have hupper : c.isUpper = true ↔ 'A' ≤ c ∧ c ≤ 'Z' := decide_eq_true_iff
  have hlower : c.isLower = true ↔ 'a' ≤ c ∧ c ≤ 'z' :=
    Bool.and_eq_true_iff.trans (and_congr decide_eq_true_iff decide_eq_true_iff)
  exact Bool.or_eq_true_iff.trans (or_congr hupper hlower)

theorem isMetricChar_iff {c : Char} :
    isMetricChar c = true ↔ IsAsciiLetter c ∨ ('0' ≤ c ∧ c ≤ '9') ∨ c ∈ ['-', '_', '.', '/'] := by
  have hdigit : c.isDigit = true ↔ '0' ≤ c ∧ c ≤ '9' :=
    Bool.and_eq_true_iff.trans (and_congr decide_eq_true_iff decide_eq_true_iff)
  have hsign : "-_./".toList.contains c = true ↔ c ∈ ['-', '_', '.', '/'] := by
    have hsigns : "-_./".toList = ['-', '_', '.', '/'] := by decide
    rw [hsigns, List.contains_iff_mem]
  unfold isMetricChar Char.isAlphanum
  rw [Bool.or_eq_true, Bool.or_eq_true, isAlpha_iff, hdigit, hsign, or_assoc]

/-- The names that a counter is exported under. -/
theorem isMetricName_iff {name : String} : isMetricName name = true ↔ IsInstrumentName name := by
  unfold isMetricName IsInstrumentName
  cases name.toList with
  | nil => simp
  | cons c cs =>
    have hlimit : cs.length < metricNameLimit ↔ cs.length ≤ 254 := Nat.lt_succ_iff
    simp [isAlpha_iff, isMetricChar_iff, hlimit, and_assoc]

/-! ## Settings -/

namespace Settings

variable {es : List (Value × Value)} {s : Settings}

/-- **Any name of a metric is accepted unless it is empty**, whatever the other entries. -/
theorem ofEntries_metricName_iff (h : ofEntries es = .ok s) (name : String) :
    ofEntries (Value.insertEntry (.text "metric_name") (.text name) es) = .ok { s with metricName := name } ↔
      name ≠ "" := by
  have hname : (field "metric_name").optional standard.metricName checkNonEmptyText
      (Value.insertEntry (.text "metric_name") (.text name) es) = .ok name ↔ name ≠ "" := by
    have hcheck : checkNonEmptyText (.text name) = .ok name ↔ name ≠ "" := by
      rw [checkNonEmptyText_eq_ok_iff (.text name)]
      exact and_iff_right rfl
    rw [optional_eq_ok_iff, Value.entry?_insertEntry, if_pos rfl]
    simp [hcheck]
  have hother : ∀ {α : Type} (key : String) (default : α) (check : Value → Checked α), "metric_name" ≠ key →
      (field key).optional default check (Value.insertEntry (.text "metric_name") (.text name) es) =
        (field key).optional default check es := by
    intro α key default check hkey
    unfold FieldName.optional
    rw [find?_field, find?_field, Value.entry?_insertEntry, if_neg hkey]
  obtain ⟨ht, hc, hlimit, -, hd, hm, hl⟩ := ofEntries_eq_ok_iff.1 h
  rw [ofEntries_eq_ok_iff, hname, hother _ _ _ (by decide), hother _ _ _ (by decide), hother _ _ _ (by decide),
    hother _ _ _ (by decide), hother _ _ _ (by decide), hother _ _ _ (by decide)]
  exact ⟨fun hnew => hnew.2.2.2.1, fun hne => ⟨ht, hc, hlimit, hne, hd, hm, hl⟩⟩

end Settings

namespace Observer

/-! ## Wiring -/

/-- **The observer that settings ask for**, on a given counter and log book. -/
def fromSettings (s : Settings) (tree : FileTree) (counter : Counter) (book : Log.Book) :
    Except MakeError (Observer × State) :=
  make counter book none (some (fileLoader tree s.taxonomyFile)) s.depthLimit s.categorisationEnabled

/-- Why settings cannot be wired. -/
inductive WireError where
  | metric (e : MetricNameError)
  | setup (e : MakeError)
  deriving DecidableEq, Repr

/-- **Wiring**: the counter that settings ask for, and the observer that they ask for on it, with a record of both. -/
def wire (s : Settings) (backend : Backend) (tree : FileTree) (book : Log.Book) :
    Except WireError (Observer × State) := do
  let (counter, book) ← (Counter.ofSettings s backend book).mapError .metric
  (ofSettings s tree counter book).mapError .setup

/-- **The observer of settings** before its first call: nothing is loaded, and nothing is counted by it. -/
structure Wired (s : Settings) (tree : FileTree) (counter : Counter) (o : Observer) (start : State) : Prop where
  limit : o.depthLimit = s.depthLimit
  categorises : o.categorises = s.categorisationEnabled
  stage : start.stage = .untried (fileLoader tree s.taxonomyFile)
  attempts : start.attempts = 0
  counter : start.counter = counter

variable {es : List (Value × Value)} {s : Settings}

theorem fromSettings_eq (h : 1 ≤ s.depthLimit) (tree : FileTree) (counter : Counter) (book : Log.Book) :
    fromSettings s tree counter book = .ok (⟨s.depthLimit, h, s.categorisationEnabled⟩,
      ⟨.untried (fileLoader tree s.taxonomyFile), 0, counter, book⟩) := by
  unfold fromSettings make
  exact dif_pos h

/-- A record that the observer was set up goes before it into the log book. -/
theorem ofSettings_eq (s : Settings) (tree : FileTree) (counter : Counter) (book : Log.Book) :
    ofSettings s tree counter book = fromSettings s tree counter (book.write .info (setupLine s counter)) := rfl

/-- **The second step never fails**, whatever the counter. -/
theorem exists_fromSettings (h : 1 ≤ s.depthLimit) (tree : FileTree) (counter : Counter) (book : Log.Book) :
    ∃ o start, fromSettings s tree counter book = .ok (o, start) ∧ Wired s tree counter o start :=
  ⟨_, _, fromSettings_eq h tree counter book, rfl, rfl, rfl, rfl, rfl⟩

/-- A counter that may have the name of its metric starts with nothing counted. -/
theorem exists_counter {backend : Backend} (h : backend = .exported → IsInstrumentName s.metricName)
    (book : Log.Book) :
    ∃ book', Counter.ofSettings s backend book =
      .ok (⟨backend, s.metricName, s.metricDescription, .empty⟩, book') := by
  unfold Counter.ofSettings Counter.make
  cases backend with
  | exported =>
    rw [isMetricName_iff.2 (h rfl)]
    exact ⟨_, rfl⟩
  | kept => exact ⟨_, rfl⟩
  | discarded => exact ⟨_, rfl⟩

/-- The exporter refuses any other name. -/
theorem counter_of_misnamed (h : ¬ IsInstrumentName s.metricName) (book : Log.Book) :
    Counter.ofSettings s .exported book = .error ⟨s.metricName⟩ := by
  have hname : isMetricName s.metricName = false := Bool.eq_false_iff.2 fun hn => h (isMetricName_iff.1 hn)
  unfold Counter.ofSettings Counter.make
  rw [hname]
  rfl

/-- **Accepted settings are wired to each backend**, unless the counts are to be exported under a name that is none of
an instrument. Whatever the entries that the settings were accepted from, the files and the log book:

* a counter that keeps or discards its counts is made, and so is one that exports them if its metric has the name of an
  instrument; the observer on it is the one that the settings ask for;
* an exporter refuses any other name, and that is the only error of wiring;
* on a counter that is there already the observer is always made;
* nothing of this is checked before: the same entries are accepted with any other name of the metric, unless it is
  empty. -/
theorem wire_unless_exported_misnamed (h : Settings.ofEntries es = .ok s) (tree : FileTree) (book : Log.Book) :
    (∀ backend, (backend = .exported → IsInstrumentName s.metricName) →
      ∃ o start, wire s backend tree book = .ok (o, start) ∧
        Wired s tree ⟨backend, s.metricName, s.metricDescription, .empty⟩ o start) ∧
    (¬ IsInstrumentName s.metricName → wire s .exported tree book = .error (.metric ⟨s.metricName⟩)) ∧
    (∀ counter, ∃ o start, fromSettings s tree counter book = .ok (o, start) ∧ Wired s tree counter o start) ∧
    ∀ name, Settings.ofEntries (Value.insertEntry (.text "metric_name") (.text name) es) =
      .ok { s with metricName := name } ↔ name ≠ "" := by
  have hlimit := Settings.one_le_of_ofEntries h
  refine ⟨fun backend hname => ?_, fun hname => ?_, fun counter => exists_fromSettings hlimit tree counter book,
    Settings.ofEntries_metricName_iff h⟩
  · obtain ⟨book', hcounter⟩ := exists_counter hname book
    obtain ⟨o, start, hobserver, hwired⟩ := exists_fromSettings hlimit tree
      ⟨backend, s.metricName, s.metricDescription, .empty⟩
      (book'.write .info (setupLine s ⟨backend, s.metricName, s.metricDescription, .empty⟩))
    rw [← ofSettings_eq] at hobserver
    refine ⟨o, start, ?_, hwired⟩
    unfold wire
    rw [hcounter]
    show (ofSettings s tree _ book').mapError WireError.setup = _
    rw [hobserver]
    rfl
  · unfold wire
    rw [counter_of_misnamed hname]
    rfl

/-- Entries with a name of the metric that has blanks in it. -/
def spacedEntries : List (Value × Value) :=
  [(.text "metric_name", .text "engine errors total"), (.text "depth_limit", .int 3)]

/-- They are accepted, and wired to a counter that keeps its counts. An exporter refuses the name. -/
theorem wire_unless_exported_misnamed_spacedEntries :
    ∃ s, Settings.ofEntries spacedEntries = .ok s ∧
      (∃ o start, wire s .kept .empty .empty = .ok (o, start) ∧ o.depthLimit = 3 ∧
        start.counter.metric = "engine errors total") ∧
      wire s .exported .empty .empty = .error (.metric ⟨"engine errors total"⟩) := by
  have haccepted : Settings.ofEntries spacedEntries =
      .ok { Settings.standard with metricName := "engine errors total", depthLimit := 3 } := by rfl
  have hname : ¬ IsInstrumentName "engine errors total" := by
    rw [← isMetricName_iff]
    decide
  obtain ⟨hwired, hrefused, -⟩ := wire_unless_exported_misnamed haccepted .empty .empty
  obtain ⟨o, start, hwire, hobserver⟩ := hwired .kept nofun
  refine ⟨_, haccepted, ⟨o, start, hwire, hobserver.limit, ?_⟩, hrefused hname⟩
  rw [hobserver.counter]

end Observer

end Triage
