import Triage.Counter.Series
import Triage.Log.Book
import Triage.Settings.Basic

/-!
# Counters

A counter counts observations by series, under the name of a metric.

* `Backend`: where the counts go: they are kept here, exported, or thrown away.
* `Counter.make`: a counter; an exported one needs a proper name for its metric.
* `Counter.ofSettings`: the counter that settings ask for.
* `Counter.increment`: counts a series once. A counter that keeps its counts also writes a record.
-/

namespace Triage

/-- Where the counts of a counter go. -/
inductive Backend where
  | kept
  | exported
  | discarded
  deriving DecidableEq, Repr

/-- A counter of observations. -/
structure Counter where
  backend : Backend
  metric : String
  description : String
  tally : Tally
  deriving DecidableEq, Repr

/-- The name of a metric does not suit an exporter. -/
structure MetricNameError where
  name : String
  deriving DecidableEq, Repr

/-- The name of an exported metric has at most so many characters. -/
def metricNameLimit : Nat := 255

/-- The wording for it. -/
def MetricNameError.message (e : MetricNameError) : String :=
  s!"Expected ASCII string of maximum length {metricNameLimit} characters but got {e.name}"

/-- Whether a character may stand in the name of an exported metric after its first. -/
def isMetricChar (c : Char) : Bool := c.isAlphanum || "-_./".toList.contains c

/-- Whether a text may name an exported metric: a letter of ASCII and further characters up to the limit. -/
def isMetricName (name : String) : Bool :=
  match name.toList with
  | [] => false
  | c :: cs => c.isAlpha && cs.length < metricNameLimit && cs.all isMetricChar

namespace Counter

/-- A counter that has not counted anything. -/
def make (backend : Backend) (metric description : String) : Except MetricNameError Counter :=
  if backend == .exported && !isMetricName metric then .error ⟨metric⟩
  else .ok ⟨backend, metric, description, .empty⟩

/-- Writes the record that a counter was made; one that keeps its counts is silent. -/
def announce (c : Counter) (b : Log.Book) : Log.Book :=
  match c.backend with
  | .kept => b
  | .exported | .discarded => b.write .debug s!"Created OTel counter {c.metric}"

/-- The counter that settings ask for, announced in the book. -/
def ofSettings (s : Settings) (backend : Backend) (b : Log.Book) :
    Except MetricNameError (Counter × Log.Book) :=
  (make backend s.metricName s.metricDescription).map fun c =>
    match backend with
    | .kept => (c, b.write .info s!"Using in-memory error counter ({c.metric})")
    | .exported | .discarded => (c, c.announce b)

/-- The unit of the counts. -/
def unit : String := "\x7berror\x7d"

/-- The record that a series was counted. -/
def incrementLine (c : Counter) (s : Series) : String :=
  c.metric ++ "\x7b" ++ ",".intercalate s.parts ++ "\x7d += 1"

/-- Counts a series once. -/
def increment (c : Counter) (s : Series) (b : Log.Book) : Counter × Log.Book :=
  match c.backend with
  | .kept => ({ c with tally := c.tally.add s }, b.write .debug (c.incrementLine s))
  | .exported => ({ c with tally := c.tally.add s }, b)
  | .discarded => (c, b)

/-- Forgets all counts. -/
def clear (c : Counter) : Counter := { c with tally := .empty }

/-- What an exporter has been given. -/
def points (c : Counter) : List (Series × Nat) :=
  match c.backend with
  | .exported => c.tally.sorted
  | .kept | .discarded => []

end Counter

end Triage
