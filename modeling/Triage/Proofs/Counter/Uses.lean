import Triage.Counter.Basic
import Triage.Proofs.Counter.Samples

/-!
# Counters in use

A counter is incremented, read and cleared in any order. It always reads as the list of the series that were counted
since it was last cleared.

* `Counter.Use`, `Counter.Reading`, `Counter.use`, `Counter.run`: what a counter is asked, what it answers, and a whole
  run of that.
* `Use.counted`: the list of the series that were counted, which is all that a counter has to know.
* `Answers`, `Follows`: the answers that this list asks for, one after the other.
* `Counts`: the tally of a counter is that of the list; `Counts.use`: **each step keeps to it**; `Counts.run`: and so
  does a whole run.
-/

namespace Triage

namespace Tally

/-- A tally of a list: each of its series has the number of its occurrences, and no other has an entry. -/
theorem mem_entries_addAll_iff {us : List Series} {u : Series} {n : Nat} :
    (u, n) ∈ (empty.addAll us).entries ↔ u ∈ us ∧ us.count u = n := by
  rw [(distinct_empty.addAll us).mem_entries_iff, lookup_addAll]
  by_cases h : u ∈ us
  · simp [h, empty]
  · simp [h, empty]

theorem total_addAll (t : Tally) (us : List Series) : (t.addAll us).total = t.total + us.length := by
  induction us generalizing t with
  | nil => rfl
  | cons u us ih =>
    show ((t.add u).addAll us).total = _
    rw [ih, total_add, List.length_cons]
    omega

end Tally

namespace Counter

/-- What a counter is asked. -/
inductive Use where
  | increment (u : Series)
  | value (u : Series)
  | samples
  | total
  | clear
  deriving DecidableEq

/-- What it answers. -/
inductive Reading where
  | done
  | value (n : Nat)
  | samples (entries : List (Series × Nat))
  deriving DecidableEq

/-- What a counter answers, and what becomes of it and of the book. -/
def use (c : Counter) (b : Log.Book) : Use → Reading × Counter × Log.Book
  | .increment u => (.done, c.increment u b)
  | .value u => (.value (c.tally.count u), c, b)
  | .samples => (.samples c.tally.sorted, c, b)
  | .total => (.value c.tally.total, c, b)
  | .clear => (.done, c.clear, b)

/-- The answers of a counter that is used several times, and what becomes of it and of the book. -/
def run (c : Counter) (b : Log.Book) : List Use → List Reading × Counter × Log.Book
  | [] => ([], c, b)
  | x :: xs =>
    let (reading, c', b') := c.use b x
    let (readings, last) := c'.run b' xs
    (reading :: readings, last)

/-- The counter after several uses. -/
def afterUses (c : Counter) (b : Log.Book) (xs : List Use) : Counter := (c.run b xs).2.1

/-- The series counted since the counter was last cleared, one more time each, after one more use. -/
def Use.counted (us : List Series) : Use → List Series
  | .increment u => us ++ [u]
  | .clear => []
  | .value _ | .samples | .total => us

/-- The series counted since the counter was last cleared. -/
def countedBy (xs : List Use) : List Series := xs.foldl Use.counted []

/-- The answer that the list of the series counted so far asks for. A series that was not counted has no sample, and its
value is zero. -/
inductive Answers (us : List Series) : Use → Reading → Prop where
  | increment (u : Series) : Answers us (.increment u) .done
  | value (u : Series) : Answers us (.value u) (.value (us.count u))
  | samples {entries : List (Series × Nat)} (distinct : (entries.map Prod.fst).Nodup)
      (mem : ∀ u n, (u, n) ∈ entries ↔ u ∈ us ∧ us.count u = n) : Answers us .samples (.samples entries)
  | total : Answers us .total (.value us.length)
  | clear : Answers us .clear .done

/-- The answers that are asked for one after the other. -/
inductive Follows : List Series → List Use → List Reading → Prop where
  | nil {us : List Series} : Follows us [] []
  | cons {us : List Series} {x : Use} {xs : List Use} {reading : Reading} {readings : List Reading}
      (head : Answers us x reading) (tail : Follows (x.counted us) xs readings) :
      Follows us (x :: xs) (reading :: readings)

/-- The counter counts, and its tally is the one of the given series. -/
structure Counts (c : Counter) (us : List Series) : Prop where
  backend : c.backend ≠ .discarded
  tally : c.tally = Tally.empty.addAll us

variable {c : Counter} {us : List Series}

/-- A new counter has counted nothing. -/
theorem counts_make {backend : Backend} {metric description : String} (h : make backend metric description = .ok c)
    (hb : backend ≠ .discarded) : c.Counts [] ∧ c.backend = backend ∧ c.metric = metric := by
  unfold make at h
  split at h
  · cases h
  · obtain rfl := Except.ok.inj h
    exact ⟨⟨hb, rfl⟩, rfl, rfl⟩

/-- Counting leaves the kind of the counter as it is. -/
theorem backend_increment (c : Counter) (u : Series) (b : Log.Book) : (c.increment u b).1.backend = c.backend := by
  unfold increment
  cases h : c.backend <;> simp [h]

/-- Counting takes the series into the list. -/
theorem Counts.increment (h : c.Counts us) (u : Series) (b : Log.Book) : (c.increment u b).1.Counts (us ++ [u]) := by
  have hadd : c.tally.add u = Tally.empty.addAll (us ++ [u]) := by
    rw [h.tally, Tally.addAll, Tally.addAll, List.foldl_append]
    rfl
  refine ⟨(backend_increment c u b).trans_ne h.backend, ?_⟩
  unfold Counter.increment
  cases hb : c.backend with
  | discarded => exact absurd hb h.backend
  | kept => exact hadd
  | exported => exact hadd

/-- **Each step** is answered as the list asks for, and the tally remains the one of the list. -/
theorem Counts.use (h : c.Counts us) (b : Log.Book) (x : Use) :
    Answers us x (c.use b x).1 ∧ (c.use b x).2.1.Counts (x.counted us) := by
  cases x with
  | increment u => exact ⟨.increment u, h.increment u b⟩
  | value u =>
    have hcount : c.tally.count u = us.count u := by
      rw [h.tally, Tally.count_addAll]
      exact Nat.zero_add _
    refine ⟨?_, h⟩
    show Answers us _ (.value (c.tally.count u))
    rw [hcount]
    exact .value u
  | samples =>
    have hperm := c.tally.perm_sorted
    refine ⟨.samples ?_ fun u n => ?_, h⟩
    · rw [(hperm.map Prod.fst).nodup_iff, h.tally]
      exact Tally.distinct_empty.addAll us
    · rw [hperm.mem_iff, h.tally, Tally.mem_entries_addAll_iff]
  | total =>
    have htotal : c.tally.total = us.length := by
      rw [h.tally, Tally.total_addAll]
      exact Nat.zero_add _
    refine ⟨?_, h⟩
    show Answers us _ (.value c.tally.total)
    rw [htotal]
    exact .total
  | clear => exact ⟨.clear, h.backend, rfl⟩

/-- **A whole run** is answered so. -/
theorem Counts.run (h : c.Counts us) (b : Log.Book) (xs : List Use) :
    Follows us xs (c.run b xs).1 ∧ (c.afterUses b xs).Counts (xs.foldl Use.counted us) := by
  induction xs generalizing c b us with
  | nil => exact ⟨.nil, h⟩
  | cons x xs ih =>
    obtain ⟨hanswer, hcounts⟩ := h.use b x
    obtain ⟨hfollows, hafter⟩ := ih hcounts (c.use b x).2.2
    exact ⟨.cons hanswer hfollows, hafter⟩

end Counter

end Triage
