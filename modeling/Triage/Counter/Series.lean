/-!
# Series and tallies

Observations are counted in series. A series is named by four texts; two series are the same if all four are.

* `Tally`: how often each series was counted.
* `Tally.count_add`: **counting adds one to its own series and to no other**; `Tally.total_add`.
-/

namespace Triage

/-- What an observation is counted under. -/
structure Series where
  label : String
  category : String
  source : String
  service : String
  deriving DecidableEq, Repr

namespace Series

/-- The four texts in order. -/
def parts (s : Series) : List String := [s.label, s.category, s.source, s.service]

/-- The names of the four dimensions. -/
def dimensions : List String := ["exceptionLabel", "category", "source", "serviceName"]

/-- The texts by the names of their dimensions. -/
def attributes (s : Series) : List (String × String) := dimensions.zip s.parts

/-- Whether a list of texts comes before another one or is equal to it, text by text. -/
def precedes : List String → List String → Bool
  | [], _ => true
  | _ :: _, [] => false
  | a :: as, b :: bs => a < b || (a == b && precedes as bs)

/-- The order in which series are listed. -/
def le (s t : Series) : Bool := precedes s.parts t.parts

end Series

/-- How often each series was counted. A series that was never counted is not in the list. -/
structure Tally where
  entries : List (Series × Nat)
  deriving DecidableEq, Repr

namespace Tally

/-- Nothing counted. -/
def empty : Tally := ⟨[]⟩

/-- Adds one to the entry of a series. -/
def addTo (s : Series) : List (Series × Nat) → List (Series × Nat)
  | [] => [(s, 1)]
  | (t, n) :: es => if s = t then (t, n + 1) :: es else (t, n) :: addTo s es

/-- Counts a series once. -/
def add (t : Tally) (s : Series) : Tally := ⟨addTo s t.entries⟩

/-- How often a series was counted. -/
def count (t : Tally) (s : Series) : Nat := (t.entries.lookup s).getD 0

/-- How often anything was counted. -/
def total (t : Tally) : Nat := t.entries.foldr (fun e n => e.2 + n) 0

/-- The series that were counted, in order, with their counts. -/
def sorted (t : Tally) : List (Series × Nat) :=
  t.entries.mergeSort fun a b => a.1.le b.1

theorem lookup_addTo (s u : Series) (es : List (Series × Nat)) :
    ((addTo s es).lookup u).getD 0 = (es.lookup u).getD 0 + if u = s then 1 else 0 := by
  induction es with
  | nil =>
    by_cases h : u = s
    · simp [addTo, h]
    · simp [addTo, List.lookup_cons, h, beq_eq_false_iff_ne.2 h]
  | cons e es ih =>
    obtain ⟨t, n⟩ := e
    by_cases hs : s = t
    · subst hs
      by_cases h : u = s
      · simp [addTo, h]
      · simp [addTo, List.lookup_cons, h, beq_eq_false_iff_ne.2 h]
    · by_cases ht : u = t
      · subst ht
        simp [addTo, hs, Ne.symm hs]
      · simp only [addTo, if_neg hs, List.lookup_cons, beq_eq_false_iff_ne.2 ht, ih]

/-- Counting a series adds one to it and nothing to any other. -/
theorem count_add (t : Tally) (s u : Series) :
    (t.add s).count u = t.count u + if u = s then 1 else 0 :=
  lookup_addTo s u t.entries

/-- Counting adds one to the total. -/
theorem total_add (t : Tally) (s : Series) : (t.add s).total = t.total + 1 := by
  obtain ⟨es⟩ := t
  show (addTo s es).foldr (fun e n => e.2 + n) 0 = es.foldr (fun e n => e.2 + n) 0 + 1
  induction es with
  | nil => rfl
  | cons e es ih =>
    obtain ⟨u, n⟩ := e
    by_cases h : s = u
    · rw [addTo, if_pos h, List.foldr_cons, List.foldr_cons]
      omega
    · rw [addTo, if_neg h, List.foldr_cons, List.foldr_cons, ih]
      omega

end Tally

end Triage
