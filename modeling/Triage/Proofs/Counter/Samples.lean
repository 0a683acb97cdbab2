import Mathlib.Data.List.Nodup
import Triage.Counter.Series

/-!
# Samples

The samples of a tally are its series with their counts. In what order the series were counted does not show in them.

* `Tally.lookup_addAll`: the sample of a series after counting several; `Tally.lookup_addAll_perm`.
* `Tally.Distinct`: no series has two entries, in a tally that was only counted.
* `Series.le_trans`, `Series.le_total`, `Series.le_antisymm`: the order in which series are listed.
* `Tally.sorted_eq`: **tallies with the same samples are listed alike**.
-/

namespace Triage

namespace Series

variable {a b : String} {as bs cs : List String}

theorem precedes_cons : precedes (a :: as) (b :: bs) = true ↔ a < b ∨ a = b ∧ precedes as bs = true := by
  simp only [precedes, Bool.or_eq_true, Bool.and_eq_true, decide_eq_true_eq, beq_iff_eq]

theorem precedes_trans (h : precedes as bs = true) (h' : precedes bs cs = true) : precedes as cs = true := by
  induction as generalizing bs cs with
  | nil => rfl
  | cons a as ih =>
    cases bs with
    | nil => cases h
    | cons b bs =>
      cases cs with
      | nil => cases h'
      | cons c cs =>
        rw [precedes_cons] at h h' ⊢
        rcases h with hab | ⟨rfl, h⟩ <;> rcases h' with hbc | ⟨rfl, h'⟩
        · exact .inl (String.lt_trans hab hbc)
        · exact .inl hab
        · exact .inl hbc
        · exact .inr ⟨rfl, ih h h'⟩

theorem precedes_total (as bs : List String) : precedes as bs = true ∨ precedes bs as = true := by
  induction as generalizing bs with
  | nil => exact .inl rfl
  | cons a as ih =>
    cases bs with
    | nil => exact .inr rfl
    | cons b bs =>
      rw [precedes_cons, precedes_cons]
      by_cases hab : a < b
      · exact .inl (.inl hab)
      · by_cases hba : b < a
        · exact .inr (.inl hba)
        · -- neither text is before the other one, so that the rest decides
          obtain rfl : a = b := String.le_antisymm (String.not_lt.1 hba) (String.not_lt.1 hab)
          exact (ih bs).imp (fun h => .inr ⟨rfl, h⟩) fun h => .inr ⟨rfl, h⟩

theorem precedes_antisymm (h : precedes as bs = true) (h' : precedes bs as = true) : as = bs := by
  induction as generalizing bs with
  | nil =>
    cases bs with
    | nil => rfl
    | cons b bs => cases h'
  | cons a as ih =>
    cases bs with
    | nil => cases h
    | cons b bs =>
      rw [precedes_cons] at h h'
      rcases h with hab | ⟨rfl, h⟩ <;> rcases h' with hba | ⟨hba, h'⟩
      · exact absurd hba (String.lt_asymm hab)
      · exact absurd (hba ▸ hab) (String.lt_irrefl a)
      · exact absurd hba (String.lt_irrefl a)
      · rw [ih h h']

theorem le_trans (s t u : Series) (h : s.le t = true) (h' : t.le u = true) : s.le u = true :=
  precedes_trans h h'

theorem le_total (s t : Series) : (s.le t || t.le s) = true :=
  Bool.or_eq_true_iff.2 (precedes_total s.parts t.parts)

theorem le_antisymm {s t : Series} (h : s.le t = true) (h' : t.le s = true) : s = t := by
  have hparts : s.parts = t.parts := precedes_antisymm h h'
  obtain ⟨_, _, _, _⟩ := s
  obtain ⟨_, _, _, _⟩ := t
  cases hparts
  rfl

end Series

namespace Tally

variable {t t' : Tally}

/-- Counts several series, one after the other. -/
def addAll (t : Tally) (us : List Series) : Tally := us.foldl add t

/-- The sample of a series after counting once. -/
theorem lookup_add (t : Tally) (s u : Series) :
    (t.add s).entries.lookup u =
      if u = s then some ((t.entries.lookup s).getD 0 + 1) else t.entries.lookup u := by
  obtain ⟨es⟩ := t
  show (addTo s es).lookup u = if u = s then some ((es.lookup s).getD 0 + 1) else es.lookup u
  induction es with
  | nil =>
    by_cases h : u = s
    · simp [addTo, h]
    · simp [addTo, List.lookup_cons, h, beq_eq_false_iff_ne.2 h]
  | cons e es ih =>
    obtain ⟨v, n⟩ := e
    -- the entry of the series stands here, or it is looked for behind
    by_cases hv : s = v
    · subst hv
      by_cases h : u = s
      · simp [addTo, h]
      · simp [addTo, List.lookup_cons, h, beq_eq_false_iff_ne.2 h]
    · by_cases h : u = v
      · subst h
        simp [addTo, hv, Ne.symm hv]
      · simp only [addTo, if_neg hv, List.lookup_cons, beq_eq_false_iff_ne.2 h, beq_eq_false_iff_ne.2 hv, ih]

/-- **The sample of a series after counting several**: each of its own adds one, and the first of them gives it a
sample. -/
theorem lookup_addAll (t : Tally) (us : List Series) (u : Series) :
    (t.addAll us).entries.lookup u =
      if u ∈ us then some ((t.entries.lookup u).getD 0 + us.count u) else t.entries.lookup u := by
  induction us generalizing t with
  | nil => simp [addAll]
  | cons s us ih =>
    show ((t.add s).addAll us).entries.lookup u = _
    rw [ih, lookup_add]
    by_cases hs : u = s
    · -- the series has its sample from here on, whether or not it is counted again
      subst hs
      by_cases hmem : u ∈ us
      · simp [hmem]
        omega
      · simp [hmem, List.count_eq_zero_of_not_mem hmem]
    · simp [hs, Ne.symm hs]

/-- **The order of counting does not show** in any sample. -/
theorem lookup_addAll_perm {us vs : List Series} (h : us.Perm vs) (t : Tally) (u : Series) :
    (t.addAll us).entries.lookup u = (t.addAll vs).entries.lookup u := by
  rw [lookup_addAll, lookup_addAll, h.count_eq]
  simp only [h.mem_iff]

theorem count_addAll (t : Tally) (us : List Series) (u : Series) :
    (t.addAll us).count u = t.count u + us.count u := by
  unfold count
  rw [lookup_addAll]
  by_cases h : u ∈ us
  · rw [if_pos h]
    rfl
  · rw [if_neg h, List.count_eq_zero_of_not_mem h, Nat.add_zero]

/-- No series has two entries. -/
def Distinct (t : Tally) : Prop := (t.entries.map Prod.fst).Nodup

instance (t : Tally) : Decidable t.Distinct := inferInstanceAs (Decidable (List.Nodup _))

theorem distinct_empty : empty.Distinct := List.nodup_nil

/-- Counting a series adds none but itself. -/
theorem mem_addTo {s u : Series} {es : List (Series × Nat)} (h : u ∈ (addTo s es).map Prod.fst) :
    u = s ∨ u ∈ es.map Prod.fst := by
  induction es with
  | nil => simpa [addTo] using h
  | cons e es ih =>
    obtain ⟨v, n⟩ := e
    by_cases hv : s = v
    · rw [addTo, if_pos hv] at h
      exact .inr h
    · rw [addTo, if_neg hv] at h
      rcases List.mem_cons.1 h with rfl | h
      · exact .inr (by simp)
      · exact (ih h).imp_right (List.mem_cons_of_mem _)

theorem Distinct.add (h : t.Distinct) (s : Series) : (t.add s).Distinct := by
  obtain ⟨es⟩ := t
  unfold Distinct Tally.add at *
  dsimp only at h ⊢
  induction es with
  | nil => simp [addTo]
  | cons e es ih =>
    obtain ⟨v, n⟩ := e
    obtain ⟨hv, hes⟩ := List.nodup_cons.1 h
    by_cases hs : s = v
    · rw [addTo, if_pos hs]
      exact h
    · rw [addTo, if_neg hs]
      exact List.nodup_cons.2 ⟨fun hmem => (mem_addTo hmem).elim (Ne.symm hs) hv, ih hes⟩

/-- **A tally that is only counted** keeps one entry for each series. -/
theorem Distinct.addAll (h : t.Distinct) (us : List Series) : (t.addAll us).Distinct := by
  induction us generalizing t with
  | nil => exact h
  | cons s us ih => exact ih (h.add s)

/-- An entry is the sample of its series. -/
theorem Distinct.mem_entries_iff (h : t.Distinct) {u : Series} {n : Nat} :
    (u, n) ∈ t.entries ↔ t.entries.lookup u = some n := by
  obtain ⟨es⟩ := t
  unfold Distinct at h
  dsimp only at h ⊢
  induction es with
  | nil => simp
  | cons e es ih =>
    obtain ⟨v, m⟩ := e
    obtain ⟨hv, hes⟩ := List.nodup_cons.1 h
    rw [List.mem_cons, ih hes, List.lookup_cons]
    by_cases hu : u = v
    · -- behind its own entry a series has no other one
      subst hu
      have hnone : es.lookup u ≠ some n := by
        intro hn
        obtain ⟨l, r, rfl, -⟩ := List.lookup_eq_some_iff.1 hn
        exact hv (by simp)
      simp [hnone, eq_comm]
    · simp [hu, beq_eq_false_iff_ne.2 hu]

/-- A list of entries is put in the order of their series. -/
theorem pairwise_sorted (t : Tally) : t.sorted.Pairwise fun a b => a.1.le b.1 = true := by
  have htrans (a b c : Series × Nat) : a.1.le b.1 = true → b.1.le c.1 = true → a.1.le c.1 = true :=
    Series.le_trans a.1 b.1 c.1
  have htotal (a b : Series × Nat) : (a.1.le b.1 || b.1.le a.1) = true := Series.le_total a.1 b.1
  exact List.pairwise_mergeSort htrans htotal t.entries

theorem perm_sorted (t : Tally) : t.sorted.Perm t.entries := List.mergeSort_perm _ _

/-- **Tallies with the same samples are listed alike.** -/
theorem sorted_eq (ht : t.Distinct) (ht' : t'.Distinct) (h : ∀ u, t.entries.lookup u = t'.entries.lookup u) :
    t.sorted = t'.sorted := by
  have hperm : t.entries.Perm t'.entries := by
    refine (List.perm_ext_iff_of_nodup ht.of_map ht'.of_map).2 fun ⟨u, n⟩ => ?_
    rw [ht.mem_entries_iff, ht'.mem_entries_iff, h]
  have hentry : ∀ a b, a ∈ t.sorted → b ∈ t'.sorted → a.1.le b.1 = true → b.1.le a.1 = true → a = b := by
    -- two entries for one series have the same count, since the series has one sample
    rintro ⟨u, n⟩ ⟨v, m⟩ ha hb hab hba
    obtain rfl : u = v := Series.le_antisymm hab hba
    have hn := ht.mem_entries_iff.1 (t.perm_sorted.mem_iff.1 ha)
    have hm := ht'.mem_entries_iff.1 (t'.perm_sorted.mem_iff.1 hb)
    rw [h, hm] at hn
    rw [Option.some.inj hn]
  exact List.Perm.eq_of_pairwise hentry t.pairwise_sorted t'.pairwise_sorted
    (t.perm_sorted.trans (hperm.trans t'.perm_sorted.symm))

end Tally

end Triage
