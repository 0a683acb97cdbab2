import Mathlib.Algebra.GroupWithZero.Nat
import Mathlib.Data.Finset.Basic
import Mathlib.Data.List.AList
import Triage.Proofs.Counter.Uses

/-!
# Counters that are exported

An exported counter hands every count to a meter, which only sees the texts of a series by the names of their
dimensions, and sums up what it is given. It has the same points as a counter that keeps its counts has samples.

* `Series.mapping_injective`: **the names of the dimensions tell all series apart**.
* `Meter`, `Meter.IsCumulative`: a meter, and what is relied on: it has one point for each instrument and attributes
  that it was given an amount for, with the sum of the amounts. `summing` is such a meter.
* `Meter.Carries`: under one instrument a meter is called as an exported counter calls it, whatever else it is used for.
* `Meter.mem_points_iff`: its points are then the series that were counted, with the number of their occurrences.
* `backends_agree`: **both kinds of counters agree** with the list of what was counted, and with one another.
-/

namespace Triage

/-- Attributes as a meter sees them: named texts in no order. -/
abbrev Attributes := Finset (String × String)

/-- The attributes under which a series is exported. -/
def Series.mapping (u : Series) : Attributes := u.attributes.toFinset

/-- **The names of the dimensions tell all series apart**, whatever their texts. -/
theorem Series.mapping_injective : Function.Injective Series.mapping := by
  intro u v h
  have hentry (e : String × String) : e ∈ u.attributes ↔ e ∈ v.attributes := by
    rw [← List.mem_toFinset, ← List.mem_toFinset]
    exact iff_of_eq (congrArg (e ∈ ·) h)
  obtain ⟨label, category, source, service⟩ := u
  -- under the name of its dimension each text is found among the attributes of the other series
  have hlabel : label = v.label := by
    simpa [attributes, dimensions, parts] using (hentry ("exceptionLabel", label)).1 List.mem_cons_self
  have hcategory : category = v.category := by
    simpa [attributes, dimensions, parts] using
      (hentry ("category", category)).1 (by simp [attributes, dimensions, parts])
  have hsource : source = v.source := by
    simpa [attributes, dimensions, parts] using
      (hentry ("source", source)).1 (by simp [attributes, dimensions, parts])
  have hservice : service = v.service := by
    simpa [attributes, dimensions, parts] using
      (hentry ("serviceName", service)).1 (by simp [attributes, dimensions, parts])
  rw [hlabel, hcategory, hsource, hservice]

/-! ## Meters -/

/-- A call of a meter: an instrument is given an amount for some attributes, or the points are collected. -/
inductive Meter.Call where
  | add (instrument : String) (amount : Nat) (attributes : Attributes)
  | collect
  deriving DecidableEq

/-- What a meter has to report for some attributes of an instrument. -/
structure Meter.Point where
  instrument : String
  attributes : Attributes
  value : Nat
  deriving DecidableEq

/-- A meter: what it keeps in memory, and the points that it has to report. -/
structure Meter where
  Memory : Type
  fresh : Memory
  call : Memory → Meter.Call → Memory
  points : Memory → List Meter.Point

namespace Meter

/-- The memory of a new meter after several calls. -/
def after (m : Meter) (calls : List Call) : m.Memory := calls.foldl m.call m.fresh

/-- The amount that a call gives to some attributes of an instrument. -/
def Call.amount? (instrument : String) (attributes : Attributes) : Call → Option Nat
  | .add name amount a => if name = instrument ∧ a = attributes then some amount else none
  | .collect => none

/-- The amounts that calls give to some attributes of an instrument, one after the other. -/
def amounts (instrument : String) (attributes : Attributes) (calls : List Call) : List Nat :=
  calls.filterMap (Call.amount? instrument attributes)

/-- A meter is **cumulative**: it has one point for each instrument and attributes that were given an amount, with the
sum of the amounts so far, whether or not it was collected in between. -/
structure IsCumulative (m : Meter) : Prop where
  distinct : ∀ calls, ((m.points (m.after calls)).map fun p => (p.instrument, p.attributes)).Nodup
  mem : ∀ calls instrument attributes value, ⟨instrument, attributes, value⟩ ∈ m.points (m.after calls) ↔
    amounts instrument attributes calls ≠ [] ∧ (amounts instrument attributes calls).sum = value

/-- Whether a call gives something to an instrument. -/
def Call.isFor (instrument : String) : Call → Bool
  | .add name _ _ => name == instrument
  | .collect => false

/-- What an exported counter makes of a use: it gives one to the attributes of the series. -/
def exportCalls (metric : String) : Counter.Use → List Call
  | .increment u => [.add metric 1 u.mapping]
  | .samples => [.collect]
  | .value _ | .total | .clear => []

/-- Under the instrument of a metric, the calls are those of an exported counter that counted the given series. There
may be any others, for other instruments, and the points may be collected at any time. -/
def Carries (calls : List Call) (metric : String) (us : List Series) : Prop :=
  calls.filter (Call.isFor metric) = us.map fun u => .add metric 1 u.mapping

/-- **The calls of an exported counter** carry what it counted. -/
theorem carries_exportCalls (metric : String) {xs : List Counter.Use} (hxs : .clear ∉ xs) :
    Carries (xs.flatMap (exportCalls metric)) metric (Counter.countedBy xs) := by
  have hfrom (us : List Series) : ((xs.foldl Counter.Use.counted us).map fun u => Call.add metric 1 u.mapping) =
      (us.map fun u => .add metric 1 u.mapping) ++ (xs.flatMap (exportCalls metric)).filter (Call.isFor metric) := by
    induction xs generalizing us with
    | nil => simp
    | cons x xs ih =>
      have hrest := ih fun hmem => hxs (List.mem_cons_of_mem _ hmem)
      rw [List.foldl_cons, hrest, List.flatMap_cons, List.filter_append]
      cases x with
      | clear => exact absurd List.mem_cons_self hxs
      | increment u => simp [Counter.Use.counted, exportCalls, Call.isFor]
      | value u => simp [Counter.Use.counted, exportCalls]
      | samples => simp [Counter.Use.counted, exportCalls, Call.isFor]
      | total => simp [Counter.Use.counted, exportCalls]
  exact (hfrom []).symm

/-- Calls for other instruments give nothing to this one. -/
theorem amounts_filter (instrument : String) (attributes : Attributes) (calls : List Call) :
    amounts instrument attributes (calls.filter (Call.isFor instrument)) = amounts instrument attributes calls := by
  unfold amounts
  rw [List.filterMap_filter]
  refine List.filterMap_congr fun call _ => ?_
  cases call with
  | collect => rfl
  | add name amount a =>
    by_cases hname : name = instrument <;> simp [Call.isFor, Call.amount?, hname]

/-- A series is given one for each of its occurrences. -/
theorem amounts_of_carries {calls : List Call} {metric : String} {us : List Series} (h : Carries calls metric us)
    (u : Series) : amounts metric u.mapping calls = List.replicate (us.count u) 1 := by
  rw [← amounts_filter, h]
  clear h
  unfold amounts
  induction us with
  | nil => rfl
  | cons v us ih =>
    rw [List.map_cons, List.filterMap_cons, ih]
    by_cases hv : v = u
    · subst hv
      simp [Call.amount?, List.replicate_succ]
    · have hne : v.mapping ≠ u.mapping := fun h => hv (Series.mapping_injective h)
      simp [Call.amount?, hne, hv]

/-- Other attributes are given nothing. -/
theorem amounts_of_carries_of_forall_ne {calls : List Call} {metric : String} {us : List Series}
    (h : Carries calls metric us) {attributes : Attributes} (hne : ∀ u ∈ us, u.mapping ≠ attributes) :
    amounts metric attributes calls = [] := by
  rw [← amounts_filter, h, amounts, List.filterMap_map, List.filterMap_eq_nil_iff]
  intro u hu
  simp [Call.amount?, hne u hu]

variable {m : Meter} {calls : List Call} {metric : String} {us : List Series}

/-- **The points of a cumulative meter** are the series that were counted, with the number of their occurrences. -/
theorem mem_points_iff (hm : m.IsCumulative) (h : Carries calls metric us) {attributes : Attributes} {n : Nat} :
    ⟨metric, attributes, n⟩ ∈ m.points (m.after calls) ↔ ∃ u ∈ us, u.mapping = attributes ∧ us.count u = n := by
  rw [hm.mem]
  constructor
  · rintro ⟨hgiven, hsum⟩
    by_cases hany : ∃ u ∈ us, u.mapping = attributes
    · obtain ⟨u, hu, rfl⟩ := hany
      rw [amounts_of_carries h, List.sum_replicate_nat, Nat.mul_one] at hsum
      exact ⟨u, hu, rfl, hsum⟩
    · exact absurd (amounts_of_carries_of_forall_ne h fun u hu hmap => hany ⟨u, hu, hmap⟩) hgiven
  · rintro ⟨u, hu, rfl, rfl⟩
    rw [amounts_of_carries h]
    have hpos : us.count u ≠ 0 := (List.count_pos_iff.2 hu).ne'
    simp [hpos]

/-- The point of an entry. -/
def pointOf (metric : String) (e : Series × Nat) : Point := ⟨metric, e.1.mapping, e.2⟩

theorem pointOf_injective (metric : String) : Function.Injective (pointOf metric) := by
  rintro ⟨u, n⟩ ⟨v, k⟩ h
  obtain ⟨-, hmapping, hvalue⟩ := Point.mk.inj h
  exact Prod.ext (Series.mapping_injective hmapping) hvalue

/-- Its points under the metric are, one for one, those of the samples of what was counted. -/
theorem points_perm (hm : m.IsCumulative) (h : Carries calls metric us) {entries : List (Series × Nat)}
    (hdistinct : (entries.map Prod.fst).Nodup) (hmem : ∀ u n, (u, n) ∈ entries ↔ u ∈ us ∧ us.count u = n) :
    ((m.points (m.after calls)).filter (·.instrument == metric)).Perm (entries.map (pointOf metric)) := by
  have hpoints : (m.points (m.after calls)).Nodup := .of_map _ (hm.distinct calls)
  have hentries : (entries.map (pointOf metric)).Nodup := .map (pointOf_injective metric) (.of_map _ hdistinct)
  refine (List.perm_ext_iff_of_nodup (hpoints.filter _) hentries).2 fun ⟨instrument, attributes, n⟩ => ?_
  rw [List.mem_filter, beq_iff_eq, List.mem_map]
  constructor
  · rintro ⟨hpoint, rfl⟩
    obtain ⟨u, hu, rfl, rfl⟩ := (mem_points_iff hm h).1 hpoint
    exact ⟨(u, us.count u), (hmem _ _).2 ⟨hu, rfl⟩, rfl⟩
  · rintro ⟨⟨u, k⟩, he, hpoint⟩
    obtain ⟨rfl, rfl, rfl⟩ := Point.mk.inj hpoint
    obtain ⟨hu, hcount⟩ := (hmem _ _).1 he
    exact ⟨(mem_points_iff hm h).2 ⟨u, hu, rfl, hcount⟩, rfl⟩

/-! ## A meter that sums up -/

/-- A meter that keeps the sum for each instrument and attributes. -/
def summing : Meter where
  Memory := AList fun _ : String × Attributes => Nat
  fresh := ∅
  call
    | memory, .add instrument amount attributes =>
      memory.insert (instrument, attributes) ((memory.lookup (instrument, attributes)).getD 0 + amount)
    | memory, .collect => memory
  points memory := memory.entries.map fun e => ⟨e.1.1, e.1.2, e.2⟩

/-- The sum in memory after several calls. -/
theorem lookup_summing (instrument : String) (attributes : Attributes) (calls : List Call) (memory : summing.Memory) :
    (calls.foldl summing.call memory).lookup (instrument, attributes) =
      if amounts instrument attributes calls = [] then memory.lookup (instrument, attributes)
      else some ((memory.lookup (instrument, attributes)).getD 0 + (amounts instrument attributes calls).sum) := by
  induction calls generalizing memory with
  | nil => rfl
  | cons call calls ih =>
    rw [List.foldl_cons, ih]
    cases call with
    | collect => rfl
    | add name amount a =>
      by_cases hkey : name = instrument ∧ a = attributes
      · -- the sum stands in memory from here on, whether or not more is given
        obtain ⟨rfl, rfl⟩ := hkey
        have hamounts : amounts name a (.add name amount a :: calls) = amount :: amounts name a calls := by
          simp [amounts, Call.amount?]
        have hlookup : (summing.call memory (.add name amount a)).lookup (name, a) =
            some ((memory.lookup (name, a)).getD 0 + amount) := AList.lookup_insert memory
        rw [hamounts, hlookup, if_neg (List.cons_ne_nil _ _), List.sum_cons, Option.getD_some]
        by_cases hrest : amounts name a calls = []
        · rw [if_pos hrest, hrest]
          rfl
        · rw [if_neg hrest, Nat.add_assoc]
      · have hamounts : amounts instrument attributes (.add name amount a :: calls) =
            amounts instrument attributes calls := by
          simp [amounts, Call.amount?, hkey]
        have hlookup : (summing.call memory (.add name amount a)).lookup (instrument, attributes) =
            memory.lookup (instrument, attributes) := by
          refine AList.lookup_insert_ne fun hsame => hkey ?_
          exact ⟨(congrArg Prod.fst hsame).symm, (congrArg Prod.snd hsame).symm⟩
        rw [hamounts, hlookup]

theorem isCumulative_summing : summing.IsCumulative where
  distinct calls := by
    show (((summing.after calls).entries.map _).map _).Nodup
    rw [List.map_map]
    exact (summing.after calls).nodupKeys
  mem calls instrument attributes value := by
    have hpoint : ⟨instrument, attributes, value⟩ ∈ summing.points (summing.after calls) ↔
        (summing.after calls).lookup (instrument, attributes) = some value := by
      refine Iff.trans ?_ AList.mem_lookup_iff.symm
      show _ ∈ List.map _ _ ↔ _
      rw [List.mem_map]
      constructor
      · rintro ⟨⟨key, n⟩, he, hpoint⟩
        obtain ⟨rfl, rfl, rfl⟩ := Point.mk.inj hpoint
        exact he
      · intro he
        exact ⟨_, he, rfl⟩
    rw [hpoint, after, lookup_summing]
    have hfresh : summing.fresh.lookup (instrument, attributes) = none := AList.lookup_empty _
    rw [hfresh]
    by_cases hgiven : amounts instrument attributes calls = []
    · simp [hgiven]
    · simp [hgiven]

end Meter

namespace Counter

open Meter (Carries exportCalls pointOf)

/-- What a counter does with its counts stays the same. -/
theorem backend_use (c : Counter) (b : Log.Book) (x : Use) : (c.use b x).2.1.backend = c.backend := by
  cases x with
  | increment u => exact backend_increment c u b
  | value u => rfl
  | samples => rfl
  | total => rfl
  | clear => rfl

theorem backend_afterUses (c : Counter) (b : Log.Book) (xs : List Use) : (c.afterUses b xs).backend = c.backend := by
  induction xs generalizing c b with
  | nil => rfl
  | cons x xs ih => exact (ih _ _).trans (backend_use c b x)

/-- **Both kinds of counters agree.** Take a counter that keeps its counts and one that exports them, under one
metric, and let them be used in any way.

* The first one answers as the list of the series asks for that were counted since it was last cleared: a series has the
  number of its occurrences, any other has no sample and the value zero, and the total is the length of the list.
* Its samples are the series of that list with the numbers of their occurrences, each once.
* If it is never cleared, the exported counter has the same points.
* So it is with every cumulative meter that is called, under that metric, as the exported counter calls it: whatever
  else it is used for, its points under the metric are, one for one, the samples, each under the attributes of its
  series.
* No two series have the same attributes. -/
theorem backends_agree {metric description description' : String} {kept exported : Counter}
    (hkept : make .kept metric description = .ok kept) (hexported : make .exported metric description' = .ok exported)
    (b b' : Log.Book) (xs : List Use) :
    Follows [] xs (kept.run b xs).1 ∧
      ((kept.afterUses b xs).tally.Distinct ∧ ∀ u n, (u, n) ∈ (kept.afterUses b xs).tally.entries ↔
        u ∈ countedBy xs ∧ (countedBy xs).count u = n) ∧
      (.clear ∉ xs → (exported.afterUses b' xs).points = (kept.afterUses b xs).tally.sorted ∧
        Carries (xs.flatMap (exportCalls metric)) metric (countedBy xs) ∧
        ∀ m : Meter, m.IsCumulative → ∀ calls, Carries calls metric (countedBy xs) →
          ((m.points (m.after calls)).filter (·.instrument == metric)).Perm
            ((kept.afterUses b xs).tally.entries.map (pointOf metric))) ∧
      Function.Injective Series.mapping := by
  obtain ⟨hkeeps, -, -⟩ := counts_make hkept (by decide)
  obtain ⟨hexports, hbackend, -⟩ := counts_make hexported (by decide)
  obtain ⟨hfollows, hafter⟩ := hkeeps.run b xs
  have htally : (kept.afterUses b xs).tally = Tally.empty.addAll (countedBy xs) := hafter.tally
  have hdistinct : (kept.afterUses b xs).tally.Distinct := htally ▸ Tally.distinct_empty.addAll _
  have hmem (u : Series) (n : Nat) : (u, n) ∈ (kept.afterUses b xs).tally.entries ↔
      u ∈ countedBy xs ∧ (countedBy xs).count u = n := by
    rw [htally, Tally.mem_entries_addAll_iff]
  refine ⟨hfollows, ⟨hdistinct, hmem⟩, fun hxs => ⟨?_, Meter.carries_exportCalls metric hxs, ?_⟩,
    Series.mapping_injective⟩
  · unfold points
    rw [backend_afterUses, hbackend, (hexports.run b' xs).2.tally, htally]
    rfl
  · intro m hm calls hcalls
    exact Meter.points_perm hm hcalls hdistinct hmem

/-- Two series with the same texts in other places, read before one of them is counted again. -/
def swappedUses : List Use :=
  [.increment ⟨"a", "", "", ""⟩, .value ⟨"", "", "", ""⟩, .increment ⟨"", "a", "", ""⟩, .samples,
    .increment ⟨"a", "", "", ""⟩]

/-- A meter that is also used for something else has a point for each of them, as the samples have an entry. -/
theorem backends_agree_swappedUses :
    (∃ kept, make .kept "errors_total" "" = .ok kept ∧
        (Series.mk "a" "" "" "", 2) ∈ (kept.afterUses .empty swappedUses).tally.entries) ∧
      Meter.summing.IsCumulative ∧
      ⟨"errors_total", Series.mapping ⟨"a", "", "", ""⟩, 2⟩ ∈ Meter.summing.points (Meter.summing.after
        (.add "others_total" 7 ∅ :: swappedUses.flatMap (exportCalls "errors_total"))) := by
  have hkept : make .kept "errors_total" "" = .ok ⟨.kept, "errors_total", "", .empty⟩ := rfl
  have hexported : make .exported "errors_total" "" = .ok ⟨.exported, "errors_total", "", .empty⟩ := by
    decide +kernel
  obtain ⟨-, ⟨-, hmem⟩, hagree, -⟩ := backends_agree hkept hexported .empty .empty swappedUses
  obtain ⟨-, hcarries, hpoints⟩ := hagree (by decide)
  have hentry := (hmem ⟨"a", "", "", ""⟩ 2).2 ⟨by decide, by decide⟩
  -- the call for the other instrument is passed over
  have hperm := hpoints _ Meter.isCumulative_summing
    (.add "others_total" 7 ∅ :: swappedUses.flatMap (exportCalls "errors_total")) hcarries
  have hpoint := hperm.mem_iff.2 (List.mem_map_of_mem hentry)
  exact ⟨⟨_, hkept, hentry⟩, Meter.isCumulative_summing, (List.mem_filter.1 hpoint).1⟩

end Counter

end Triage
