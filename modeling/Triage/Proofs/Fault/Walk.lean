import Mathlib.Data.Set.Card
import Triage.Fault.Build

/-!
# The walk along the causes

The cause of a fault, the cause of that, and so on: this sequence may end, or run into a cycle after any number of
faults. A walk follows it up to a limit, and no further than to the first fault that it has met before. Faults are told
apart by their position in the graph, whatever they hold.

* `FaultGraph.nthCause`: the sequence; `FaultGraph.orbit`: the faults on it.
* `FaultGraph.Stretch`: a beginning of the sequence without repetition and within the limit.
* `walkFrom_follows`, `walkFrom_stops`: what every turn of the walk keeps, and where the walk ends.
* `FaultGraph.SameLinks`: two graphs that are linked alike, so that every walk is the same in both.
* `walk_longest_stretch`: **the walk is the longest stretch**, from which its length and its growth with the limit
  follow.
-/

namespace Triage.FaultGraph

/-- What is reached after so many steps from a fault to its cause, unless the causes end before. -/
def nthCause (g : FaultGraph) (cur : Option Nat) : Nat → Option Nat
  | 0 => cur
  | n + 1 => (g.nthCause cur n).bind g.causeOf

/-- All faults on the sequence of causes that starts with a fault. -/
def orbit (g : FaultGraph) (i : Nat) : Set Nat := {j | ∃ n, g.nthCause (some i) n = some j}

/-- A list is a **stretch** of the sequence of causes: it follows the sequence from its start, has no fault twice, and
keeps to the limit. -/
structure Stretch (g : FaultGraph) (i : Nat) (limit : Int) (l : List Nat) : Prop where
  follows : ∀ (n : Nat) (h : n < l.length), g.nthCause (some i) n = some l[n]
  nodup : l.Nodup
  within : (l.length : Int) ≤ max limit 0

/-- Two graphs are **linked alike**: they have as many faults, and each fault has the same link to its cause. What the
faults are like is left open. -/
structure SameLinks (g g' : FaultGraph) : Prop where
  size : g'.faults.size = g.faults.size
  link : ∀ i, (g'.fault? i).bind causeLink = (g.fault? i).bind causeLink

variable {g g' : FaultGraph} {i : Nat} {limit limit' : Int}

/-- The sequence may as well be taken from its second element on. -/
theorem nthCause_succ (g : FaultGraph) (cur : Option Nat) (n : Nat) :
    g.nthCause cur (n + 1) = g.nthCause (cur.bind g.causeOf) n := by
  induction n with
  | zero => rfl
  | succ n ih => rw [nthCause, ih, nthCause]

/-! ## What a walk depends on -/

theorem SameLinks.causeOf_eq (h : g.SameLinks g') (i : Nat) : g'.causeOf i = g.causeOf i := by
  unfold causeOf
  rw [h.link, h.size]

theorem SameLinks.walkFrom_eq (h : g.SameLinks g') (limit : Nat) (visited : List Nat) (cur : Option Nat) :
    g'.walkFrom limit visited cur = g.walkFrom limit visited cur := by
  induction limit generalizing visited cur with
  | zero => rfl
  | succ limit ih =>
    cases cur with
    | none => rfl
    | some i => rw [walkFrom, walkFrom, h.causeOf_eq, ih]

/-- **A walk depends on the links alone.** -/
theorem SameLinks.walk_eq (h : g.SameLinks g') (i : Nat) (limit : Int) : g'.walk i limit = g.walk i limit :=
  h.walkFrom_eq limit.toNat [] (some i)

/-! ## Every turn of the walk -/

/-- **The walk follows the sequence**, wherever it is taken up. -/
theorem walkFrom_follows (g : FaultGraph) (limit : Nat) (visited : List Nat) (cur : Option Nat) :
    ∀ n j, (g.walkFrom limit visited cur)[n]? = some j → g.nthCause cur n = some j := by
  fun_induction walkFrom g limit visited cur with
  | case1 => intro n j h; cases h
  | case2 => intro n j h; cases h
  | case3 => intro n j h; cases h
  | case4 limit visited i _ ih =>
    intro n j h
    cases n with
    | zero => exact h
    | succ n =>
      rw [nthCause_succ]
      exact ih n j h

/-- **Where a walk ends**: at its limit, where the causes end, or at a fault that was visited before. -/
theorem walkFrom_stops (g : FaultGraph) (limit : Nat) (visited : List Nat) (cur : Option Nat) :
    (g.walkFrom limit visited cur).length = limit ∨
      g.nthCause cur (g.walkFrom limit visited cur).length = none ∨
      ∃ j, g.nthCause cur (g.walkFrom limit visited cur).length = some j ∧
        (j ∈ visited ∨ j ∈ g.walkFrom limit visited cur) := by
  fun_induction walkFrom g limit visited cur with
  | case1 => exact .inl rfl
  | case2 => exact .inr (.inl rfl)
  | case3 limit visited i h => exact .inr (.inr ⟨i, rfl, .inl (by simpa using h)⟩)
  | case4 limit visited i _ ih =>
    rw [List.length_cons, nthCause_succ]
    rcases ih with hlimit | hend | ⟨j, hj, hmet⟩
    · exact .inl (by rw [hlimit])
    · exact .inr (.inl hend)
    · -- the fault of this turn counts as visited in the rest of the walk, and stands on the whole walk
      refine .inr (.inr ⟨j, hj, ?_⟩)
      rcases hmet with hmet | hmet
      · rcases List.mem_cons.1 hmet with rfl | hmet
        · exact .inr (by simp)
        · exact .inl hmet
      · exact .inr (List.mem_cons_of_mem _ hmet)

/-! ## The whole walk -/

/-- A walk is a stretch. -/
theorem stretch_walk (g : FaultGraph) (i : Nat) (limit : Int) : g.Stretch i limit (g.walk i limit) where
  follows n h := g.walkFrom_follows _ _ _ n _ (List.getElem?_eq_getElem h)
  nodup := g.walk_nodup i limit
  within := by
    have := g.walk_length_le i limit
    omega

/-- A walk ends at its limit, where the causes end, or at a fault that stands on it. -/
theorem walk_stops (g : FaultGraph) (i : Nat) (limit : Int) :
    ((g.walk i limit).length : Int) = max limit 0 ∨ g.nthCause (some i) (g.walk i limit).length = none ∨
      ∃ j ∈ g.walk i limit, g.nthCause (some i) (g.walk i limit).length = some j := by
  rcases g.walkFrom_stops limit.toNat [] (some i) with hlimit | hend | ⟨j, hj, hmet⟩
  · refine .inl ?_
    have : (g.walk i limit).length = limit.toNat := hlimit
    omega
  · exact .inr (.inl hend)
  · exact .inr (.inr ⟨j, hmet.resolve_left (by simp), hj⟩)

/-- A stretch stays one under a larger limit. -/
theorem Stretch.mono {l : List Nat} (h : g.Stretch i limit l) (hle : limit ≤ limit') : g.Stretch i limit' l where
  follows := h.follows
  nodup := h.nodup
  within := by
    have := h.within
    omega

/-- A stretch is not longer than the walk: where the walk ends before its limit, going on would repeat a fault. -/
theorem Stretch.length_le {l : List Nat} (h : g.Stretch i limit l) : l.length ≤ (g.walk i limit).length := by
  by_contra hlonger
  have hlt : (g.walk i limit).length < l.length := by omega
  have hnext : g.nthCause (some i) (g.walk i limit).length = some l[(g.walk i limit).length] := h.follows _ hlt
  rcases g.walk_stops i limit with hlimit | hend | ⟨j, hj, hagain⟩
  · have := h.within
    omega
  · rw [hend] at hnext
    cases hnext
  · obtain ⟨m, hm, rfl⟩ := List.mem_iff_getElem.1 hj
    have hsame : l[m] = l[(g.walk i limit).length] := by
      have hwalk := (g.stretch_walk i limit).follows m hm
      rw [h.follows m (by omega)] at hwalk
      rw [hagain] at hnext
      rw [Option.some.inj hwalk, Option.some.inj hnext]
    have := (List.Nodup.getElem_inj_iff h.nodup).1 hsame
    omega

/-- **Every stretch is a beginning of the walk.** -/
theorem Stretch.prefix_walk {l : List Nat} (h : g.Stretch i limit l) : l <+: g.walk i limit := by
  rw [List.prefix_iff_getElem?]
  intro n hn
  have hlt : n < (g.walk i limit).length := by
    have := h.length_le
    omega
  have hwalk := (g.stretch_walk i limit).follows n hlt
  rw [h.follows n hn] at hwalk
  rw [List.getElem?_eq_getElem hlt, hwalk]

/-- **A walk with a larger limit goes on** from where the smaller one ends. -/
theorem walk_prefix_walk (hle : limit ≤ limit') : g.walk i limit <+: g.walk i limit' :=
  ((g.stretch_walk i limit).mono hle).prefix_walk

/-! ## The faults on the sequence -/

theorem walk_subset_orbit {j : Nat} (h : j ∈ g.walk i limit) : j ∈ g.orbit i := by
  obtain ⟨n, hn, rfl⟩ := List.mem_iff_getElem.1 h
  exact ⟨n, (g.stretch_walk i limit).follows n hn⟩

/-- A walk that ends before its limit has met every fault on the sequence. -/
theorem orbit_subset_walk (hshort : ((g.walk i limit).length : Int) ≠ max limit 0) {j : Nat} (h : j ∈ g.orbit i) :
    j ∈ g.walk i limit := by
  -- the walk and the step behind its end stay on the walk
  have hstays : ∀ n k, n ≤ (g.walk i limit).length → g.nthCause (some i) n = some k → k ∈ g.walk i limit := by
    intro n k hn hk
    rcases Nat.lt_or_eq_of_le hn with hlt | rfl
    · rw [(g.stretch_walk i limit).follows n hlt] at hk
      exact Option.some.inj hk ▸ List.getElem_mem hlt
    · rcases (g.walk_stops i limit).resolve_left hshort with hend | ⟨m, hm, hagain⟩
      · rw [hend] at hk
        cases hk
      · rw [hagain] at hk
        exact Option.some.inj hk ▸ hm
  obtain ⟨n, hn⟩ := h
  induction n generalizing j with
  | zero => exact hstays 0 j (Nat.zero_le _) hn
  | succ n ih =>
    obtain ⟨k, hk, hcause⟩ := Option.bind_eq_some_iff.1 hn
    obtain ⟨m, hm, rfl⟩ := List.mem_iff_getElem.1 (ih hk)
    refine hstays (m + 1) j hm ?_
    rw [nthCause, (g.stretch_walk i limit).follows m hm]
    exact hcause

/-- Behind the start, the sequence stays within the graph. -/
theorem orbit_finite (g : FaultGraph) (i : Nat) : (g.orbit i).Finite := by
  refine ((Set.finite_lt_nat g.faults.size).insert i).subset ?_
  rintro j ⟨_ | n, hn⟩
  · exact Set.mem_insert_iff.2 (.inl (Option.some.inj hn).symm)
  · obtain ⟨k, -, hcause⟩ := Option.bind_eq_some_iff.1 hn
    unfold causeOf at hcause
    have hlt := (Option.filter_eq_some_iff.1 hcause).2
    exact Set.mem_insert_of_mem _ (by simpa using hlt)

theorem ncard_walk (g : FaultGraph) (i : Nat) (limit : Int) :
    {j | j ∈ g.walk i limit}.ncard = (g.walk i limit).length := by
  have hset : {j | j ∈ g.walk i limit} = ((g.walk i limit).toFinset : Set Nat) := by
    ext j
    simp
  rw [hset, Set.ncard_coe_finset, List.toFinset_card_of_nodup (g.walk_nodup i limit)]

/-- **The length of a walk**: its limit, or the number of faults on the sequence if there are fewer. -/
theorem walk_length (g : FaultGraph) (i : Nat) (limit : Int) :
    ((g.walk i limit).length : Int) = min (max limit 0) ((g.orbit i).ncard : Int) := by
  have hle : (g.walk i limit).length ≤ (g.orbit i).ncard := by
    rw [← ncard_walk]
    exact Set.ncard_le_ncard (fun j hj => walk_subset_orbit hj) (g.orbit_finite i)
  have hwithin := (g.stretch_walk i limit).within
  by_cases hlimit : ((g.walk i limit).length : Int) = max limit 0
  · omega
  · have hall : (g.orbit i).ncard ≤ (g.walk i limit).length := by
      rw [← ncard_walk]
      exact Set.ncard_le_ncard (fun j hj => orbit_subset_walk hlimit hj) (List.finite_toSet _)
    omega

/-- **A larger limit** puts something behind the walk only if the smaller limit was what ended it. -/
theorem walk_extends (g : FaultGraph) (i : Nat) (hle : limit ≤ limit') :
    ∃ rest, g.walk i limit' = g.walk i limit ++ rest ∧
      (rest ≠ [] → ((g.walk i limit).length : Int) = max limit 0) := by
  obtain ⟨rest, hrest⟩ := walk_prefix_walk (g := g) (i := i) hle
  refine ⟨rest, hrest.symm, fun hne => ?_⟩
  have hlonger : (g.walk i limit).length < (g.walk i limit').length := by
    rw [← hrest, List.length_append]
    have := List.length_pos_iff.2 hne
    omega
  have hlength := g.walk_length i limit
  have hlength' := g.walk_length i limit'
  omega

/-- Once the limit reaches the number of faults on the sequence, **the walk no longer changes**. -/
theorem walk_of_orbit_le (hall : ((g.orbit i).ncard : Int) ≤ limit) (hle : limit ≤ limit') :
    g.walk i limit' = g.walk i limit := by
  have hlength := g.walk_length i limit
  have hlength' := g.walk_length i limit'
  exact ((walk_prefix_walk hle).eq_of_length (by omega)).symm

/-- **The walk is the longest stretch.** For every graph, every start and every limit, also a negative one:

* the walk is a stretch of the sequence of causes, and every stretch is a beginning of it;
* it starts with the fault itself, and goes on from each fault to its cause;
* it ends only at its limit, where the causes end, or at a fault that stands on it;
* its length is the limit, or the number of faults on the sequence if these are fewer;
* it is a beginning of the walk with any larger limit;
* it is the same in every graph that is linked alike, whatever the faults are there, and whichever of them are alike. -/
theorem walk_longest_stretch (g : FaultGraph) (i : Nat) (limit : Int) :
    g.Stretch i limit (g.walk i limit) ∧
      (∀ l, g.Stretch i limit l → l <+: g.walk i limit) ∧
      (1 ≤ limit → (g.walk i limit).head? = some i) ∧
      (∀ n j k, (g.walk i limit)[n]? = some j → (g.walk i limit)[n + 1]? = some k → g.causeOf j = some k) ∧
      (((g.walk i limit).length : Int) = max limit 0 ∨ g.nthCause (some i) (g.walk i limit).length = none ∨
        ∃ j ∈ g.walk i limit, g.nthCause (some i) (g.walk i limit).length = some j) ∧
      (g.orbit i).Finite ∧
      ((g.walk i limit).length : Int) = min (max limit 0) ((g.orbit i).ncard : Int) ∧
      (∀ limit', limit ≤ limit' → g.walk i limit <+: g.walk i limit') ∧
      ∀ g', g.SameLinks g' → g'.walk i limit = g.walk i limit := by
  refine ⟨g.stretch_walk i limit, fun l hl => hl.prefix_walk, fun hlimit => ?_, fun n j k hj hk => ?_,
    g.walk_stops i limit, g.orbit_finite i, g.walk_length i limit, fun limit' hle => walk_prefix_walk hle,
    fun g' h => h.walk_eq i limit⟩
  · obtain ⟨n, hn⟩ : ∃ n, limit.toNat = n + 1 := ⟨limit.toNat - 1, by omega⟩
    unfold walk
    rw [hn]
    rfl
  · have hnext := g.walkFrom_follows _ _ _ (n + 1) k hk
    rw [nthCause, g.walkFrom_follows _ _ _ n j hj] at hnext
    exact hnext

/-- Three faults, of which the second one came up while the third one was handled, which the second one had caused: the
first fault leads into a cycle of the others. A fourth one keeps the fault that was being handled to itself. -/
def intoCycle : FaultGraph where
  faults :=
    #[{ Fault.plain .exception [] with cause := some 1, context := some 3 },
      { Fault.plain .exception [] with context := some 2 },
      { Fault.plain .exception [] with cause := some 1 },
      { Fault.plain .exception [] with context := some 0, suppressesContext := true }]

/-- The same links between faults that all differ. -/
def intoCycleOfOthers : FaultGraph where
  faults :=
    #[{ Fault.plain (.derive "First" .exception) [] with cause := some 1 },
      { Fault.plain (.derive "Second" .exception) [] with context := some 2 },
      { Fault.plain (.derive "Third" .exception) [] with cause := some 1 },
      Fault.plain (.derive "Fourth" .exception) []]

/-- The walk ends where the cycle closes; the faults on it are all that the sequence has, a limit of two cuts it short,
and the faults themselves do not matter. -/
theorem walk_longest_stretch_intoCycle :
    intoCycle.walk 0 5 = [0, 1, 2] ∧ [0, 1] <+: intoCycle.walk 0 5 ∧ (intoCycle.walk 0 5).head? = some 0 ∧
      intoCycle.causeOf 1 = some 2 ∧ (intoCycle.orbit 0).ncard = 3 ∧ intoCycle.walk 0 2 <+: intoCycle.walk 0 5 ∧
      intoCycleOfOthers.walk 0 5 = [0, 1, 2] := by
  have hwalk : intoCycle.walk 0 5 = [0, 1, 2] := by decide
  have hfollows : ∀ (n : Nat) (h : n < [0, 1].length), intoCycle.nthCause (some 0) n = some [0, 1][n] := by decide
  have hstretch : intoCycle.Stretch 0 5 [0, 1] := ⟨hfollows, by decide, by decide⟩
  have hlinks : ∀ i, (intoCycleOfOthers.fault? i).bind causeLink = (intoCycle.fault? i).bind causeLink := by
    intro i
    rcases i with _ | _ | _ | _ | i <;> rfl
  obtain ⟨-, hlongest, hstart, hnext, -, -, hlength, -, hsame⟩ := walk_longest_stretch intoCycle 0 5
  obtain ⟨-, -, -, -, -, -, -, hgrows, -⟩ := walk_longest_stretch intoCycle 0 2
  refine ⟨hwalk, hlongest _ hstretch, hstart (by decide), hnext 1 1 2 (by rw [hwalk]; rfl) (by rw [hwalk]; rfl), ?_,
    hgrows 5 (by decide), ?_⟩
  · rw [hwalk] at hlength
    simp only [List.length_cons, List.length_nil] at hlength
    omega
  · rw [hsame intoCycleOfOthers ⟨rfl, hlinks⟩, hwalk]

end Triage.FaultGraph
