import Triage.Proofs.Text.UpperCase

/-!
# Capitals

What is in upper case stays as it is in upper case. The upper case of a character may be several characters, and each of
them is its own upper case.

* `CaseRun.avoids`: two runs of a table keep apart; `CaseRun.imageOf?_of_avoids`: the one maps no image of the other.
* `isUnmapped`: the code points that the tables for upper case leave alone.
* `isUnmapped_of_special`, `isUnmapped_of_run`: **what is mapped to is not mapped itself**.
* `upperChars_of_mem_upperChars`: **upper case is its own upper case**.
-/

namespace Triage.Text

/-- No image under `r` belongs to `q`, as their ends tell: one comes before the other, or `q` is for every second code
point and the images under `r` are among those between. It is asked of all pairs of runs, and `Nat.blt` and `Nat.beq` are
what the kernel computes fastest. -/
def CaseRun.avoids (r q : CaseRun) : Bool :=
  Nat.blt (r.image + (r.last - r.first)) q.first || Nat.blt q.last r.image ||
    (Nat.beq q.step 2 && (Nat.beq r.step 2 || Nat.beq r.last r.first) && Nat.beq ((r.image + q.first) % 2) 1)

theorem CaseRun.imageOf?_of_avoids {r q : CaseRun} {n m : Nat} (h : r.avoids q = true) (hm : r.imageOf? n = some m) :
    q.imageOf? m = none := by
  simp only [avoids, Bool.or_eq_true, Bool.and_eq_true, Nat.blt_eq, Nat.beq_eq] at h
  obtain ⟨hfirst, hlast, hstep, rfl⟩ := imageOf?_eq_some_iff.1 hm
  rw [Option.eq_none_iff_forall_ne_some]
  intro k hk
  obtain ⟨hfirst', hlast', hstep', -⟩ := imageOf?_eq_some_iff.1 hk
  rcases h with (hbefore | hbehind) | ⟨⟨hq, hr⟩, hodd⟩
  · omega
  · omega
  · -- every image under `r` is an odd distance from where `q` begins
    rw [hq] at hstep'
    rcases hr with hr | hr
    · rw [hr] at hstep
      omega
    · omega

/-- No entry of the tables for upper case is for the code point. -/
def isUnmapped (n : Nat) : Bool :=
  upperSpecials.toList.all (fun p => p.1 != n) && upperRuns.toList.all fun r => (r.imageOf? n).isNone

theorem isUnmapped_iff {n : Nat} :
    isUnmapped n = true ↔ (∀ p ∈ upperSpecials, p.1 ≠ n) ∧ ∀ r ∈ upperRuns, r.imageOf? n = none := by
  simp only [isUnmapped, Bool.and_eq_true, List.all_eq_true, Array.mem_toList_iff, Option.isNone_iff_eq_none, bne_iff_ne]

theorem mapCase_of_isUnmapped {c : Char} (h : isUnmapped c.toNat = true) :
    mapCase upperRuns upperSpecials c = [c] := by
  obtain ⟨hspecials, hruns⟩ := isUnmapped_iff.1 h
  have hspecial : upperSpecials.find? (·.1 == c.toNat) = none := by
    simpa using hspecials
  have hrun : upperRuns.findSome? (·.imageOf? c.toNat) = none := Array.findSome?_eq_none_iff.2 hruns
  unfold mapCase
  rw [hspecial, hrun]

/-- **An entry of several characters** has none that is mapped itself. -/
theorem isUnmapped_of_special {p : Nat × List Nat} {n : Nat} (hp : p ∈ upperSpecials) (hn : n ∈ p.2) :
    isUnmapped n = true := by
  have htable : (upperSpecials.toList.all fun p => p.2.all isUnmapped) = true := by decide +kernel
  simp only [List.all_eq_true, Array.mem_toList_iff] at htable
  exact htable p hp n hn

/-- **An image under a run** is not mapped itself. -/
theorem isUnmapped_of_run {r : CaseRun} {n m : Nat} (hr : r ∈ upperRuns) (hm : r.imageOf? n = some m) :
    isUnmapped m = true := by
  have hspecials : (upperRuns.toList.all fun r => upperSpecials.toList.all fun p =>
      Nat.blt p.1 r.image || Nat.blt (r.image + (r.last - r.first)) p.1) = true := by decide +kernel
  have hruns : (upperRuns.toList.all fun r => upperRuns.toList.all r.avoids) = true := by decide +kernel
  simp only [List.all_eq_true, Array.mem_toList_iff, Bool.or_eq_true, Nat.blt_eq] at hspecials hruns
  obtain ⟨hlow, hhigh⟩ := CaseRun.imageOf?_bounds hm
  rw [isUnmapped_iff]
  constructor
  · intro p hp
    have hapart := hspecials r hr p hp
    omega
  · intro q hq
    exact CaseRun.imageOf?_of_avoids (hruns r hr q hq) hm

/-- The same said of the character; zero stands for a number that is no code point, and is not mapped either. -/
theorem isUnmapped_ofNat {n : Nat} (h : isUnmapped n = true) : isUnmapped (Char.ofNat n).toNat = true := by
  rcases toNat_ofNat_cases n with hn | hn
  · rwa [hn]
  · rw [hn]
    decide +kernel

/-- A character that the tables leave alone is its own upper case, unless it is a small letter of ASCII. -/
theorem upperChars_of_isUnmapped {c : Char} (hlower : c.isLower = false) (h : isUnmapped c.toNat = true) :
    upperChars c = [c] := by
  rcases Nat.lt_or_ge c.toNat 128 with hc | hc
  · have hself : c.isLower = false → c.toUpper = c :=
      forall_ascii (P := fun c => c.isLower = false → c.toUpper = c) (by decide +kernel) hc
    rw [(upperChars_of_ascii hc).1, hself hlower]
  · rw [upperChars_of_not_ascii hc, mapCase_of_isUnmapped h]

/-- **Upper case is its own upper case**, character by character. -/
theorem upperChars_of_mem_upperChars {c x : Char} (hx : x ∈ upperChars c) : upperChars x = [x] := by
  have hlower := isLower_of_mem_upperChars hx
  rcases Nat.lt_or_ge c.toNat 128 with hc | hc
  · have htwice : upperChars c.toUpper = [c.toUpper] :=
      forall_ascii (P := fun c => upperChars c.toUpper = [c.toUpper]) (by decide +kernel) hc
    rw [(upperChars_of_ascii hc).1] at hx
    rwa [List.mem_singleton.1 hx]
  · have hmapped := upperChars_of_not_ascii hc
    rw [hmapped] at hx
    rcases mem_mapCase_cases hx with ⟨p, hp, n, hn, rfl⟩ | ⟨r, hr, n, hn, rfl⟩ | ⟨rfl, hself⟩
    · exact upperChars_of_isUnmapped hlower (isUnmapped_ofNat (isUnmapped_of_special hp hn))
    · exact upperChars_of_isUnmapped hlower (isUnmapped_ofNat (isUnmapped_of_run hr hn))
    · rw [hmapped, hself]

end Triage.Text
