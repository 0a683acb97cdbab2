import Mathlib.Data.List.Nodup
import Triage.Settings.EnvironmentFile

/-!
# Variables from a file

A file of statements adds variables to an environment, but none that the environment has already.

* `EnvironmentFile.lookup_setVariable`, `EnvironmentFile.nodup_resolve`: a file says one thing of each variable.
* `Environment.lookup_extend`: **what the extended environment says**. A variable of the environment is left as it is,
  even if it is blank.
-/

namespace Triage

/-- What a list says of a key, entry by entry. -/
theorem lookup_cons_eq {α : Type} {key first : String} {a : α} {rest : List (String × α)} :
    ((first, a) :: rest).lookup key = if key = first then some a else rest.lookup key := by
  rw [List.lookup_cons]
  by_cases h : key = first
  · rw [if_pos h, beq_iff_eq.2 h]
  · rw [if_neg h, beq_false_of_ne h]

namespace EnvironmentFile

variable {name key : String} {value : Option String} {vs : List (String × Option String)}

theorem lookup_setVariable :
    (setVariable name value vs).lookup key = if key = name then some value else vs.lookup key := by
  induction vs with
  | nil => exact lookup_cons_eq
  | cons v vs ih =>
    obtain ⟨first, held⟩ := v
    unfold setVariable
    by_cases hfirst : first = name
    · subst hfirst
      rw [if_pos (beq_self_eq_true _), lookup_cons_eq, lookup_cons_eq]
      split <;> rfl
    · rw [if_neg (by simpa using hfirst), lookup_cons_eq, lookup_cons_eq, ih]
      by_cases hkey : key = first
      · rw [if_pos hkey, if_pos hkey, if_neg (hkey ▸ hfirst)]
      · rw [if_neg hkey, if_neg hkey]

theorem mem_setVariable_iff :
    key ∈ (setVariable name value vs).map Prod.fst ↔ key = name ∨ key ∈ vs.map Prod.fst := by
  induction vs with
  | nil => simp [setVariable]
  | cons v vs ih =>
    unfold setVariable
    by_cases h : v.1 = name
    · simp [h]
    · rw [if_neg (by simpa using h), List.map_cons, List.map_cons, List.mem_cons, List.mem_cons, ih]
      exact or_left_comm

theorem nodup_setVariable (h : (vs.map Prod.fst).Nodup) : ((setVariable name value vs).map Prod.fst).Nodup := by
  induction vs with
  | nil => exact List.nodup_singleton name
  | cons v vs ih =>
    obtain ⟨hnew, hrest⟩ := List.nodup_cons.1 h
    unfold setVariable
    split
    · next hsame =>
      obtain rfl : v.1 = name := by simpa using hsame
      exact List.nodup_cons.2 ⟨hnew, hrest⟩
    · next hother =>
      refine List.nodup_cons.2 ⟨fun hmem => ?_, ih hrest⟩
      rcases mem_setVariable_iff.1 hmem with hname | hmem
      · exact hother (by simpa using hname)
      · exact hnew hmem

/-- **A file says one thing** of each variable. -/
theorem nodup_resolve (env : Environment) (as : List Assignment) : ((resolve env as).map Prod.fst).Nodup := by
  unfold resolve
  refine List.foldlRecOn (motive := fun vs : List (String × Option String) => (vs.map Prod.fst).Nodup) as _
    List.nodup_nil ?_
  exact fun _ h _ _ => nodup_setVariable h

end EnvironmentFile

namespace Environment

variable {env env' : Environment} {name value : String}

theorem lookup_set (h : env.set name value = .ok env') (key : String) :
    env'.lookup key = (env.lookup key).or (if key = name then some value else none) := by
  unfold set at h
  split at h
  · cases h
  · split at h
    · cases h
    · cases h
      rw [List.lookup_append, lookup_cons_eq]
      rfl

/-- Adds a variable of a file unless the first environment has it. -/
def addTo (base env : Environment) (v : String × Option String) : Except VariableError Environment :=
  match v.2 with
  | some value => if (base.lookup v.1).isSome then .ok env else env.set v.1 value
  | none => .ok env

theorem extend_eq (env : Environment) (as : List EnvironmentFile.Assignment) :
    env.extend as = (EnvironmentFile.resolve env as).foldlM (addTo env) env := rfl

/-- What a variable of a file comes to. -/
theorem lookup_addTo {base : Environment} {v : String × Option String} (h : addTo base env v = .ok env')
    (key : String) :
    env'.lookup key = (env.lookup key).or
      (if (base.lookup key).isSome then none else if key = v.1 then v.2 else none) := by
  unfold addTo at h
  split at h
  · next value hvalue =>
    split at h
    · next hbase =>
      cases h
      by_cases hkey : key = v.1
      · rw [hkey, if_pos hbase, Option.or_none]
      · rw [if_neg hkey, ite_self, Option.or_none]
    · next hbase =>
      rw [lookup_set h, hvalue]
      by_cases hkey : key = v.1
      · rw [hkey, if_neg hbase]
      · rw [if_neg hkey, ite_self]
  · next hvalue =>
    cases h
    rw [hvalue, ite_self, ite_self, Option.or_none]

theorem lookup_foldlM {base : Environment} {vs : List (String × Option String)} (hvs : (vs.map Prod.fst).Nodup)
    (h : vs.foldlM (addTo base) env = .ok env') (key : String) :
    env'.lookup key = (env.lookup key).or (if (base.lookup key).isSome then none else (vs.lookup key).join) := by
  induction vs generalizing env with
  | nil =>
    cases h
    rw [List.lookup_nil, Option.join_none, ite_self, Option.or_none]
  | cons v vs ih =>
    obtain ⟨first, held⟩ := v
    obtain ⟨hnew, hrest⟩ := List.nodup_cons.1 hvs
    rw [List.foldlM_cons] at h
    cases hnext : addTo base env (first, held) with
    | error e =>
      rw [hnext] at h
      cases h
    | ok next =>
      rw [hnext] at h
      have hvs : next.lookup key = _ := lookup_addTo hnext key
      rw [ih hrest h, hvs, lookup_cons_eq, Option.or_assoc]
      congr 1
      by_cases hbase : (base.lookup key).isSome
      · simp only [if_pos hbase, Option.or_none]
      · simp only [if_neg hbase]
        by_cases hkey : key = first
        · -- the rest of the list does not say anything of the first variable
          have hnone : vs.lookup key = none := by
            rw [List.lookup_eq_none_iff]
            refine fun v hv => bne_iff_ne.2 fun heq => hnew ?_
            rw [← hkey, heq]
            exact List.mem_map.2 ⟨v, hv, rfl⟩
          rw [if_pos hkey, if_pos hkey, hnone, Option.join_none, Option.or_none, Option.join_some]
        · rw [if_neg hkey, if_neg hkey, Option.none_or]

/-- **What the extended environment says.** -/
theorem lookup_extend {as : List EnvironmentFile.Assignment} (h : env.extend as = .ok env') (key : String) :
    env'.lookup key = (env.lookup key).or ((EnvironmentFile.resolve env as).lookup key).join := by
  rw [lookup_foldlM (EnvironmentFile.nodup_resolve env as) (extend_eq env as ▸ h)]
  cases env.lookup key <;> rfl

end Environment

end Triage
