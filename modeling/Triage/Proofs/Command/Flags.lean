import Triage.Command.Options

/-!
# What flags may say

Whatever stands on a command line, a flag that is read is one of the grammar, and its value is one of its choices if it
has any.

* `Grammar.Admits`: a flag of the grammar with a value that it may have.
* `Grammar.knows_token`: an argument that looks like a flag is short for one of the grammar.
* `Grammar.admits_takeFlag`, `Grammar.admits_readTokens`: one flag that is read, and then all of them.
* `Grammar.admits_of_read`: **every flag of a command line is admitted**.
* `consoleLevel_of_read`: so a level that is asked for is one of the levels.
-/

namespace Triage.Command

namespace Grammar

variable {g : Grammar} {s : String} {args : List String} {v v' : Values} {ts rest : List (String × Token)}

/-- A flag of the grammar, with a value that it may have. -/
def Admits (g : Grammar) (p : String × String) : Prop :=
  ∃ f ∈ g.flags, f.name = p.1 ∧ (f.choices = [] ∨ p.2 ∈ f.choices)

/-- A token that names no flag but those of the grammar. -/
def Knows (g : Grammar) (t : Token) : Prop := ∀ f a, t = .flag (.flag f) a → f ∈ g.flags

theorem mem_flags_of_mem_targets {name : String} {f : Flag} (h : (name, .flag f) ∈ g.targets) : f ∈ g.flags := by
  unfold targets at h
  rcases List.mem_append.1 h with h | h
  · simp at h
  · obtain ⟨f', hf', heq⟩ := List.mem_map.1 h
    cases heq
    exact hf'

theorem mem_flags_of_lookup {name : String} {f : Flag} (h : g.targets.lookup name = some (.flag f)) :
    f ∈ g.flags := by
  obtain ⟨before, after, hsplit, -⟩ := List.lookup_eq_some_iff.1 h
  have hmem : (name, .flag f) ∈ g.targets := by
    rw [hsplit]
    simp
  exact mem_flags_of_mem_targets hmem

/-- The flags that a text may be short for are those of the grammar. -/
theorem mem_flags_of_mem_candidates {name : String} {f : Flag} {a : Option Attached}
    (h : (name, .flag f, a) ∈ g.candidates s) : f ∈ g.flags := by
  unfold candidates at h
  split at h
  · obtain ⟨t, ht, heq⟩ := List.mem_map.1 h
    obtain ⟨name', target⟩ := t
    cases heq
    exact mem_flags_of_mem_targets (List.mem_filter.1 ht).1
  · obtain ⟨t, ht, heq⟩ := List.mem_filterMap.1 h
    obtain ⟨name', target⟩ := t
    split at heq
    · cases heq
      exact mem_flags_of_mem_targets ht
    · split at heq
      · cases heq
        exact mem_flags_of_mem_targets ht
      · cases heq

/-- **An argument that looks like a flag** is short for one of the grammar. -/
theorem knows_token {t : Token} (h : g.token s = .ok t) : g.Knows t := by
  rintro f a rfl
  unfold token at h
  split at h
  · cases h
  · split at h
    · next target hlookup =>
      cases h
      exact mem_flags_of_lookup hlookup
    · split at h
      · cases h
      · dsimp only at h
        split at h
        · next t hexact =>
          cases h
          obtain ⟨⟨name, value⟩, -, hname⟩ := Option.bind_eq_some_iff.1 hexact
          obtain ⟨target, hlookup, heq⟩ := Option.map_eq_some_iff.1 hname
          cases heq
          exact mem_flags_of_lookup hlookup
        · split at h
          · next name target attached hone =>
            cases h
            have hmem : (name, .flag f, a) ∈ g.candidates s := by
              rw [hone]
              exact List.mem_singleton_self _
            exact mem_flags_of_mem_candidates hmem
          · split at h <;> cases h
          · cases h

theorem knows_tokens (h : g.tokens args = .ok ts) : ∀ t ∈ ts, g.Knows t.2 := by
  induction args generalizing ts with
  | nil =>
    cases h
    exact List.forall_mem_nil _
  | cons s args ih =>
    unfold tokens at h
    split at h
    · cases h
      refine List.forall_mem_cons.2 ⟨nofun, fun t ht => ?_⟩
      obtain ⟨s', -, rfl⟩ := List.mem_map.1 ht
      nofun
    · cases hs : g.token s with
      | error e =>
        rw [hs] at h
        cases h
      | ok t =>
        rw [hs] at h
        cases hargs : g.tokens args with
        | error e =>
          rw [hargs] at h
          cases h
        | ok ts' =>
          rw [hargs] at h
          cases h
          exact List.forall_mem_cons.2 ⟨knows_token hs, ih hargs⟩

/-- A choice that is not refused. -/
theorem admits_of_checkChoice {f : Flag} (hf : f ∈ g.flags) {value : String} {argument : String}
    (h : g.checkChoice argument f.choices value = .ok ()) : g.Admits (f.name, value) := by
  unfold checkChoice at h
  split at h
  · next hchoice =>
    rw [Bool.or_eq_true, List.isEmpty_iff, List.contains_iff_mem] at hchoice
    exact ⟨f, hf, rfl, hchoice⟩
  · cases h

/-- **A flag that is read** is admitted, and what is left was there before. -/
theorem admits_takeFlag {target : Target} {attached : Option Attached} {p : String × String}
    {left : List (String × Token)} (hknown : ∀ f, target = .flag f → f ∈ g.flags)
    (h : g.takeFlag target attached rest = .ok (p, left)) : g.Admits p ∧ ∀ t ∈ left, t ∈ rest := by
  -- the value is checked before it is taken, wherever it stands
  have hchecked : ∀ {f : Flag} {value : String} {from' : List (String × Token)}, f ∈ g.flags →
      (g.checkChoice f.name f.choices value).map (fun _ => ((f.name, value), from')) = .ok (p, left) →
      g.Admits p ∧ left = from' := by
    intro f value from' hf h
    cases hc : g.checkChoice f.name f.choices value with
    | error e =>
      rw [hc] at h
      cases h
    | ok u =>
      rw [hc] at h
      cases h
      exact ⟨admits_of_checkChoice hf hc, rfl⟩
  unfold takeFlag at h
  split at h
  · split at h <;> cases h
  · next f =>
    split at h
    · obtain ⟨hp, rfl⟩ := hchecked (hknown f rfl) h
      exact ⟨hp, fun t ht => ht⟩
    · obtain ⟨hp, rfl⟩ := hchecked (hknown f rfl) h
      exact ⟨hp, fun t ht => List.mem_cons_of_mem _ ht⟩
    · cases h

/-- What a positional argument leaves was there before. -/
theorem mem_of_takePositional {words : List String} (h : g.takePositional ts = .ok (some (words, rest))) :
    ∀ t ∈ rest, t ∈ ts := by
  unfold takePositional at h
  dsimp only at h
  split at h
  · next first more _ hdrop =>
    cases h
    intro t ht
    have hmore : t ∈ more := List.mem_of_mem_drop ht
    exact List.mem_of_mem_drop (hdrop ▸ List.mem_cons_of_mem _ hmore)
  · next name choices first more _ hdrop =>
    cases hc : g.checkChoice name choices
        (((ts.takeWhile isSeparator).map (·.1) ++ first :: more.map (·.1)).head?.getD first) with
    | error e =>
      rw [hc] at h
      cases h
    | ok u =>
      rw [hc] at h
      cases h
      exact List.forall_mem_nil _
  · cases h

/-- A positional argument leaves the flags as they are. -/
theorem flags_of_takeOpenPositional (h : g.takeOpenPositional v ts = .ok (some (v', rest))) :
    v'.flags = v.flags ∧ ∀ t ∈ rest, t ∈ ts := by
  unfold takeOpenPositional at h
  split at h
  · cases h
  · cases htake : g.takePositional ts with
    | error e =>
      rw [htake] at h
      cases h
    | ok r =>
      rw [htake] at h
      cases r with
      | none => cases h
      | some r =>
        obtain ⟨words, left⟩ := r
        cases h
        exact ⟨rfl, mem_of_takePositional htake⟩

/-- **All flags that are read** are admitted if those before are, and the tokens are known. -/
theorem admits_readTokens {fuel : Nat} (hv : ∀ p ∈ v.flags, g.Admits p) (hts : ∀ t ∈ ts, g.Knows t.2)
    (h : g.readTokens fuel v ts = .ok v') : ∀ p ∈ v'.flags, g.Admits p := by
  induction fuel generalizing v ts with
  | zero =>
    cases h
    exact hv
  | succ fuel ih =>
    unfold readTokens at h
    split at h
    · cases hopen : g.takeOpenPositional v ts with
      | error e =>
        rw [hopen] at h
        cases h
      | ok r =>
        rw [hopen] at h
        cases r with
        | none =>
          cases h
          exact hv
        | some r =>
          obtain ⟨w, rest⟩ := r
          cases h
          rw [← (flags_of_takeOpenPositional hopen).1] at hv
          exact hv
    · split at h
      · refine ih ?_ (List.forall_mem_cons.1 hts).2 h
        exact hv
      · next target attached rest _ =>
        obtain ⟨hfirst, hrest⟩ := List.forall_mem_cons.1 hts
        split at h
        · cases h
        · next value left htake =>
          obtain ⟨hp, hleft⟩ := admits_takeFlag (fun f hf => hfirst f attached (by rw [hf])) htake
          refine ih ?_ (fun t ht => hrest t (hleft t ht)) h
          exact fun p hmem => (List.mem_append.1 hmem).elim (hv p) fun hp' => List.mem_singleton.1 hp' ▸ hp
      · split at h
        · cases h
        · next w rest hopen =>
          obtain ⟨hflags, hsub⟩ := flags_of_takeOpenPositional hopen
          exact ih (hflags ▸ hv) (fun t ht => hts t (hsub t ht)) h
        · refine ih ?_ (fun t ht => hts t ((List.dropWhile_sublist _).mem ht)) h
          exact hv

/-- **Every flag of a command line is admitted.** -/
theorem admits_of_read (h : g.read args = .ok v) : ∀ p ∈ v.flags, g.Admits p := by
  unfold read at h
  cases htokens : g.tokens args with
  | error e =>
    rw [htokens] at h
    cases h
  | ok ts =>
    cases hread : g.readTokens (2 * ts.length + 1) .empty ts with
    | error e =>
      rw [htokens] at h
      simp only [bind, Except.bind, hread] at h
      cases h
    | ok w =>
      rw [htokens] at h
      simp only [bind, Except.bind, hread] at h
      obtain rfl : w = v := by
        split at h
        · cases h
        · cases h
          rfl
      exact admits_readTokens (List.forall_mem_nil _) (knows_tokens htokens) hread

theorem admits_of_flag? {name text : String} (h : g.read args = .ok v) (hflag : v.flag? name = some text) :
    g.Admits (name, text) := by
  obtain ⟨before, after, hsplit, -⟩ := List.lookup_eq_some_iff.1 hflag
  refine admits_of_read h _ (List.mem_reverse.1 ?_)
  rw [hsplit]
  simp

end Grammar

variable {args : List String} {v : Values}

/-- **A level that is asked for** is one of the levels. -/
theorem consoleLevel_of_read {text : String} (h : programGrammar.read args = .ok v)
    (hflag : v.flag? "--console-level" = some text) :
    ∃ level ∈ consoleLevels, Log.LevelName.ofText? text = some level ∧ level.text = text := by
  obtain ⟨f, hf, hname, hchoices⟩ := Grammar.admits_of_flag? h hflag
  have hlevels : ∀ f ∈ programGrammar.flags, f.name = "--console-level" → f.choices = consoleLevels.map (·.text) := by
    decide
  rw [hlevels f hf hname] at hchoices
  rcases hchoices with hnone | hmem
  · cases hnone
  · obtain ⟨level, hlevel, rfl⟩ := List.mem_map.1 hmem
    have hread : ∀ level ∈ consoleLevels, Log.LevelName.ofText? level.text = some level := by decide
    exact ⟨level, hlevel, hread level hlevel, rfl⟩

end Triage.Command
