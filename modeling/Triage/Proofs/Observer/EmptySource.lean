import Triage.Proofs.Fault.CamelCase
import Triage.Proofs.Fault.PrettyLabel
import Triage.Proofs.Observer.Order
import Triage.Proofs.Observer.Recording

/-!
# Origins of which no source is left

The source of a series is the name of an origin in camel case, without `Error` at its end. An origin must have a name,
or say how it wants to be called, but nothing may be left of either.

* `withoutError_eq_empty_iff`: nothing is left of `Error`, and of nothing.
* `Origin.LeavesNothing`: the origins whose names are underscores, or `error` between underscores, and those that want
  to be called `Error`.
* `source_eq_empty_iff`: **the source is empty exactly for these**.
* `empty_source_by_origin_alone`: **so it is with every series that is answered or counted**, in a whole run.
-/

namespace Triage

/-- Nothing is left of a text without its ending exactly if it was the ending, or nothing. -/
theorem withoutError_eq_empty_iff {name : String} : withoutError name = "" ↔ name = "" ∨ name = "Error" := by
  have hempty : name = "" ↔ name.toList = [] := by rw [← String.toList_inj, String.toList_empty]
  have herror : name = "Error" ↔ name.toList = [] ++ "Error".toList := String.toList_inj.symm
  have hnot : ¬ "Error".toList <:+ [] := by decide
  rw [withoutError, ← String.toList_inj, String.toList_ofList, String.toList_empty, dropEnding_eq_iff, hempty, herror]
  constructor
  · rintro (h | ⟨-, h⟩)
    · exact .inr h
    · exact .inl h
  · rintro (h | h)
    · exact .inr ⟨h ▸ hnot, h⟩
    · exact .inl h

/-- Nothing is left of a name but the ending, if that: it is made of underscores, with or without one `error` between
them, in any case. -/
def IsHollow (name : String) : Prop := IsPadded "" name ∨ IsPadded "error" name

theorem withoutError_camelCase_iff {name : String} : withoutError (camelCase name) = "" ↔ IsHollow name := by
  rw [withoutError_eq_empty_iff, camelCase_eq_empty_iff, camelCase_eq_error_iff]
  rfl

namespace Origin

/-- **Nothing is left of the origin**: it is a member of an enumeration with a hollow name, or an object that wants to
be called `Error`, or an object with a hollow name that does not say how it wants to be called. -/
inductive LeavesNothing : Origin → Prop where
  | member {name : String} (given : name ≠ "") (hollow : IsHollow name) : LeavesNothing (.member name)
  | friendly (name : Option Value) : LeavesNothing (.object name (some (.text "Error")))
  | named {name : String} {friendly : Option Value} (given : name ≠ "") (hollow : IsHollow name)
      (unsaid : ∀ s, friendly = some (.text s) → s = "") : LeavesNothing (.object (some (.text name)) friendly)

theorem nonEmptyText?_eq_some_iff {v : Value} {s : String} : nonEmptyText? v = some s ↔ v = .text s ∧ s ≠ "" := by
  unfold nonEmptyText?
  split
  · next t =>
    by_cases ht : t = ""
    · subst ht
      exact ⟨fun h => (nomatch h), fun ⟨h, hs⟩ => absurd (Value.text.inj h).symm hs⟩
    · rw [if_neg (by simpa using ht), Option.some.injEq, Value.text.injEq]
      exact ⟨fun h => ⟨h, h ▸ ht⟩, fun h => h.1⟩
  · next h => exact ⟨fun h' => (nomatch h'), fun h' => absurd h'.1 (h s)⟩

theorem nonEmptyText?_eq_none_iff {v : Value} : nonEmptyText? v = none ↔ ∀ s, v = .text s → s = "" := by
  rw [Option.eq_none_iff_forall_ne_some]
  simp only [ne_eq, nonEmptyText?_eq_some_iff, not_and, not_not]

/-- The source of an origin that says how it wants to be called. -/
theorem source_of_friendly {o : Origin} {s : String} (h : o.ownFriendlyName = .ok (some s)) :
    o.source = .ok (withoutError s) := by
  unfold source friendlyName
  rw [h]
  rfl

/-- The source of an origin that does not say so, but has a name. -/
theorem source_of_name {o : Origin} {name : String} (h : o.ownFriendlyName = .ok none) (hname : o.name? = some name) :
    o.source = .ok (withoutError (camelCase name)) := by
  unfold source friendlyName
  rw [h, hname]
  rfl

/-- Any other origin has no source. -/
theorem source_of_nameless {o : Origin} (h : o.ownFriendlyName = .ok none) (hname : o.name? = none) :
    o.source = .error (.noName o.shown) := by
  unfold source friendlyName
  rw [h, hname]
  rfl

theorem source_of_broken {o : Origin} {e : NameError} (h : o.ownFriendlyName = .error e) : o.source = .error e := by
  unfold source friendlyName
  rw [h]
  rfl

/-- An origin does not want to be called nothing. -/
theorem ownFriendlyName_ne_empty (o : Origin) : o.ownFriendlyName ≠ .ok (some "") := by
  intro h
  have hne {v : Value} : nonEmptyText? v ≠ some "" := fun hv => (nonEmptyText?_eq_some_iff.1 hv).2 rfl
  cases o with
  | absent => cases h
  | value v => cases h
  | member name => cases h
  | callSite c => cases c <;> exact absurd h (by decide)
  | broken name message => cases h
  | object name friendly =>
    obtain ⟨v, -, hv⟩ := Option.bind_eq_some_iff.1 (Except.ok.inj h)
    exact hne hv

/-- The source is empty if the origin wants to be called `Error`, or does not say so and has a hollow name. -/
theorem source_eq_empty_cases {o : Origin} :
    o.source = .ok "" ↔ o.ownFriendlyName = .ok (some "Error") ∨
      (o.ownFriendlyName = .ok none ∧ ∃ name, o.name? = some name ∧ IsHollow name) := by
  have hok {s : String} : (Except.ok s : Except NameError String) = .ok "" ↔ s = "" :=
    ⟨Except.ok.inj, congrArg _⟩
  rcases hfriendly : o.ownFriendlyName with e | _ | s
  · rw [source_of_broken hfriendly]
    simp
  · rcases hname : o.name? with _ | name
    · rw [source_of_nameless hfriendly hname]
      simp
    · rw [source_of_name hfriendly hname, hok, withoutError_camelCase_iff]
      simp
  · have hne : s ≠ "" := fun h => ownFriendlyName_ne_empty o (h ▸ hfriendly)
    rw [source_of_friendly hfriendly, hok, withoutError_eq_empty_iff]
    simp [hne]

/-- **The source is empty** exactly if nothing is left of the origin. -/
theorem source_eq_empty_iff {o : Origin} : o.source = .ok "" ↔ o.LeavesNothing := by
  rw [source_eq_empty_cases]
  cases o with
  | absent => exact ⟨fun h => by simp [ownFriendlyName, name?] at h, fun h => (nomatch h)⟩
  | value v => exact ⟨fun h => by simp [ownFriendlyName, name?] at h, fun h => (nomatch h)⟩
  | broken name message => exact ⟨fun h => by simp [ownFriendlyName] at h, fun h => (nomatch h)⟩
  | callSite c =>
    -- something is left of every known call site
    have hleft : nonEmptyText? (.text (camelCase c.name)) ≠ some "Error" ∧
        nonEmptyText? (.text (camelCase c.name)) ≠ none := by
      cases c <;> decide
    refine ⟨fun h => h.elim (fun h => ?_) fun h => ?_, fun h => (nomatch h)⟩
    · exact absurd (Except.ok.inj h) hleft.1
    · exact absurd (Except.ok.inj h.1) hleft.2
  | member name =>
    have hname (n : String) : (member name).name? = some n ↔ name = n ∧ n ≠ "" := by
      rw [name?, nonEmptyText?_eq_some_iff, Value.text.injEq]
    simp only [hname]
    constructor
    · rintro (h | ⟨-, n, ⟨rfl, hgiven⟩, hhollow⟩)
      · cases h
      · exact .member hgiven hhollow
    · rintro (⟨hgiven, hhollow⟩)
      exact .inr ⟨rfl, name, ⟨rfl, hgiven⟩, hhollow⟩
  | object name friendly =>
    have hname (n : String) : (object name friendly).name? = some n ↔ name = some (.text n) ∧ n ≠ "" := by
      simp only [name?, Option.bind_eq_some_iff, nonEmptyText?_eq_some_iff]
      exact ⟨fun ⟨_, h, hv, hn⟩ => ⟨hv ▸ h, hn⟩, fun ⟨h, hn⟩ => ⟨_, h, rfl, hn⟩⟩
    have hown : (object name friendly).ownFriendlyName = .ok (some "Error") ↔ friendly = some (.text "Error") := by
      simp only [ownFriendlyName, Except.ok.injEq, Option.bind_eq_some_iff, nonEmptyText?_eq_some_iff]
      exact ⟨fun ⟨_, h, hv, _⟩ => hv ▸ h, fun h => ⟨_, h, rfl, by decide⟩⟩
    have hnone : (object name friendly).ownFriendlyName = .ok none ↔ ∀ s, friendly = some (.text s) → s = "" := by
      simp only [ownFriendlyName, Except.ok.injEq, Option.bind_eq_none_iff, nonEmptyText?_eq_none_iff]
      exact ⟨fun h s hs => h _ hs s rfl, fun h v hv s hs => h s (hs ▸ hv)⟩
    simp only [hname, hown, hnone]
    constructor
    · rintro (rfl | ⟨hunsaid, n, ⟨rfl, hgiven⟩, hhollow⟩)
      · exact .friendly name
      · exact .named hgiven hhollow hunsaid
    · rintro (_ | _ | ⟨hgiven, hhollow, hunsaid⟩)
      · exact .inl rfl
      · exact .inr ⟨hunsaid, _, ⟨rfl, hgiven⟩, hhollow⟩

end Origin

namespace Observer

variable {o : Observer} {s : State} {c : Call} {u : Series}

/-- The source of a series that is answered is the one of the origin. -/
theorem source_of_named (h : ((o.classify c).on s).1 = .ok u) : c.origin.source = .ok u.source := by
  obtain ⟨i, classifier, -, hseries⟩ := exists_seriesOf_of_named h
  obtain ⟨source, v, name, hsource, -, -, rfl⟩ := seriesOf_eq_ok_iff.1 hseries
  exact hsource

theorem source_of_named_iff (h : ((o.classify c).on s).1 = .ok u) : u.source = "" ↔ c.origin.LeavesNothing := by
  rw [← Origin.source_eq_empty_iff, source_of_named h]
  exact ⟨congrArg _, Except.ok.inj⟩

/-- **What a request counts** has an empty source exactly if it is an observation for such an origin. -/
theorem source_of_recording_iff {r : Request} {x : Recording} (h : o.recordingOf s r = some x) :
    x.series.source = "" ↔
      ∃ c, r = .observe c ∧ ((o.classify c).on s).1 = .ok x.series ∧ c.origin.LeavesNothing := by
  constructor
  · intro hempty
    rcases recordingOf_cases h with hfailure | ⟨c, hc, hu⟩
    · rw [hfailure] at hempty
      exact absurd hempty (by decide)
    · exact ⟨c, hc, hu, (source_of_named_iff hu).1 hempty⟩
  · rintro ⟨c, -, hu, hleaves⟩
    exact (source_of_named_iff hu).2 hleaves

/-- A run counts a series with an empty source only for such an origin. -/
theorem exists_of_counts {rs : List Request} (hu : u ∈ o.counts s rs) (hempty : u.source = "") :
    ∃ c, .observe c ∈ rs ∧ c.origin.LeavesNothing := by
  induction rs generalizing s with
  | nil => cases hu
  | cons r rs ih =>
    rcases List.mem_append.1 hu with hfirst | hrest
    · obtain ⟨x, hx, rfl⟩ := Option.map_eq_some_iff.1 (Option.mem_toList.1 hfirst)
      obtain ⟨c, rfl, -, hleaves⟩ := (source_of_recording_iff hx).1 hempty
      exact ⟨c, List.mem_cons_self, hleaves⟩
    · obtain ⟨c, hc, hleaves⟩ := ih hrest
      exact ⟨c, List.mem_cons_of_mem _ hc, hleaves⟩

/-- **An empty source comes of the origin alone**, in every state of an observer:

* the source of an origin is empty exactly if nothing is left of the origin;
* the source of a series that classifying answers is empty exactly if nothing is left of the origin of the call;
* what a request counts has an empty source exactly if the request is an observation that is answered with that series,
  and nothing is left of its origin;
* all that a run counts comes about so: a series with an empty source is counted only for such an observation. -/
theorem empty_source_by_origin_alone (o : Observer) (s : State) :
    (∀ origin : Origin, origin.source = .ok "" ↔ origin.LeavesNothing) ∧
      (∀ c u, ((o.classify c).on s).1 = .ok u → (u.source = "" ↔ c.origin.LeavesNothing)) ∧
      (∀ r x, o.recordingOf s r = some x → (x.series.source = "" ↔
        ∃ c, r = .observe c ∧ ((o.classify c).on s).1 = .ok x.series ∧ c.origin.LeavesNothing)) ∧
      ∀ rs, (o.after s rs).counter = s.counter.countingAll (o.counts s rs) ∧
        ∀ u ∈ o.counts s rs, u.source = "" → ∃ c, .observe c ∈ rs ∧ c.origin.LeavesNothing := by
  refine ⟨fun _ => Origin.source_eq_empty_iff, fun _ _ => source_of_named_iff, fun _ _ => source_of_recording_iff,
    fun rs => ⟨after_counter o s rs, fun _ hu hempty => exists_of_counts hu hempty⟩⟩

/-- An observation for a member of an enumeration of which nothing is left. -/
def hollowCall : Call := ⟨.member "ERROR", ⟨#[Fault.ofTexts "ValueError" "late" ""]⟩, .fault 0, .null⟩

/-- The member has a name, and is counted without a source. -/
theorem empty_source_by_origin_alone_hollowCall :
    hollowCall.origin.LeavesNothing ∧
      (standard.recordingOf .bare (.observe hollowCall)).map (·.series) =
        some ⟨"ValueError", "UnknownError", "", "N/A"⟩ := by
  have hcounted : (standard.recordingOf .bare (.observe hollowCall)).map (·.series) =
      some ⟨"ValueError", "UnknownError", "", "N/A"⟩ := by decide +kernel
  obtain ⟨x, hx, hseries⟩ := Option.map_eq_some_iff.1 hcounted
  have hempty : x.series.source = "" := by rw [hseries]
  obtain ⟨c, hc, -, hleaves⟩ := ((empty_source_by_origin_alone standard .bare).2.2.1 _ _ hx).1 hempty
  exact ⟨Request.observe.inj hc ▸ hleaves, hcounted⟩

end Observer

end Triage
