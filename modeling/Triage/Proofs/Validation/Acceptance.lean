import Mathlib.Data.List.Forall2
import Mathlib.Data.List.Nodup
import Mathlib.Data.List.Lattice
import Mathlib.Data.List.Pairwise
import Triage.Validation.Field

/-!
# What checks accept

A check is known by the values that it accepts and by what it takes them for. Both are said of documents in JSON
without the check itself: as conditions on values, and on the entries of a record.

* `Value.IsJson`: the values that a document in JSON has.
* `FieldName.Gives`: a record gives a field a value, under either of its spellings; `KeysFit`: its keys are
  spellings of its fields, one for each field.
* `checkNoUnknownKeys_eq_ok_iff`: **the keys that a record may have**.
* `Agrees`: a check accepts exactly so and so, and takes what it accepts for this and that. It is kept by lists,
  null, fields and records: `Agrees.list`, `Agrees.orNull`, `Agrees.required`, `Agrees.optional`, `Agrees.record`.
-/

namespace Triage

/-- The values of documents in JSON. The keys of a mapping are texts, no two of them the same. -/
inductive Value.IsJson : Value → Prop where
  | null : IsJson .null
  | bool (b : Bool) : IsJson (.bool b)
  | int (n : Int) : IsJson (.int n)
  | float (x : Binary64) : IsJson (.float x)
  | text (s : String) : IsJson (.text s)
  | list {vs : List Value} (items : ∀ v ∈ vs, IsJson v) : IsJson (.list vs)
  | map {es : List (Value × Value)} (keys : ∀ e ∈ es, ∃ s, e.1 = .text s)
      (distinct : (es.map Prod.fst).Nodup) (values : ∀ e ∈ es, IsJson e.2) : IsJson (.map es)

/-! ## Entries -/

variable {es : List (Value × Value)} {key : String} {v w : Value}

theorem entry?_eq_none_iff : Value.entry? key es = none ↔ ∀ v, (.text key, v) ∉ es := by
  unfold Value.entry?
  rw [Option.map_eq_none_iff, List.find?_eq_none]
  constructor
  · intro h v hv
    exact h _ hv (by simp)
  · intro h e he hk
    obtain ⟨k, v⟩ := e
    cases k with
    | text s =>
      obtain rfl : s = key := by simpa using hk
      exact h v he
    | _ => simp at hk

theorem mem_of_entry?_eq_some (h : Value.entry? key es = some v) : (.text key, v) ∈ es := by
  unfold Value.entry? at h
  obtain ⟨⟨k, u⟩, hfind, rfl⟩ := Option.map_eq_some_iff.1 h
  have hk := List.find?_some hfind
  cases k with
  | text s =>
    obtain rfl : s = key := by simpa using hk
    exact List.mem_of_find?_eq_some hfind
  | _ => simp at hk

namespace Value.IsJson

theorem exists_key (h : (Value.map es).IsJson) {e : Value × Value} (he : e ∈ es) : ∃ s, e.1 = .text s := by
  cases h with
  | map keys distinct values => exact keys e he

/-- No key of a record has two values. -/
theorem eq_of_mem (h : (Value.map es).IsJson) (hv : (.text key, v) ∈ es) (hw : (.text key, w) ∈ es) : v = w := by
  cases h with
  | map keys distinct values =>
    have := List.inj_on_of_nodup_map distinct hv hw rfl
    exact (Prod.mk.inj this).2

theorem entry?_eq_some_iff (h : (Value.map es).IsJson) :
    Value.entry? key es = some v ↔ (.text key, v) ∈ es := by
  refine ⟨mem_of_entry?_eq_some, fun hv => ?_⟩
  cases he : Value.entry? key es with
  | none => exact absurd hv (entry?_eq_none_iff.1 he v)
  | some w => rw [h.eq_of_mem (mem_of_entry?_eq_some he) hv]

end Value.IsJson

/-! ## Fields -/

/-- The keys under which a field may be given. -/
def FieldName.spellings (f : FieldName) : List String := [f.title, f.name]

/-- The entries give the field a value. -/
def FieldName.Gives (f : FieldName) (es : List (Value × Value)) (v : Value) : Prop :=
  ∃ s ∈ f.spellings, (.text s, v) ∈ es

/-- Every key is a spelling of one of the fields, and no field is given under both. -/
structure KeysFit (fields : List FieldName) (es : List (Value × Value)) : Prop where
  known : ∀ e ∈ es, ∃ f ∈ fields, ∃ s ∈ f.spellings, e.1 = .text s
  once : ∀ f ∈ fields, ∀ v w, (.text f.title, v) ∈ es → (.text f.name, w) ∉ es

variable {f : FieldName} {fields : List FieldName}

theorem FieldName.gives_iff : f.Gives es v ↔ (.text f.title, v) ∈ es ∨ (.text f.name, v) ∈ es := by
  simp [Gives, spellings]

theorem FieldName.gives_of_find? (h : f.find? es = some (key, v)) :
    key ∈ f.spellings ∧ (.text key, v) ∈ es := by
  unfold find? at h
  split at h
  · next u hu =>
    cases h
    exact ⟨by simp [spellings], mem_of_entry?_eq_some hu⟩
  · obtain ⟨u, hu, hkey⟩ := Option.map_eq_some_iff.1 h
    cases hkey
    exact ⟨by simp [spellings], mem_of_entry?_eq_some hu⟩

theorem FieldName.find?_eq_none_iff : f.find? es = none ↔ ∀ v, ¬ f.Gives es v := by
  unfold find?
  simp only [gives_iff, not_or]
  cases ht : Value.entry? f.title es with
  | some v =>
    refine iff_of_false (by simp) fun h => ?_
    exact (h v).1 (mem_of_entry?_eq_some ht)
  | none =>
    dsimp only
    rw [Option.map_eq_none_iff, entry?_eq_none_iff]
    exact ⟨fun h v => ⟨entry?_eq_none_iff.1 ht v, h v⟩, fun h v => (h v).2⟩

theorem FieldName.Gives.isJson (hv : f.Gives es v) (h : (Value.map es).IsJson) : v.IsJson := by
  obtain ⟨s, -, hmem⟩ := hv
  cases h with
  | map keys distinct values => exact values _ hmem

/-- A field that fits stands under one of its spellings. -/
theorem KeysFit.spelling_eq (hk : KeysFit fields es) (hf : f ∈ fields) {s t : String} (hs : s ∈ f.spellings)
    (ht : t ∈ f.spellings) (hv : (.text s, v) ∈ es) (hw : (.text t, w) ∈ es) : s = t := by
  simp only [FieldName.spellings, List.mem_cons, List.not_mem_nil, or_false] at hs ht
  rcases hs with rfl | rfl <;> rcases ht with rfl | rfl
  · rfl
  · exact absurd hw (hk.once f hf v w hv)
  · exact absurd hv (hk.once f hf w v hw)
  · rfl

/-- **A field that fits** is found exactly if it is given. -/
theorem KeysFit.gives_iff_find? (hk : KeysFit fields es) (h : (Value.map es).IsJson) (hf : f ∈ fields) :
    f.Gives es v ↔ ∃ key, f.find? es = some (key, v) := by
  refine ⟨fun ⟨s, hs, hv⟩ => ?_, fun ⟨key, hkey⟩ => ⟨key, FieldName.gives_of_find? hkey⟩⟩
  cases hfind : f.find? es with
  | none => exact absurd ⟨s, hs, hv⟩ (FieldName.find?_eq_none_iff.1 hfind v)
  | some x =>
    obtain ⟨key, w⟩ := x
    obtain ⟨hkey, hw⟩ := FieldName.gives_of_find? hfind
    obtain rfl := hk.spelling_eq hf hs hkey hv hw
    rw [h.eq_of_mem hv hw]
    exact ⟨s, rfl⟩

/-- A field that fits has one value. -/
theorem KeysFit.eq_of_gives (hk : KeysFit fields es) (h : (Value.map es).IsJson) (hf : f ∈ fields)
    (hv : f.Gives es v) (hw : f.Gives es w) : v = w := by
  obtain ⟨key, hv⟩ := (hk.gives_iff_find? h hf).1 hv
  obtain ⟨key', hw⟩ := (hk.gives_iff_find? h hf).1 hw
  rw [hv] at hw
  cases hw
  rfl

/-- A key is a spelling of one field. -/
theorem eq_of_mem_spellings (hd : (fields.flatMap FieldName.spellings).Nodup) {f g : FieldName} {s : String}
    (hf : f ∈ fields) (hg : g ∈ fields) (hsf : s ∈ f.spellings) (hsg : s ∈ g.spellings) : f = g := by
  have : Std.Symm (Function.onFun List.Disjoint FieldName.spellings) := ⟨fun _ _ h => List.Disjoint.symm h⟩
  by_contra hne
  exact (List.nodup_flatMap.1 hd).2.forall hf hg hne hsf hsg

theorem title_ne_name (hd : (fields.flatMap FieldName.spellings).Nodup) (hf : f ∈ fields) : f.title ≠ f.name := by
  have := (List.nodup_flatMap.1 hd).1 f hf
  simpa [FieldName.spellings] using this

/-- The keys that fields have taken. -/
def takenKeys (fields : List FieldName) (es : List (Value × Value)) : List String :=
  fields.filterMap fun f => (f.find? es).map (·.1)

theorem mem_takenKeys_iff {s : String} :
    s ∈ takenKeys fields es ↔ ∃ f ∈ fields, ∃ v, f.find? es = some (s, v) := by
  simp [takenKeys]

/-- The keys of a record are refused unless fields have taken them all. -/
theorem checkNoUnknownKeys_iff_taken (h : (Value.map es).IsJson) :
    checkNoUnknownKeys fields es = .ok () ↔ ∀ e ∈ es, ∃ s ∈ takenKeys fields es, e.1 = .text s := by
  have hissues : checkNoUnknownKeys fields es = .ok () ↔
      es.filterMap (fun e => unknownKey? (takenKeys fields es) e.1) = [] := by
    unfold checkNoUnknownKeys takenKeys
    dsimp only
    split
    · next heq => simp [heq]
    · next is hne => simpa using hne
  rw [hissues, List.filterMap_eq_nil_iff]
  refine forall₂_congr fun e he => ?_
  obtain ⟨s, hs⟩ := h.exists_key he
  rw [hs]
  simp [unknownKey?]

/-- **The keys that a record may have.** The spellings of its fields must all differ. -/
theorem checkNoUnknownKeys_eq_ok_iff (hd : (fields.flatMap FieldName.spellings).Nodup) (h : (Value.map es).IsJson) :
    checkNoUnknownKeys fields es = .ok () ↔ KeysFit fields es := by
  rw [checkNoUnknownKeys_iff_taken h]
  constructor
  · intro htaken
    refine ⟨fun e he => ?_, fun f hf v w hv hw => ?_⟩
    · obtain ⟨s, hs, hkey⟩ := htaken e he
      obtain ⟨f, hf, u, hfind⟩ := mem_takenKeys_iff.1 hs
      exact ⟨f, hf, s, (FieldName.gives_of_find? hfind).1, hkey⟩
    · -- the plain name was taken, by the field itself since spellings differ; but the field has its title
      obtain ⟨s, hs, hkey⟩ := htaken _ hw
      cases hkey
      obtain ⟨g, hg, u, hfind⟩ := mem_takenKeys_iff.1 hs
      have hgs := (FieldName.gives_of_find? hfind).1
      have hfs : f.name ∈ f.spellings := by simp [FieldName.spellings]
      obtain rfl := eq_of_mem_spellings hd hg hf hgs hfs
      have htitle : g.title = g.name := by
        unfold FieldName.find? at hfind
        rw [h.entry?_eq_some_iff.2 hv] at hfind
        exact (Prod.mk.inj (Option.some.inj hfind)).1
      exact title_ne_name hd hg htitle
  · intro hk e he
    obtain ⟨f, hf, s, hs, hkey⟩ := hk.known e he
    have hmem : (.text s, e.2) ∈ es := hkey ▸ he
    obtain ⟨key, hfind⟩ := (hk.gives_iff_find? h hf).1 ⟨s, hs, hmem⟩
    obtain ⟨hks, hkmem⟩ := FieldName.gives_of_find? hfind
    obtain rfl := hk.spelling_eq hf hs hks hmem hkmem
    exact ⟨s, mem_takenKeys_iff.2 ⟨f, hf, e.2, hfind⟩, hkey⟩

/-! ## Checks -/

/-- A list whose items are all accepted. -/
inductive ListOf (accepts : Value → Prop) : Value → Prop where
  | list {vs : List Value} (items : ∀ v ∈ vs, accepts v) : ListOf accepts (.list vs)

/-- A list is taken for what its items are taken for, in their order. -/
inductive ListMeans {α : Type} (means : Value → α → Prop) : Value → List α → Prop where
  | list {vs : List Value} {as : List α} (items : List.Forall₂ means vs as) : ListMeans means (.list vs) as

/-- Null, or a value that is accepted. -/
def OrNull (accepts : Value → Prop) (v : Value) : Prop := v = .null ∨ accepts v

/-- Null is taken for the default. -/
def OrNullMeans {α : Type} (default : α) (means : Value → α → Prop) (v : Value) (a : α) : Prop :=
  v = .null ∧ a = default ∨ means v a

/-- What a field stands for that may be absent. -/
def FieldName.OptionalMeans {α : Type} (f : FieldName) (default : α) (means : Value → α → Prop)
    (es : List (Value × Value)) (a : α) : Prop :=
  (∀ v, ¬ f.Gives es v) ∧ a = default ∨ ∃ v, f.Gives es v ∧ means v a

/-- A record of the given fields whose values meet a condition. -/
inductive RecordOf (fields : List FieldName) (parts : List (Value × Value) → Prop) : Value → Prop where
  | map {es : List (Value × Value)} (keys : KeysFit fields es) (fit : parts es) : RecordOf fields parts (.map es)

/-- A record is taken for what its entries say. -/
inductive RecordMeans {α : Type} (tells : List (Value × Value) → α → Prop) : Value → α → Prop where
  | map {es : List (Value × Value)} {a : α} (said : tells es a) : RecordMeans tells (.map es) a

/-- A check that refuses everything but records. -/
def OfRecords {α : Type} (check : Value → Checked α) : Prop := ∀ v, (∃ es, v = .map es) ∨ ∃ c, check v = .fail c

theorem OfRecords.exists_eq_map {α : Type} {check : Value → Checked α} (h : OfRecords check) {a : α}
    (ha : check v = .ok a) : ∃ es, v = .map es := by
  rcases h v with hv | ⟨c, hc⟩
  · exact hv
  · cases ha.symm.trans hc

/-- **A check agrees** with two conditions that are said without it: it accepts exactly the values of the one,
and what it takes them for meets the other. -/
structure Agrees {α : Type} (check : Value → Checked α) (accepts : Value → Prop) (means : Value → α → Prop) :
    Prop where
  accepts_iff : ∀ {v}, v.IsJson → ((∃ a, check v = .ok a) ↔ accepts v)
  means : ∀ {v a}, v.IsJson → check v = .ok a → means v a

section Checks

variable {α β : Type} {check : Value → Checked α} {accepts : Value → Prop} {means : Value → α → Prop}

/-- Three fields and their keys are checked exactly if each of them is. -/
theorem ap₄_eq_ok_iff {γ δ ε : Type} {build : α → β → γ → δ → ε} {x : Unit → Checked α} {y : Unit → Checked β}
    {z : Unit → Checked γ} {k : Unit → Checked δ} {e : ε} :
    Checked.ap (Checked.ap (Checked.ap (Checked.ap (.ok build) x) y) z) k = .ok e ↔
      ∃ a b c d, x () = .ok a ∧ y () = .ok b ∧ z () = .ok c ∧ k () = .ok d ∧ build a b c d = e := by
  simp only [Checked.ap_eq_ok]
  constructor
  · rintro ⟨_, d, ⟨_, c, ⟨_, b, ⟨_, a, hbuild, ha, rfl⟩, hb, rfl⟩, hc, rfl⟩, hd, rfl⟩
    cases hbuild
    exact ⟨a, b, c, d, ha, hb, hc, hd, rfl⟩
  · rintro ⟨a, b, c, d, ha, hb, hc, hd, rfl⟩
    exact ⟨_, d, ⟨_, c, ⟨_, b, ⟨_, a, rfl, ha, rfl⟩, hb, rfl⟩, hc, rfl⟩, hd, rfl⟩

theorem items_eq_ok_iff {i : Nat} {vs : List Value} {as : List α} :
    Checked.items check i vs = .ok as ↔ List.Forall₂ (fun v a => check v = .ok a) vs as := by
  induction vs generalizing i as with
  | nil => simp [Checked.items, eq_comm]
  | cons v vs ih =>
    simp only [Checked.items, Checked.ap_eq_ok, Checked.inside_eq_ok, ih, List.forall₂_cons_left_iff]
    constructor
    · rintro ⟨_, as', ⟨_, a, hcons, ha, rfl⟩, has, rfl⟩
      cases hcons
      exact ⟨a, as', ha, has, rfl⟩
    · rintro ⟨a, as', ha, has, rfl⟩
      exact ⟨_, as', ⟨_, a, rfl, ha, rfl⟩, has, rfl⟩

theorem untilFailure_eq_ok_iff {check : β → Checked α} {bs : List β} {as : List α} :
    Checked.untilFailure check bs = .ok as ↔ List.Forall₂ (fun b a => check b = .ok a) bs as := by
  induction bs generalizing as with
  | nil => simp [Checked.untilFailure, eq_comm]
  | cons b bs ih =>
    simp only [Checked.untilFailure, Checked.andThen_eq_ok, ih, List.forall₂_cons_left_iff]
    constructor
    · rintro ⟨a, ha, as', has, heq⟩
      cases heq
      exact ⟨a, as', ha, has, rfl⟩
    · rintro ⟨a, as', ha, has, rfl⟩
      exact ⟨a, ha, as', has, rfl⟩

/-- Some list answers to all items exactly if each of them has an answer. -/
theorem exists_forall₂_iff {R : β → α → Prop} {bs : List β} :
    (∃ as, List.Forall₂ R bs as) ↔ ∀ b ∈ bs, ∃ a, R b a := by
  induction bs with
  | nil => simp
  | cons b bs ih =>
    simp only [List.forall₂_cons_left_iff, List.forall_mem_cons, ← ih]
    constructor
    · rintro ⟨_, a, as, ha, has, rfl⟩
      exact ⟨⟨a, ha⟩, as, has⟩
    · rintro ⟨⟨a, ha⟩, as, has⟩
      exact ⟨_, a, as, ha, has, rfl⟩

/-- Answers to answers are answers to the combined question. -/
theorem exists_forall₂_and_forall₂_iff {γ : Type} {R : β → γ → Prop} {S : γ → α → Prop} {bs : List β}
    {as : List α} : (∃ cs, List.Forall₂ R bs cs ∧ List.Forall₂ S cs as) ↔
      List.Forall₂ (fun b a => ∃ c, R b c ∧ S c a) bs as := by
  induction bs generalizing as with
  | nil => simp
  | cons b bs ih =>
    simp only [List.forall₂_cons_left_iff, ← ih]
    constructor
    · rintro ⟨_, ⟨c, cs, hc, hcs, rfl⟩, has⟩
      obtain ⟨a, as', ha, has', rfl⟩ := List.forall₂_cons_left_iff.1 has
      exact ⟨a, as', ⟨c, hc, ha⟩, ⟨cs, hcs, has'⟩, rfl⟩
    · rintro ⟨a, as, ⟨c, hc, ha⟩, ⟨cs, hcs, has⟩, rfl⟩
      exact ⟨c :: cs, ⟨c, cs, hc, hcs, rfl⟩, .cons ha has⟩

/-- The items of what counts as a list. -/
def Value.items? : Value → Option (List Value)
  | .list vs | .set vs => some vs
  | .pair a b => some [a, b]
  | _ => none

theorem checkList_eq (check : Value → Checked α) (v : Value) :
    checkList check v = match v.items? with
      | some vs => Checked.items check 0 vs
      | none => .fail .notList := by
  cases v <;> rfl

theorem checkList_eq_ok_iff {v : Value} {as : List α} :
    checkList check v = .ok as ↔ ∃ vs, v.items? = some vs ∧ List.Forall₂ (fun v a => check v = .ok a) vs as := by
  rw [checkList_eq]
  cases v.items? with
  | none => simp [Checked.fail]
  | some vs => simp [items_eq_ok_iff]

/-- Reads a text as a pattern. -/
def checkPatternText (v : Value) : Checked Pattern := (checkText v).andThen checkPattern

theorem checkOptionalList_of_ne_null (check : Value → Checked α) {v : Value} (hv : v ≠ .null) :
    checkOptionalList check v = checkList check v := by
  cases v with
  | null => exact absurd rfl hv
  | _ => rfl

/-- A check that succeeds alike agrees alike. -/
theorem Agrees.congr {check' : Value → Checked α} (h : Agrees check accepts means)
    (heq : ∀ v a, check v = .ok a ↔ check' v = .ok a) : Agrees check' accepts means where
  accepts_iff {v} hv := by
    simp only [← heq]
    exact h.accepts_iff hv
  means {v a} hv ha := h.means hv ((heq v a).2 ha)

/-- What a check finds may be wrapped. -/
theorem Agrees.map (g : α → β) (h : Agrees check accepts means) :
    Agrees (fun v => (check v).andThen fun a => .ok (g a)) accepts fun v b => ∃ a, b = g a ∧ means v a where
  accepts_iff {v} hv := by
    rw [← h.accepts_iff hv]
    cases check v <;> simp [Checked.andThen]
  means {v b} hv hb := by
    obtain ⟨a, ha, hb⟩ := Checked.andThen_eq_ok.1 hb
    cases hb
    exact ⟨a, rfl, h.means hv ha⟩

/-- **A list** is checked item by item. -/
theorem Agrees.list (h : Agrees check accepts means) :
    Agrees (checkList check) (ListOf accepts) (ListMeans means) where
  accepts_iff hv := by
    cases hv with
    | list items =>
      simp only [checkList, items_eq_ok_iff, exists_forall₂_iff]
      constructor
      · exact fun hall => .list fun v hv => (h.accepts_iff (items v hv)).1 (hall v hv)
      · rintro ⟨hall⟩ v hv
        exact (h.accepts_iff (items v hv)).2 (hall v hv)
    | _ => exact iff_of_false (fun ⟨a, ha⟩ => nomatch ha) fun h => nomatch h
  means hv ha := by
    cases hv with
    | @list vs items =>
      rw [checkList, items_eq_ok_iff] at ha
      exact .list (((List.forall₂_and_left _ _).2 ⟨items, ha⟩).imp fun _ _ hva => h.means hva.1 hva.2)
    | _ => cases ha

/-- **Null** is taken for a default where the rest is checked as before. -/
theorem Agrees.orNull {check' : Value → Checked α} {default : α} (h : Agrees check accepts means)
    (hnull : check' .null = .ok default) (hrest : ∀ v, v ≠ .null → check' v = check v) :
    Agrees check' (OrNull accepts) (OrNullMeans default means) where
  accepts_iff {v} hv := by
    by_cases hv' : v = .null
    · subst hv'
      exact iff_of_true ⟨default, hnull⟩ (.inl rfl)
    · rw [hrest v hv', h.accepts_iff hv]
      exact ⟨.inr, fun h => h.resolve_left hv'⟩
  means {v a} hv ha := by
    by_cases hv' : v = .null
    · subst hv'
      exact .inl ⟨rfl, Checked.ok.inj (ha.symm.trans hnull)⟩
    · rw [hrest v hv'] at ha
      exact .inr (h.means hv ha)

theorem Agrees.optionalList (h : Agrees check accepts means) :
    Agrees (checkOptionalList check) (OrNull (ListOf accepts)) (OrNullMeans [] (ListMeans means)) :=
  h.list.orNull rfl fun _ => checkOptionalList_of_ne_null check

/-- **A record** is checked field by field, and for keys beyond them. -/
theorem Agrees.record {reads : List (Value × Value) → α → Prop} {parts : List (Value × Value) → Prop}
    {tells : List (Value × Value) → α → Prop} (hd : (fields.flatMap FieldName.spellings).Nodup)
    (hrecord : OfRecords check)
    (hmap : ∀ {es a}, check (.map es) = .ok a ↔ reads es a ∧ checkNoUnknownKeys fields es = .ok ())
    (hparts : ∀ {es}, KeysFit fields es → (Value.map es).IsJson →
      ((∃ a, reads es a) ↔ parts es) ∧ ∀ a, reads es a → tells es a) :
    Agrees check (RecordOf fields parts) (RecordMeans tells) where
  accepts_iff {v} hv := by
    constructor
    · rintro ⟨a, ha⟩
      obtain ⟨es, rfl⟩ := hrecord.exists_eq_map ha
      obtain ⟨hreads, hknown⟩ := hmap.1 ha
      have hk := (checkNoUnknownKeys_eq_ok_iff hd hv).1 hknown
      exact .map hk ((hparts hk hv).1.1 ⟨a, hreads⟩)
    · rintro ⟨hk, hfit⟩
      obtain ⟨a, hreads⟩ := (hparts hk hv).1.2 hfit
      exact ⟨a, hmap.2 ⟨hreads, (checkNoUnknownKeys_eq_ok_iff hd hv).2 hk⟩⟩
  means {v a} hv ha := by
    obtain ⟨es, rfl⟩ := hrecord.exists_eq_map ha
    obtain ⟨hreads, hknown⟩ := hmap.1 ha
    have hk := (checkNoUnknownKeys_eq_ok_iff hd hv).1 hknown
    exact .map ((hparts hk hv).2 a hreads)

/-! ## Fields of a record -/

/-- What a field that must be given gives was checked. -/
theorem FieldName.exists_of_required {a : α} (h : f.required check es = .ok a) : ∃ v, check v = .ok a := by
  unfold required at h
  split at h
  · next v _ => exact ⟨v, Checked.inside_eq_ok.1 h⟩
  · cases h

/-- What a field with a default gives is the default or was checked. -/
theorem FieldName.optional_cases {default a : α} (h : f.optional default check es = .ok a) :
    a = default ∨ ∃ v, check v = .ok a := by
  unfold optional at h
  split at h
  · next v _ => exact .inr ⟨v, Checked.inside_eq_ok.1 h⟩
  · cases h
    exact .inl rfl

/-- A field that fits is taken for what its value is taken for. -/
theorem KeysFit.required_eq_ok {a : α} (hk : KeysFit fields es) (hes : (Value.map es).IsJson) (hf : f ∈ fields)
    (hv : f.Gives es v) (ha : check v = .ok a) : f.required check es = .ok a := by
  obtain ⟨key, hfind⟩ := (hk.gives_iff_find? hes hf).1 hv
  unfold FieldName.required
  rw [hfind]
  exact Checked.inside_eq_ok.2 ha

theorem KeysFit.optional_eq_ok {default a : α} (hk : KeysFit fields es) (hes : (Value.map es).IsJson) (hf : f ∈ fields)
    (hv : f.Gives es v) (ha : check v = .ok a) : f.optional default check es = .ok a := by
  obtain ⟨key, hfind⟩ := (hk.gives_iff_find? hes hf).1 hv
  unfold FieldName.optional
  rw [hfind]
  exact Checked.inside_eq_ok.2 ha

variable (h : Agrees check accepts means) (hk : KeysFit fields es) (hes : (Value.map es).IsJson) (hf : f ∈ fields)
include h hk hes hf

/-- **A field that must be given** is given an accepted value. -/
theorem Agrees.required :
    ((∃ a, f.required check es = .ok a) ↔ ∃ v, f.Gives es v ∧ accepts v) ∧
      ∀ a, f.required check es = .ok a → ∃ v, f.Gives es v ∧ means v a := by
  unfold FieldName.required
  cases hfind : f.find? es with
  | none =>
    have hnone := FieldName.find?_eq_none_iff.1 hfind
    exact ⟨iff_of_false (fun ⟨a, ha⟩ => nomatch ha) fun ⟨v, hv, _⟩ => hnone v hv, fun a ha => nomatch ha⟩
  | some x =>
    obtain ⟨key, v⟩ := x
    have hv : f.Gives es v := (hk.gives_iff_find? hes hf).2 ⟨key, hfind⟩
    have hjson : v.IsJson := hv.isJson hes
    simp only [Checked.inside_eq_ok]
    refine ⟨?_, fun a ha => ⟨v, hv, h.means hjson ha⟩⟩
    rw [h.accepts_iff hjson]
    exact ⟨fun ha => ⟨v, hv, ha⟩, fun ⟨w, hw, ha⟩ => hk.eq_of_gives hes hf hw hv ▸ ha⟩

/-- **A field with a default** is absent or given an accepted value. -/
theorem Agrees.optional (default : α) :
    ((∃ a, f.optional default check es = .ok a) ↔ ∀ v, f.Gives es v → accepts v) ∧
      ∀ a, f.optional default check es = .ok a → f.OptionalMeans default means es a := by
  unfold FieldName.optional
  cases hfind : f.find? es with
  | none =>
    have hnone := FieldName.find?_eq_none_iff.1 hfind
    refine ⟨iff_of_true ⟨default, rfl⟩ fun v hv => absurd hv (hnone v), fun a ha => ?_⟩
    cases ha
    exact .inl ⟨hnone, rfl⟩
  | some x =>
    obtain ⟨key, v⟩ := x
    have hv : f.Gives es v := (hk.gives_iff_find? hes hf).2 ⟨key, hfind⟩
    have hjson : v.IsJson := hv.isJson hes
    simp only [Checked.inside_eq_ok]
    refine ⟨?_, fun a ha => .inr ⟨v, hv, h.means hjson ha⟩⟩
    rw [h.accepts_iff hjson]
    exact ⟨fun ha w hw => hk.eq_of_gives hes hf hv hw ▸ ha, fun hall => hall v hv⟩

end Checks

end Triage
