import Triage.Proofs.Taxonomy.Grammar

/-!
# Keys that no field has

A document that is read, and the same document with one entry more in one of its mappings, under a key that no
field of that mapping has.

* `strangerIssue`: what is wrong with such a key.
* `Value.GainsKey`, `Value.InItem`, `Value.InField`: a mapping with one entry more, and where in a document it stands.
* `Outline.Gains`, `TypeGroup.Gains`, `Category.Gains`, `Taxonomy.Gains`: the document gains such an entry in an
  outline, a group or a category; each carries the issue as it is seen from that level.
* `Taxonomy.GainsOnTop`: the document gains it in the mapping that holds the list of categories.
* `unknown_key_refused_below_top`: **below the top the document is refused for that key and nothing else**; on top
  the key is not looked at.
-/

namespace Triage

/-! ## Entries -/

section Entries

variable {es es₁ es₂ : List (Value × Value)} {key s : String} {k v w : Value}

/-- An entry under another key changes nothing for a key. -/
theorem entry?_gain (h : k ≠ .text s) : Value.entry? s (es₁ ++ (k, v) :: es₂) = Value.entry? s (es₁ ++ es₂) := by
  induction es₁ with
  | nil => exact Value.entry?_cons_of_ne h
  | cons e es₁ ih =>
    obtain ⟨k', v'⟩ := e
    rw [List.cons_append, List.cons_append]
    by_cases hk : k' = .text s
    · rw [hk, Value.entry?_cons_self, Value.entry?_cons_self]
    · rw [Value.entry?_cons_of_ne hk, Value.entry?_cons_of_ne hk, ih]

/-- A value that takes the place of another one leaves the keys as they are. -/
theorem keys_insertEntry (h : Value.entry? key es = some v) :
    (Value.insertEntry (.text key) w es).map Prod.fst = es.map Prod.fst := by
  induction es with
  | nil => cases h
  | cons e es ih =>
    obtain ⟨k, u⟩ := e
    rw [Value.insertEntry]
    by_cases hk : k = .text key
    · rw [if_pos (Value.same_text_iff.2 hk)]
      rfl
    · rw [Value.entry?_cons_of_ne hk] at h
      rw [if_neg fun hsame => hk (Value.same_text_iff.1 hsame), List.map_cons, List.map_cons, ih h]

end Entries

/-! ## Fields -/

section Fields

variable {α : Type} {fields : List FieldName} {f g : FieldName} {es es₁ es₂ : List (Value × Value)} {key : String}
  {k v w : Value} {check : Value → Checked α} {default : α}

/-- A key that is no spelling of a field. -/
def IsStranger (fields : List FieldName) (k : Value) : Prop := ∀ f ∈ fields, ∀ s ∈ f.spellings, k ≠ .text s

/-- What is wrong with a key that no field has. -/
def strangerIssue : Value → Issue
  | .text s => ⟨[.key s], .unknownKey⟩
  | k => ⟨[.ofKey k], .keyNotText⟩

theorem IsStranger.find?_eq (h : IsStranger fields k) (hf : f ∈ fields) :
    f.find? (es₁ ++ (k, v) :: es₂) = f.find? (es₁ ++ es₂) := by
  have htitle : k ≠ .text f.title := h f hf _ (by simp [FieldName.spellings])
  have hname : k ≠ .text f.name := h f hf _ (by simp [FieldName.spellings])
  unfold FieldName.find?
  rw [entry?_gain htitle, entry?_gain hname]

theorem IsStranger.required_eq (h : IsStranger fields k) (hf : f ∈ fields) :
    f.required check (es₁ ++ (k, v) :: es₂) = f.required check (es₁ ++ es₂) := by
  unfold FieldName.required
  rw [h.find?_eq hf]

theorem IsStranger.optional_eq (h : IsStranger fields k) (hf : f ∈ fields) :
    f.optional default check (es₁ ++ (k, v) :: es₂) = f.optional default check (es₁ ++ es₂) := by
  unfold FieldName.optional
  rw [h.find?_eq hf]

theorem takenKeys_subset {s : String} (h : s ∈ takenKeys fields es) : ∃ f ∈ fields, s ∈ f.spellings := by
  obtain ⟨f, hf, v, hfind⟩ := mem_takenKeys_iff.1 h
  exact ⟨f, hf, (FieldName.gives_of_find? hfind).1⟩

theorem IsStranger.unknownKey?_eq (h : IsStranger fields k) :
    unknownKey? (takenKeys fields es) k = some (strangerIssue k) := by
  cases k with
  | text s =>
    have hs : s ∉ takenKeys fields es := by
      intro hs
      obtain ⟨f, hf, hs⟩ := takenKeys_subset hs
      exact h f hf s hs rfl
    simp [unknownKey?, strangerIssue, hs]
  | _ => rfl

theorem checkNoUnknownKeys_eq : checkNoUnknownKeys fields es =
    match es.filterMap (fun e => unknownKey? (takenKeys fields es) e.1) with
    | [] => .ok ()
    | is => .failed (.issues is) := rfl

theorem checkNoUnknownKeys_eq_ok_iff_issues : checkNoUnknownKeys fields es = .ok () ↔
    es.filterMap (fun e => unknownKey? (takenKeys fields es) e.1) = [] := by
  rw [checkNoUnknownKeys_eq]
  cases es.filterMap (fun e => unknownKey? (takenKeys fields es) e.1) <;> simp

/-- **One key too many** is the one issue of a record whose other keys are all taken. -/
theorem IsStranger.checkNoUnknownKeys_eq (h : IsStranger fields k)
    (hok : checkNoUnknownKeys fields (es₁ ++ es₂) = .ok ()) :
    checkNoUnknownKeys fields (es₁ ++ (k, v) :: es₂) = .failed (.issues [strangerIssue k]) := by
  -- The new key hides none of the others, so that they are taken as before.
  have htaken : takenKeys fields (es₁ ++ (k, v) :: es₂) = takenKeys fields (es₁ ++ es₂) := by
    unfold takenKeys
    exact List.filterMap_congr fun f hf => by rw [h.find?_eq hf]
  rw [checkNoUnknownKeys_eq_ok_iff_issues, List.filterMap_append, List.append_eq_nil_iff] at hok
  rw [Triage.checkNoUnknownKeys_eq, htaken, List.filterMap_append, List.filterMap_cons, hok.1, hok.2,
    h.unknownKey?_eq]
  rfl

/-! ### A value in the place of another one -/

/-- A field that is found has its value under the key that it is found under. -/
theorem FieldName.entry?_of_find? (h : f.find? es = some (key, v)) : Value.entry? key es = some v := by
  unfold find? at h
  split at h
  · next u hu =>
    cases h
    exact hu
  · obtain ⟨u, hu, hkey⟩ := Option.map_eq_some_iff.1 h
    cases hkey
    exact hu

/-- The spelling that a field was found under is found again, with the new value. -/
theorem FieldName.find?_insertEntry_self (h : f.find? es = some (key, v)) :
    f.find? (Value.insertEntry (.text key) w es) = some (key, w) := by
  have hspelling := (gives_of_find? h).1
  simp only [spellings, List.mem_cons, List.not_mem_nil, or_false] at hspelling
  by_cases htitle : f.title = key
  · unfold find?
    rw [htitle, Value.entry?_insertEntry, if_pos rfl]
  · -- found under the plain name, since there is no title, and there is none now
    have hname : f.name = key := (hspelling.resolve_left (Ne.symm htitle)).symm
    have hnone : Value.entry? f.title es = none := by
      unfold find? at h
      split at h
      · next u hu =>
        cases h
        exact absurd rfl htitle
      · next hnone => exact hnone
    unfold find?
    rw [Value.entry?_insertEntry, if_neg (Ne.symm htitle), hnone, hname, Value.entry?_insertEntry, if_pos rfl]
    rfl

theorem FieldName.find?_insertEntry_of_notMem (h : key ∉ g.spellings) :
    g.find? (Value.insertEntry (.text key) w es) = g.find? es := by
  have htitle : g.title ≠ key := fun heq => h (by simp [spellings, heq])
  have hname : g.name ≠ key := fun heq => h (by simp [spellings, heq])
  unfold FieldName.find?
  rw [Value.entry?_insertEntry, if_neg (Ne.symm htitle), Value.entry?_insertEntry, if_neg (Ne.symm hname)]

/-- A spelling of one field is none of another. -/
theorem FieldName.notMem_spellings_of_find? (hd : (fields.flatMap FieldName.spellings).Nodup) (hf : f ∈ fields)
    (hg : g ∈ fields) (hne : g ≠ f) (h : f.find? es = some (key, v)) : key ∉ g.spellings := by
  intro hkey
  exact hne (eq_of_mem_spellings hd hg hf hkey (gives_of_find? h).1)

theorem takenKeys_insertEntry (hd : (fields.flatMap FieldName.spellings).Nodup) (hf : f ∈ fields)
    (h : f.find? es = some (key, v)) :
    takenKeys fields (Value.insertEntry (.text key) w es) = takenKeys fields es := by
  unfold takenKeys
  refine List.filterMap_congr fun g hg => ?_
  by_cases hgf : g = f
  · rw [hgf, FieldName.find?_insertEntry_self h, h]
    rfl
  · rw [FieldName.find?_insertEntry_of_notMem (FieldName.notMem_spellings_of_find? hd hf hg hgf h)]

theorem checkNoUnknownKeys_insertEntry (hd : (fields.flatMap FieldName.spellings).Nodup) (hf : f ∈ fields)
    (h : f.find? es = some (key, v)) :
    checkNoUnknownKeys fields (Value.insertEntry (.text key) w es) = checkNoUnknownKeys fields es := by
  -- the issues are read off the keys alone
  have hissues : ∀ es : List (Value × Value), es.filterMap (fun e => unknownKey? (takenKeys fields es) e.1) =
      (es.map Prod.fst).filterMap (unknownKey? (takenKeys fields es)) := by
    intro es
    rw [List.filterMap_map]
    rfl
  rw [checkNoUnknownKeys_eq, checkNoUnknownKeys_eq, hissues, hissues, takenKeys_insertEntry hd hf h,
    keys_insertEntry (FieldName.entry?_of_find? h)]

end Fields

/-! ## Checks that fail with one issue -/

section Checks

variable {α β γ δ ε : Type} {i : Issue}

theorem Checked.inside_failed {l : Locator} {is : List Issue} :
    (Checked.failed (.issues is) : Checked α).inside l = .failed (.issues (is.map (Issue.inside l))) := rfl

theorem Checked.ap_failed_of_ok {f : Checked (α → β)} {x : Unit → Checked α} {is : List Issue} {a : α}
    (hf : f = .failed (.issues is)) (hx : x () = .ok a) : Checked.ap f x = .failed (.issues is) := by
  rw [hf]
  unfold Checked.ap
  rw [hx]

theorem Checked.ap_ok_of_failed {f : Checked (α → β)} {x : Unit → Checked α} {g : α → β} {r : Rejection}
    (hf : f = .ok g) (hx : x () = .failed r) : Checked.ap f x = .failed r := by
  rw [hf]
  unfold Checked.ap
  rw [hx]

/-- Of a list that is accepted, the one item that is not any more is what the list fails for. -/
theorem items_replace {check : Value → Checked α} {as bs : List Value} {a b : Value} {n : Nat} {cs : List α}
    (hok : Checked.items check n (as ++ a :: bs) = .ok cs) (hfail : check b = .failed (.issues [i])) :
    Checked.items check n (as ++ b :: bs) = .failed (.issues [i.inside (.index (n + as.length : Nat))]) := by
  induction as generalizing n cs with
  | nil =>
    simp only [List.nil_append, Checked.items] at hok ⊢
    obtain ⟨g, cs', -, hrest, -⟩ := Checked.ap_eq_ok.1 hok
    refine Checked.ap_failed_of_ok (Checked.ap_ok_of_failed rfl ?_) hrest
    rw [hfail, Checked.inside_failed]
    rfl
  | cons v as ih =>
    simp only [List.cons_append, Checked.items] at hok ⊢
    obtain ⟨g, cs', hv, hrest, -⟩ := Checked.ap_eq_ok.1 hok
    rw [List.length_cons, Nat.add_comm as.length, ← Nat.add_assoc]
    exact Checked.ap_ok_of_failed hv (ih hrest)

end Checks

/-! ## Places in a document -/

/-- A mapping and the same mapping with one entry more, under a key that no field has. -/
inductive Value.GainsKey (fields : List FieldName) : Issue → Value → Value → Prop where
  | entry {es₁ es₂ : List (Value × Value)} {k : Value} (v : Value) (stranger : IsStranger fields k) :
    GainsKey fields (strangerIssue k) (.map (es₁ ++ es₂)) (.map (es₁ ++ (k, v) :: es₂))

/-- What counts as a list, and the same with another item in one place. -/
inductive Value.InItem (gains : Issue → Value → Value → Prop) : Issue → Value → Value → Prop where
  | list {i : Issue} {as bs : List Value} {a b : Value} (item : gains i a b) :
    InItem gains (i.inside (.index as.length)) (.list (as ++ a :: bs)) (.list (as ++ b :: bs))
  | set {i : Issue} {as bs : List Value} {a b : Value} (item : gains i a b) :
    InItem gains (i.inside (.index as.length)) (.set (as ++ a :: bs)) (.set (as ++ b :: bs))
  | first {i : Issue} {a b c : Value} (item : gains i a b) :
    InItem gains (i.inside (.index 0)) (.pair a c) (.pair b c)
  | second {i : Issue} {a b c : Value} (item : gains i a b) :
    InItem gains (i.inside (.index 1)) (.pair c a) (.pair c b)

/-- A mapping, and the same mapping with another value for a field. -/
inductive Value.InField (f : FieldName) (gains : Issue → Value → Value → Prop) : Issue → Value → Value → Prop where
  | entry {i : Issue} {es : List (Value × Value)} {key : String} {v w : Value} (found : f.find? es = some (key, v))
      (value : gains i v w) :
    InField f gains (i.inside (.key key)) (.map es) (.map (Value.insertEntry (.text key) w es))

/-- An outline gains an entry. -/
def Outline.Gains : Issue → Value → Value → Prop := Value.GainsKey Outline.fields

/-- A group gains an entry, or one of its outlines does. -/
inductive TypeGroup.Gains (i : Issue) (v w : Value) : Prop where
  | own (gains : Value.GainsKey TypeGroup.fields i v w)
  | outline (gains : Value.InField TypeGroup.outlinesField (Value.InItem Outline.Gains) i v w)

/-- A category gains an entry, or one of its groups does or has an outline that does. -/
inductive Category.Gains (i : Issue) (v w : Value) : Prop where
  | own (gains : Value.GainsKey Category.fields i v w)
  | group (gains : Value.InField Category.typesField (Value.InItem TypeGroup.Gains) i v w)

/-- A document gains an entry in some category, group or outline. -/
inductive Taxonomy.Gains : Issue → Value → Value → Prop where
  | list {i : Issue} {as bs : List Value} {a b : Value} (category : Category.Gains i a b) :
    Gains ((i.inside (.index as.length)).inside (.key "categories")) (.list (as ++ a :: bs)) (.list (as ++ b :: bs))
  | map {i : Issue} {es : List (Value × Value)} {as bs : List Value} {a b : Value}
      (found : Value.entry? "categories" es = some (.list (as ++ a :: bs))) (category : Category.Gains i a b) :
    Gains ((i.inside (.index as.length)).inside (.key "categories")) (.map es)
      (.map (Value.insertEntry (.text "categories") (.list (as ++ b :: bs)) es))

/-- A document gains an entry beside its list of categories. -/
inductive Taxonomy.GainsOnTop : Value → Value → Prop where
  | entry {es₁ es₂ : List (Value × Value)} {k : Value} (v : Value) (stranger : k ≠ .text "categories") :
    GainsOnTop (.map (es₁ ++ es₂)) (.map (es₁ ++ (k, v) :: es₂))

/-! ## Refusal from the inside out -/

/-- A check fails with exactly the issue that a value it accepts has gained. -/
structure RefusesGains {α : Type} (check : Value → Checked α) (gains : Issue → Value → Value → Prop) : Prop where
  fails : ∀ {i v w a}, gains i v w → check v = .ok a → check w = .failed (.issues [i])

section Refusal

variable {α : Type} {check : Value → Checked α} {gains : Issue → Value → Value → Prop}

/-- Lists of every kind are alike. -/
theorem Value.InItem.items {i : Issue} {v w : Value} (h : Value.InItem gains i v w) :
    ∃ as bs a b j, v.items? = some (as ++ a :: bs) ∧ w.items? = some (as ++ b :: bs) ∧ gains j a b ∧
      i = j.inside (.index (as.length : Nat)) := by
  cases h with
  | list item => exact ⟨_, _, _, _, _, rfl, rfl, item, rfl⟩
  | set item => exact ⟨_, _, _, _, _, rfl, rfl, item, rfl⟩
  | first item => exact ⟨[], [_], _, _, _, rfl, rfl, item, rfl⟩
  | second item => exact ⟨[_], [], _, _, _, rfl, rfl, item, rfl⟩

theorem RefusesGains.checkList (h : RefusesGains check gains) :
    RefusesGains (Triage.checkList check) (Value.InItem gains) := by
  refine ⟨fun {i v w cs} hgains hok => ?_⟩
  obtain ⟨as, bs, a, b, j, hv, hw, hitem, rfl⟩ := hgains.items
  obtain ⟨vs, hvs, hall⟩ := checkList_eq_ok_iff.1 hok
  obtain rfl : as ++ a :: bs = vs := Option.some.inj (hv.symm.trans hvs)
  obtain ⟨c, hc⟩ := exists_forall₂_iff.1 ⟨_, hall⟩ a (by simp)
  have hreplace := items_replace (n := 0) (items_eq_ok_iff.2 hall) (h.fails hitem hc)
  rw [Nat.zero_add] at hreplace
  rw [checkList_eq, hw]
  exact hreplace

/-- Null has no items. -/
theorem RefusesGains.checkOptionalList (h : RefusesGains check gains) :
    RefusesGains (Triage.checkOptionalList check) (Value.InItem gains) := by
  refine ⟨fun {i v w cs} hgains hok => ?_⟩
  have hv : v ≠ .null := by rintro rfl; cases hgains
  have hw : w ≠ .null := by rintro rfl; cases hgains
  rw [checkOptionalList_of_ne_null check hv] at hok
  rw [checkOptionalList_of_ne_null check hw]
  exact h.checkList.fails hgains hok

/-- A field that has a default fails for what its value has gained. -/
theorem RefusesGains.optional {f : FieldName} {default : α} {i : Issue} {es : List (Value × Value)} {key : String}
    {v w : Value} {a : α} (h : RefusesGains check gains) (hfind : f.find? es = some (key, v)) (hgains : gains i v w)
    (hok : f.optional default check es = .ok a) :
    f.optional default check (Value.insertEntry (.text key) w es) = .failed (.issues [i.inside (.key key)]) := by
  unfold FieldName.optional at hok ⊢
  rw [hfind] at hok
  rw [FieldName.find?_insertEntry_self hfind]
  have hw : check w = .failed (.issues [i]) := h.fails hgains (Checked.inside_eq_ok.1 hok)
  simp only [hw, Checked.inside_failed, List.map_cons, List.map_nil]

end Refusal

section Others

variable {α : Type} {fields : List FieldName} {f g : FieldName} {es : List (Value × Value)} {key : String} {v w : Value}
  {check : Value → Checked α} {default : α}

/-- A field does not see the value of another one. -/
theorem FieldName.required_insertEntry (hd : (fields.flatMap spellings).Nodup) (hf : f ∈ fields) (hg : g ∈ fields)
    (hne : g ≠ f) (h : f.find? es = some (key, v)) :
    g.required check (Value.insertEntry (.text key) w es) = g.required check es := by
  unfold required
  rw [find?_insertEntry_of_notMem (notMem_spellings_of_find? hd hf hg hne h)]

theorem FieldName.optional_insertEntry (hd : (fields.flatMap spellings).Nodup) (hf : f ∈ fields) (hg : g ∈ fields)
    (hne : g ≠ f) (h : f.find? es = some (key, v)) :
    g.optional default check (Value.insertEntry (.text key) w es) = g.optional default check es := by
  unfold optional
  rw [find?_insertEntry_of_notMem (notMem_spellings_of_find? hd hf hg hne h)]

end Others

theorem Outline.refusesGains : RefusesGains Outline.check Outline.Gains := by
  refine ⟨fun {i v w o} hgains hok => ?_⟩
  cases hgains with
  | entry x stranger =>
    obtain ⟨⟨hname, hmessage⟩, hknown⟩ := check_eq_ok_iff.1 hok
    rw [check_map, stranger.required_eq (by simp [fields]), stranger.optional_eq (by simp [fields]), hname, hmessage,
      stranger.checkNoUnknownKeys_eq hknown]
    rfl

theorem TypeGroup.spellings_nodup : (fields.flatMap FieldName.spellings).Nodup := by decide

theorem TypeGroup.check_map (es : List (Value × Value)) : check (.map es) = .ap (.ap (.ap (.ap
    (.ok fun n p o _ => ⟨n, p, o⟩) fun _ => nameField.optional "" checkText es)
      fun _ => classPatternField.optional none checkClassPattern es)
        fun _ => outlinesField.optional [] (checkOptionalList Outline.check) es)
          fun _ => checkNoUnknownKeys fields es := rfl

theorem TypeGroup.refusesGains : RefusesGains TypeGroup.check TypeGroup.Gains := by
  refine ⟨fun {i v w t} hgains hok => ?_⟩
  cases hgains with
  | own hgains =>
    cases hgains with
    | entry x stranger =>
      obtain ⟨⟨hname, hpattern, houtlines⟩, hknown⟩ := check_eq_ok_iff.1 hok
      rw [check_map, stranger.optional_eq (by simp [fields]), stranger.optional_eq (by simp [fields]),
        stranger.optional_eq (by simp [fields]), hname, hpattern, houtlines, stranger.checkNoUnknownKeys_eq hknown]
      rfl
  | outline hgains =>
    cases hgains with
    | entry found value =>
      obtain ⟨⟨hname, hpattern, houtlines⟩, hknown⟩ := check_eq_ok_iff.1 hok
      have hd := spellings_nodup
      have hf : outlinesField ∈ fields := by simp [fields]
      rw [check_map, FieldName.optional_insertEntry hd hf (by simp [fields]) (by decide) found,
        FieldName.optional_insertEntry hd hf (by simp [fields]) (by decide) found,
        Outline.refusesGains.checkOptionalList.optional found value houtlines,
        checkNoUnknownKeys_insertEntry hd hf found, hname, hpattern, hknown]
      rfl

theorem Category.spellings_nodup : (fields.flatMap FieldName.spellings).Nodup := by decide

theorem Category.check_map (es : List (Value × Value)) : check (.map es) = .ap (.ap (.ap (.ap
    (.ok fun n k t _ => ⟨n, k, t⟩) fun _ => nameField.required checkNonEmptyText es)
      fun _ => keywordsField.optional [] checkKeywords es)
        fun _ => typesField.optional [] (checkOptionalList TypeGroup.check) es)
          fun _ => checkNoUnknownKeys fields es := rfl

theorem Category.refusesGains : RefusesGains Category.check Category.Gains := by
  refine ⟨fun {i v w c} hgains hok => ?_⟩
  cases hgains with
  | own hgains =>
    cases hgains with
    | entry x stranger =>
      obtain ⟨⟨hname, hkeywords, htypes⟩, hknown⟩ := check_eq_ok_iff.1 hok
      rw [check_map, stranger.required_eq (by simp [fields]), stranger.optional_eq (by simp [fields]),
        stranger.optional_eq (by simp [fields]), hname, hkeywords, htypes, stranger.checkNoUnknownKeys_eq hknown]
      rfl
  | group hgains =>
    cases hgains with
    | entry found value =>
      obtain ⟨⟨hname, hkeywords, htypes⟩, hknown⟩ := check_eq_ok_iff.1 hok
      have hd := spellings_nodup
      have hf : typesField ∈ fields := by simp [fields]
      rw [check_map, FieldName.required_insertEntry hd hf (by simp [fields]) (by decide) found,
        FieldName.optional_insertEntry hd hf (by simp [fields]) (by decide) found,
        TypeGroup.refusesGains.checkOptionalList.optional found value htypes,
        checkNoUnknownKeys_insertEntry hd hf found, hname, hkeywords, hknown]
      rfl

/-! ## Whole documents -/

namespace Taxonomy

theorem ofValue_of_issues {v : Value} {vs : List Value} {is : List Issue} (hpart : categoriesPart v = .ok (.list vs))
    (hmaps : ∀ e ∈ vs, ∃ es, e = .map es) (hcheck : checkCategories vs = .failed (.issues is)) :
    ofValue v = .error (.invalid is) := by
  unfold ofValue
  rw [hpart]
  simp only [firstNonMapping?_eq_none hmaps, hcheck]

theorem categoriesPart_map {es : List (Value × Value)} {v : Value} (h : Value.entry? "categories" es = some v) :
    categoriesPart (.map es) = .ok v := by
  unfold categoriesPart
  simp only [h]

/-- A category that gains an entry stays a mapping. -/
theorem exists_eq_map_of_gains {i : Issue} {v w : Value} (h : Category.Gains i v w) : ∃ es, w = .map es := by
  cases h with
  | own h =>
    cases h with
    | entry x stranger => exact ⟨_, rfl⟩
  | group h =>
    cases h with
    | entry found value => exact ⟨_, rfl⟩

/-- The list of categories fails for what one of them has gained. -/
theorem refuses_of_parts {d d' a b : Value} {as bs : List Value} {i : Issue} {t : Taxonomy}
    (hpart : categoriesPart d = .ok (.list (as ++ a :: bs))) (hpart' : categoriesPart d' = .ok (.list (as ++ b :: bs)))
    (hgains : Category.Gains i a b) (hok : ofValue d = .ok t) :
    ofValue d' = .error (.invalid [(i.inside (.index as.length)).inside (.key "categories")]) := by
  obtain ⟨vs, hvs, hcheck⟩ := ofValue_eq_ok_iff_part.1 hok
  obtain rfl : as ++ a :: bs = vs := Value.list.inj (Except.ok.inj (hpart.symm.trans hvs))
  have hall := checkCategories_eq_ok_iff.1 hcheck
  obtain ⟨c, hc⟩ := exists_forall₂_iff.1 ⟨_, hall⟩ a (by simp)
  have hreplace := items_replace (n := 0) (items_eq_ok_iff.2 hall) (Category.refusesGains.fails hgains hc)
  rw [Nat.zero_add] at hreplace
  -- An item that is no mapping would be refused first, and for that.
  have hmaps : ∀ e ∈ as ++ b :: bs, ∃ es, e = .map es := by
    intro e he
    rcases List.mem_append.1 he with hbefore | hafter
    · exact forall_isMap_of_check hcheck e (List.mem_append_left _ hbefore)
    · rcases List.mem_cons.1 hafter with rfl | hafter
      · exact exists_eq_map_of_gains hgains
      · exact forall_isMap_of_check hcheck e (by simp [hafter])
  refine ofValue_of_issues hpart' hmaps ?_
  unfold checkCategories
  rw [hreplace]
  rfl

/-- **An entry that no field has** makes a document that is read into one that is refused, for that key and nothing
else, wherever in a category, a group or an outline it stands. Beside the list of categories it changes nothing. -/
theorem unknown_key_refused_below_top {v : Value} {t : Taxonomy} (h : ofValue v = .ok t) :
    (∀ i w, Gains i v w → ofValue w = .error (.invalid [i])) ∧ ∀ w, GainsOnTop v w → ofValue w = .ok t := by
  constructor
  · intro i w hgains
    cases hgains with
    | list category => exact refuses_of_parts rfl rfl category h
    | map found category =>
      exact refuses_of_parts (categoriesPart_map found) (categoriesPart_map (Value.entry?_insertEntry.trans (if_pos rfl))) category h
  · intro w hgains
    cases hgains with
    | entry x stranger =>
      rw [← h]
      unfold ofValue categoriesPart
      simp only [entry?_gain stranger]

/-- A pattern under a misspelt key of the second outline is refused at its place; beside the categories, which are
then read as they were, it is not. -/
theorem unknown_key_refused_below_top_misspelt :
    let outline (name : String) : Value × Value := (.text "ExceptionName", .text name)
    let misspelt : Value × Value := (.text "MessageRegexp", .text "disk")
    let group (second : List (Value × Value)) : Value := .map [
      (.text "Exceptions", .list [.map [outline "EOFError"], .map second])]
    let category (second : List (Value × Value)) : Value := .map [
      (.text "CategoryName", .text "Storage"), (.text "types", .list [group second])]
    let document (second : List (Value × Value)) : Value := .map [(.text "categories", .list [category second])]
    ∃ t, ofValue (document [outline "OSError"]) = .ok t ∧
      ofValue (document [outline "OSError", misspelt]) = .error (.invalid [⟨[.key "categories", .index 0,
        .key "types", .index 0, .key "Exceptions", .index 1, .key "MessageRegexp"], .unknownKey⟩]) ∧
      ofValue (.map [(.text "categories", .list [category [outline "OSError"]]), misspelt]) = .ok t := by
  intro outline misspelt group category document
  have hread : (ofValue (document [outline "OSError"])).toOption.isSome = true := by decide +kernel
  obtain ⟨t, ht⟩ : ∃ t, ofValue (document [outline "OSError"]) = .ok t := by
    cases hof : ofValue (document [outline "OSError"]) with
    | ok t => exact ⟨t, rfl⟩
    | error e => rw [hof] at hread; cases hread
  have hstranger : IsStranger Outline.fields (.text "MessageRegexp") := by
    simp [IsStranger, Outline.fields, FieldName.spellings, Outline.classNameField, Outline.messageField]
  -- From the outline outwards: each place is found in what encloses it.
  have houtline : Outline.Gains ⟨[.key "MessageRegexp"], .unknownKey⟩ (.map [outline "OSError"])
      (.map [outline "OSError", misspelt]) :=
    @Value.GainsKey.entry _ [outline "OSError"] [] _ (.text "disk") hstranger
  have houtlines := @Value.InItem.list Outline.Gains _ [.map [outline "EOFError"]] [] _ _ houtline
  have hgroup := TypeGroup.Gains.outline (@Value.InField.entry _ _ _
    [(.text "Exceptions", .list [.map [outline "EOFError"], .map [outline "OSError"]])] _ _ _ (by rfl) houtlines)
  have hgroups := @Value.InItem.list TypeGroup.Gains _ [] [] _ _ hgroup
  have hcategory := Category.Gains.group (@Value.InField.entry _ _ _
    [(.text "CategoryName", .text "Storage"), (.text "types", .list [group [outline "OSError"]])] _ _ _
    (by rfl) hgroups)
  have hdocument := @Taxonomy.Gains.map _
    [(.text "categories", .list [category [outline "OSError"]])] [] [] _ _ (by rfl) hcategory
  have htop := @GainsOnTop.entry [(.text "categories", .list [category [outline "OSError"]])] []
    (.text "MessageRegexp") (.text "disk") (by simp)
  exact ⟨t, ht, (unknown_key_refused_below_top ht).1 _ _ hdocument, (unknown_key_refused_below_top ht).2 _ htop⟩

end Taxonomy

end Triage
