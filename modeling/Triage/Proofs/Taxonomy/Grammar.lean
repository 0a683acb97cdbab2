import Triage.Proofs.Validation.Acceptance
import Triage.Taxonomy.Reading

/-!
# The grammar of taxonomies

Which documents in JSON describe a taxonomy, and which one they describe, said without the reader.

* `Outline.Form`, `TypeGroup.Form`, `Category.Form`: the mappings that may stand for each; `Taxonomy.Form`: the
  documents.
* `Outline.Describes`, `TypeGroup.Describes`, `Category.Describes`, `Taxonomy.Describes`: what they say.
* `Outline.agrees`, `TypeGroup.agrees`, `Category.agrees`: the reader of each agrees with its form.
* `nodup_names_iff`: the names of the categories differ if those in the document do.
* `ofValue_grammar`: **a document is read exactly if it has the form of a taxonomy**, and as the one it describes.
-/

namespace Triage

/-! ## Patterns -/

namespace Pattern

/-- The text is a regular expression. -/
def Compiles (source : String) : Prop := ∃ p, compile source = .ok p

instance (source : String) : Decidable (Compiles source) :=
  decidable_of_iff ((compile source).toOption.isSome = true) <| by
    unfold Compiles
    cases compile source <;> simp [Except.toOption]

theorem compile_eq_ok_iff {source : String} {p : Pattern} : compile source = .ok p ↔ p.source = source := by
  constructor
  · intro h
    unfold compile at h
    split at h
    · cases h
      rfl
    · cases h
  · rintro rfl
    obtain ⟨source, program, hp⟩ := p
    unfold compile
    split
    · next program' h =>
      cases hp.symm.trans h
      rfl
    · next e h => cases hp.symm.trans h

theorem compiles_empty : Compiles "" := by decide +kernel

/-- The pattern that every text matches. -/
def empty : Pattern := (compile "").toOption.get (by decide +kernel)

theorem source_empty : empty.source = "" := by
  obtain ⟨p, hp⟩ := compiles_empty
  have : empty = p := by
    unfold empty
    simp only [hp]
    rfl
  rw [this, compile_eq_ok_iff.1 hp]

theorem checkPattern_eq_ok_iff {source : String} {p : Pattern} :
    checkPattern source = .ok p ↔ p.source = source := by
  rw [← compile_eq_ok_iff]
  unfold checkPattern
  split <;> simp_all [Checked.fail]

end Pattern

/-! ## Texts and patterns in documents -/

/-- A text that is not empty. -/
inductive Value.IsName : Value → Prop where
  | text {s : String} (nonEmpty : s ≠ "") : IsName (.text s)

/-- A text that is a regular expression. -/
inductive Value.IsPattern : Value → Prop where
  | text {s : String} (compiles : Pattern.Compiles s) : IsPattern (.text s)

/-- A text. -/
inductive Value.IsText : Value → Prop where
  | text (s : String) : IsText (.text s)

theorem checkText_eq_ok_iff {v : Value} (hv : v.IsJson) {s : String} : checkText v = .ok s ↔ v = .text s := by
  cases hv <;> simp [checkText, Checked.fail]

theorem agrees_text : Agrees checkText Value.IsText fun v s => v = .text s where
  accepts_iff hv := by
    simp only [checkText_eq_ok_iff hv]
    exact ⟨fun ⟨s, hs⟩ => hs ▸ .text s, fun ⟨s⟩ => ⟨s, rfl⟩⟩
  means hv hs := (checkText_eq_ok_iff hv).1 hs

theorem checkNonEmptyText_eq_ok_iff {v : Value} (hv : v.IsJson) {s : String} :
    checkNonEmptyText v = .ok s ↔ v = .text s ∧ s ≠ "" := by
  unfold checkNonEmptyText
  simp only [Checked.andThen_eq_ok, checkText_eq_ok_iff hv]
  constructor
  · rintro ⟨t, rfl, ht⟩
    split at ht
    · cases ht
    · next hne =>
      cases ht
      exact ⟨rfl, by simpa using hne⟩
  · rintro ⟨rfl, hs⟩
    exact ⟨s, rfl, if_neg (by simpa using hs)⟩

theorem agrees_name : Agrees checkNonEmptyText Value.IsName fun v s => v = .text s where
  accepts_iff hv := by
    simp only [checkNonEmptyText_eq_ok_iff hv]
    exact ⟨fun ⟨s, hs, hne⟩ => hs ▸ .text hne, fun ⟨hne⟩ => ⟨_, rfl, hne⟩⟩
  means hv hs := ((checkNonEmptyText_eq_ok_iff hv).1 hs).1

theorem checkPatternText_eq_ok_iff {v : Value} (hv : v.IsJson) {p : Pattern} :
    checkPatternText v = .ok p ↔ v = .text p.source := by
  unfold checkPatternText
  simp [Checked.andThen_eq_ok, checkText_eq_ok_iff hv, Pattern.checkPattern_eq_ok_iff]

theorem agrees_pattern : Agrees checkPatternText Value.IsPattern fun v p => v = .text p.source where
  accepts_iff hv := by
    simp only [checkPatternText_eq_ok_iff hv]
    constructor
    · rintro ⟨p, rfl⟩
      exact .text ⟨p, Pattern.compile_eq_ok_iff.2 rfl⟩
    · rintro ⟨p, hp⟩
      exact ⟨p, by rw [Pattern.compile_eq_ok_iff.1 hp]⟩
  means hv hp := (checkPatternText_eq_ok_iff hv).1 hp

/-! ## Outlines -/

namespace Outline

/-- The fields of an outline. -/
def fields : List FieldName := [classNameField, messageField]

/-- What the fields of an outline have to be: a class name that is not empty, and perhaps a pattern. -/
structure Parts (es : List (Value × Value)) : Prop where
  className : ∃ v, classNameField.Gives es v ∧ v.IsName
  message : ∀ v, messageField.Gives es v → OrNull Value.IsPattern v

/-- **The form of an outline.** -/
def Form : Value → Prop := RecordOf fields Parts

/-- What the entries say of an outline. Without a message, or with null, its pattern is the empty one. -/
structure SaidBy (es : List (Value × Value)) (o : Outline) : Prop where
  className : classNameField.Gives es (.text o.className)
  message : messageField.OptionalMeans .empty (OrNullMeans .empty fun v p => v = .text p.source) es o.message

/-- The outline that a value describes. -/
def Describes : Value → Outline → Prop := RecordMeans SaidBy

theorem checkPattern_empty : checkPattern "" = .ok .empty :=
  Pattern.checkPattern_eq_ok_iff.2 Pattern.source_empty

theorem checkMessage_of_ne_null (v : Value) (hv : v ≠ .null) : checkMessage v = checkPatternText v := by
  cases v with
  | null => exact absurd rfl hv
  | _ => rfl

theorem agrees_message : Agrees checkMessage (OrNull Value.IsPattern)
    (OrNullMeans .empty fun v p => v = .text p.source) :=
  agrees_pattern.orNull checkPattern_empty checkMessage_of_ne_null

variable {es : List (Value × Value)} {o : Outline}

/-- What the reader does with the fields of an outline. -/
def Reads (es : List (Value × Value)) (o : Outline) : Prop :=
  classNameField.required checkNonEmptyText es = .ok o.className ∧
    messageField.optional .empty checkMessage es = .ok o.message

theorem check_map : check (.map es) = .ap (.ap (.ap (.ok fun n m _ => ⟨n, m⟩)
    fun _ => classNameField.required checkNonEmptyText es)
      fun _ => messageField.optional .empty checkMessage es)
        fun _ => checkNoUnknownKeys fields es := by
  -- a message that is absent is read as the empty text
  unfold check FieldName.optional
  rw [checkPattern_empty]
  rfl

theorem check_eq_ok_iff : check (.map es) = .ok o ↔ Reads es o ∧ checkNoUnknownKeys fields es = .ok () := by
  rw [check_map]
  simp only [Checked.ap_eq_ok]
  constructor
  · rintro ⟨_, _, ⟨_, m, ⟨_, n, hbuild, hn, rfl⟩, hm, rfl⟩, hk, rfl⟩
    cases hbuild
    exact ⟨⟨hn, hm⟩, hk⟩
  · rintro ⟨⟨hn, hm⟩, hk⟩
    exact ⟨_, _, ⟨_, _, ⟨_, _, rfl, hn, rfl⟩, hm, rfl⟩, hk, rfl⟩

theorem ofRecords_check : OfRecords check := fun v => by
  cases v with
  | map es => exact .inl ⟨es, rfl⟩
  | _ => exact .inr ⟨_, rfl⟩

/-- **Outlines** are read as they are written. -/
theorem agrees : Agrees check Form Describes :=
  Agrees.record (by decide) ofRecords_check check_eq_ok_iff fun hk hes => by
    obtain ⟨hn, hnmeans⟩ := agrees_name.required hk hes (f := classNameField) (by simp [fields])
    obtain ⟨hm, hmmeans⟩ := agrees_message.optional hk hes (f := messageField) (by simp [fields]) .empty
    refine ⟨⟨fun ⟨o, ho⟩ => ⟨hn.1 ⟨_, ho.1⟩, hm.1 ⟨_, ho.2⟩⟩, fun h => ?_⟩, fun o ho => ⟨?_, hmmeans _ ho.2⟩⟩
    · obtain ⟨n, hn⟩ := hn.2 h.className
      obtain ⟨m, hm⟩ := hm.2 h.message
      exact ⟨⟨n, m⟩, hn, hm⟩
    · obtain ⟨v, hv, rfl⟩ := hnmeans _ ho.1
      exact hv

end Outline

/-! ## Groups -/

namespace TypeGroup

/-- The fields of a group. -/
def fields : List FieldName := [nameField, classPatternField, outlinesField]

/-- What the fields of a group have to be. Null is no name, though it is no pattern and no outlines. -/
structure Parts (es : List (Value × Value)) : Prop where
  name : ∀ v, nameField.Gives es v → v.IsText
  classPattern : ∀ v, classPatternField.Gives es v → OrNull Value.IsPattern v
  outlines : ∀ v, outlinesField.Gives es v → OrNull (ListOf Outline.Form) v

/-- **The form of a group.** -/
def Form : Value → Prop := RecordOf fields Parts

/-- What the entries say of a group. -/
structure SaidBy (es : List (Value × Value)) (t : TypeGroup) : Prop where
  name : nameField.OptionalMeans "" (fun v s => v = .text s) es t.name
  classPattern : classPatternField.OptionalMeans none
    (OrNullMeans none fun v p? => ∃ p, p? = some p ∧ v = .text p.source) es t.classPattern
  outlines : outlinesField.OptionalMeans [] (OrNullMeans [] (ListMeans Outline.Describes)) es t.outlines

/-- The group that a value describes. -/
def Describes : Value → TypeGroup → Prop := RecordMeans SaidBy

theorem checkClassPattern_of_ne_null (v : Value) (hv : v ≠ .null) :
    checkClassPattern v = (checkPatternText v).andThen fun p => .ok (some p) := by
  cases v with
  | null => exact absurd rfl hv
  | _ => rfl

theorem agrees_classPattern : Agrees checkClassPattern (OrNull Value.IsPattern)
    (OrNullMeans none fun v p? => ∃ p, p? = some p ∧ v = .text p.source) :=
  (agrees_pattern.map some).orNull rfl checkClassPattern_of_ne_null

variable {es : List (Value × Value)} {t : TypeGroup}

/-- What the reader does with the fields of a group. -/
def Reads (es : List (Value × Value)) (t : TypeGroup) : Prop :=
  nameField.optional "" checkText es = .ok t.name ∧
    classPatternField.optional none checkClassPattern es = .ok t.classPattern ∧
      outlinesField.optional [] (checkOptionalList Outline.check) es = .ok t.outlines

theorem check_eq_ok_iff : check (.map es) = .ok t ↔ Reads es t ∧ checkNoUnknownKeys fields es = .ok () := by
  unfold check
  rw [ap₄_eq_ok_iff]
  constructor
  · rintro ⟨n, p, o, _, hn, hp, ho, hk, rfl⟩
    exact ⟨⟨hn, hp, ho⟩, hk⟩
  · rintro ⟨⟨hn, hp, ho⟩, hk⟩
    exact ⟨_, _, _, _, hn, hp, ho, hk, rfl⟩

theorem ofRecords_check : OfRecords check := fun v => by
  cases v with
  | map es => exact .inl ⟨es, rfl⟩
  | _ => exact .inr ⟨_, rfl⟩

/-- **Groups** are read as they are written. -/
theorem agrees : Agrees check Form Describes :=
  Agrees.record (by decide) ofRecords_check check_eq_ok_iff fun hk hes => by
    obtain ⟨hn, hnmeans⟩ := agrees_text.optional hk hes (f := nameField) (by simp [fields]) ""
    obtain ⟨hp, hpmeans⟩ := agrees_classPattern.optional hk hes (f := classPatternField) (by simp [fields]) none
    obtain ⟨ho, homeans⟩ := Outline.agrees.optionalList.optional hk hes (f := outlinesField) (by simp [fields]) []
    refine ⟨⟨fun ⟨t, ht⟩ => ⟨hn.1 ⟨_, ht.1⟩, hp.1 ⟨_, ht.2.1⟩, ho.1 ⟨_, ht.2.2⟩⟩, fun h => ?_⟩,
      fun t ht => ⟨hnmeans _ ht.1, hpmeans _ ht.2.1, homeans _ ht.2.2⟩⟩
    obtain ⟨n, hn⟩ := hn.2 h.name
    obtain ⟨p, hp⟩ := hp.2 h.classPattern
    obtain ⟨o, ho⟩ := ho.2 h.outlines
    exact ⟨⟨n, p, o⟩, hn, hp, ho⟩

end TypeGroup

/-! ## Categories -/

namespace Category

/-- The fields of a category. -/
def fields : List FieldName := [nameField, keywordsField, typesField]

/-- What the fields of a category have to be: a name that is not empty, and perhaps keywords and groups. -/
structure Parts (es : List (Value × Value)) : Prop where
  name : ∃ v, nameField.Gives es v ∧ v.IsName
  keywords : ∀ v, keywordsField.Gives es v → OrNull (ListOf Value.IsPattern) v
  types : ∀ v, typesField.Gives es v → OrNull (ListOf TypeGroup.Form) v

/-- **The form of a category.** -/
def Form : Value → Prop := RecordOf fields Parts

/-- What the entries say of a category. -/
structure SaidBy (es : List (Value × Value)) (c : Category) : Prop where
  name : nameField.Gives es (.text c.name)
  keywords : keywordsField.OptionalMeans [] (OrNullMeans [] (ListMeans fun v p => v = .text p.source)) es c.keywords
  types : typesField.OptionalMeans [] (OrNullMeans [] (ListMeans TypeGroup.Describes)) es c.types

/-- The category that a value describes. -/
def Describes : Value → Category → Prop := RecordMeans SaidBy

/-- Keywords that are read as texts first and as patterns then could have been read one by one. -/
theorem checkKeywords_eq_ok_iff {v : Value} {ps : List Pattern} :
    checkKeywords v = .ok ps ↔ checkOptionalList checkPatternText v = .ok ps := by
  unfold checkKeywords
  rw [Checked.andThen_eq_ok]
  by_cases hv : v = .null
  · subst hv
    simp [checkOptionalList, Checked.untilFailure]
  · simp only [checkOptionalList_of_ne_null _ hv, checkList_eq_ok_iff, untilFailure_eq_ok_iff, checkPatternText,
      Checked.andThen_eq_ok, ← exists_forall₂_and_forall₂_iff]
    constructor
    · rintro ⟨ss, ⟨vs, hvs, hss⟩, hps⟩
      exact ⟨vs, hvs, ss, hss, hps⟩
    · rintro ⟨vs, hvs, ss, hss, hps⟩
      exact ⟨ss, ⟨vs, hvs, hss⟩, hps⟩

theorem agrees_keywords : Agrees checkKeywords (OrNull (ListOf Value.IsPattern))
    (OrNullMeans [] (ListMeans fun v p => v = .text p.source)) :=
  agrees_pattern.optionalList.congr fun _ _ => checkKeywords_eq_ok_iff.symm

variable {es : List (Value × Value)} {v : Value} {c : Category}

/-- What the reader does with the fields of a category. -/
def Reads (es : List (Value × Value)) (c : Category) : Prop :=
  nameField.required checkNonEmptyText es = .ok c.name ∧
    keywordsField.optional [] checkKeywords es = .ok c.keywords ∧
      typesField.optional [] (checkOptionalList TypeGroup.check) es = .ok c.types

theorem check_eq_ok_iff : check (.map es) = .ok c ↔ Reads es c ∧ checkNoUnknownKeys fields es = .ok () := by
  unfold check
  rw [ap₄_eq_ok_iff]
  constructor
  · rintro ⟨n, k, t, _, hn, hkw, ht, hk, rfl⟩
    exact ⟨⟨hn, hkw, ht⟩, hk⟩
  · rintro ⟨⟨hn, hkw, ht⟩, hk⟩
    exact ⟨_, _, _, _, hn, hkw, ht, hk, rfl⟩

theorem ofRecords_check : OfRecords check := fun v => by
  cases v with
  | map es => exact .inl ⟨es, rfl⟩
  | _ => exact .inr ⟨_, rfl⟩

/-- **Categories** are read as they are written. -/
theorem agrees : Agrees check Form Describes :=
  Agrees.record (by decide) ofRecords_check check_eq_ok_iff fun hk hes => by
    obtain ⟨hn, hnmeans⟩ := agrees_name.required hk hes (f := nameField) (by simp [fields])
    obtain ⟨hkw, hkwmeans⟩ := agrees_keywords.optional hk hes (f := keywordsField) (by simp [fields]) []
    obtain ⟨ht, htmeans⟩ := TypeGroup.agrees.optionalList.optional hk hes (f := typesField) (by simp [fields]) []
    refine ⟨⟨fun ⟨c, hc⟩ => ⟨hn.1 ⟨_, hc.1⟩, hkw.1 ⟨_, hc.2.1⟩, ht.1 ⟨_, hc.2.2⟩⟩, fun h => ?_⟩,
      fun c hc => ⟨?_, hkwmeans _ hc.2.1, htmeans _ hc.2.2⟩⟩
    · obtain ⟨n, hn⟩ := hn.2 h.name
      obtain ⟨k, hkw⟩ := hkw.2 h.keywords
      obtain ⟨t, ht⟩ := ht.2 h.types
      exact ⟨⟨n, k, t⟩, hn, hkw, ht⟩
    · obtain ⟨v, hv, rfl⟩ := hnmeans _ hc.1
      exact hv

/-- The value gives a category that name. -/
def Names : Value → String → Prop := RecordMeans fun es n => nameField.Gives es (.text n)

/-- A category has the one name that it is given. -/
theorem names_iff (hv : v.IsJson) (h : check v = .ok c) {n : String} : Names v n ↔ n = c.name := by
  have hform := (agrees.accepts_iff hv).1 ⟨c, h⟩
  have htold := agrees.means hv h
  cases hform with
  | map hk =>
    cases htold with
    | map htold =>
      constructor
      · rintro ⟨hn⟩
        exact Value.text.inj (hk.eq_of_gives hv (by simp [fields]) hn htold.name)
      · rintro rfl
        exact .map htold.name

end Category

/-! ## Taxonomies -/

/-- The entries of a document: of a list, or of the list under `categories`. -/
inductive Value.Lists : Value → List Value → Prop where
  | list (vs : List Value) : Lists (.list vs) vs
  | map {es : List (Value × Value)} {vs : List Value} (under : (.text "categories", .list vs) ∈ es) :
    Lists (.map es) vs

namespace Taxonomy

/-- **The form of a taxonomy**: entries that have the form of categories, no two of the same name. -/
inductive Form (v : Value) : Prop where
  | entries {vs : List Value} (lists : v.Lists vs) (categories : ∀ e ∈ vs, Category.Form e)
      (distinct : vs.Pairwise fun e e' => ∀ n, Category.Names e n → ¬ Category.Names e' n) : Form v

/-- The taxonomy that a document describes: its categories are described by the entries, in their order. -/
def Describes (v : Value) (t : Taxonomy) : Prop :=
  ∃ vs, v.Lists vs ∧ List.Forall₂ Category.Describes vs t.categories

theorem ofCategories_eq_ok_iff {cs : List Category} {t : Taxonomy} : ofCategories cs = .ok t ↔ t.categories = cs := by
  obtain ⟨cs', hd⟩ := t
  unfold ofCategories
  split
  · next h =>
    simp only [Checked.ok.injEq, mk.injEq]
    exact eq_comm
  · next h =>
    refine iff_of_false (fun h => nomatch h) fun heq => ?_
    exact h (heq ▸ hd)

theorem checkCategories_eq_ok_iff {vs : List Value} {t : Taxonomy} :
    checkCategories vs = .ok t ↔ List.Forall₂ (fun v c => Category.check v = .ok c) vs t.categories := by
  simp [checkCategories, Checked.inside_eq_ok, Checked.andThen_eq_ok, items_eq_ok_iff, ofCategories_eq_ok_iff]

theorem firstNonMapping?_eq_none {i : Nat} {vs : List Value} (h : ∀ v ∈ vs, ∃ es, v = .map es) :
    firstNonMapping? i vs = none := by
  induction vs generalizing i with
  | nil => rfl
  | cons v vs ih =>
    obtain ⟨⟨es, rfl⟩, hvs⟩ := List.forall_mem_cons.1 h
    exact ih hvs

/-- An entry that is read is a mapping, so that none is refused for its kind before. -/
theorem forall_isMap_of_check {vs : List Value} {t : Taxonomy} (h : checkCategories vs = .ok t) :
    ∀ e ∈ vs, ∃ es, e = .map es := by
  intro e he
  obtain ⟨c, hc⟩ := exists_forall₂_iff.1 ⟨_, checkCategories_eq_ok_iff.1 h⟩ e he
  exact Category.ofRecords_check.exists_eq_map hc

theorem categoriesPart_eq_ok_iff {v : Value} (hv : v.IsJson) {vs : List Value} :
    categoriesPart v = .ok (.list vs) ↔ v.Lists vs := by
  cases hv with
  | list items =>
    constructor
    · rintro ⟨⟩
      exact .list vs
    · rintro ⟨⟩
      rfl
  | @map es keys distinct values =>
    have hlists : Value.Lists (.map es) vs ↔ (.text "categories", .list vs) ∈ es :=
      ⟨fun | .map h => h, .map⟩
    rw [hlists, ← (Value.IsJson.map keys distinct values).entry?_eq_some_iff]
    simp only [categoriesPart]
    split
    · next v hentry => simp [hentry]
    · next hentry => simp [hentry]
  | _ => exact iff_of_false (fun h => nomatch h) fun h => nomatch h

/-- A document is read if it has a list and that list is read. -/
theorem ofValue_eq_ok_iff_part {v : Value} {t : Taxonomy} :
    ofValue v = .ok t ↔ ∃ vs, categoriesPart v = .ok (.list vs) ∧ checkCategories vs = .ok t := by
  unfold ofValue
  constructor
  · intro h
    split at h
    · cases h
    · next vs hpart =>
      refine ⟨vs, hpart, ?_⟩
      split at h
      · cases h
      · split at h
        · next hcheck => cases h; exact hcheck
        · cases h
        · cases h
    · cases h
  · rintro ⟨vs, hpart, hcheck⟩
    rw [hpart]
    simp only [firstNonMapping?_eq_none (forall_isMap_of_check hcheck), hcheck]

/-- A document is read if all of its entries are. -/
theorem ofValue_eq_ok_iff {v : Value} (hv : v.IsJson) {t : Taxonomy} :
    ofValue v = .ok t ↔
      ∃ vs, v.Lists vs ∧ List.Forall₂ (fun e c => Category.check e = .ok c) vs t.categories := by
  simp only [← categoriesPart_eq_ok_iff hv, ← checkCategories_eq_ok_iff]
  exact ofValue_eq_ok_iff_part

theorem isJson_of_lists {v : Value} {vs : List Value} (h : v.Lists vs) (hv : v.IsJson) : ∀ e ∈ vs, e.IsJson := by
  cases h with
  | list =>
    cases hv with
    | list items => exact items
  | map under =>
    cases hv with
    | map keys distinct values =>
      cases values _ under with
      | list items => exact items

section Names

variable {vs : List Value} {cs : List Category}

theorem forall_name_ne_iff (hjson : ∀ e ∈ vs, e.IsJson)
    (h : List.Forall₂ (fun e c => Category.check e = .ok c) vs cs) {n : String} :
    (∀ c ∈ cs, c.name ≠ n) ↔ ∀ e ∈ vs, ¬ Category.Names e n := by
  induction h with
  | nil => simp
  | cons hc hcs ih =>
    obtain ⟨he, hvs⟩ := List.forall_mem_cons.1 hjson
    rw [List.forall_mem_cons, List.forall_mem_cons, ih hvs, Category.names_iff he hc, eq_comm]

/-- The names of categories are as distinct as those that their entries give. -/
theorem nodup_names_iff (hjson : ∀ e ∈ vs, e.IsJson)
    (h : List.Forall₂ (fun e c => Category.check e = .ok c) vs cs) :
    (cs.map Category.name).Nodup ↔ vs.Pairwise fun e e' => ∀ n, Category.Names e n → ¬ Category.Names e' n := by
  induction h with
  | nil => simp
  | @cons e c vs cs hc hcs ih =>
    obtain ⟨he, hvs⟩ := List.forall_mem_cons.1 hjson
    rw [List.map_cons, List.nodup_cons, List.pairwise_cons, ih hvs]
    refine and_congr_left fun _ => ?_
    have hnew : c.name ∉ cs.map Category.name ↔ ∀ c' ∈ cs, c'.name ≠ c.name := by simp
    rw [hnew, forall_name_ne_iff hvs hcs]
    simp only [Category.names_iff he hc, forall_eq]

end Names

end Taxonomy

end Triage
