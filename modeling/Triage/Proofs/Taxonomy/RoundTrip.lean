import Triage.Proofs.Json.Printing
import Triage.Proofs.Taxonomy.Grammar
import Triage.Taxonomy.Document

/-!
# Taxonomies that are written and read again

A taxonomy is spelled out as a document that gives every field of every record, in any order and under either spelling.

* `SpellsOut`: a record that gives certain fields certain values.
* `Outline.SpelledAs`, `TypeGroup.SpelledAs`, `Category.SpelledAs`, `Taxonomy.SpelledAs`: the documents that spell
  each out.
* `ReadsBack`: a value that survives being printed, and that a check takes for what it should. Each level reads back
  if the one below it does: `Outline.readsBack`, `TypeGroup.readsBack`, `Category.readsBack`.
* `ofSource_render`: **a taxonomy that is spelled out, printed as JSON and read is the same taxonomy**.
-/

namespace Triage

/-! ## Records -/

/-- A record that gives each field its value, in any order and each under one of its spellings. -/
inductive SpellsOut (parts : List (FieldName × Value)) : Value → Prop where
  | map {es : List (Value × Value)} (key : FieldName → String) (spelling : ∀ f, key f ∈ f.spellings)
      (order : es.Perm (parts.map fun p => (.text (key p.1), p.2))) : SpellsOut parts (.map es)

/-- Different fields whose spellings are short keys, no two of them the same. -/
structure ArePrintable (fields : List FieldName) : Prop where
  different : fields.Nodup
  short : ∀ f ∈ fields, ∀ s ∈ f.spellings, Json.IsShortKey s
  distinct : (fields.flatMap FieldName.spellings).Nodup

/-- A value that survives being printed, and that the check takes for what it should. -/
structure ReadsBack {α : Type} (check : Value → Checked α) (v : Value) (a : α) : Prop where
  basic : v.IsBasic
  reads : check v = .ok a

namespace SpellsOut

variable {parts : List (FieldName × Value)} {es : List (Value × Value)}

/-- Every record can be spelled out, under titles. -/
theorem exists_spelled (parts : List (FieldName × Value)) : ∃ v, SpellsOut parts v :=
  ⟨_, .map FieldName.title (fun _ => by simp [FieldName.spellings]) (.refl _)⟩

theorem exists_eq_map {v : Value} (h : SpellsOut parts v) : ∃ es, v = .map es := by
  cases h with
  | map => exact ⟨_, rfl⟩

theorem gives {f : FieldName} {v : Value} (h : SpellsOut parts (.map es)) (hf : (f, v) ∈ parts) : f.Gives es v := by
  cases h with
  | map key spelling order => exact ⟨key f, spelling f, order.mem_iff.2 (List.mem_map.2 ⟨_, hf, rfl⟩)⟩

variable {fields : List FieldName} (hfields : ArePrintable fields) (hparts : parts.map Prod.fst = fields)
include hfields hparts

/-- No field is given twice. -/
theorem keysFit (h : SpellsOut parts (.map es)) : KeysFit fields es := by
  subst hparts
  cases h with
  | map key spelling order =>
    have hfield {s : String} {v : Value} (he : (.text s, v) ∈ es) : ∃ f ∈ parts.map Prod.fst, key f = s := by
      obtain ⟨p, hp, heq⟩ := List.mem_map.1 (order.mem_iff.1 he)
      exact ⟨p.1, List.mem_map_of_mem hp, Value.text.inj (Prod.mk.inj heq).1⟩
    refine ⟨fun e he => ?_, fun f hf v w hv hw => ?_⟩
    · obtain ⟨p, hp, rfl⟩ := List.mem_map.1 (order.mem_iff.1 he)
      exact ⟨p.1, List.mem_map_of_mem hp, key p.1, spelling p.1, rfl⟩
    · -- Each field has one key, so that its title and its name are not both there.
      have hd := hfields.distinct
      obtain ⟨g, hg, htitle⟩ := hfield hv
      obtain ⟨g', hg', hname⟩ := hfield hw
      obtain rfl : g = f := eq_of_mem_spellings hd hg hf (spelling g) (by simp [htitle, FieldName.spellings])
      obtain rfl : g' = g := eq_of_mem_spellings hd hg' hf (spelling g') (by simp [hname, FieldName.spellings])
      exact title_ne_name hd hf (htitle.symm.trans hname)

/-- **A record survives being printed** if its values do. -/
theorem isBasic {v : Value} (h : SpellsOut parts v) (hvalues : ∀ p ∈ parts, p.2.IsBasic) : v.IsBasic := by
  subst hparts
  cases h with
  | @map es key spelling order =>
    have hpart {e : Value × Value} (he : e ∈ es) : ∃ p ∈ parts, e = (.text (key p.1), p.2) := by
      obtain ⟨p, hp, heq⟩ := List.mem_map.1 (order.mem_iff.1 he)
      exact ⟨p, hp, heq.symm⟩
    refine .map (fun e he => ?_) ?_ (fun e he => ?_)
    · obtain ⟨p, hp, rfl⟩ := hpart he
      exact ⟨_, rfl, hfields.short p.1 (List.mem_map_of_mem hp) _ (spelling p.1)⟩
    · rw [(order.map _).nodup_iff, List.map_map]
      have hkeys : ((parts.map Prod.fst).map fun f => Value.text (key f)).Nodup :=
        hfields.different.map_on fun f hf g hg heq => eq_of_mem_spellings hfields.distinct hf hg (spelling f)
          (Value.text.inj heq ▸ spelling g)
      rwa [List.map_map] at hkeys
    · obtain ⟨p, hp, rfl⟩ := hpart he
      exact hvalues p hp

/-- **A record reads back** if its values survive being printed and its fields are taken for what they should. -/
theorem readsBack {α : Type} {check : Value → Checked α} {reads : List (Value × Value) → α → Prop} {a : α} {v : Value}
    (hmap : ∀ {es a}, check (.map es) = .ok a ↔ reads es a ∧ checkNoUnknownKeys fields es = .ok ())
    (h : SpellsOut parts v) (hvalues : ∀ p ∈ parts, p.2.IsBasic)
    (hreads : ∀ {es}, KeysFit fields es → (Value.map es).IsJson → (∀ {f v}, (f, v) ∈ parts → f.Gives es v) →
      reads es a) :
    ReadsBack check v a := by
  have hv := h.isBasic hfields hparts hvalues
  obtain ⟨es, rfl⟩ := h.exists_eq_map
  have hk := h.keysFit hfields hparts
  exact ⟨hv, hmap.2 ⟨hreads hk hv.isJson h.gives, (checkNoUnknownKeys_eq_ok_iff hfields.distinct hv.isJson).2 hk⟩⟩

end SpellsOut

/-! ## Texts and lists -/

theorem ne_of_checkNonEmptyText {v : Value} {s : String} (h : checkNonEmptyText v = .ok s) : s ≠ "" := by
  obtain ⟨t, -, ht⟩ := Checked.andThen_eq_ok.1 h
  split at ht
  · cases ht
  · next hne =>
    cases ht
    simpa using hne

section Lists

variable {α : Type} {check : Value → Checked α} {spelled : α → Value → Prop} {as : List α} {vs : List Value}

theorem ReadsBack.list (h : List.Forall₂ (ReadsBack check) vs as) :
    ReadsBack (checkOptionalList check) (.list vs) as where
  basic := by
    refine .list fun v hv => ?_
    obtain ⟨a, h⟩ := exists_forall₂_iff.1 ⟨as, h⟩ v hv
    exact h.basic
  reads := by
    rw [checkOptionalList_of_ne_null check (by nofun), checkList_eq_ok_iff]
    exact ⟨vs, rfl, h.imp fun _ _ h => h.reads⟩

/-- Items that are spelled out read back if each of them does. -/
theorem forall₂_readsBack (h : List.Forall₂ spelled as vs) (hall : ∀ a ∈ as, ∀ v, spelled a v → ReadsBack check v a) :
    List.Forall₂ (ReadsBack check) vs as :=
  (((List.forall₂_and_left _ _).2 ⟨hall, h⟩).imp fun _ v h => h.1 v h.2).flip

/-- What a list gives was checked. -/
theorem exists_of_checkOptionalList {v : Value} (h : checkOptionalList check v = .ok as) :
    ∀ a ∈ as, ∃ w, check w = .ok a := by
  by_cases hv : v = .null
  · subst hv
    cases h
    simp
  · rw [checkOptionalList_of_ne_null check hv, checkList_eq_ok_iff] at h
    obtain ⟨vs, -, hall⟩ := h
    exact exists_forall₂_iff.1 ⟨vs, hall.flip⟩

end Lists

/-! ## Outlines -/

namespace Outline

/-- The texts of an outline. -/
def allTexts (o : Outline) : List String := [o.className, o.message.source]

/-- What an outline gives its fields. -/
def parts (o : Outline) : List (FieldName × Value) :=
  [(classNameField, .text o.className), (messageField, .text o.message.source)]

/-- The value spells the outline out. -/
def SpelledAs (o : Outline) (v : Value) : Prop := SpellsOut o.parts v

/-- An outline that was read has a class name. -/
theorem className_ne_of_check {v : Value} {o : Outline} (h : check v = .ok o) : o.className ≠ "" := by
  obtain ⟨es, rfl⟩ := ofRecords_check.exists_eq_map h
  obtain ⟨⟨hname, -⟩, -⟩ := check_eq_ok_iff.1 h
  obtain ⟨v, hv⟩ := FieldName.exists_of_required hname
  exact ne_of_checkNonEmptyText hv

theorem arePrintable_fields : ArePrintable fields := ⟨by decide, by decide, by decide⟩

/-- **An outline reads back** from what spells it out. -/
theorem readsBack {o : Outline} {v : Value} (hname : o.className ≠ "") (hbasic : ∀ s ∈ o.allTexts, Text.IsBasic s)
    (h : o.SpelledAs v) : ReadsBack check v o := by
  refine SpellsOut.readsBack arePrintable_fields rfl check_eq_ok_iff h ?values ?fields
  case values =>
    simp only [parts, List.forall_mem_cons, List.not_mem_nil, false_imp_iff, implies_true, and_true]
    exact ⟨.text (hbasic _ (by simp [allTexts])), .text (hbasic _ (by simp [allTexts]))⟩
  case fields =>
    intro es hk hes hgives
    have hclass : checkNonEmptyText (.text o.className) = .ok o.className :=
      (checkNonEmptyText_eq_ok_iff (.text _)).2 ⟨rfl, hname⟩
    have hmessage : checkMessage (.text o.message.source) = .ok o.message :=
      (checkPatternText_eq_ok_iff (.text _)).2 rfl
    exact ⟨hk.required_eq_ok hes (by simp [fields]) (hgives (by simp [parts])) hclass,
      hk.optional_eq_ok hes (by simp [fields]) (hgives (by simp [parts])) hmessage⟩

end Outline

/-! ## Groups -/

namespace TypeGroup

/-- The texts of a group. -/
def allTexts (t : TypeGroup) : List String :=
  t.name :: (t.classPattern.toList.map Pattern.source ++ t.outlines.flatMap Outline.allTexts)

/-- Null where there is no pattern. -/
def patternValue : Option Pattern → Value
  | none => .null
  | some p => .text p.source

/-- What a group gives its fields, with the values that spell out its outlines. -/
def parts (t : TypeGroup) (outlines : List Value) : List (FieldName × Value) :=
  [(nameField, .text t.name), (classPatternField, patternValue t.classPattern), (outlinesField, .list outlines)]

/-- The value spells the group out. -/
def SpelledAs (t : TypeGroup) (v : Value) : Prop :=
  ∃ os, List.Forall₂ Outline.SpelledAs t.outlines os ∧ SpellsOut (t.parts os) v

/-- The outlines of a group that was read have class names. -/
theorem className_ne_of_check {v : Value} {t : TypeGroup} (h : check v = .ok t) :
    ∀ o ∈ t.outlines, o.className ≠ "" := by
  obtain ⟨es, rfl⟩ := ofRecords_check.exists_eq_map h
  obtain ⟨⟨-, -, houtlines⟩, -⟩ := check_eq_ok_iff.1 h
  intro o ho
  rcases FieldName.optional_cases houtlines with hnil | ⟨w, hw⟩
  · rw [hnil] at ho
    cases ho
  · obtain ⟨x, hx⟩ := exists_of_checkOptionalList hw o ho
    exact Outline.className_ne_of_check hx

theorem arePrintable_fields : ArePrintable fields := ⟨by decide, by decide, by decide⟩

theorem readsBack_pattern {p : Option Pattern} (h : ∀ q ∈ p, Text.IsBasic q.source) :
    ReadsBack checkClassPattern (patternValue p) p := by
  cases p with
  | none => exact ⟨.null, rfl⟩
  | some p =>
    refine ⟨.text (h p rfl), ?_⟩
    rw [patternValue, checkClassPattern_of_ne_null _ (by nofun), (checkPatternText_eq_ok_iff (.text _)).2 rfl]
    rfl

/-- **A group reads back** from what spells it out. -/
theorem readsBack {t : TypeGroup} {v : Value} (hnames : ∀ o ∈ t.outlines, o.className ≠ "")
    (hbasic : ∀ s ∈ t.allTexts, Text.IsBasic s) (h : t.SpelledAs v) : ReadsBack check v t := by
  obtain ⟨os, hos, h⟩ := h
  have hpattern : ReadsBack checkClassPattern (patternValue t.classPattern) t.classPattern :=
    readsBack_pattern fun q hq => hbasic _ (by simp [allTexts, Option.mem_def.1 hq])
  have houtlines : ReadsBack (checkOptionalList Outline.check) (.list os) t.outlines :=
    .list (forall₂_readsBack hos fun o ho v => Outline.readsBack (hnames o ho) fun s hs => hbasic s (by
      simp only [allTexts, List.mem_cons, List.mem_append, List.mem_flatMap]
      exact .inr (.inr ⟨o, ho, hs⟩)))
  refine SpellsOut.readsBack arePrintable_fields rfl check_eq_ok_iff h ?values ?fields
  case values =>
    simp only [parts, List.forall_mem_cons, List.not_mem_nil, false_imp_iff, implies_true, and_true]
    exact ⟨.text (hbasic _ (by simp [allTexts])), hpattern.basic, houtlines.basic⟩
  case fields =>
    intro es hk hes hgives
    have hname : checkText (.text t.name) = .ok t.name := rfl
    exact ⟨hk.optional_eq_ok hes (by simp [fields]) (hgives (by simp [parts])) hname,
      hk.optional_eq_ok hes (by simp [fields]) (hgives (by simp [parts])) hpattern.reads,
      hk.optional_eq_ok hes (by simp [fields]) (hgives (by simp [parts])) houtlines.reads⟩

end TypeGroup

/-! ## Categories -/

namespace Category

/-- The texts of a category. -/
def allTexts (c : Category) : List String :=
  c.name :: (c.keywords.map Pattern.source ++ c.types.flatMap TypeGroup.allTexts)

/-- What a category gives its fields, with the values that spell out its groups. -/
def parts (c : Category) (types : List Value) : List (FieldName × Value) :=
  [(nameField, .text c.name), (keywordsField, .list (c.keywords.map fun p => .text p.source)),
    (typesField, .list types)]

/-- The value spells the category out. -/
def SpelledAs (c : Category) (v : Value) : Prop :=
  ∃ ts, List.Forall₂ TypeGroup.SpelledAs c.types ts ∧ SpellsOut (c.parts ts) v

/-- Whatever has to be named in a category has a name. -/
structure IsNamed (c : Category) : Prop where
  name : c.name ≠ ""
  classNames : ∀ t ∈ c.types, ∀ o ∈ t.outlines, o.className ≠ ""

/-- A category that was read is named throughout. -/
theorem isNamed_of_check {v : Value} {c : Category} (h : check v = .ok c) : c.IsNamed := by
  obtain ⟨es, rfl⟩ := ofRecords_check.exists_eq_map h
  obtain ⟨⟨hname, -, htypes⟩, -⟩ := check_eq_ok_iff.1 h
  obtain ⟨w, hw⟩ := FieldName.exists_of_required hname
  refine ⟨ne_of_checkNonEmptyText hw, fun t ht => ?_⟩
  rcases FieldName.optional_cases htypes with hnil | ⟨w, hw⟩
  · rw [hnil] at ht
    cases ht
  · obtain ⟨x, hx⟩ := exists_of_checkOptionalList hw t ht
    exact TypeGroup.className_ne_of_check hx

theorem arePrintable_fields : ArePrintable fields := ⟨by decide, by decide, by decide⟩

theorem readsBack_keywords {ps : List Pattern} (h : ∀ p ∈ ps, Text.IsBasic p.source) :
    ReadsBack checkKeywords (.list (ps.map fun p => .text p.source)) ps := by
  have hall : List.Forall₂ (ReadsBack checkPatternText) (ps.map fun p => .text p.source) ps := by
    rw [List.forall₂_map_left_iff, List.forall₂_same]
    exact fun p hp => ⟨.text (h p hp), (checkPatternText_eq_ok_iff (.text _)).2 rfl⟩
  have hlist := ReadsBack.list hall
  exact ⟨hlist.basic, checkKeywords_eq_ok_iff.2 hlist.reads⟩

/-- **A category reads back** from what spells it out. -/
theorem readsBack {c : Category} {v : Value} (hnamed : c.IsNamed) (hbasic : ∀ s ∈ c.allTexts, Text.IsBasic s)
    (h : c.SpelledAs v) : ReadsBack check v c := by
  obtain ⟨ts, hts, h⟩ := h
  have hkeywords := readsBack_keywords fun p hp => hbasic p.source (by
    simp only [allTexts, List.mem_cons, List.mem_append, List.mem_map]
    exact .inr (.inl ⟨p, hp, rfl⟩))
  have htypes : ReadsBack (checkOptionalList TypeGroup.check) (.list ts) c.types :=
    .list (forall₂_readsBack hts fun t ht v => TypeGroup.readsBack (hnamed.classNames t ht) fun s hs => hbasic s (by
      simp only [allTexts, List.mem_cons, List.mem_append, List.mem_flatMap]
      exact .inr (.inr ⟨t, ht, hs⟩)))
  refine SpellsOut.readsBack arePrintable_fields rfl check_eq_ok_iff h ?values ?fields
  case values =>
    simp only [parts, List.forall_mem_cons, List.not_mem_nil, false_imp_iff, implies_true, and_true]
    exact ⟨.text (hbasic _ (by simp [allTexts])), hkeywords.basic, htypes.basic⟩
  case fields =>
    intro es hk hes hgives
    have hname : checkNonEmptyText (.text c.name) = .ok c.name :=
      (checkNonEmptyText_eq_ok_iff (.text _)).2 ⟨rfl, hnamed.name⟩
    exact ⟨hk.required_eq_ok hes (by simp [fields]) (hgives (by simp [parts])) hname,
      hk.optional_eq_ok hes (by simp [fields]) (hgives (by simp [parts])) hkeywords.reads,
      hk.optional_eq_ok hes (by simp [fields]) (hgives (by simp [parts])) htypes.reads⟩

end Category

/-! ## Taxonomies -/

namespace Taxonomy

/-- The texts of a taxonomy. -/
def allTexts (t : Taxonomy) : List String := t.categories.flatMap Category.allTexts

/-- The document spells the taxonomy out: a mapping with the list of its categories, or that list. -/
inductive SpelledAs (t : Taxonomy) : Value → Prop where
  | map {vs : List Value} (categories : List.Forall₂ Category.SpelledAs t.categories vs) :
    SpelledAs t (.map [(.text "categories", .list vs)])
  | list {vs : List Value} (categories : List.Forall₂ Category.SpelledAs t.categories vs) : SpelledAs t (.list vs)

variable {t : Taxonomy} {v w : Value}

/-- The categories of a taxonomy that was read are named throughout. -/
theorem isNamed_of_ofValue (h : ofValue v = .ok t) : ∀ c ∈ t.categories, c.IsNamed := by
  obtain ⟨vs, -, hcheck⟩ := ofValue_eq_ok_iff_part.1 h
  intro c hc
  obtain ⟨e, he⟩ := exists_forall₂_iff.1 ⟨vs, (checkCategories_eq_ok_iff.1 hcheck).flip⟩ c hc
  exact Category.isNamed_of_check he

/-- **A taxonomy is read from what spells it out**, which survives being printed. -/
theorem ofValue_of_spelledAs (hnamed : ∀ c ∈ t.categories, c.IsNamed) (hbasic : ∀ s ∈ t.allTexts, Text.IsBasic s)
    (h : t.SpelledAs v) : v.IsBasic ∧ ofValue v = .ok t := by
  have hcategories {vs : List Value} (h : List.Forall₂ Category.SpelledAs t.categories vs) :
      (Value.list vs).IsBasic ∧ checkCategories vs = .ok t := by
    have hall : List.Forall₂ (ReadsBack Category.check) vs t.categories :=
      forall₂_readsBack h fun c hc v => Category.readsBack (hnamed c hc) fun s hs =>
        hbasic s (List.mem_flatMap.2 ⟨c, hc, hs⟩)
    exact ⟨(ReadsBack.list hall).basic, checkCategories_eq_ok_iff.2 (hall.imp fun _ _ h => h.reads)⟩
  cases h with
  | map categories =>
    obtain ⟨hlist, hcheck⟩ := hcategories categories
    have hkey : Json.IsShortKey "categories" := by decide
    exact ⟨.map (List.forall_mem_singleton.2 ⟨_, rfl, hkey⟩) (List.nodup_singleton _)
      (List.forall_mem_singleton.2 hlist), ofValue_eq_ok_iff_part.2 ⟨_, rfl, hcheck⟩⟩
  | list categories =>
    obtain ⟨hlist, hcheck⟩ := hcategories categories
    exact ⟨hlist, ofValue_eq_ok_iff_part.2 ⟨_, rfl, hcheck⟩⟩

/-- Every taxonomy can be spelled out. -/
theorem exists_spelledAs (t : Taxonomy) : ∃ v, t.SpelledAs v := by
  have hgroup (g : TypeGroup) : ∃ v, g.SpelledAs v := by
    obtain ⟨os, hos⟩ := exists_forall₂_iff.2 fun o (_ : o ∈ g.outlines) => SpellsOut.exists_spelled o.parts
    obtain ⟨v, hv⟩ := SpellsOut.exists_spelled (g.parts os)
    exact ⟨v, os, hos, hv⟩
  have hcategory (c : Category) : ∃ v, c.SpelledAs v := by
    obtain ⟨ts, hts⟩ := exists_forall₂_iff.2 fun g (_ : g ∈ c.types) => hgroup g
    obtain ⟨v, hv⟩ := SpellsOut.exists_spelled (c.parts ts)
    exact ⟨v, ts, hts, hv⟩
  obtain ⟨vs, hvs⟩ := exists_forall₂_iff.2 fun c (_ : c ∈ t.categories) => hcategory c
  exact ⟨_, .map hvs⟩

/-- **A taxonomy that is spelled out, printed as JSON and read is the same taxonomy**, if it was read before and its
texts are of the basic plane. -/
theorem ofSource_render (hread : ofValue w = .ok t) (hbasic : ∀ s ∈ t.allTexts, Text.IsBasic s) :
    (∃ v, t.SpelledAs v) ∧ ∀ v, t.SpelledAs v → ∀ name, ofSource (.text (Json.render v)) name = .ok t := by
  refine ⟨exists_spelledAs t, fun v hv name => ?_⟩
  obtain ⟨hprints, hagain⟩ := ofValue_of_spelledAs (isNamed_of_ofValue hread) hbasic hv
  unfold ofSource
  rw [Yaml.load_render hprints]
  cases hv with
  | map => exact congrArg (Except.mapError LoadError.refused) hagain
  | list => exact congrArg (Except.mapError LoadError.refused) hagain

/-- A category with a keyword and a group without a pattern. The quote, the backslash and the letter are escaped. -/
theorem ofSource_render_keyword :
    let v : Value := .map [(.text "categories", .list [.map [(.text "name", .text "A"),
      (.text "Keywords", .list [.text "\"\\dé"]), (.text "types", .list [.map [(.text "type_name", .text ""),
        (.text "type_name_regex", .null), (.text "exceptions", .list [])]])]])]
    let text := "\x7b\"categories\": [\x7b\"name\": \"A\", \"Keywords\": [\"\\\"\\\\d\\u00e9\"], \"types\": " ++
      "[\x7b\"type_name\": \"\", \"type_name_regex\": null, \"exceptions\": []\x7d]\x7d]\x7d"
    ∃ t, ofValue v = .ok t ∧ (∀ s ∈ t.allTexts, Text.IsBasic s) ∧ t.SpelledAs v ∧ Json.render v = text ∧
      ofSource (.text text) "data" = .ok t := by
  intro v text
  obtain ⟨p, hp⟩ : Pattern.Compiles "\"\\dé" := by decide +kernel
  have hsource : p.source = "\"\\dé" := Pattern.compile_eq_ok_iff.1 hp
  let g : TypeGroup := ⟨"", none, []⟩
  let t : Taxonomy := ⟨[⟨"A", [p], [g]⟩], by simp⟩
  have hspelled : t.SpelledAs v := by
    -- The keywords stand under the title of their field, everything else under its name.
    have hname (f : FieldName) : f.name ∈ f.spellings := by simp [FieldName.spellings]
    have hgroup : g.SpelledAs _ := ⟨[], .nil, .map FieldName.name hname (.refl _)⟩
    refine .map (.cons ⟨[_], .cons hgroup .nil, .map
      (fun f => if f = Category.keywordsField then f.title else f.name) (fun f => ?_) ?_⟩ .nil)
    · split <;> simp [FieldName.spellings]
    · rw [Category.parts, List.map_singleton, hsource]
      exact .refl _
  have hbasic : ∀ s ∈ t.allTexts, Text.IsBasic s := by
    have htexts : t.allTexts = ["A", "\"\\dé", ""] := by
      rw [← hsource]
      rfl
    rw [htexts]
    decide
  have hread : ofValue v = .ok t := by
    refine (ofValue_of_spelledAs (fun c hc => ?_) hbasic hspelled).2
    obtain rfl := List.mem_singleton.1 hc
    exact ⟨show "A" ≠ "" by decide, by simp [g]⟩
  have hrender : Json.render v = text := by decide +kernel
  exact ⟨t, hread, hbasic, hspelled, hrender, hrender ▸ (ofSource_render hread hbasic).2 v hspelled "data"⟩

end Taxonomy

end Triage
