import Triage.Proofs.Text.Trim
import Triage.Proofs.Validation.Acceptance
import Triage.Settings.Basic

/-!
# Settings that the environment overrides

Five fields of the settings may be given by variables. The variables are laid over the entries of the document before
anything is checked, so that an entry that is overridden does not matter.

* `entry?_overlay`: what the entries say after the environment is laid over them.
* `Environment.Gives`: a variable gives a text, which is its own without the white space around it, unless it is blank.
* `Settings.Overridden`: entries with the texts of the variables in place of what they say themselves.
* `Settings.AlikeAt`: a variable that says the same in two environments.
* `Settings.overrides_fieldwise`: **the outcome is that of the overridden entries**, and depends on nothing else.
-/

namespace Triage

namespace Environment

/-! ## Variables -/

/-- A variable **gives a text**: its own without the white space around it, which is not all of it. -/
def Gives (env : Environment) (name value : String) : Prop :=
  ∃ raw, env.lookup name = some raw ∧ Text.isBlankText raw = false ∧ value = Text.trim raw

variable {env env' : Environment} {key name v : String}

theorem gives_iff : env.Gives name v ↔ env.value? name = some v := by
  unfold Gives value?
  constructor
  · rintro ⟨raw, hraw, hblank, rfl⟩
    rw [hraw, Option.bind_some, hblank, if_neg Bool.false_ne_true]
  · intro h
    obtain ⟨raw, hraw, hv⟩ := Option.bind_eq_some_iff.1 h
    cases hblank : Text.isBlankText raw with
    | true =>
      rw [hblank, if_pos rfl] at hv
      cases hv
    | false =>
      rw [hblank, if_neg Bool.false_ne_true, Option.some.injEq] at hv
      exact ⟨raw, hraw, hblank, hv.symm⟩

/-- A variable that is absent or blank gives nothing. -/
theorem value?_eq_none_iff : env.value? name = none ↔ ∀ v, ¬ env.Gives name v := by
  simp only [gives_iff, Option.eq_none_iff_forall_ne_some]

/-- The text that the environment gives for a field. -/
def override? (env : Environment) (key : String) : Option String := (overrides.lookup key).bind env.value?

/-- No field is overridden by two variables. -/
theorem lookup_overrides_iff : overrides.lookup key = some name ↔ (key, name) ∈ overrides := by
  constructor
  · intro h
    obtain ⟨before, after, hsplit, -⟩ := List.lookup_eq_some_iff.1 h
    rw [hsplit]
    simp
  · intro h
    have hall : ∀ o ∈ overrides, overrides.lookup o.1 = some o.2 := by decide
    exact hall _ h

theorem override?_eq_some_iff : env.override? key = some v ↔ ∃ name, (key, name) ∈ overrides ∧ env.Gives name v := by
  unfold override?
  simp only [Option.bind_eq_some_iff, lookup_overrides_iff, gives_iff]

theorem override?_eq_none_iff :
    env.override? key = none ↔ ∀ name, (key, name) ∈ overrides → ∀ v, ¬ env.Gives name v := by
  unfold override?
  simp only [Option.bind_eq_none_iff, lookup_overrides_iff, value?_eq_none_iff]

/-- Laying variables over entries, one after the other. -/
theorem entry?_foldl (os : List (String × String)) (hfields : (os.map Prod.fst).Nodup) (es : List (Value × Value)) :
    Value.entry? key (os.foldl (fun es o =>
      match env.value? o.2 with
      | some v => Value.insertEntry (.text o.1) (.text v) es
      | none => es) es) =
      (((os.lookup key).bind env.value?).map Value.text).or (Value.entry? key es) := by
  induction os generalizing es with
  | nil => rfl
  | cons o os ih =>
    obtain ⟨field, name⟩ := o
    obtain ⟨hnew, hrest⟩ := List.nodup_cons.1 hfields
    rw [List.foldl_cons, ih hrest]
    by_cases hkey : key = field
    · -- the variables that follow belong to other fields
      subst hkey
      have hnone : os.lookup key = none := by
        rw [List.lookup_eq_none_iff]
        intro o ho
        refine bne_iff_ne.2 fun heq => hnew ?_
        rw [heq]
        exact List.mem_map.2 ⟨o, ho, rfl⟩
      rw [hnone, List.lookup_cons_self, Option.bind_none, Option.map_none, Option.none_or, Option.bind_some]
      cases env.value? name with
      | none => rfl
      | some v => exact Value.entry?_insertEntry.trans (if_pos rfl)
    · have hlookup : List.lookup key ((field, name) :: os) = os.lookup key := by
        rw [List.lookup_cons, beq_false_of_ne hkey]
      rw [hlookup]
      congr 1
      cases env.value? name with
      | none => rfl
      | some v => exact Value.entry?_insertEntry.trans (if_neg fun heq => hkey heq.symm)

/-- **What the entries say** after the environment is laid over them. -/
theorem entry?_overlay (env : Environment) (es : List (Value × Value)) (key : String) :
    Value.entry? key (env.overlay es) = ((env.override? key).map Value.text).or (Value.entry? key es) :=
  entry?_foldl overrides (by decide) es

end Environment

namespace Settings

variable {es es' : List (Value × Value)} {env env' : Environment} {tree : FileTree} {path : Option String}

/-- All keys are texts. -/
def TextKeys (es : List (Value × Value)) : Prop := ∀ e ∈ es, ∃ s, e.1 = .text s

theorem all_isTextKey_iff : (es.all fun e => isTextKey e.1) = true ↔ TextKeys es := by
  rw [List.all_eq_true]
  refine forall₂_congr fun e _ => ?_
  cases e.1 <;> simp [isTextKey]

theorem textKeys_insertEntry_iff {name : String} {v : Value} :
    TextKeys (Value.insertEntry (.text name) v es) ↔ TextKeys es := by
  unfold TextKeys
  induction es with
  | nil => exact iff_of_true (List.forall_mem_singleton.2 ⟨name, rfl⟩) (List.forall_mem_nil _)
  | cons e es ih =>
    unfold Value.insertEntry
    split
    · simp only [List.forall_mem_cons]
    · simp only [List.forall_mem_cons, ih]

theorem textKeys_overlay_iff (env : Environment) : TextKeys (env.overlay es) ↔ TextKeys es := by
  unfold Environment.overlay
  refine List.foldlRecOn (motive := fun es' => TextKeys es' ↔ TextKeys es) _ _ Iff.rfl fun es' hes' o _ => ?_
  split
  · exact textKeys_insertEntry_iff.trans hes'
  · exact hes'

/-! ## Fields -/

theorem find?_field (name : String) (es : List (Value × Value)) :
    (field name).find? es = (Value.entry? name es).map fun v => (name, v) := by
  unfold FieldName.find?
  rw [show (field name).title = name from rfl, show (field name).name = name from rfl]
  cases Value.entry? name es <;> rfl

/-- **Only what the entries say matters**, and not how they are written. -/
theorem ofEntries_congr (h : ∀ key, Value.entry? key es' = Value.entry? key es) : ofEntries es' = ofEntries es := by
  have hfind : ∀ name, (field name).find? es' = (field name).find? es := by
    intro name
    rw [find?_field, find?_field, h]
  have hoptional : ∀ {α : Type} (name : String) (default : α) (check : Value → Checked α),
      (field name).optional default check es' = (field name).optional default check es := by
    intro α name default check
    unfold FieldName.optional
    rw [hfind]
  unfold ofEntries
  simp only [hoptional]

/-- A field with a default is what its value is taken for. -/
theorem optional_eq_ok_iff {α : Type} {name : String} {default a : α} {check : Value → Checked α} :
    (field name).optional default check es = .ok a ↔
      (∃ v, Value.entry? name es = some v ∧ check v = .ok a) ∨ Value.entry? name es = none ∧ a = default := by
  unfold FieldName.optional
  rw [find?_field]
  cases hv : Value.entry? name es with
  | some v =>
    rw [Option.map_some]
    show (check v).inside (.key name) = .ok a ↔ _
    rw [Checked.inside_eq_ok]
    simp
  | none =>
    show Checked.ok default = .ok a ↔ _
    simp [eq_comm]

/-- Settings are checked field by field. -/
theorem ofEntries_eq_ok_iff {s : Settings} :
    ofEntries es = .ok s ↔
      (field "taxonomy_file").optional standard.taxonomyFile checkPath es = .ok s.taxonomyFile ∧
      (field "categorisation_enabled").optional standard.categorisationEnabled checkBool es =
        .ok s.categorisationEnabled ∧
      (field "depth_limit").optional standard.depthLimit (checkIntegerFrom 1) es = .ok s.depthLimit ∧
      (field "metric_name").optional standard.metricName checkNonEmptyText es = .ok s.metricName ∧
      (field "metric_description").optional standard.metricDescription checkText es = .ok s.metricDescription ∧
      (field "meter_name").optional standard.meterName checkNonEmptyText es = .ok s.meterName ∧
      (field "log_level").optional standard.logLevel checkLevel es = .ok s.logLevel := by
  simp only [ofEntries, Checked.ap_eq_ok]
  constructor
  · rintro ⟨_, l, ⟨_, m, ⟨_, d, ⟨_, n, ⟨_, limit, ⟨_, c, ⟨_, t, hbuild, ht, rfl⟩, hc, rfl⟩, hlimit, rfl⟩, hn, rfl⟩,
      hd, rfl⟩, hm, rfl⟩, hl, rfl⟩
    cases hbuild
    exact ⟨ht, hc, hlimit, hn, hd, hm, hl⟩
  · rintro ⟨ht, hc, hlimit, hn, hd, hm, hl⟩
    exact ⟨_, _, ⟨_, _, ⟨_, _, ⟨_, _, ⟨_, _, ⟨_, _, ⟨_, _, rfl, ht, rfl⟩, hc, rfl⟩, hlimit, rfl⟩, hn, rfl⟩,
      hd, rfl⟩, hm, rfl⟩, hl, rfl⟩

theorem ofAnyEntries_of_textKeys (h : TextKeys es) :
    ofAnyEntries es = match ofEntries es with
      | .ok s => .ok s
      | .failed r => .error (.rejected r) := by
  unfold ofAnyEntries
  rw [all_isTextKey_iff.2 h]
  rfl

theorem ofAnyEntries_congr (hes : TextKeys es) (hes' : TextKeys es')
    (h : ∀ key, Value.entry? key es' = Value.entry? key es) : ofAnyEntries es' = ofAnyEntries es := by
  rw [ofAnyEntries_of_textKeys hes, ofAnyEntries_of_textKeys hes', ofEntries_congr h]

theorem ofFile_of_entries (h : entriesOf tree path = .ok es) : ofFile tree path env = ofAnyEntries (env.overlay es) := by
  unfold ofFile
  rw [h]

/-- Settings that a file and the environment give are accepted from the overlaid entries. -/
theorem ofFile_eq_ok_iff {s : Settings} :
    ofFile tree path env = .ok s ↔
      ∃ es, entriesOf tree path = .ok es ∧ TextKeys es ∧ ofEntries (env.overlay es) = .ok s := by
  cases hes : entriesOf tree path with
  | error e =>
    unfold ofFile
    rw [hes]
    exact iff_of_false nofun fun ⟨_, h, _⟩ => nomatch h
  | ok es =>
    rw [ofFile_of_entries hes]
    simp only [Except.ok.injEq, exists_eq_left']
    by_cases hkeys : TextKeys es
    · rw [ofAnyEntries_of_textKeys ((textKeys_overlay_iff env).2 hkeys)]
      cases ofEntries (env.overlay es) <;> simp [hkeys]
    · have hrefused : ((env.overlay es).all fun e => isTextKey e.1) = false :=
        Bool.eq_false_iff.2 fun h => hkeys ((textKeys_overlay_iff env).1 (all_isTextKey_iff.1 h))
      unfold ofAnyEntries
      rw [hrefused]
      exact iff_of_false nofun fun h => hkeys h.1

/-- **Entries that the environment overrides.** A field whose variable gives a text has that text, and every other key
has what the entries say. -/
structure Overridden (env : Environment) (es es' : List (Value × Value)) : Prop where
  keys : TextKeys es'
  given : ∀ o ∈ Environment.overrides, ∀ v, env.Gives o.2 v → Value.entry? o.1 es' = some (.text v)
  kept : ∀ key, (∀ name, (key, name) ∈ Environment.overrides → ∀ v, ¬ env.Gives name v) →
    Value.entry? key es' = Value.entry? key es

theorem overridden_overlay (env : Environment) (h : TextKeys es) : Overridden env es (env.overlay es) where
  keys := (textKeys_overlay_iff env).2 h
  given := by
    intro o ho v hv
    rw [Environment.entry?_overlay, Environment.override?_eq_some_iff.2 ⟨o.2, ho, hv⟩]
    rfl
  kept := by
    intro key hkey
    rw [Environment.entry?_overlay, Environment.override?_eq_none_iff.2 hkey]
    rfl

/-- Overridden entries say the same as those that the environment is laid over. -/
theorem Overridden.entry?_eq (h : Overridden env es es') (key : String) :
    Value.entry? key es' = Value.entry? key (env.overlay es) := by
  rw [Environment.entry?_overlay]
  cases hkey : env.override? key with
  | none => exact h.kept key (Environment.override?_eq_none_iff.1 hkey)
  | some v =>
    obtain ⟨name, hname, hv⟩ := Environment.override?_eq_some_iff.1 hkey
    exact h.given _ hname v hv

/-! ## Environments -/

/-- A variable that is absent or blank. -/
def IsUnset (env : Environment) (name : String) : Prop :=
  ∀ raw, env.lookup name = some raw → Text.isBlankText raw = true

/-- A variable **says the same** in two environments: it is absent or blank in both, or its two texts differ in the white
space around them only. -/
def AlikeAt (env env' : Environment) (name : String) : Prop :=
  (IsUnset env name ∧ IsUnset env' name) ∨
    ∃ core before after before' after', env.lookup name = some (before ++ core ++ after) ∧
      env'.lookup name = some (before' ++ core ++ after') ∧
      ∀ blank ∈ [before, after, before', after'], Text.isBlankText blank = true

theorem value?_of_isUnset {name : String} (h : IsUnset env name) : env.value? name = none := by
  rw [Environment.value?_eq_none_iff]
  rintro v ⟨raw, hraw, hblank, -⟩
  rw [h raw hraw] at hblank
  cases hblank

theorem value?_of_padded {name core before after : String} (h : env.lookup name = some (before ++ core ++ after))
    (hbefore : Text.isBlankText before = true) (hafter : Text.isBlankText after = true) :
    env.value? name = if Text.isBlankText core then none else some (Text.trim core) := by
  unfold Environment.value?
  rw [h, Option.bind_some, Text.isBlankText_padded hbefore hafter, Text.trim_padded hbefore hafter]

theorem AlikeAt.value?_eq {name : String} (h : AlikeAt env env' name) : env'.value? name = env.value? name := by
  rcases h with ⟨hunset, hunset'⟩ | ⟨core, before, after, before', after', htext, htext', hblank⟩
  · rw [value?_of_isUnset hunset, value?_of_isUnset hunset']
  · rw [value?_of_padded htext (hblank _ (by simp)) (hblank _ (by simp)),
      value?_of_padded htext' (hblank _ (by simp)) (hblank _ (by simp))]

theorem overlay_congr (h : ∀ o ∈ Environment.overrides, AlikeAt env env' o.2) (es : List (Value × Value)) :
    env'.overlay es = env.overlay es := by
  unfold Environment.overlay
  refine List.foldl_ext _ _ es fun es o ho => ?_
  rw [(h o ho).value?_eq]

/-! ## Outcomes -/

/-- The field is not among those that may be overridden. -/
theorem entry?_overlay_of_fixed {key : String} (hkey : ∀ o ∈ Environment.overrides, o.1 ≠ key) :
    Value.entry? key (env.overlay es) = Value.entry? key es := by
  have hnone : env.override? key = none := by
    rw [Environment.override?_eq_none_iff]
    exact fun name hname => absurd rfl (hkey _ hname)
  rw [Environment.entry?_overlay, hnone]
  rfl

theorem optional_overlay {α : Type} {name : String} (hname : ∀ o ∈ Environment.overrides, o.1 ≠ name) (default : α)
    (check : Value → Checked α) :
    (field name).optional default check (env.overlay es) = (field name).optional default check es := by
  unfold FieldName.optional
  rw [find?_field, find?_field, entry?_overlay_of_fixed hname]

/-- The description and the name of the meter that entries give. -/
def GivesMeter (es : List (Value × Value)) (description meterName : String) : Prop :=
  (field "metric_description").optional standard.metricDescription checkText es = .ok description ∧
    (field "meter_name").optional standard.meterName checkNonEmptyText es = .ok meterName

theorem givesMeter_of_ofEntries {s : Settings} (h : ofEntries es = .ok s) :
    GivesMeter es s.metricDescription s.meterName := by
  obtain ⟨-, -, -, -, hdescription, hmeter, -⟩ := ofEntries_eq_ok_iff.1 h
  exact ⟨hdescription, hmeter⟩

theorem givesMeter_overlay {description meterName : String} :
    GivesMeter (env.overlay es) description meterName ↔ GivesMeter es description meterName := by
  unfold GivesMeter
  rw [optional_overlay (by decide), optional_overlay (by decide)]

theorem givesMeter_of_ofFile {s : Settings} (hes : entriesOf tree path = .ok es) (hkeys : TextKeys es)
    (h : ofFile tree path env = .ok s) : GivesMeter es s.metricDescription s.meterName := by
  rw [ofFile_of_entries hes, ofAnyEntries_of_textKeys ((textKeys_overlay_iff env).2 hkeys)] at h
  split at h
  · next heq =>
    cases h
    exact givesMeter_overlay.1 (givesMeter_of_ofEntries heq)
  · cases h

/-- **The environment overrides field by field.** Let a file have entries with texts as keys, whether they are accepted
or not, and take any environment.

* The outcome is that of the overridden entries, in whatever order they are written, and there are such entries.
* Another file has the same outcome if its entries say the same of every field whose variable gives no text.
* Another environment has the same outcome if the five variables say the same in it.
* The description and the name of the meter are what the file gives, in every environment. -/
theorem overrides_fieldwise (hes : entriesOf tree path = .ok es) (hkeys : TextKeys es) (env : Environment) :
    (∃ es', Overridden env es es') ∧
      (∀ es', Overridden env es es' → ofFile tree path env = ofAnyEntries es') ∧
      (∀ (tree' : FileTree) (path' : Option String) (es' : List (Value × Value)), entriesOf tree' path' = .ok es' →
        TextKeys es' →
        (∀ key, (∀ name, (key, name) ∈ Environment.overrides → ∀ v, ¬ env.Gives name v) →
          Value.entry? key es' = Value.entry? key es) → ofFile tree' path' env = ofFile tree path env) ∧
      (∀ env', (∀ o ∈ Environment.overrides, AlikeAt env env' o.2) → ofFile tree path env' = ofFile tree path env) ∧
      ∀ env' s s', ofFile tree path env = .ok s → ofFile tree path env' = .ok s' →
        s'.metricDescription = s.metricDescription ∧ s'.meterName = s.meterName := by
  refine ⟨⟨_, overridden_overlay env hkeys⟩, ?_, ?_, ?_, ?_⟩
  · intro es' h
    rw [ofFile_of_entries hes, ofAnyEntries_congr ((textKeys_overlay_iff env).2 hkeys) h.keys h.entry?_eq]
  · intro tree' path' es' hes' hkeys' hsame
    rw [ofFile_of_entries hes, ofFile_of_entries hes']
    refine ofAnyEntries_congr ((textKeys_overlay_iff env).2 hkeys) ((textKeys_overlay_iff env).2 hkeys') fun key => ?_
    -- where a variable gives a text, both say that text
    rw [Environment.entry?_overlay, Environment.entry?_overlay]
    cases hkey : env.override? key with
    | none => exact hsame key (Environment.override?_eq_none_iff.1 hkey)
    | some v => rfl
  · intro env' h
    rw [ofFile_of_entries hes, ofFile_of_entries hes, overlay_congr h]
  · intro env' s s' hs hs'
    obtain ⟨hdescription, hmeter⟩ := givesMeter_of_ofFile hes hkeys hs
    obtain ⟨hdescription', hmeter'⟩ := givesMeter_of_ofFile hes hkeys hs'
    exact ⟨Checked.ok.inj (hdescription'.symm.trans hdescription), Checked.ok.inj (hmeter'.symm.trans hmeter)⟩

/-- A result that is there. -/
theorem eq_ok_of_toOption {ε α : Type} {x : Except ε α} {a : α} (h : x.toOption = some a) : x = .ok a := by
  cases x with
  | ok b => rw [Option.some.inj h]
  | error e => cases h

/-- A tree with a document whose limit is not a number. -/
def maskedTree : FileTree := .ofList [("limits.yaml", "depth_limit: zero".toUTF8.toList)]

/-- A variable masks the limit, with white space around it or without. -/
theorem overrides_fieldwise_maskedTree :
    ∃ es, entriesOf maskedTree (some "limits.yaml") = .ok es ∧ TextKeys es ∧
      ofFile maskedTree (some "limits.yaml") [("FAULTLINE_DEPTH_LIMIT", " 7 ")] =
        .ok { standard with depthLimit := 7 } ∧
      ofFile maskedTree (some "limits.yaml") [("FAULTLINE_DEPTH_LIMIT", "7"), ("FAULTLINE_LOG_LEVEL", " ")] =
        .ok { standard with depthLimit := 7 } := by
  have hread : ((entriesOf maskedTree (some "limits.yaml")).toOption.map fun es => es.all fun e => isTextKey e.1) =
      some true := by decide +kernel
  have hlimit : ofFile maskedTree (some "limits.yaml") [("FAULTLINE_DEPTH_LIMIT", " 7 ")] =
      .ok { standard with depthLimit := 7 } := eq_ok_of_toOption (by decide +kernel)
  obtain ⟨es, hes, hall⟩ := Option.map_eq_some_iff.1 hread
  have hes := eq_ok_of_toOption hes
  have hkeys : TextKeys es := all_isTextKey_iff.1 hall
  obtain ⟨-, -, -, halike, -⟩ := overrides_fieldwise hes hkeys [("FAULTLINE_DEPTH_LIMIT", " 7 ")]
  refine ⟨es, hes, hkeys, hlimit, (halike _ fun o ho => ?_).trans hlimit⟩
  have hunset : ∀ o ∈ Environment.overrides, o.2 ≠ "FAULTLINE_DEPTH_LIMIT" →
      (([("FAULTLINE_DEPTH_LIMIT", " 7 ")] : Environment).lookup o.2).all Text.isBlankText = true ∧
        (([("FAULTLINE_DEPTH_LIMIT", "7"), ("FAULTLINE_LOG_LEVEL", " ")] : Environment).lookup o.2).all
          Text.isBlankText = true := by decide +kernel
  by_cases hname : o.2 = "FAULTLINE_DEPTH_LIMIT"
  · refine .inr ⟨"7", " ", " ", "", "", ?_, ?_, by decide +kernel⟩ <;> rw [hname] <;> rfl
  · obtain ⟨hbefore, hafter⟩ := hunset o ho hname
    exact .inl ⟨Option.all_eq_true _ _ |>.1 hbefore, Option.all_eq_true _ _ |>.1 hafter⟩

end Settings

end Triage
