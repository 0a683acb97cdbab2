import Triage.Proofs.Command.Flags
import Triage.Proofs.Command.Validity
import Triage.Proofs.Settings.Overrides
import Triage.Proofs.Settings.Variables

/-!
# Where settings come from

A setting may be given in several layers: by a variable of the process, by a variable of the environment file, and by
the settings file. The environment file adds a variable only if the process does not have it, blank or not. The settings
file counts only if the variable that comes of this is absent or blank.

* `Layers.Gives`: the value that the layers give. A blank variable of the process hides that of the environment file,
  and what the settings file says counts even if it is blank.
* `gives_iff_overlay`: so it is with the entries that settings are checked from.
* `Options.RunsWith`, `run_of_runsWith`: the settings that a command runs with are all that it takes from the layers.
* `runsWith_iff_layers`: **each setting is what its layers give**, as it is checked, or the default; and a flag goes
  before all of them.
-/

namespace Triage.Command

open Settings (TextKeys)

/-! ## Layers -/

/-- What the layers say of a setting. -/
structure Layers where
  /-- The variable of the process. -/
  process : Option String
  /-- The variable of the environment file. -/
  environmentFile : Option String
  /-- The entry of the settings file. -/
  settingsFile : Option Value

namespace Layers

/-- **What the layers give.** -/
inductive Gives (l : Layers) : Value → Prop where
  | process {raw : String} (said : l.process = some raw) (full : Text.isBlankText raw = false) :
    Gives l (.text (Text.trim raw))
  | environmentFile {raw : String} (silent : l.process = none) (said : l.environmentFile = some raw)
      (full : Text.isBlankText raw = false) : Gives l (.text (Text.trim raw))
  | settingsFile {v : Value} (blank : ∀ raw, l.process.or l.environmentFile = some raw → Text.isBlankText raw = true)
      (said : l.settingsFile = some v) : Gives l v

/-- A setting is what its layers give, as a check takes it, and the default if they give nothing. -/
def Settle {α : Type} (l : Layers) (check : Value → Checked α) (default a : α) : Prop :=
  (∃ v, l.Gives v ∧ check v = .ok a) ∨ (∀ v, ¬ l.Gives v) ∧ a = default

end Layers

/-- The layers of a field, given what the environment file says and the entries of the settings file. Of a field that no
variable overrides only the settings file says something. -/
def layersOf (env : Environment) (added : List (String × Option String)) (es : List (Value × Value)) (key : String) :
    Layers where
  process := (Environment.overrides.lookup key).bind fun name => env.lookup name
  environmentFile := (Environment.overrides.lookup key).bind fun name => (added.lookup name).join
  settingsFile := Value.entry? key es

section Overlay

variable {env env' : Environment} {added : List (String × Option String)} {es : List (Value × Value)} {key : String}
  {v : Value} {l : Layers}

/-- What layers give is the text of the variable unless it is absent or blank. -/
theorem gives_iff :
    l.Gives v ↔ (((l.process.or l.environmentFile).bind fun raw =>
      if Text.isBlankText raw then none else some (Text.trim raw)).map Value.text).or l.settingsFile = some v := by
  have hvariable : ∀ {raw : String}, l.process.or l.environmentFile = some raw ↔
      l.process = some raw ∨ l.process = none ∧ l.environmentFile = some raw := Option.or_eq_some_iff
  constructor
  · intro h
    cases h with
    | process said full => simp [said, full]
    | environmentFile silent said full => simp [silent, said, full]
    | settingsFile blank said =>
      cases hraw : l.process.or l.environmentFile with
      | none => simp [said]
      | some raw => simp [blank raw hraw, said]
  · intro h
    cases hraw : l.process.or l.environmentFile with
    | none =>
      rw [hraw] at h
      exact .settingsFile (fun raw hraw' => nomatch hraw.symm.trans hraw') (by simpa using h)
    | some raw =>
      rw [hraw, Option.bind_some] at h
      cases hblank : Text.isBlankText raw with
      | true =>
        rw [hblank, if_pos rfl] at h
        refine .settingsFile (fun raw' hraw' => ?_) (by simpa using h)
        rwa [Option.some.inj (hraw'.symm.trans hraw)]
      | false =>
        rw [hblank, if_neg Bool.false_ne_true] at h
        cases h
        rcases hvariable.1 hraw with hprocess | ⟨hnone, hfile⟩
        · exact .process hprocess hblank
        · exact .environmentFile hnone hfile hblank

/-- **What the layers give** is what the entries say after the environment is laid over them, if the environment has the
variables of the file that the process does not have. -/
theorem gives_iff_overlay (henv : ∀ name, env'.lookup name = (env.lookup name).or (added.lookup name).join) :
    (layersOf env added es key).Gives v ↔ Value.entry? key (env'.overlay es) = some v := by
  rw [gives_iff, Environment.entry?_overlay]
  unfold Environment.override? Environment.value? layersOf
  cases Environment.overrides.lookup key with
  | none => rfl
  | some name =>
    simp only [Option.bind_some]
    rw [henv]

/-- A setting that comes of its layers is a field of the overlaid entries. -/
theorem settle_iff_overlay (henv : ∀ name, env'.lookup name = (env.lookup name).or (added.lookup name).join)
    {α : Type} {check : Value → Checked α} {default a : α} :
    (layersOf env added es key).Settle check default a ↔
      (Settings.field key).optional default check (env'.overlay es) = .ok a := by
  unfold Layers.Settle
  rw [Settings.optional_eq_ok_iff]
  simp only [gives_iff_overlay henv, Option.eq_none_iff_forall_ne_some, ne_eq]

end Overlay

/-! ## Runs -/

/-- What the environment file says of variables, if there is one that can be read. -/
def Options.fileVariables (o : Options) (tree : FileTree) (env : Environment) : List (String × Option String) :=
  match tree.find? o.environmentFile, tree.readText o.environmentFile with
  | some (.file _), .ok text => EnvironmentFile.resolve env (EnvironmentFile.statements text).assignments
  | _, _ => []

/-- A command **runs with settings**. -/
def Options.RunsWith (o : Options) (tree : FileTree) (env : Environment) (s : Settings) : Prop :=
  ∃ env' faulty, o.environment tree env = .ok (env', faulty) ∧ o.settings tree env' = .ok s

/-- What a command reports of what its request comes to. -/
def reportOf (faulty : List Nat) (level : Log.LevelName) : Result → Report
  | (.ok answer, book) => ⟨0, answer, faulty.map faultyLineWarning, consoleLines level book, none⟩
  | (.error message, book) =>
    ⟨1, [], faulty.map faultyLineWarning, consoleLines level book, some (complaintLine message)⟩

variable {o : Options} {tree : FileTree} {env env' : Environment} {faulty : List Nat} {s : Settings}
  {args : List String} {v : Values} {es : List (Value × Value)}

/-- The settings are all that a command takes from the layers. -/
theorem run_of_runsWith (h : o.RunsWith tree env s) :
    ∃ faulty, o.run tree env = (o.request.run s tree).map (reportOf faulty s.logLevel) := by
  obtain ⟨env', faulty, henv, hs⟩ := h
  refine ⟨faulty, (run_asking henv hs o.request).trans ?_⟩
  congr 1

/-- The environment that a command runs in has the variables of the file that the process does not have. -/
theorem lookup_environment (h : o.environment tree env = .ok (env', faulty)) (name : String) :
    env'.lookup name = (env.lookup name).or ((o.fileVariables tree env).lookup name).join := by
  unfold Options.environment at h
  unfold Options.fileVariables
  split at h
  · next bytes hfile =>
    cases htext : tree.readText o.environmentFile with
    | error e =>
      rw [htext] at h
      cases h
    | ok text =>
      rw [htext] at h
      simp only [bind, Except.bind, Except.mapError] at h
      cases hextend : env.extend (EnvironmentFile.statements text).assignments with
      | error e =>
        rw [hextend] at h
        cases h
      | ok extended =>
        rw [hextend] at h
        cases h
        rw [Environment.lookup_extend hextend]
        simp only [hfile]
  · next hnone =>
    cases h
    split
    · next bytes text hfile _ => exact absurd hfile (hnone bytes)
    · rw [List.lookup_nil, Option.join_none, Option.or_none]

/-! ## Flags -/

/-- **Settings that come of flags and layers.** -/
structure Governed (v : Values) (layers : String → Layers) (s : Settings) : Prop where
  taxonomyFile : ∃ path, (layers "taxonomy_file").Settle checkPath Settings.standard.taxonomyFile path ∧
    s.taxonomyFile = (nonEmpty? (v.flag? "--taxonomy")).or path
  categorisationEnabled : (layers "categorisation_enabled").Settle checkBool Settings.standard.categorisationEnabled
    s.categorisationEnabled
  depthLimit : (layers "depth_limit").Settle (checkIntegerFrom 1) Settings.standard.depthLimit s.depthLimit
  metricName : (layers "metric_name").Settle checkNonEmptyText Settings.standard.metricName s.metricName
  metricDescription : (layers "metric_description").Settle checkText Settings.standard.metricDescription
    s.metricDescription
  meterName : (layers "meter_name").Settle checkNonEmptyText Settings.standard.meterName s.meterName
  logLevel : ∃ level, (layers "log_level").Settle checkLevel Settings.standard.logLevel level ∧
    (v.flag? "--console-level" = none → s.logLevel = level) ∧
    ∀ text, v.flag? "--console-level" = some text → s.logLevel.text = text

theorem ofArguments_eq_ok (hread : programGrammar.read args = .ok v) (ho : Options.ofArguments args = .ok o) :
    o.taxonomyFile = nonEmpty? (v.flag? "--taxonomy") ∧
      o.consoleLevel = (v.flag? "--console-level").bind Log.LevelName.ofText? := by
  unfold Options.ofArguments at ho
  rw [hread] at ho
  simp only [bind, Except.bind] at ho
  split at ho
  · cases ho
  · split at ho
    · cases ho
    · cases ho
      exact ⟨rfl, rfl⟩

theorem text_injective {l l' : Log.LevelName} (h : l.text = l'.text) : l = l' := by
  have hall : ∀ l ∈ Log.LevelName.all, ∀ l' ∈ Log.LevelName.all, l.text = l'.text → l = l' := by decide
  have hmem : ∀ l, l ∈ Log.LevelName.all := by
    intro l
    cases l <;> decide
  exact hall l (hmem l) l' (hmem l') h

/-- The level of the console is the one that is asked for, if there is one. -/
theorem consoleLevel_iff (hread : programGrammar.read args = .ok v)
    (ho : o.consoleLevel = (v.flag? "--console-level").bind Log.LevelName.ofText?) {level shown : Log.LevelName} :
    shown = o.consoleLevel.getD level ↔
      (v.flag? "--console-level" = none → shown = level) ∧
        ∀ text, v.flag? "--console-level" = some text → shown.text = text := by
  rw [ho]
  cases hflag : v.flag? "--console-level" with
  | none => simp
  | some text =>
    obtain ⟨asked, -, hasked, rfl⟩ := consoleLevel_of_read hread hflag
    rw [Option.bind_some, hasked, Option.getD_some]
    constructor
    · rintro rfl
      exact ⟨nofun, fun text htext => Option.some.inj htext⟩
    · rintro ⟨-, h⟩
      exact text_injective (h _ rfl)

theorem settings_eq_ok_iff :
    o.settings tree env = .ok s ↔ ∃ s', Settings.ofFile tree o.settingsFile env = .ok s' ∧
      s = { s' with logLevel := o.consoleLevel.getD s'.logLevel, taxonomyFile := o.taxonomyFile.or s'.taxonomyFile } := by
  unfold Options.settings
  cases Settings.ofFile tree o.settingsFile env with
  | error e => exact iff_of_false nofun fun ⟨s', h, _⟩ => nomatch h
  | ok s' =>
    constructor
    · intro h
      cases h
      exact ⟨s', rfl, rfl⟩
    · rintro ⟨_, h, rfl⟩
      cases h
      rfl

/-- **Each setting is what its layers give**, or the default, and a flag goes before its layers. -/
theorem runsWith_iff_layers (hread : programGrammar.read args = .ok v) (ho : Options.ofArguments args = .ok o)
    (tree : FileTree) (env : Environment) (s : Settings) :
    (o.RunsWith tree env s ↔ ∃ env' faulty es, o.environment tree env = .ok (env', faulty) ∧
      Settings.entriesOf tree o.settingsFile = .ok es ∧ TextKeys es ∧
        Governed v (layersOf env (o.fileVariables tree env) es) s) ∧
      (o.RunsWith tree env s →
        ∃ faulty, o.run tree env = (o.request.run s tree).map (reportOf faulty s.logLevel)) := by
  obtain ⟨hfile, hconsole⟩ := ofArguments_eq_ok hread ho
  refine ⟨⟨?_, ?_⟩, run_of_runsWith⟩
  · rintro ⟨env', faulty, henv, hs⟩
    obtain ⟨s', hs', rfl⟩ := settings_eq_ok_iff.1 hs
    obtain ⟨es, hes, hkeys, hentries⟩ := Settings.ofFile_eq_ok_iff.1 hs'
    obtain ⟨htaxonomy, henabled, hlimit, hname, hdescription, hmeter, hlevel⟩ :=
      Settings.ofEntries_eq_ok_iff.1 hentries
    have hadded := lookup_environment henv
    refine ⟨env', faulty, es, henv, hes, hkeys, ?_⟩
    exact {
      taxonomyFile := ⟨_, (settle_iff_overlay hadded).2 htaxonomy, by rw [← hfile]⟩
      categorisationEnabled := (settle_iff_overlay hadded).2 henabled
      depthLimit := (settle_iff_overlay hadded).2 hlimit
      metricName := (settle_iff_overlay hadded).2 hname
      metricDescription := (settle_iff_overlay hadded).2 hdescription
      meterName := (settle_iff_overlay hadded).2 hmeter
      logLevel := ⟨_, (settle_iff_overlay hadded).2 hlevel, (consoleLevel_iff hread hconsole).1 rfl⟩ }
  · rintro ⟨env', faulty, es, henv, hes, hkeys, h⟩
    have hadded := lookup_environment henv
    obtain ⟨path, htaxonomy, hpath⟩ := h.taxonomyFile
    obtain ⟨level, hlevel, hshown⟩ := h.logLevel
    refine ⟨env', faulty, henv, settings_eq_ok_iff.2 ⟨{ s with taxonomyFile := path, logLevel := level }, ?_, ?_⟩⟩
    · refine Settings.ofFile_eq_ok_iff.2 ⟨es, hes, hkeys, Settings.ofEntries_eq_ok_iff.2 ?_⟩
      exact ⟨(settle_iff_overlay hadded).1 htaxonomy, (settle_iff_overlay hadded).1 h.categorisationEnabled,
        (settle_iff_overlay hadded).1 h.depthLimit, (settle_iff_overlay hadded).1 h.metricName,
        (settle_iff_overlay hadded).1 h.metricDescription, (settle_iff_overlay hadded).1 h.meterName,
        (settle_iff_overlay hadded).1 hlevel⟩
    · have hlogLevel : s.logLevel = o.consoleLevel.getD level := (consoleLevel_iff hread hconsole).2 hshown
      have htaxonomyFile : s.taxonomyFile = o.taxonomyFile.or path := by rw [hfile, hpath]
      rw [← hlogLevel, ← htaxonomyFile]

/-- A tree with an environment file. -/
def layeredTree : FileTree :=
  .ofList [(".env", "FAULTLINE_DEPTH_LIMIT=9\nFAULTLINE_METRIC_NAME=faults".toUTF8.toList)]

/-- Variables of a process. -/
def layeredEnvironment : Environment := [("FAULTLINE_DEPTH_LIMIT", " 7 "), ("FAULTLINE_LOG_LEVEL", "error")]

/-- A command line that asks for a level. -/
def debugging : Options := ⟨none, ".env", some .debug, none, .check⟩

/-- The limit is that of the process, the name that of the environment file, and the level that of the flag. -/
theorem runsWith_iff_layers_layeredTree :
    Options.ofArguments ["--console-level", "DEBUG", "check"] = .ok debugging ∧
      debugging.RunsWith layeredTree layeredEnvironment
        { Settings.standard with depthLimit := 7, metricName := "faults", logLevel := .debug } := by
  have hread : programGrammar.read ["--console-level", "DEBUG", "check"] =
      .ok ⟨[("--console-level", "DEBUG")], some ["check"], []⟩ := by decide +kernel
  have ho : Options.ofArguments ["--console-level", "DEBUG", "check"] = .ok debugging := by decide +kernel
  have hadded : debugging.fileVariables layeredTree layeredEnvironment =
      [("FAULTLINE_DEPTH_LIMIT", some "9"), ("FAULTLINE_METRIC_NAME", some "faults")] := by decide +kernel
  have hfile : (debugging.environment layeredTree layeredEnvironment).toOption.isSome = true := by decide +kernel
  obtain ⟨r, hr⟩ := Option.isSome_iff_exists.1 hfile
  have henv := Settings.eq_ok_of_toOption hr
  refine ⟨ho, (runsWith_iff_layers hread ho _ _ _).1.2 ⟨r.1, r.2, [], henv, rfl, List.forall_mem_nil _, ?_⟩⟩
  rw [hadded]
  have hsilent : ∀ {v : Value}, ¬ Layers.Gives ⟨none, none, none⟩ v := by
    intro v h
    cases h <;> contradiction
  exact {
    taxonomyFile := ⟨none, .inr ⟨fun _ => hsilent, rfl⟩, rfl⟩
    categorisationEnabled := .inr ⟨fun _ => hsilent, rfl⟩
    depthLimit := .inl ⟨_, .process (rfl : _ = some " 7 ") (by decide +kernel), by decide +kernel⟩
    metricName := .inl ⟨_, .environmentFile rfl (rfl : _ = some "faults") (by decide +kernel), by decide +kernel⟩
    metricDescription := .inr ⟨fun _ => hsilent, rfl⟩
    meterName := .inr ⟨fun _ => hsilent, rfl⟩
    logLevel := ⟨.error, .inl ⟨_, .process (rfl : _ = some "error") (by decide +kernel), by decide +kernel⟩, nofun,
      fun text h => Option.some.inj h⟩ }

/-- Whether what a layer says is a blank text. -/
def isBlankValue : Value → Bool
  | .text raw => Text.isBlankText raw
  | _ => false

/-- **The first layer that is not blank**, whichever it is. -/
inductive Layers.FirstFull (l : Layers) : Value → Prop where
  | process {raw : String} (said : l.process = some raw) (full : Text.isBlankText raw = false) :
    FirstFull l (.text (Text.trim raw))
  | environmentFile {raw : String} (blank : ∀ raw, l.process = some raw → Text.isBlankText raw = true)
      (said : l.environmentFile = some raw) (full : Text.isBlankText raw = false) :
    FirstFull l (.text (Text.trim raw))
  | settingsFile {v : Value} (blank : ∀ raw, l.process = some raw ∨ l.environmentFile = some raw →
      Text.isBlankText raw = true) (said : l.settingsFile = some v) (full : isBlankValue v = false) : FirstFull l v

/-- A tree with an environment file that names a level, and a settings file with a blank name. -/
def blankTree : FileTree :=
  .ofList [(".env", "FAULTLINE_LOG_LEVEL=ERROR".toUTF8.toList),
    ("configs/error_handling.yaml", "metric_name: ' '".toUTF8.toList)]

/-- A process in which that level is blank. -/
def blankEnvironment : Environment := [("FAULTLINE_LOG_LEVEL", " ")]

/-- A command line without flags. -/
def plainCheck : Options := ⟨none, ".env", none, none, .check⟩

/-- **The first layer that is not blank does not win.** A blank variable of the process hides the level of the
environment file, and a blank name of the settings file is taken instead of the default. -/
theorem blank_layers_count :
    ∃ es s, Options.ofArguments ["check"] = .ok plainCheck ∧
      Settings.entriesOf blankTree plainCheck.settingsFile = .ok es ∧
      plainCheck.RunsWith blankTree blankEnvironment s ∧
      (layersOf blankEnvironment (plainCheck.fileVariables blankTree blankEnvironment) es "log_level").FirstFull
        (.text "ERROR") ∧
      checkLevel (.text "ERROR") = .ok .error ∧ s.logLevel = .info ∧
      (∀ v, ¬ (layersOf blankEnvironment (plainCheck.fileVariables blankTree blankEnvironment) es
        "metric_name").FirstFull v) ∧
      s.metricName = " " ∧ s.metricName ≠ Settings.standard.metricName := by
  have hadded : plainCheck.fileVariables blankTree blankEnvironment =
      [("FAULTLINE_LOG_LEVEL", some "ERROR")] := by decide +kernel
  have hread : ((Settings.entriesOf blankTree none).toOption.map fun es =>
      (Value.entry? "metric_name" es).all isBlankValue) = some true := by decide +kernel
  have henv : plainCheck.environment blankTree blankEnvironment = .ok (blankEnvironment, []) :=
    Settings.eq_ok_of_toOption (by decide +kernel)
  have hs : plainCheck.settings blankTree blankEnvironment = .ok { Settings.standard with metricName := " " } :=
    Settings.eq_ok_of_toOption (by decide +kernel)
  obtain ⟨es, hes, hblankName⟩ := Option.map_eq_some_iff.1 hread
  refine ⟨es, _, by decide +kernel, Settings.eq_ok_of_toOption hes, ⟨_, _, henv, hs⟩, ?_, by decide +kernel, rfl, ?_,
    rfl, by decide⟩
  · rw [hadded]
    have hblank : Text.isBlankText " " = true := by decide +kernel
    have htrim : Value.text "ERROR" = .text (Text.trim "ERROR") := congrArg Value.text (by decide +kernel)
    rw [htrim]
    exact .environmentFile (fun raw h => Option.some.inj h ▸ hblank) rfl (by decide +kernel)
  · rw [hadded]
    intro v h
    cases h with
    | process said full => cases said
    | environmentFile blank said full => cases said
    | settingsFile blank said full =>
      have said : Value.entry? "metric_name" es = some v := said
      rw [said, Option.all_some, full] at hblankName
      cases hblankName

end Triage.Command
