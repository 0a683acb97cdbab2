import Triage.Proofs.Fault.Label
import Triage.Proofs.Log.Delivery
import Triage.Proofs.Observer.LogContext
import Triage.Proofs.Observer.Totality
import Triage.Proofs.Text.LineBreak

/-!
# Observations that take more than one line

An observation writes one record, and every handler makes one line of it. The texts that go into the line are written as
they are, so that a line break in one of them breaks the line.

* `mem_prettyLabel_iff`: **a label is broken where the name is** of which it is made.
* `Fault.lineTexts`: the texts that a fault brings into its line; `Observer.lineTexts`: all texts that go into it.
* `Observer.Told`: what an answered observation writes: one record of a failure, and no other; `told_of_named`.
* `mem_consoleLine_iff`: **the line is broken where one of these texts is**.
* `textOfLines_of_message`: what follows a line break in a message may be any line.
* `one_line_unless_broken`: **an observation takes one line exactly if each of its texts does**.
-/

namespace Triage

open Text (lineBreaks IsOneLine)

variable {x : Char}

/-! ## Labels -/

theorem mem_capitalize_iff (hx : x ∈ lineBreaks) (cs : List Char) : x ∈ capitalize cs ↔ x ∈ cs := by
  cases cs with
  | nil => exact Iff.rfl
  | cons c cs => rw [capitalize, List.mem_append, Text.mem_upperChars_iff hx, List.mem_cons, eq_comm]

theorem mem_dropEnding_iff {ending : List Char} (hx : x ∉ ending) (cs : List Char) :
    x ∈ dropEnding ending cs ↔ x ∈ cs := by
  by_cases h : ending <:+ cs
  · obtain ⟨bare, rfl⟩ := h
    rw [dropEnding_of_suffix, List.mem_append, or_iff_left hx]
  · rw [dropEnding_of_not_suffix h]

/-- **A label is broken where the name is** of which it is made. -/
theorem mem_prettyLabel_iff (hx : x ∈ lineBreaks) (name : String) :
    x ∈ (prettyLabel name).toList ↔ x ∈ name.toList := by
  have hendings : ∀ x ∈ lineBreaks, x ∉ "Error".toList ∧ x ∉ "Exception".toList := by decide
  obtain ⟨herror, hexception⟩ := hendings x hx
  rw [toList_prettyLabel, List.mem_append, or_iff_left herror, stem, mem_dropEnding_iff herror,
    mem_dropEnding_iff hexception, mem_capitalize_iff hx]

namespace Fault

variable {f : Fault} {cause : Option Fault}

instance (f : Fault) : Decidable f.IsAnonymous :=
  inferInstanceAs (Decidable (f.cls.generic = some .exception ∨ f.cls.generic = some .runtime))

/-- The error type that stands at the front of the label of a structured fault. -/
def labelType? (f : Fault) : Option String :=
  if f.cls.isEngine ∧ ¬ f.IsAnonymous then f.errorType else none

/-- What stands before the name of the class is broken where the error type is, or else where the token is. -/
theorem mem_labelToken_iff (hx : x ∈ lineBreaks) (f : Fault) (token : String) :
    x ∈ token.toList ∨ x ∈ (f.labelToken token).toList ↔ x ∈ token.toList ∨ ∃ t ∈ f.labelType?, x ∈ t.toList := by
  unfold labelType?
  by_cases ha : f.IsAnonymous
  · rw [labelToken_of_anonymous ha]
    simp [ha]
  · rw [labelToken_of_not_anonymous ha]
    cases f.cls.isEngine with
    | false => simp
    | true => cases f.errorType <;> simp [ha, Text.mem_lower_iff hx]

/-- The text that showing a fault gives, if it gives one. -/
def shownText? (f : Fault) : Option String :=
  match f.shown with
  | .text s => some s
  | .broken _ => none

/-- The texts that a fault brings into the line that tells of it: the name and the error type of its label, the name of
its class, its message, and how its cause is shown. -/
def lineTexts (f : Fault) (cause : Option Fault) : List String :=
  (f.named cause).cls.name :: (f.named cause).labelType?.toList ++ f.cls.name :: f.matchText ::
    (cause.bind shownText?).toList

/-- The line that tells of a fault is broken where its texts are. -/
theorem mem_describe_iff (hx : x ∈ lineBreaks) {line : String} (h : f.describe cause = .ok line) :
    x ∈ line.toList ↔ ∃ t ∈ f.cls.name :: f.matchText :: (cause.bind shownText?).toList, x ∈ t.toList := by
  have hfixed : ∀ x ∈ lineBreaks, x ∉ "Exception: ".toList ∧ x ∉ ". Message: ".toList ∧ x ∉ ". Cause: ".toList ∧
      x ∉ ". Cause: None".toList ∧ x ∉ Value.null.toText.toList := by decide
  obtain ⟨hname, hmessage, hcause, hnone, hempty⟩ := hfixed x hx
  unfold describe at h
  cases hm : f.message with
  | broken e =>
    rw [hm] at h
    cases h
  | text s =>
    have htext : f.matchText = s := by
      unfold matchText
      rw [hm]
    have hshown : x ∈ (if s.isEmpty then Value.null.toText else s).toList ↔ x ∈ s.toList := by
      split
      · next hs => exact iff_of_false hempty (by simp [String.isEmpty_iff.1 hs])
      · exact Iff.rfl
    rw [hm] at h
    dsimp only at h
    rw [htext]
    cases cause with
    | none =>
      obtain rfl := Except.ok.inj h
      simp only [toString, String.toList_append, List.mem_append, hname, hmessage, hnone, hshown]
      simp
    | some p =>
      rw [Option.map_some] at h
      rw [Option.bind_some, shownText?]
      cases hp : p.shown with
      | broken e =>
        rw [hp] at h
        cases h
      | text shown =>
        rw [hp] at h
        obtain rfl := Except.ok.inj h
        simp only [toString, String.toList_append, List.mem_append, hname, hmessage, hcause, hshown]
        simp [or_assoc]

end Fault

namespace Observer

/-- The name of the logger of observers. -/
def logger : String := "faultline.application.observer"

/-- All texts that go into the line of an observation. -/
def lineTexts (u : Series) (f : Fault) (cause : Option Fault) : List String :=
  u.category :: u.source :: u.service :: f.lineTexts cause

/-- Between two states an observation was told of: of the records that were written, the last one is of a failure, and
no other. -/
structure Told (s s' : State) (r : Log.Record) : Prop where
  level : r.level = Log.LevelName.error.number
  records : ∃ front, s'.book.records = s.book.records ++ front ++ [r] ∧
    ∀ y ∈ front, y.level < Log.LevelName.error.number

variable {o : Observer} {s s' : State} {c : Call} {u : Series}

/-! ## What an observation writes -/

theorem level_of_mem_loadingLines {l : Log.LevelName × String} (h : l ∈ s.loadingLines) :
    l.1.number < Log.LevelName.error.number := by
  unfold State.loadingLines at h
  split at h
  · cases h
  · obtain ⟨line, -, rfl⟩ := List.mem_map.1 h
    exact (by decide : Log.LevelName.info.number < Log.LevelName.error.number)
  · obtain ⟨line, -, rfl⟩ := List.mem_map.1 h
    exact (by decide : Log.LevelName.warning.number < Log.LevelName.error.number)

/-- Nothing that a call tells in the context of its caller is a failure. -/
theorem level_of_mem_callLines {l : Log.LevelName × String} (h : l ∈ o.callLines s c) :
    l.1.number < Log.LevelName.error.number := by
  unfold callLines at h
  split at h
  · cases h
  · rcases List.mem_append.1 h with hloading | hmatch
    · split at hloading
      · exact level_of_mem_loadingLines hloading
      · cases hloading
    · split at hmatch
      · cases hmatch
      · obtain ⟨selection, -, rfl⟩ := List.mem_map.1 hmatch
        exact (by decide : Log.LevelName.debug.number < Log.LevelName.error.number)

/-- The last line of a recording step is the one of the fault, if it can be shown, and the only one of a failure. -/
theorem Recording.lines_of_shown (u : Series) (line : String) (k : Counter) :
    ∃ front, (Recording.mk u (.ok line)).lines k = front ++ [(.error, countedLine u line)] ∧
      ∀ l ∈ front, l.1.number < Log.LevelName.error.number := by
  unfold Recording.lines
  refine ⟨_, rfl, fun l hl => ?_⟩
  split at hl
  · rw [List.mem_singleton.1 hl]
    exact (by decide : Log.LevelName.debug.number < Log.LevelName.error.number)
  · cases hl
  · cases hl

/-- The record of a counted fault. -/
def countedRecord (u : Series) (line : String) : Log.Record :=
  ⟨Log.LevelName.error.number, Log.Context.tags ⟨u.source, u.service⟩, countedLine u line⟩

/-- **An observation of a fault that is named and can be shown** is answered, and told of. -/
theorem told_of_named {line : String} (hu : ((o.classify c).on s).1 = .ok u) (hd : c.described = .ok line) :
    ((o.observe c).on s).1 = .ok () ∧ Told s ((o.observe c).on s).2 (countedRecord u line) := by
  have hrecording : o.recordingOf s (.observe c) = some ⟨u, .ok line⟩ := by simp only [recordingOf, hu, hd]
  have hwrote := wrote_observe o s c
  rw [hrecording] at hwrote
  constructor
  · rw [observe_eq]
    rcases hx : (o.classify c).on s with ⟨a, s'⟩
    rw [hx] at hu
    obtain rfl : a = .ok u := hu
    rw [hd]
    rfl
  · obtain ⟨front, hlines, hlevels⟩ := Recording.lines_of_shown u line s.counter
    have hstamped {context : Log.Context} {ls : List (Log.LevelName × String)}
        (h : ∀ l ∈ ls, l.1.number < Log.LevelName.error.number) :
        ∀ y ∈ context.stamp ls, y.level < Log.LevelName.error.number := by
      intro y hy
      obtain ⟨l, hl, rfl⟩ := List.mem_map.1 hy
      exact h l hl
    refine ⟨rfl, s.book.context.stamp (o.callLines s c) ++ Log.Context.stamp ⟨u.source, u.service⟩ front, ?_, ?_⟩
    · rw [hwrote.records, Option.elim_some, hlines, Log.Context.stamp_append, ← List.append_assoc, ← List.append_assoc]
      rfl
    · intro y hy
      rcases List.mem_append.1 hy with hcall | hfront
      · exact hstamped (fun l hl => level_of_mem_callLines hl) y hcall
      · exact hstamped hlevels y hfront

/-! ## The line of a record -/

theorem mem_tag_iff (hx : x ∈ lineBreaks) (part : String) : x ∈ (Log.Context.tag part).toList ↔ x ∈ part.toList := by
  unfold Log.Context.tag
  split
  · next hpart =>
    have hblank : ∀ x ∈ lineBreaks, x ∉ Log.Context.blank.toList := by decide
    exact iff_of_false (hblank x hx) (by simp [String.isEmpty_iff.1 hpart])
  · exact Iff.rfl

theorem mem_countedLine_iff (hx : x ∈ lineBreaks) (u : Series) (line : String) :
    x ∈ (countedLine u line).toList ↔ x ∈ u.label.toList ∨ x ∈ u.category.toList ∨ x ∈ u.source.toList ∨
      x ∈ u.service.toList ∨ x ∈ line.toList := by
  have hfixed : ∀ x ∈ lineBreaks, x ∉ "Exception added to metric - Label: ".toList ∧ x ∉ ". Category: ".toList ∧
      x ∉ ". Source: ".toList ∧ x ∉ ". Service: ".toList ∧ x ∉ ". ".toList ∧ x ∉ ".".toList := by decide +kernel
  obtain ⟨hlabel, hcategory, hsource, hservice, hblank, hend⟩ := hfixed x hx
  unfold countedLine
  simp only [toString, String.toList_append, List.mem_append, hlabel, hcategory, hsource, hservice, hblank,
    hend, false_or, or_false, or_assoc]

/-- What stands in a line before the message of a record is broken only in its context. -/
theorem mem_consoleLine_countedRecord_iff (hx : x ∈ lineBreaks) (u : Series) (line : String) :
    x ∈ (Log.consoleLine (countedRecord u line)).toList ↔
      x ∈ u.source.toList ∨ x ∈ u.service.toList ∨ x ∈ (countedLine u line).toList := by
  have hfixed : ∀ x ∈ lineBreaks, x ∉ " [".toList ∧ x ∉ (Log.levelTitle 40).toList ∧ x ∉ "] o=".toList ∧
      x ∉ " s=".toList ∧ x ∉ " | ".toList := by decide
  obtain ⟨hopen, htitle, horigin, hservice, hbar⟩ := hfixed x hx
  unfold Log.consoleLine
  simp only [countedRecord, Log.LevelName.number, Log.Context.tags, toString, String.toList_append,
    List.mem_append, hopen, htitle, horigin, hservice, hbar, mem_tag_iff hx, false_or, or_false, or_assoc]

theorem mem_fileLine_countedRecord_iff (hx : x ∈ lineBreaks) (u : Series) (line : String) :
    x ∈ (Log.fileLine (Log.Output.loggerTitle logger) (countedRecord u line)).toList ↔
      x ∈ u.source.toList ∨ x ∈ u.service.toList ∨ x ∈ (countedLine u line).toList := by
  have hfixed : ∀ x ∈ lineBreaks, x ∉ " [".toList ∧ x ∉ (Log.levelTitle 40).toList ∧ x ∉ "] ".toList ∧
      x ∉ (Log.Output.loggerTitle logger).toList ∧ x ∉ " | o=".toList ∧ x ∉ " s=".toList ∧ x ∉ " | ".toList := by
    decide
  obtain ⟨hopen, htitle, hclose, hlogger, horigin, hservice, hbar⟩ := hfixed x hx
  unfold Log.fileLine
  simp only [countedRecord, Log.LevelName.number, Log.Context.tags, toString, String.toList_append,
    List.mem_append, hopen, htitle, hclose, hlogger, horigin, hservice, hbar, mem_tag_iff hx, false_or, or_false,
    or_assoc]

/-- The message is one of the texts. -/
theorem mem_lineTexts_message (u : Series) (f : Fault) (cause : Option Fault) : f.matchText ∈ lineTexts u f cause := by
  simp [lineTexts, Fault.lineTexts]

variable {f : Fault} {cause : Option Fault} {line : String}

/-- **The line is broken where one of its texts is.** -/
theorem mem_countedLine_iff_lineTexts (hx : x ∈ lineBreaks) (hlabel : u.label = f.label cause u.source)
    (hline : f.describe cause = .ok line) :
    x ∈ u.source.toList ∨ x ∈ u.service.toList ∨ x ∈ (countedLine u line).toList ↔
      ∃ t ∈ lineTexts u f cause, x ∈ t.toList := by
  have hnamed : x ∈ u.label.toList ↔
      x ∈ ((f.named cause).labelToken u.source).toList ∨ x ∈ (f.named cause).cls.name.toList := by
    rw [hlabel, Fault.label_eq_prettyLabel, mem_prettyLabel_iff hx, String.toList_append, List.mem_append]
  have htoken := Fault.mem_labelToken_iff hx (f.named cause) u.source
  rw [mem_countedLine_iff hx, hnamed, Fault.mem_describe_iff hx hline]
  simp only [lineTexts, Fault.lineTexts, List.cons_append, List.mem_cons, List.mem_append, Option.mem_toList,
    or_and_right, exists_or, exists_eq_left, Option.mem_def] at htoken ⊢
  grind

/-- A message that is not empty stands in the line as it is. -/
theorem exists_consoleLine {message : String} (hm : f.message = .text message) (hne : message ≠ "")
    (hline : f.describe cause = .ok line) (u : Series) :
    ∃ front back, Log.consoleLine (countedRecord u line) = front ++ message ++ back := by
  obtain ⟨rest, hrest⟩ : ∃ rest, line = "Exception: " ++ f.cls.name ++ ". Message: " ++ message ++ rest := by
    unfold Fault.describe at hline
    rw [hm] at hline
    dsimp only at hline
    rw [if_neg (by simpa using hne)] at hline
    rcases cause with _ | p
    · exact ⟨_, (Except.ok.inj hline).symm⟩
    · rw [Option.map_some] at hline
      cases hp : p.shown with
      | broken e =>
        rw [hp] at hline
        cases hline
      | text shown =>
        rw [hp] at hline
        exact ⟨". Cause: " ++ shown, by rw [← Except.ok.inj hline]; simp [toString, String.append_assoc]⟩
  subst hrest
  refine ⟨s!" [{Log.levelTitle 40}] o={Log.Context.tag u.source} s={Log.Context.tag u.service} | " ++
    s!"Exception added to metric - Label: {u.label}. Category: {u.category}. Source: {u.source}" ++
      s!". Service: {u.service}. " ++ s!"Exception: {f.cls.name}. Message: ", rest ++ ".", ?_⟩
  unfold Log.consoleLine countedRecord countedLine
  simp only [toString, Log.Context.tags, Log.LevelName.number, String.append_assoc]

/-- **What follows a line break in a message** may be any line: the text that is written is that of two. -/
theorem textOfLines_of_message {time a b : String} (hm : f.message = .text (a ++ "\n" ++ time ++ b))
    (hline : f.describe cause = .ok line) (u : Series) :
    ∃ front back, Log.textOfLines time [Log.consoleLine (countedRecord u line)] =
      Log.textOfLines time [front, b ++ back] := by
  obtain ⟨front, back, h⟩ := exists_consoleLine hm (by simp) hline u
  refine ⟨front ++ a, back, ?_⟩
  rw [h]
  simp [Log.textOfLines, String.join, String.append_assoc]

/-- **An observation takes one line unless one of its texts is broken.** Let the taxonomy be there, let all categories
that were given to the faults of a graph be legal, let the origin have a name and the service be a text or nothing,
and let the fault and its cause be fit to be shown. Then:

* the observation is answered, and one record of a failure is written, as the last one;
* every output that was configured makes one line of it, on the console and in its file;
* the line is broken exactly if one of the texts is that go into it: category, source and service, the names of the
  classes and the error type, the message, and how the cause is shown;
* what follows a line break in the message may be any line, which reads like that of another record. -/
theorem one_line_unless_broken {cl : Classifier} (hs : s.stage = .ready cl) (origin : Origin) {g : FaultGraph} {i : Nat}
    {f : Fault} (hf : g.fault? i = some f) (hg : g.IsLegal) {source : String} (hsource : origin.source = .ok source)
    {service : Value} (hservice : service = .null ∨ ∃ text, service = .text text)
    (hshow : ∀ message, ¬ g.Unshowable i message) :
    ∃ u r, ((o.observe ⟨origin, g, .fault i, service⟩).on s).1 = .ok () ∧
      Told s ((o.observe ⟨origin, g, .fault i, service⟩).on s).2 r ∧
      (u.source = source ∧ checkService service = .ok u.service ∧ cl.taxonomy.Knows u.category) ∧
      (∀ out setup, Log.Output.Serves out setup → out.Writes setup logger r) ∧
      (IsOneLine (Log.consoleLine r) ↔ ∀ t ∈ lineTexts u f (g.causeFault? i), IsOneLine t) ∧
      (IsOneLine (Log.fileLine (Log.Output.loggerTitle logger) r) ↔
        ∀ t ∈ lineTexts u f (g.causeFault? i), IsOneLine t) ∧
      ∀ time a b, f.message = .text (a ++ "\n" ++ time ++ b) →
        ∃ front back, Log.textOfLines time [Log.consoleLine r] = Log.textOfLines time [front, b ++ back] := by
  obtain ⟨⟨u, hu, hknown, -, husource, huservice⟩, -⟩ :=
    classify_always_answers (o := o) hs origin hf hg hsource hservice
  obtain ⟨line, hline⟩ : ∃ line, g.describe i = .ok line := by
    cases hd : g.describe i with
    | ok line => exact ⟨line, rfl⟩
    | error message => exact absurd (FaultGraph.describe_eq_error_iff.1 hd) (hshow message)
  obtain ⟨hanswer, htold⟩ := told_of_named hu hline
  have hdescribe : f.describe (g.causeFault? i) = .ok line := by
    unfold FaultGraph.describe at hline
    rwa [hf] at hline
  have hlabel : u.label = f.label (g.causeFault? i) u.source := by
    obtain ⟨j, classifier, hcheck, hseries⟩ := exists_seriesOf_of_named hu
    obtain ⟨source, v, name, -, -, -, rfl⟩ := seriesOf_eq_ok_iff.1 hseries
    obtain rfl : i = j := Subject.fault.inj (check_eq_ok_iff.1 hcheck).2
    rw [FaultGraph.label_of_fault hf, Option.getD_some]
  refine ⟨u, _, hanswer, htold, ⟨husource, huservice, hknown⟩, fun out setup h => h.writes rfl, ?_, ?_,
    fun time a b hm => textOfLines_of_message hm hdescribe u⟩
  · refine Text.isOneLine_iff fun x hx => ?_
    rw [mem_consoleLine_countedRecord_iff hx, mem_countedLine_iff_lineTexts hx hlabel hdescribe]
  · refine Text.isOneLine_iff fun x hx => ?_
    rw [mem_fileLine_countedRecord_iff hx, mem_countedLine_iff_lineTexts hx hlabel hdescribe]

/-- A fault whose message goes on in another line, which reads like that of a record. -/
def forgingGraph : FaultGraph :=
  ⟨#[Fault.ofTexts "ValueError" "late\n12:00:00 [ERROR] o=- s=- | all is well" ""]⟩

/-- Its record is written by every output that was just configured, and at noon that makes two lines. -/
theorem one_line_unless_broken_forgingGraph :
    ∃ r, Told .bare ((standard.observe ⟨.callSite .unrecognised, forgingGraph, .fault 0, .null⟩).on .bare).2 r ∧
      (∀ (out : Log.Output) setup context, (out.configure setup context).Writes setup logger r) ∧
      ¬ IsOneLine (Log.consoleLine r) ∧
      ∃ front back, Log.textOfLines "12:00:00" [Log.consoleLine r] =
        Log.textOfLines "12:00:00" [front, " [ERROR] o=- s=- | all is well" ++ back] := by
  have hg : forgingGraph.IsLegal := by decide +kernel
  have hshow (message : String) : ¬ forgingGraph.Unshowable 0 message := by
    rw [← FaultGraph.describe_eq_error_iff]
    intro h
    cases h
  obtain ⟨u, r, -, htold, -, hwrites, hline, -, hforged⟩ :=
    one_line_unless_broken (o := standard) (s := .bare) rfl (.callSite .unrecognised) (g := forgingGraph) (i := 0) rfl
      hg rfl (.inl rfl) hshow
  refine ⟨r, htold, fun out setup context => hwrites _ _ (Log.Output.serves_configure out setup context),
    fun hone => ?_, hforged "12:00:00" "late" " [ERROR] o=- s=- | all is well" rfl⟩
  exact absurd (hline.1 hone _ (mem_lineTexts_message _ _ _)) (by decide +kernel)

end Observer

end Triage
