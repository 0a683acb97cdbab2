import Triage.Proofs.Log.Delivery
import Triage.Proofs.Log.Ticket

/-!
# Configuring logging again

Logging may be configured any number of times. Its handlers are replaced each time, and the file is opened at its end,
so that each record is written once by the console and once by the file.

* `threshold_of_isWithin`: **no logger of the program misses a record** from the lowest level on.
* `Entry`, `Entry.lines`: a record with its logger, and the lines that a handler writes of several.
* `Output.Gains`: **what an output has gained** is the lines of entries, in their order, and nothing else.
* `Serves.gains_emit`, `gains_configure`: what handing over one record gains, and configuring once.
* `Activity`, `Session.run`, `entries`: a run of activities, and the records of it; `entries_log`: each of them is tagged
  with the context that was current.
* `gains_step`, `gains_run`: **each activity gains its own entry**, and a run those of its activities.
* `reconfigured_writes_once`: however often logging is configured, **there is one console and one file, and each record
  is written once**.
-/

namespace Triage.Log

/-! ## Loggers -/

/-- The name of the tree starts the name of each logger of it. -/
theorem prefix_of_isWithin {tree logger : String} (h : Output.isWithin tree logger = true) :
    tree.toList <+: logger.toList := by
  unfold Output.isWithin at h
  rw [Bool.or_eq_true, beq_iff_eq, String.startsWith_string_iff, String.toList_append] at h
  rcases h with rfl | h
  · exact List.prefix_refl _
  · exact (List.prefix_append _ _).trans h

/-- **No logger of the program misses a record** from the lowest level on. -/
theorem threshold_of_isWithin {logger : String} (h : Output.isWithin "faultline" logger = true) :
    Output.threshold logger = .debug := by
  have hother : Output.isWithin "opentelemetry" logger = false := by
    refine Bool.eq_false_iff.2 fun hother => ?_
    -- the two names differ in their first letters
    obtain ⟨rest, hrest⟩ := prefix_of_isWithin h
    obtain ⟨rest', hrest'⟩ := prefix_of_isWithin hother
    have hhead := congrArg List.head? (hrest.trans hrest'.symm)
    revert hhead
    simp
  unfold Output.threshold
  rw [hother]
  rfl

/-! ## Entries -/

/-- A record, and the logger that it was written by. -/
structure Entry where
  logger : String
  record : Record
  deriving DecidableEq, Repr

namespace Entry

/-- The line of an entry on the console. -/
def consoleLine (e : Entry) : Line := Log.consoleLine e.record

/-- The line of an entry in a file. -/
def fileLine (e : Entry) : Line := Log.fileLine (Output.loggerTitle e.logger) e.record

/-- Whether an entry is important enough for a handler of a level, and for its logger. -/
def Reaches (e : Entry) (level : Int) : Prop := max LevelName.debug.number level ≤ e.record.level

instance (e : Entry) (level : Int) : Decidable (e.Reaches level) := inferInstanceAs (Decidable (_ ≤ _))

/-- **The lines of entries** that a handler of a level writes. -/
def lines (level : Int) (line : Entry → Line) (es : List Entry) : List Line :=
  (es.filter fun e => e.Reaches level).map line

variable {level : Int} {line : Entry → Line} {e : Entry}

@[simp] theorem lines_nil : lines level line [] = [] := rfl

theorem lines_append (es es' : List Entry) :
    lines level line (es ++ es') = lines level line es ++ lines level line es' := by
  unfold lines
  rw [List.filter_append, List.map_append]

theorem lines_singleton : lines level line [e] = if e.Reaches level then [line e] else [] := by
  by_cases h : e.Reaches level <;> simp [lines, h]

/-- Once its logger takes a record, the level of the handler decides, -/
theorem reaches_iff (h : LevelName.debug.number ≤ e.record.level) : e.Reaches level ↔ ¬ e.record.level < level := by
  unfold Reaches
  omega

/-- and before that it is written nowhere. -/
theorem not_reaches (h : ¬ LevelName.debug.number ≤ e.record.level) : ¬ e.Reaches level := by
  unfold Reaches
  omega

end Entry

/-! ## Files -/

namespace Files

/-- The lines of a file; there are none if there is no file. -/
def linesOf (fs : Files) (path : String) : List Line := (fs.lookup path).getD []

theorem lookup_ensure_of_ne {path target : String} (h : target ≠ path) (fs : Files) :
    (fs.ensure path).lookup target = fs.lookup target := by
  unfold ensure
  split
  · rfl
  · rw [List.lookup_append, List.lookup_cons, beq_false_of_ne h, List.lookup_nil, Option.or_none]

/-- **Opening a file** leaves its lines alone. -/
theorem linesOf_ensure (fs : Files) (path : String) : (fs.ensure path).linesOf path = fs.linesOf path := by
  unfold linesOf ensure
  split
  · rfl
  · next h =>
    rw [Option.not_isSome_iff_eq_none] at h
    rw [List.lookup_append, h, List.lookup_cons_self]
    rfl

theorem size_ensure (fs : Files) (path : String) : (fs.ensure path).size path = fs.size path :=
  congrArg (List.foldr _ 0) (fs.linesOf_ensure path)

theorem linesOf_append {fs : Files} {path : String} (h : (fs.lookup path).isSome = true) (line : Line) :
    (fs.append path line).linesOf path = fs.linesOf path ++ [line] := by
  obtain ⟨lines, hlines⟩ := Option.isSome_iff_exists.1 h
  unfold linesOf
  rw [lookup_append, if_pos rfl, hlines]
  rfl

end Files

/-! ## What is written -/

/-- Whether the file of a setup would be put aside for an entry. -/
def Setup.putsAside (s : Setup) (fs : Files) (e : Entry) : Bool :=
  match s.file with
  | none => false
  | some path => decide (e.Reaches s.fileLevel) && s.rotation.isDue (fs.size (normalPath path)) e.fileLine

namespace Output

variable {o o' o'' : Output} {s : Setup} {e : Entry} {es es' : List Entry}

/-- **What an output has gained** under a setup: the lines of entries, in their order, on the console and at the end of
the file, and nothing in any other file. -/
structure Gains (s : Setup) (o o' : Output) (es : List Entry) : Prop where
  console : o'.console = o.console ++ Entry.lines s.consoleLevel Entry.consoleLine es
  file : ∀ path, s.file = some path → o'.files.linesOf (normalPath path) =
    o.files.linesOf (normalPath path) ++ Entry.lines s.fileLevel Entry.fileLine es
  other : ∀ path, (∀ p, s.file = some p → path ≠ normalPath p) → o'.files.lookup path = o.files.lookup path

theorem Gains.refl (s : Setup) (o : Output) : Gains s o o [] where
  console := (List.append_nil _).symm
  file _ _ := (List.append_nil _).symm
  other _ _ := rfl

theorem Gains.trans (h : Gains s o o' es) (h' : Gains s o' o'' es') : Gains s o o'' (es ++ es') where
  console := by rw [h'.console, h.console, List.append_assoc, Entry.lines_append]
  file path hpath := by rw [h'.file path hpath, h.file path hpath, List.append_assoc, Entry.lines_append]
  other path hpath := (h'.other path hpath).trans (h.other path hpath)

section Deliver

variable (htaken : LevelName.debug.number ≤ e.record.level)
include htaken

/-- The console writes the lines of an entry. -/
theorem deliver_console_entry (o : Output) (level : Int) :
    o.deliver e.logger e.record ⟨.console, level⟩ =
      { o with console := o.console ++ Entry.lines level Entry.consoleLine [e] } := by
  rw [deliver_console, Entry.lines_singleton]
  by_cases hlevel : e.record.level < level
  · rw [if_pos hlevel, if_neg fun h => (Entry.reaches_iff htaken).1 h hlevel]
  · rw [if_neg hlevel, if_pos ((Entry.reaches_iff htaken).2 hlevel)]
    rfl

/-- A file that is not put aside for an entry gets its line at the end, if it is important enough. -/
theorem deliver_file_entry (o : Output) {path : String} {rotation : Rotation} {level : Int}
    (hstays : e.Reaches level → rotation.isDue (o.files.size path) e.fileLine = false) :
    o.deliver e.logger e.record ⟨.file path rotation, level⟩ =
      { o with files := if e.Reaches level then o.files.append path e.fileLine else o.files } := by
  unfold deliver
  by_cases hlevel : e.record.level < level
  · rw [if_pos hlevel, if_neg fun h => (Entry.reaches_iff htaken).1 h hlevel]
  · have hreaches := (Entry.reaches_iff htaken).2 hlevel
    have hroom : rotation.isDue (o.files.size path) (Log.fileLine (loggerTitle e.logger) e.record) = false :=
      hstays hreaches
    rw [if_neg hlevel, if_pos hreaches]
    dsimp only
    rw [hroom, if_neg Bool.false_ne_true]
    rfl

end Deliver

/-- **Handing over one record** writes the lines of its entry, unless the file is put aside for it. -/
theorem Serves.emit_of_stays (h : o.Serves s) (hlogger : threshold e.logger = .debug)
    (hstays : s.putsAside o.files e = false) :
    o.emit e.logger e.record = { o with
      console := o.console ++ Entry.lines s.consoleLevel Entry.consoleLine [e]
      files := match s.file with
        | none => o.files
        | some path => if e.Reaches s.fileLevel then o.files.append (normalPath path) e.fileLine else o.files } := by
  by_cases htaken : LevelName.debug.number ≤ e.record.level
  · rw [h.emit_eq (by rwa [hlogger])]
    cases hfile : s.file with
    | none => exact deliver_console_entry htaken o s.consoleLevel
    | some path =>
      dsimp only
      rw [deliver_console_entry htaken]
      refine deliver_file_entry htaken _ fun hreaches => ?_
      unfold Setup.putsAside at hstays
      rw [hfile] at hstays
      simpa [hreaches] using hstays
  · unfold Output.emit
    rw [if_pos (by rw [hlogger]; omega), Entry.lines_singleton, if_neg (Entry.not_reaches htaken), List.append_nil]
    cases s.file with
    | none => rfl
    | some path =>
      dsimp only
      rw [if_neg (Entry.not_reaches htaken)]

theorem Serves.gains_emit (h : o.Serves s) (hlogger : threshold e.logger = .debug)
    (hstays : s.putsAside o.files e = false) : Gains s o (o.emit e.logger e.record) [e] := by
  rw [h.emit_of_stays hlogger hstays]
  refine ⟨rfl, fun path hpath => ?_, fun path hpath => ?_⟩
  · dsimp only
    rw [hpath, Entry.lines_singleton]
    dsimp only
    split
    · exact Files.linesOf_append (h.file path hpath) e.fileLine
    · exact (List.append_nil _).symm
  · dsimp only
    cases hfile : s.file with
    | none => rfl
    | some p =>
      dsimp only
      split
      · rw [Files.lookup_append, if_neg (hpath p hfile)]
      · rfl

/-- **Opening** gains nothing. -/
theorem gains_opened (o : Output) (s : Setup) : Gains s o (o.opened s) [] where
  console := (List.append_nil _).symm
  file path hpath := by
    unfold opened
    rw [hpath, Entry.lines_nil, List.append_nil]
    exact o.files.linesOf_ensure _
  other path hpath := by
    unfold opened
    cases hfile : s.file with
    | none => rfl
    | some p => exact Files.lookup_ensure_of_ne (hpath p hfile) o.files

theorem putsAside_opened (o : Output) (s : Setup) (e : Entry) :
    s.putsAside (o.opened s).files e = s.putsAside o.files e := by
  unfold Setup.putsAside opened
  cases s.file with
  | none => rfl
  | some path =>
    dsimp only
    rw [Files.size_ensure]

/-- The entry that tells of a configuration. -/
def setupEntry (s : Setup) (c : Context) : Entry := ⟨setupLogger, ⟨LevelName.info.number, c.tags, s.message⟩⟩

/-- **Configuring** gains the entry that tells of it, whatever the handlers were before. -/
theorem gains_configure (o : Output) (s : Setup) (c : Context)
    (hstays : s.putsAside o.files (setupEntry s c) = false) : Gains s o (o.configure s c) [setupEntry s c] := by
  have hwithin : isWithin "faultline" setupLogger = true := by decide +kernel
  have hlogger : threshold (setupEntry s c).logger = .debug := threshold_of_isWithin hwithin
  rw [← putsAside_opened] at hstays
  have hwritten := (serves_opened o s).gains_emit hlogger hstays
  exact (gains_opened o s).trans hwritten

end Output

/-! ## Runs -/

/-- What happens to logging. -/
inductive Activity where
  | configure
  | set (origin service : Option String)
  | restore (position : Nat)
  | clear
  | log (logger : String) (level : Int) (message : String)
  deriving DecidableEq, Repr

namespace Activity

/-- What an activity makes of the book: only three of them change the context. -/
def turn (b : Book) : Activity → Book
  | .set origin service => b.set origin service
  | .restore position => (b.take position).2
  | .clear => b.clear
  | .configure | .log .. => b

/-- The entry of an activity, tagged with the context that is current. -/
def entry? (s : Setup) (c : Context) : Activity → Option Entry
  | .configure => some (Output.setupEntry s c)
  | .log logger level message => some ⟨logger, ⟨level, c.tags, message⟩⟩
  | .set .. | .restore _ | .clear => none

/-- Whether an activity is one of the program itself: whatever is logged is logged by a logger of its tree. -/
def isOwn : Activity → Bool
  | .log logger .. => Output.isWithin "faultline" logger
  | .configure | .set .. | .restore _ | .clear => true

end Activity

/-- The entries of a run: each is tagged with the context that was current when it was logged. -/
def entries (s : Setup) (b : Book) : List Activity → List Entry
  | [] => []
  | a :: as => (a.entry? s b.context).toList ++ entries s (a.turn b) as

variable {s : Setup} {b : Book}

theorem entries_append (s : Setup) (b : Book) (as bs : List Activity) :
    entries s b (as ++ bs) = entries s b as ++ entries s (as.foldl Activity.turn b) bs := by
  induction as generalizing b with
  | nil => rfl
  | cons a as ih => rw [List.cons_append, entries, entries, ih, List.append_assoc, List.foldl_cons]

theorem entries_replicate (s : Setup) (b : Book) (n : Nat) (as : List Activity) :
    entries s b (List.replicate n .configure ++ as) =
      List.replicate n (Output.setupEntry s b.context) ++ entries s b as := by
  induction n with
  | zero => rfl
  | succ n ih =>
    rw [List.replicate_succ, List.replicate_succ, List.cons_append, List.cons_append, ← ih]
    rfl

/-- A part of a context as a line shows it. -/
theorem tag_eq (part : String) : Context.tag part = if part = "" then "-" else part := by
  unfold Context.tag Context.blank
  simp only [String.isEmpty_iff]

/-- **A record stands where it was logged**, and is tagged with the context that was current there. -/
theorem entries_log {before after : List Activity} {logger message : String} {level : Int} {c : Context}
    (hc : (before.foldl Activity.turn b).context = c) :
    entries s b (before ++ .log logger level message :: after) =
      entries s b before ++ ⟨logger, level, ⟨if c.origin = "" then "-" else c.origin,
        if c.service = "" then "-" else c.service⟩, message⟩ :: entries s (before.foldl Activity.turn b) after := by
  rw [entries_append, entries, Activity.entry?, hc, Context.tags, tag_eq, tag_eq]
  rfl

/-- The book, and the output. -/
structure Session where
  book : Book
  output : Output
  deriving DecidableEq, Repr

namespace Session

/-- One activity. -/
def step (s : Setup) (x : Session) (a : Activity) : Session where
  book := a.turn x.book
  output :=
    match a with
    | .configure => x.output.configure s x.book.context
    | .log logger level message => x.output.emit logger ⟨level, x.book.context.tags, message⟩
    | .set .. | .restore _ | .clear => x.output

/-- Several activities, one after the other. -/
def run (s : Setup) (x : Session) (as : List Activity) : Session := as.foldl (step s) x

/-- **The file is never put aside** in a run. -/
def Stays (s : Setup) (x : Session) : List Activity → Prop
  | [] => True
  | a :: as => (∀ e ∈ a.entry? s x.book.context, s.putsAside x.output.files e = false) ∧ (x.step s a).Stays s as

variable {x : Session} {a : Activity} {as : List Activity}

/-- A file without a limit is never put aside. -/
theorem stays_of_unlimited (h : s.rotation.maxBytes ≤ 0) (x : Session) (as : List Activity) : x.Stays s as := by
  induction as generalizing x with
  | nil => trivial
  | cons a as ih =>
    refine ⟨fun e _ => ?_, ih (x.step s a)⟩
    unfold Setup.putsAside Rotation.isDue
    have hlimit : decide (0 < s.rotation.maxBytes) = false := decide_eq_false (by omega)
    cases s.file with
    | none => rfl
    | some path => simp [hlimit]

/-- **Each activity gains its own entry**: one that configures in any state, and any other if the output serves. -/
theorem gains_step (hs : a ≠ .configure → x.output.Serves s) (ha : a.isOwn = true)
    (hstays : ∀ e ∈ a.entry? s x.book.context, s.putsAside x.output.files e = false) :
    Output.Gains s x.output (x.step s a).output (a.entry? s x.book.context).toList ∧
      (x.step s a).output.Serves s := by
  cases a with
  | configure => exact ⟨Output.gains_configure _ _ _ (hstays _ rfl), Output.serves_configure _ _ _⟩
  | log logger level message =>
    have hserves := hs nofun
    have hlogger : Output.threshold logger = .debug := threshold_of_isWithin ha
    exact ⟨hserves.gains_emit (e := ⟨logger, ⟨level, x.book.context.tags, message⟩⟩) hlogger (hstays _ rfl),
      hserves.emit _ _⟩
  | set origin service => exact ⟨.refl _ _, hs nofun⟩
  | restore position => exact ⟨.refl _ _, hs nofun⟩
  | clear => exact ⟨.refl _ _, hs nofun⟩

/-- **A run gains the entries of its activities**, and the output goes on to serve. -/
theorem gains_run (hs : x.output.Serves s) (has : ∀ a ∈ as, a.isOwn = true) (hstays : x.Stays s as) :
    Output.Gains s x.output (x.run s as).output (entries s x.book as) ∧ (x.run s as).output.Serves s := by
  induction as generalizing x with
  | nil => exact ⟨.refl _ _, hs⟩
  | cons a as ih =>
    obtain ⟨hown, hrest⟩ := List.forall_mem_cons.1 has
    obtain ⟨hfirst, hstays⟩ := hstays
    obtain ⟨hgains, hserves⟩ := gains_step (fun _ => hs) hown hfirst
    obtain ⟨hrun, hlast⟩ := ih hserves hrest hstays
    exact ⟨hgains.trans hrun, hlast⟩

/-- **However often logging is configured, each record is written once.** Let logging be configured with one setup, once
or several times, whatever the handlers, the console and the files were before. Then let anything happen: the context is
set, put back or cleared, and loggers of the program write records of any levels; and logging may be configured again.
As long as the file is not put aside:

* there are exactly the handlers of the setup, one for the console and one for the file if there is one;
* the console and the file have gained one line for each record that is important enough, in the order in which they
  were logged, and no other lines; among them is one record for each time that logging was configured;
* what was logged stands where it was logged, tagged with the origin and the service that were current then; a dash
  stands for an empty one. -/
theorem reconfigured_writes_once (s : Setup) (x : Session) {n : Nat} (hn : 1 ≤ n) {as : List Activity}
    (has : ∀ a ∈ as, a.isOwn = true) (hstays : x.Stays s (List.replicate n .configure ++ as)) :
    (x.run s (List.replicate n .configure ++ as)).output.handlers =
      ⟨.console, s.consoleLevel⟩ ::
        (s.file.map fun path => ⟨.file (normalPath path) s.rotation, s.fileLevel⟩).toList ∧
      Output.Gains s x.output (x.run s (List.replicate n .configure ++ as)).output
        (List.replicate n (Output.setupEntry s x.book.context) ++ entries s x.book as) ∧
      ∀ before logger level message after c, as = before ++ .log logger level message :: after →
        (before.foldl Activity.turn x.book).context = c →
          entries s x.book as = entries s x.book before ++ ⟨logger, level, ⟨if c.origin = "" then "-" else c.origin,
            if c.service = "" then "-" else c.service⟩, message⟩ ::
              entries s (before.foldl Activity.turn x.book) after := by
  obtain ⟨m, rfl⟩ : ∃ m, n = m + 1 := ⟨n - 1, by omega⟩
  rw [← entries_replicate]
  rw [List.replicate_succ, List.cons_append] at hstays ⊢
  have hown : ∀ a ∈ List.replicate m Activity.configure ++ as, a.isOwn = true := by
    intro a ha
    rcases List.mem_append.1 ha with hconfigure | hrest
    · rw [List.eq_of_mem_replicate hconfigure]
      trivial
    · exact has a hrest
  obtain ⟨hfirst, hstays⟩ := hstays
  -- the first configuration makes the output serve the setup, and from then on it always does
  obtain ⟨hgains, hserves⟩ := gains_step (a := .configure) (fun h => absurd rfl h) rfl hfirst
  obtain ⟨hrun, hlast⟩ := gains_run hserves hown hstays
  refine ⟨hlast.handlers, hgains.trans hrun, fun before logger level message after c hsplit hc => ?_⟩
  rw [hsplit]
  exact entries_log hc

/-- A setup with a file that has no limit. -/
def filed : Setup := { Setup.standard with file := some "logs//faults.log", rotation := ⟨0, 5⟩ }

/-- Records of several levels, in several contexts. -/
def busyDay : List Activity :=
  [.set (some "Parser") none, .log "faultline.app" 25 "late", .log "faultline" 5 "lost", .set (some "") (some "svc"),
    .log "faultline" 10 "quiet", .restore 0, .log "faultline.app" 40 "failed"]

/-- Logging is configured twice, and each record is written once. What is less than informative is in the file only, and
what is less than that is nowhere. -/
theorem reconfigured_writes_once_busyDay :
    1 ≤ 2 ∧ (∀ a ∈ busyDay, a.isOwn = true) ∧
      Stays filed ⟨.empty, .empty⟩ (List.replicate 2 .configure ++ busyDay) ∧
      (run filed ⟨.empty, .empty⟩ (List.replicate 2 .configure ++ busyDay)).output.console =
        [" [INFO] o=- s=- | Logging configured (console_level=INFO, file=logs/faults.log)",
          " [INFO] o=- s=- | Logging configured (console_level=INFO, file=logs/faults.log)",
          " [Level 25] o=Parser s=- | late", " [ERROR] o=- s=svc | failed"] ∧
      ((run filed ⟨.empty, .empty⟩ (List.replicate 2 .configure ++ busyDay)).output.files.linesOf
        "logs/faults.log").length = 5 := by
  have hown : ∀ a ∈ busyDay, a.isOwn = true := by decide +kernel
  have hstays : Stays filed ⟨.empty, .empty⟩ (List.replicate 2 .configure ++ busyDay) :=
    stays_of_unlimited (by decide) _ _
  obtain ⟨-, hgains, -⟩ := reconfigured_writes_once filed ⟨.empty, .empty⟩ (by decide : 1 ≤ 2) hown hstays
  refine ⟨by decide, hown, hstays, hgains.console.trans (by decide +kernel), ?_⟩
  have hpath : "logs/faults.log" = normalPath "logs//faults.log" := by decide +kernel
  rw [hpath, hgains.file _ rfl]
  decide +kernel

end Session

end Triage.Log
