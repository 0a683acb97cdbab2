import Triage.Log.Output

/-!
# Where a record arrives

An output that was configured hands every record of the right levels to its console, and to its file if it has one.

* `Files.lookup_append`, `Files.isSome_lookup_rotate`: **a file stays there**, also when the old one is put aside.
* `Output.Serves`: an output with the handlers of a setup and with its file; `serves_opened`, `serves_configure`,
  `Serves.emit`.
* `Serves.console_emit`, `Serves.files_emit`: **one line for each record**, on the console and in the file.
* `Output.Writes`, `Serves.writes`: so it is with every record of a failure, whatever its logger.
-/

namespace Triage.Log

namespace Files

variable {fs : Files} {path : String}

/-- A line is written at the end of its file, and into no other one. -/
theorem lookup_append (fs : Files) (path target : String) (line : Line) :
    (fs.append path line).lookup target =
      if target = path then (fs.lookup target).map (· ++ [line]) else fs.lookup target := by
  induction fs with
  | nil => simp [append]
  | cons f fs ih =>
    obtain ⟨name, lines⟩ := f
    unfold append at ih ⊢
    rw [List.map_cons]
    by_cases htarget : target = name
    · subst htarget
      by_cases hpath : target = path <;> simp [hpath]
    · have hother : (target == name) = false := beq_false_of_ne htarget
      -- this file is not the one that is looked up, whether or not the line is written into it
      split
      · rw [List.lookup_cons, List.lookup_cons, hother]
        exact ih
      · rw [List.lookup_cons, List.lookup_cons, hother]
        exact ih

theorem isSome_lookup_append (h : (fs.lookup path).isSome = true) (target : String) (line : Line) :
    ((fs.append target line).lookup path).isSome = true := by
  rw [lookup_append]
  split
  · rwa [Option.isSome_map]
  · exact h

theorem isSome_lookup_ensure (fs : Files) (path : String) : ((fs.ensure path).lookup path).isSome = true := by
  unfold ensure
  split
  · assumption
  · rw [List.lookup_append]
    simp

/-- **A new file takes the place** of one that was put aside. -/
theorem isSome_lookup_rotate (h : (fs.lookup path).isSome = true) (backups : Nat) :
    ((fs.rotate path backups).lookup path).isSome = true := by
  cases backups with
  | zero => exact h
  | succ n => exact isSome_lookup_ensure _ path

end Files

namespace Output

variable {o : Output} {s : Setup} {r : Record} {logger : String}

/-- An output **serves** a setup: it has the handlers that were asked for, and the file is there. -/
structure Serves (o : Output) (s : Setup) : Prop where
  handlers : o.handlers = s.handlers
  file : ∀ path, s.file = some path → (o.files.lookup (normalPath path)).isSome = true

@[simp] theorem handlers_deliver (o : Output) (logger : String) (r : Record) (h : Handler) :
    (o.deliver logger r h).handlers = o.handlers := by
  unfold deliver
  split
  · rfl
  · cases h.place <;> rfl

/-- No file goes away when a record is handed to a handler of that file. -/
theorem isSome_files_deliver {path : String} (h : (o.files.lookup path).isSome = true) (logger : String) (r : Record)
    (rotation : Rotation) (level : Int) :
    ((o.deliver logger r ⟨.file path rotation, level⟩).files.lookup path).isSome = true := by
  unfold deliver
  split
  · exact h
  · refine Files.isSome_lookup_append ?_ _ _
    split
    · exact Files.isSome_lookup_rotate h _
    · exact h

theorem deliver_console (o : Output) (logger : String) (r : Record) (level : Int) :
    o.deliver logger r ⟨.console, level⟩ =
      { o with console := o.console ++ if r.level < level then [] else [consoleLine r] } := by
  unfold deliver
  split
  · simp
  · simp

/-- A handler of a file leaves the console alone. -/
theorem console_deliver_file (o : Output) (logger : String) (r : Record) (path : String) (rotation : Rotation)
    (level : Int) : (o.deliver logger r ⟨.file path rotation, level⟩).console = o.console := by
  unfold deliver
  split <;> rfl

/-- A handler of a file writes one line at the end of it. -/
theorem files_deliver_file {path : String} {level : Int} (h : (o.files.lookup path).isSome = true)
    (hlevel : level ≤ r.level) (logger : String) (rotation : Rotation) :
    ∃ lines, (o.deliver logger r ⟨.file path rotation, level⟩).files.lookup path =
      some (lines ++ [fileLine (loggerTitle logger) r]) := by
  unfold deliver
  rw [if_neg (Int.not_lt.2 hlevel)]
  dsimp only
  rw [Files.lookup_append, if_pos rfl]
  have hthere : ((if rotation.isDue (o.files.size path) (fileLine (loggerTitle logger) r) = true then
      o.files.rotate path rotation.backups.toNat else o.files).lookup path).isSome = true := by
    split
    · exact Files.isSome_lookup_rotate h _
    · exact h
  obtain ⟨lines, hlines⟩ := Option.isSome_iff_exists.1 hthere
  rw [hlines]
  exact ⟨lines, rfl⟩

/-- What a setup does with a record that its logger takes: the console comes first, and then the file. -/
theorem Serves.emit_eq (h : o.Serves s) (hlogger : (threshold logger).number ≤ r.level) :
    o.emit logger r = match s.file with
      | none => o.deliver logger r ⟨.console, s.consoleLevel⟩
      | some path => (o.deliver logger r ⟨.console, s.consoleLevel⟩).deliver logger r
          ⟨.file (normalPath path) s.rotation, s.fileLevel⟩ := by
  unfold emit
  rw [if_neg (by omega), h.handlers, Setup.handlers]
  cases s.file <;> rfl

/-- **Whatever is emitted**, the output goes on to serve its setup. -/
theorem Serves.emit (h : o.Serves s) (logger : String) (r : Record) : (o.emit logger r).Serves s := by
  by_cases hlogger : (threshold logger).number ≤ r.level
  · rw [h.emit_eq hlogger]
    cases hfile : s.file with
    | none =>
      dsimp only
      refine ⟨by rw [handlers_deliver, h.handlers], fun path hpath => ?_⟩
      rw [hfile] at hpath
      cases hpath
    | some p =>
      dsimp only
      refine ⟨by rw [handlers_deliver, handlers_deliver, h.handlers], fun path hpath => ?_⟩
      rw [hfile] at hpath
      obtain rfl := Option.some.inj hpath
      refine isSome_files_deliver ?_ _ _ _ _
      rw [deliver_console]
      exact h.file p hfile
  · unfold Output.emit
    rwa [if_pos (by omega)]

/-- The output with the handlers of a setup and its file opened, before anything is written. -/
def opened (o : Output) (s : Setup) : Output :=
  { o with
    handlers := s.handlers
    files := match s.file with
      | none => o.files
      | some p => o.files.ensure (normalPath p) }

theorem serves_opened (o : Output) (s : Setup) : (o.opened s).Serves s := by
  refine ⟨rfl, fun path hpath => ?_⟩
  unfold opened
  rw [hpath]
  exact Files.isSome_lookup_ensure _ _

/-- **Configuring** makes an output serve a setup, whatever it was before. -/
theorem serves_configure (o : Output) (s : Setup) (c : Context) : (o.configure s c).Serves s :=
  (serves_opened o s).emit _ _

/-- **One line on the console** for each record that is important enough. -/
theorem Serves.console_emit (h : o.Serves s) (hlogger : (threshold logger).number ≤ r.level) :
    (o.emit logger r).console = o.console ++ if r.level < s.consoleLevel then [] else [consoleLine r] := by
  rw [h.emit_eq hlogger]
  cases s.file with
  | none => rw [deliver_console]
  | some path =>
    dsimp only
    rw [console_deliver_file, deliver_console]

/-- **One line at the end of the file** for each such record. -/
theorem Serves.files_emit (h : o.Serves s) (hlogger : (threshold logger).number ≤ r.level) {path : String}
    (hpath : s.file = some path) (hlevel : s.fileLevel ≤ r.level) :
    ∃ lines, (o.emit logger r).files.lookup (normalPath path) =
      some (lines ++ [fileLine (loggerTitle logger) r]) := by
  rw [h.emit_eq hlogger, hpath]
  dsimp only
  refine files_deliver_file ?_ hlevel _ _
  rw [deliver_console]
  exact h.file path hpath

/-- An output **writes** a record: one line on the console, and one at the end of its file, each if the record is
important enough. -/
structure Writes (o : Output) (s : Setup) (logger : String) (r : Record) : Prop where
  console : (o.emit logger r).console = o.console ++ if r.level < s.consoleLevel then [] else [consoleLine r]
  file : ∀ path, s.file = some path → s.fileLevel ≤ r.level →
    ∃ lines, (o.emit logger r).files.lookup (normalPath path) = some (lines ++ [fileLine (loggerTitle logger) r])

/-- No logger misses a record of a failure. -/
theorem threshold_le_error (logger : String) : (threshold logger).number ≤ LevelName.error.number := by
  unfold threshold
  split <;> decide

/-- **Every record of a failure is written.** -/
theorem Serves.writes (h : o.Serves s) (hr : r.level = LevelName.error.number) : o.Writes s logger r := by
  have hlogger : (threshold logger).number ≤ r.level := hr ▸ threshold_le_error logger
  exact ⟨h.console_emit hlogger, fun _ hpath hlevel => h.files_emit hlogger hpath hlevel⟩

end Output

end Triage.Log
