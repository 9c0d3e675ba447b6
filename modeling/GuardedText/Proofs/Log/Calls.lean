import GuardedText.Proofs.Log.Entry
import GuardedText.Proofs.Log.Writer
import GuardedText.Proofs.Text.Lines
import Mathlib

/-! What the calls of a writer leave. A call below the configured level leaves nothing. Any other
prints the line of its record and appends it to the file, unless the record has no line: then it
fails and leaves nothing. So after a run the file holds the lines of the calls in their order,
behind what it held before. -/

namespace GuardedText.Log

/-- The level is below the configured one, which is given as a text. A text that names no level has
none below it. -/
def isBelow (configured : String) (level : Level) : Bool :=
  (Level.ofName? configured).any fun lowest => level.priority < lowest.priority

theorem Threshold.ofValue_of_text {v : Value} {level : String} (h : v.text? = some level) :
    Threshold.ofValue v = (Level.ofName? level).elim .everything .atLeast := by
  cases v with
  | symbol => cases h
  | _ => simp only [Threshold.ofValue, h]

/-- A record with the text of the time it is made at. -/
structure Call where
  timestamp : String
  record : Record

/-- The line of a call and the level it is printed for, unless that is below the configured one or
the record has no line. -/
def Call.entry? (configured label : String) (c : Call) : Option (Level × String) :=
  if isBelow configured c.record.level then none
  else (entry c.timestamp c.record.level.name label c.record.message c.record.context).toOption.map
    (c.record.level, ·)

namespace Writer

/-- What a writer with these options prints of a line. -/
def consoleLines (options : Value) (level : Level) (line : String) : List (Level × String) :=
  if (option options "console").truthy then
    [(if (option options "stderr").truthy then .error else level, line)]
  else []

def failureLine (e : Files.Failure) : String :=
  "Failed to write to log file: <" ++ e.code ++ ">"

/-- The second world is the first after a line was written: printed, and appended to the file at
`path` if there is to be one. If it could not be appended, one more line on the error channel says
so and every file is as it was; that files keep nothing of an append that fails is assumed of them,
and a full disk may break it. -/
inductive Wrote (options : Value) (path : String) (level : Level) (line : String) (w w' : World) :
    Prop where
  | unfiled (hfile : (option options "file").truthy = false) (hfiles : w'.files = w.files)
    (hprinted : w'.printed = w.printed ++ consoleLines options level line)
  | appended (hfile : (option options "file").truthy = true)
    (happend : w.files.appendText w.here path (line ++ "\n") = .ok w'.files)
    (hcontent : w'.files.lookup (Files.Tree.target w.here path) =
      some (.file (w.files.bytesAt (Files.Tree.target w.here path) ++
        Text.Utf8.encode (line ++ "\n"))))
    (hothers : ∀ loc, loc ≠ Files.Tree.target w.here path →
      w'.files.lookup loc = w.files.lookup loc)
    (hprinted : w'.printed = w.printed ++ consoleLines options level line)
  | refused (hfile : (option options "file").truthy = true) (e : Files.Failure)
    (happend : w.files.appendText w.here path (line ++ "\n") = .error e)
    (hfiles : w'.files = w.files)
    (hprinted : w'.printed =
      w.printed ++ consoleLines options level line ++ [(.error, failureLine e)])

/-- Makes a call at its time. -/
def call (l : Writer) (c : Call) (w : World) : Except Failure Unit × World :=
  l.write c.record { w with timestamp := c.timestamp }

/-- Makes calls in turn. -/
def run (l : Writer) : List Call → World → List (Except Failure Unit) × World
  | [], w => ([], w)
  | c :: calls, w =>
    ((l.call c w).1 :: (run l calls (l.call c w).2).1, (run l calls (l.call c w).2).2)

/-- Every append that the run of the calls makes succeeds. -/
def appendsSucceed (l : Writer) (configured label : String) : List Call → World → Bool
  | [], _ => true
  | c :: calls, w =>
    ((c.entry? configured label).all fun e =>
      !l.toFile || (w.files.appendText w.here l.logFile (e.2 ++ "\n")).isOk) &&
      appendsSucceed l configured label calls (l.call c w).2

/-- The second world is the first after lines were written in turn: each printed, and appended to
the file at `path` if there is to be one. -/
structure Recorded (options : Value) (path : String) (lines : List (Level × String))
    (w w' : World) : Prop where
  printed : w'.printed = w.printed ++ lines.flatMap fun e => consoleLines options e.1 e.2
  content : (option options "file").truthy = true →
    w'.files.bytesAt (Files.Tree.target w.here path) =
      w.files.bytesAt (Files.Tree.target w.here path) ++
        Text.Utf8.encode (Text.endLines (lines.map (·.2)))
  unfiled : (option options "file").truthy = false → w'.files = w.files
  others : ∀ loc, loc ≠ Files.Tree.target w.here path → w'.files.lookup loc = w.files.lookup loc

/-! ### One call -/

theorem create_eq_ok {options : Value} {l : Writer} {w : World}
    (h : (create options w).1 = .ok l) :
    l.threshold = .ofValue (option options "level") ∧ l.label = (option options "name").text? ∧
      l.toConsole = (option options "console").truthy ∧
      l.toFile = (option options "file").truthy ∧
      l.toErrors = (option options "stderr").truthy := by
  unfold create at h
  split at h
  · obtain ⟨_, -, rfl⟩ := map_eq_ok (mapError_eq_ok_iff.mp h)
    exact ⟨rfl, rfl, rfl, rfl, rfl⟩
  · cases h

/-- A writer as the options make it, whose level and label are texts. -/
structure Configured (options : Value) (level label : String) (l : Writer) : Prop where
  passes : ∀ k, l.passes k = .ok (!isBelow level k)
  label : l.label = some label
  toConsole : l.toConsole = (option options "console").truthy
  toFile : l.toFile = (option options "file").truthy
  toErrors : l.toErrors = (option options "stderr").truthy

theorem configured_of_create {options : Value} {level label : String} {l : Writer} {w : World}
    (h : (create options w).1 = .ok l) (hlevel : (option options "level").text? = some level)
    (hname : (option options "name").text? = some label) : Configured options level label l := by
  obtain ⟨hthreshold, hlabel, hconsole, hfile, herrors⟩ := create_eq_ok h
  refine ⟨fun k => ?_, hlabel.trans hname, hconsole, hfile, herrors⟩
  rw [passes, hthreshold, Threshold.ofValue_of_text hlevel, isBelow]
  cases Level.ofName? level with
  | none => rfl
  | some lowest =>
    show Except.ok (decide (lowest.priority ≤ k.priority)) =
      .ok !decide (k.priority < lowest.priority)
    rw [← decide_not]
    simp only [Nat.not_lt]

namespace Configured

variable {options : Value} {level label : String} {l : Writer}
  (h : Configured options level label l)
include h

theorem write_below {r : Record} (hbelow : isBelow level r.level = true) (w : World) :
    l.write r w = (.ok (), w) := by
  rw [write, h.passes, hbelow]
  rfl

theorem write_line {r : Record} {w : World} {line : String}
    (hbelow : isBelow level r.level = false)
    (hline : entry w.timestamp r.level.name label r.message r.context = .ok line) :
    l.write r w = (.ok (), l.appendEntry line (l.printEntry r.level line w)) := by
  rw [write, h.passes, hbelow]
  simp only [Bool.not_false, h.label, hline]

theorem write_without_line {r : Record} {w : World} {e : Value.JsonError}
    (hbelow : isBelow level r.level = false)
    (hline : entry w.timestamp r.level.name label r.message r.context = .error e) :
    l.write r w = (.error (.context e), w) := by
  rw [write, h.passes, hbelow]
  simp only [Bool.not_false, h.label, hline]

theorem printEntry_eq (k : Level) (line : String) (w : World) :
    l.printEntry k line w = { w with printed := w.printed ++ consoleLines options k line } := by
  rw [printEntry, consoleLines, h.toConsole, h.toErrors]
  split
  · rfl
  · rw [List.append_nil]

theorem wrote_line {r : Record} {w : World} {line : String}
    (hbelow : isBelow level r.level = false)
    (hline : entry w.timestamp r.level.name label r.message r.context = .ok line) :
    (l.write r w).1 = .ok () ∧ Wrote options l.logFile r.level line w (l.write r w).2 := by
  rw [h.write_line hbelow hline, h.printEntry_eq, appendEntry, h.toFile]
  refine ⟨rfl, ?_⟩
  cases hfile : (option options "file").truthy with
  | false => exact .unfiled hfile rfl rfl
  | true =>
    simp only [if_true]
    split
    · next files happend =>
      exact .appended hfile happend (Files.Tree.lookup_target_of_appendText happend)
        (fun loc hloc => Files.Tree.lookup_of_appendText happend hloc) rfl
    · next e happend => exact .refused hfile e happend rfl rfl

theorem write_of_writable {r : Record} (hbelow : isBelow level r.level = false)
    (hwritable : ¬ Unwritable r.context) (w : World) :
    ∃ line, entry w.timestamp r.level.name label r.message r.context = .ok line ∧
      (l.write r w).1 = .ok () ∧ Wrote options l.logFile r.level line w (l.write r w).2 := by
  cases hline : entry w.timestamp r.level.name label r.message r.context with
  | error e => exact absurd (entry_eq_error_iff.mp hline) hwritable
  | ok line => exact ⟨line, rfl, h.wrote_line hbelow hline⟩

theorem write_of_unwritable {r : Record} (hbelow : isBelow level r.level = false)
    (hunwritable : Unwritable r.context) (w : World) :
    l.write r w = (.error (.context .bigint), w) :=
  h.write_without_line hbelow (entry_eq_error_iff.mpr hunwritable)

end Configured

/-! ### Runs -/

theorem run_append (l : Writer) (calls calls' : List Call) (w : World) :
    l.run (calls ++ calls') w =
      ((l.run calls w).1 ++ (l.run calls' (l.run calls w).2).1,
        (l.run calls' (l.run calls w).2).2) := by
  induction calls generalizing w with
  | nil => rfl
  | cons c calls ih => simp only [List.cons_append, run, ih]

/-- Every call has its own time, so a run does not depend on the time at which it begins. -/
theorem run_retimed (l : Writer) (calls : List Call) (w : World) (timestamp : String) :
    (l.run calls { w with timestamp }).1 = (l.run calls w).1 ∧
      (l.run calls { w with timestamp }).2.files = (l.run calls w).2.files ∧
      (l.run calls { w with timestamp }).2.printed = (l.run calls w).2.printed := by
  cases calls with
  | nil => exact ⟨rfl, rfl, rfl⟩
  | cons c calls => exact ⟨rfl, rfl, rfl⟩

namespace Recorded

variable {options : Value} {path : String} {lines lines' : List (Level × String)}
  {w w' w'' : World}

theorem retimed (options : Value) (path : String) (w : World) (timestamp : String) :
    Recorded options path [] w { w with timestamp } where
  printed := by simp
  content := fun _ => by simp [Text.endLines, Text.Utf8.encode, Files.Tree.bytesAt]
  unfiled := fun _ => rfl
  others := fun _ _ => rfl

theorem trans (h : Recorded options path lines w w') (hhere : w'.here = w.here)
    (h' : Recorded options path lines' w' w'') :
    Recorded options path (lines ++ lines') w w'' where
  printed := by rw [h'.printed, h.printed, List.flatMap_append, List.append_assoc]
  content := fun hfile => by
    have hcontent' := h'.content hfile
    rw [hhere, h.content hfile] at hcontent'
    rw [hcontent', List.map_append, Text.endLines_append, Text.Utf8.encode_append,
      List.append_assoc]
  unfiled := fun hfile => (h'.unfiled hfile).trans (h.unfiled hfile)
  others := fun loc hloc => (h'.others loc (hhere ▸ hloc)).trans (h.others loc hloc)

end Recorded

theorem Wrote.recorded {options : Value} {path : String} {k : Level} {line : String}
    {w w' : World} (h : Wrote options path k line w w')
    (happends : (option options "file").truthy = true →
      (w.files.appendText w.here path (line ++ "\n")).isOk = true) :
    Recorded options path [(k, line)] w w' := by
  cases h with
  | unfiled hfile hfiles hprinted =>
    refine ⟨by simpa using hprinted, fun h => ?_, fun _ => hfiles, fun loc _ => by rw [hfiles]⟩
    rw [hfile] at h
    cases h
  | appended hfile happend hcontent hothers hprinted =>
    refine ⟨by simpa using hprinted, fun _ => ?_, fun h => ?_, hothers⟩
    · rw [Files.Tree.bytesAt, hcontent]
      simp [Text.endLines, Text.lineBreak]
    · rw [hfile] at h
      cases h
  | refused hfile e happend =>
    have hok := happends hfile
    rw [happend] at hok
    cases hok

theorem here_call (l : Writer) (c : Call) (w : World) : (l.call c w).2.here = w.here :=
  l.here_write c.record { w with timestamp := c.timestamp }

namespace Configured

variable {options : Value} {level label : String} {l : Writer}
  (h : Configured options level label l)
include h

theorem recorded_call {c : Call} {w : World}
    (happends : (c.entry? level label).all fun e =>
      !l.toFile || (w.files.appendText w.here l.logFile (e.2 ++ "\n")).isOk) :
    Recorded options l.logFile (c.entry? level label).toList w (l.call c w).2 := by
  have hretimed := Recorded.retimed options l.logFile w c.timestamp
  cases hbelow : isBelow level c.record.level with
  | true =>
    rw [Call.entry?, if_pos hbelow, call, h.write_below hbelow]
    exact hretimed
  | false =>
    simp only [Call.entry?, hbelow, Bool.false_eq_true, if_false] at happends ⊢
    cases hline : entry c.timestamp c.record.level.name label c.record.message c.record.context with
    | error e =>
      have hcall : l.call c w = (.error (.context e), { w with timestamp := c.timestamp }) :=
        h.write_without_line (w := { w with timestamp := c.timestamp }) hbelow hline
      rw [hcall]
      exact hretimed
    | ok line =>
      rw [hline] at happends
      have hwrote := (h.wrote_line (w := { w with timestamp := c.timestamp }) hbelow hline).2
      refine hretimed.trans rfl (hwrote.recorded fun hfile => ?_)
      simpa [Except.toOption, h.toFile, hfile] using happends

theorem recorded_run {calls : List Call} {w : World}
    (happends : l.appendsSucceed level label calls w = true) :
    Recorded options l.logFile (calls.filterMap (Call.entry? level label)) w (l.run calls w).2 := by
  induction calls generalizing w with
  | nil => exact .retimed options l.logFile w w.timestamp
  | cons c calls ih =>
    rw [appendsSucceed, Bool.and_eq_true] at happends
    have hrest := (h.recorded_call happends.1).trans (l.here_call c w) (ih happends.2)
    cases hentry : c.entry? level label with
    | none =>
      rw [List.filterMap_cons_none hentry]
      rwa [hentry] at hrest
    | some e =>
      rw [List.filterMap_cons_some hentry]
      rwa [hentry] at hrest

/-- A call without a line, left out of a run, is missed by no other call. -/
theorem run_around_unwritable {c : Call} (hbelow : isBelow level c.record.level = false)
    (hunwritable : Unwritable c.record.context) (before after : List Call) (w : World) :
    (l.run (before ++ c :: after) w).1 =
        (l.run before w).1 ++ .error (.context .bigint) :: (l.run after (l.run before w).2).1 ∧
      (l.run (before ++ c :: after) w).2.files = (l.run (before ++ after) w).2.files ∧
      (l.run (before ++ c :: after) w).2.printed = (l.run (before ++ after) w).2.printed := by
  have hcall : l.call c (l.run before w).2 =
      (.error (.context .bigint), { (l.run before w).2 with timestamp := c.timestamp }) :=
    h.write_of_unwritable hbelow hunwritable _
  obtain ⟨hresults, hfiles, hprinted⟩ := l.run_retimed after (l.run before w).2 c.timestamp
  rw [run_append, run_append, run, hcall, hresults]
  exact ⟨rfl, hfiles, hprinted⟩

end Configured

/-- Below its level a writer does nothing. Else a record has its line printed and appended, each if
that is wanted, and the call succeeds even where the append fails; a record whose context cannot be
written fails and leaves nothing, and all other calls of a run go as they would without it. After
a run in which no append fails, the lines of just the records that have one were printed in order
and stand in the file behind what was there. This is so of every writer made from options whose
level and label are texts, from whatever world it starts. -/
theorem log_appends_and_filters (options : Value) (w₀ : World) (l : Writer) (level label : String)
    (hcreate : (create options w₀).1 = .ok l)
    (hlevel : (option options "level").text? = some level)
    (hlabel : (option options "name").text? = some label) :
    (∀ r w, isBelow level r.level = true → l.write r w = (.ok (), w)) ∧
    (∀ r w, isBelow level r.level = false → ¬ Unwritable r.context →
      ∃ line, entry w.timestamp r.level.name label r.message r.context = .ok line ∧
        (l.write r w).1 = .ok () ∧ Wrote options l.logFile r.level line w (l.write r w).2) ∧
    (∀ r w, isBelow level r.level = false → Unwritable r.context →
      l.write r w = (.error (.context .bigint), w)) ∧
    (∀ c before after w, isBelow level c.record.level = false → Unwritable c.record.context →
      (l.run (before ++ c :: after) w).1 =
          (l.run before w).1 ++ .error (.context .bigint) :: (l.run after (l.run before w).2).1 ∧
        (l.run (before ++ c :: after) w).2.files = (l.run (before ++ after) w).2.files ∧
        (l.run (before ++ c :: after) w).2.printed = (l.run (before ++ after) w).2.printed) ∧
    (∀ calls w, l.appendsSucceed level label calls w = true →
      Recorded options l.logFile (calls.filterMap (Call.entry? level label)) w
        (l.run calls w).2) := by
  have h := configured_of_create hcreate hlevel hlabel
  exact ⟨fun _ w hbelow => h.write_below hbelow w,
    fun _ w hbelow hwritable => h.write_of_writable hbelow hwritable w,
    fun _ w hbelow hunwritable => h.write_of_unwritable hbelow hunwritable w,
    fun _ before after w hbelow hunwritable =>
      h.run_around_unwritable hbelow hunwritable before after w,
    fun _ _ happends => h.recorded_run happends⟩

/-- A record below the level and one with a bigint leave nothing between two that are written. -/
theorem log_appends_and_filters_four_calls :
    let options : Value := .record false [("level", .string "warn"), ("file", .bool true)]
    let w : World := ⟨⟨[(["output", "logs", "preprocessor.log"], .file [0x6f, 0x6c, 0x64, 0x0a]),
      (["output", "logs"], .directory), (["output"], .directory)]⟩, [], "", []⟩
    let calls : List Call := [⟨"1", .warn, "a", .undefined⟩, ⟨"2", .info, "b", .undefined⟩,
      ⟨"3", .error, "c", .record false [("n", .bigint 3)]⟩, ⟨"4", .error, "d", .undefined⟩]
    ∃ l, (create options w).1 = .ok l ∧
      (l.run calls w).2.printed =
        [(.warn, "[1] [WARN ] [preprocessor] a"), (.error, "[4] [ERROR] [preprocessor] d")] ∧
      (l.run calls w).2.files.bytesAt ["output", "logs", "preprocessor.log"] =
        Text.Utf8.encode
          "old\n[1] [WARN ] [preprocessor] a\n[4] [ERROR] [preprocessor] d\n" := by
  intro options w calls
  have hcreate : (create options w).1 =
      .ok ⟨.atLeast .warn, "preprocessor", "output/logs/preprocessor.log", true, true, false⟩ := by
    cbv
  obtain ⟨-, -, -, -, hrun⟩ := log_appends_and_filters options w _ "warn" "preprocessor" hcreate
    (by cbv) (by cbv)
  have hrecorded := hrun calls w (by cbv)
  refine ⟨_, hcreate, hrecorded.printed.trans (by cbv), ?_⟩
  have hcontent := hrecorded.content (by cbv)
  exact hcontent.trans (by cbv)

end Writer

end GuardedText.Log
