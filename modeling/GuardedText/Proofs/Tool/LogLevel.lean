import GuardedText.Proofs.Settings.Environment
import GuardedText.Proofs.Tool.Failure

/-! Two runs of the tool under environments that differ in the level of the log. The levels decide
which records are written, and as the times of the runs differ, so do the lines; but that changes
the log and the error channel only. Before the first record both runs see the same files, and after
it no path leads another way, whether or not there is a log yet. -/

namespace GuardedText.Tool

open Files

/-- Worlds of runs in one directory that differ in the log and on the error channels at most. -/
structure SameButLog (here : Location) (w w' : World) : Prop where
  left : w.here = here
  right : w'.here = here
  output : w.outputText = w'.outputText
  files : Tree.SameBut (logPlace here) w.files w'.files

namespace SameButLog

variable {here : Location} {w w' : World}

theorem retimed (w : World) (timestamp : String) : SameButLog w.here w { w with timestamp } :=
  ⟨rfl, rfl, rfl, .refl _ _⟩

/-- Records that are written on either side make no other difference. -/
theorem sink (h : SameButLog here w w') (s s' : ToolSettings.Checked) (r r' : Log.Record) :
    SameButLog here ((logWriter s).sink r w) ((logWriter s').sink r' w') := by
  have hleaves := leavesLog_sink s r w
  have hleaves' := leavesLog_sink s' r' w'
  have hfiles := (logWriter s).sameBut_write r w
  have hfiles' := (logWriter s').sameBut_write r' w'
  rw [show (logWriter s).logFile = logFile from rfl, target_logFile, h.left] at hfiles
  rw [show (logWriter s').logFile = logFile from rfl, target_logFile, h.right] at hfiles'
  exact ⟨hleaves.here.trans h.left, hleaves'.here.trans h.right,
    hleaves.output.trans (h.output.trans hleaves'.output.symm),
    (hfiles.symm.trans h.files).trans hfiles'⟩

end SameButLog

/-- Both stages give the same text or neither gives one, and what they leave differs in the log
only. -/
structure Agree (here : Location) (x y : Except Error String × World) : Prop where
  text : x.1.toOption = y.1.toOption
  worlds : SameButLog here x.2 y.2

/-! ### The stages of a run -/

section Stages

variable {here : Location} {w w' : World} {env env' : Environment}

theorem agree_deliver (h : SameButLog here w w') (s s' : ToolSettings.Checked)
    (output : Option String) (documentName text : String) :
    Agree here (deliver (logWriter s) output documentName text w)
      (deliver (logWriter s') output documentName text w') := by
  cases output with
  | none => exact ⟨rfl, h⟩
  | some path =>
    unfold deliver
    dsimp only
    rw [h.left, h.right]
    split
    · exact ⟨rfl, h⟩
    · obtain ⟨u, u', hwrite, hwrite', hfiles⟩ | ⟨e, e', hwrite, hwrite'⟩ :=
        h.files.writeText here path text
      · rw [hwrite, hwrite']
        have hwritten : SameButLog here { w with files := u, here } { w' with files := u', here } :=
          ⟨rfl, rfl, h.output, hfiles⟩
        exact ⟨rfl, hwritten.sink s s' _ _⟩
      · rw [hwrite, hwrite']
        exact ⟨rfl, h⟩

/-- What a request gives does not depend on where its record goes. -/
theorem request_run (h : SameButLog here w w') (s s' : ToolSettings.Checked) (r : Request) :
    (r.run (logWriter s).sink w).1 = (r.run (logWriter s').sink w').1 ∧
      SameButLog here (r.run (logWriter s).sink w).2 (r.run (logWriter s').sink w').2 := by
  rw [Request.run, Request.run]
  split
  · exact ⟨rfl, h⟩
  · split
    · exact ⟨rfl, h⟩
    · exact ⟨rfl, h.sink s s' _ _⟩

/-- The input is read before there is any record. -/
theorem agree_process (a : Arguments) (s : ToolSettings.Checked) (k : Log.Level)
    (stdin : List UInt8) (w : World) (timestamp : String) :
    Agree w.here (process a s stdin w)
      (process a { s with logLevel := k } stdin { w with timestamp }) := by
  have hread : readInput a.input stdin { w with timestamp } = readInput a.input stdin w := by
    cases a.input <;> rfl
  unfold process
  rw [hread]
  cases readInput a.input stdin w with
  | error e => exact ⟨rfl, .retimed w timestamp⟩
  | ok document =>
    obtain ⟨hresult, hworlds⟩ := request_run (.retimed w timestamp) s { s with logLevel := k } {
      document, documentName := a.input.getD "<stdin>", names := a.define
      directivePrefix := .string (a.directivePrefix.getD s.directivePrefix.text) }
    dsimp only
    generalize Tool.Request.run _ (logWriter s).sink _ = first,
      Tool.Request.run _ (logWriter { s with logLevel := k }).sink _ = second at hresult hworlds ⊢
    obtain ⟨result, w₁⟩ := first
    obtain ⟨result', w₁'⟩ := second
    cases hresult
    cases result with
    | error e => exact ⟨rfl, hworlds⟩
    | ok report => exact agree_deliver hworlds s { s with logLevel := k } a.output _ _

theorem prepare_retimed (directory : String) (toFile : Bool) (w : World) (timestamp : String) :
    Log.Writer.prepare directory toFile { w with timestamp } =
      ((Log.Writer.prepare directory toFile w).1,
        { (Log.Writer.prepare directory toFile w).2 with timestamp }) := by
  unfold Log.Writer.prepare
  dsimp only
  split <;> rfl

theorem checkedSettings_alike (h : env.SameButLevel env') :
    ToolSettings.Alike (checkedSettings env) (checkedSettings env') := by
  rw [checkedSettings, checkedSettings]
  rcases ToolSettings.ofEnvironment_alike h with ⟨e, he, he'⟩ | ⟨s, v, hs, hs', hlevel⟩
  · rw [he, he']
    exact .error e
  · rw [hs, hs']
    exact s.check_alike hlevel

theorem agree_perform (h : env.SameButLevel env') (argv : List String) (stdin : List UInt8)
    (w : World) (timestamp : String) :
    Agree w.here (perform argv env stdin w) (perform argv env' stdin { w with timestamp }) := by
  unfold perform
  cases Arguments.parse argv with
  | error e => exact ⟨rfl, .retimed w timestamp⟩
  | ok a =>
    dsimp only
    split
    · exact ⟨rfl, .retimed w timestamp⟩
    · have hchecked := checkedSettings_alike h
      generalize checkedSettings env = checked, checkedSettings env' = checked' at hchecked ⊢
      cases hchecked with
      | error e => exact ⟨rfl, .retimed w timestamp⟩
      | ok s k =>
        have hhere := (leavesLog_prepare s.keepsLog w).here
        dsimp only
        rw [prepare_retimed logDirectory s.keepsLog w timestamp]
        generalize Log.Writer.prepare logDirectory s.keepsLog w = prepared at hhere ⊢
        obtain ⟨result, w₁⟩ := prepared
        rw [← hhere]
        cases result with
        | error e => exact ⟨rfl, .retimed w₁ timestamp⟩
        | ok _ => exact agree_process a s k stdin w₁ timestamp

theorem agree_conclude {x y : Except Error String × World} (h : Agree here x y) :
    (conclude x.1 x.2).exitCode = (conclude y.1 y.2).exitCode ∧
      (conclude x.1 x.2).standardOutput = (conclude y.1 y.2).standardOutput ∧
      ∀ loc, loc ≠ logPlace here →
        (conclude x.1 x.2).world.files.lookup loc = (conclude y.1 y.2).world.files.lookup loc := by
  obtain ⟨result, w⟩ := x
  obtain ⟨result', w'⟩ := y
  obtain ⟨htext, hworlds⟩ := h
  cases result with
  | error e =>
    cases result' with
    | error e' => exact ⟨rfl, hworlds.output, hworlds.files.elsewhere⟩
    | ok text' => cases htext
  | ok text =>
    cases result' with
    | error e' => cases htext
    | ok text' =>
      cases htext
      exact ⟨rfl, congrArg (· ++ text) hworlds.output, hworlds.files.elsewhere⟩

end Stages

/-! ### Loading the variables -/

theorem foldl_print_retimed (lines : List String) (w : World) (timestamp : String) :
    lines.foldl (fun w line => w.print .info line) { w with timestamp } =
      { lines.foldl (fun w line => w.print .info line) w with timestamp } := by
  induction lines generalizing w with
  | nil => rfl
  | cons line lines ih => exact ih (w.print .info line)

/-- Both environments get the same variables or none, and there is the same to say about them. -/
theorem loadVariables_retimed {env env' : Environment} (h : env.SameButLevel env')
    (argv : List String) (w : World) (timestamp : String) :
    (loadVariables argv env' { w with timestamp }).2 =
        { (loadVariables argv env w).2 with timestamp } ∧
      ((∃ e, (loadVariables argv env w).1 = .error e ∧
          (loadVariables argv env' { w with timestamp }).1 = .error e) ∨
        ∃ loaded loaded', (loadVariables argv env w).1 = .ok loaded ∧
          (loadVariables argv env' { w with timestamp }).1 = .ok loaded' ∧
          loaded.SameButLevel loaded') := by
  obtain ⟨hresult, hlines, henv⟩ :=
    VariableSource.load_congr h (VariableSource.requested env argv) w.files w.here
  unfold loadVariables
  dsimp only
  rw [← VariableSource.requested_congr h, ← hresult, ← hlines, foldl_print_retimed]
  refine ⟨rfl, ?_⟩
  cases ((VariableSource.requested env argv).load env w.files w.here).1 with
  | error e => exact .inl ⟨_, rfl, rfl⟩
  | ok _ => exact .inr ⟨_, _, rfl, rfl, henv⟩

/-! ### Two runs -/

/-- Environments that differ in the level of the log, whatever times the runs are at and whatever
variables a file adds: the exit code and standard output are the same, and so is every file but the
log. -/
theorem log_level_stays_in_log (argv : List String) (env env' : Environment) (a b : Log.Level)
    (stdin : List UInt8) (files : Tree) (here : Location) (timestamp timestamp' : String)
    (ha : env.find? "LOG_LEVEL" = some a.name) (hb : env'.find? "LOG_LEVEL" = some b.name)
    (hothers : ∀ name, ¬ Environment.IsLevelName name → env.find? name = env'.find? name) :
    let outcome := run argv env stdin ⟨files, here, timestamp, []⟩
    let outcome' := run argv env' stdin ⟨files, here, timestamp', []⟩
    outcome.exitCode = outcome'.exitCode ∧ outcome.standardOutput = outcome'.standardOutput ∧
      ∀ loc, loc ≠ logPlace here →
        outcome.world.files.lookup loc = outcome'.world.files.lookup loc := by
  have henv : env.SameButLevel env' := ⟨hothers, .inr ⟨a, b, ha, hb⟩⟩
  obtain ⟨hworld, hloaded⟩ :=
    loadVariables_retimed henv argv ⟨files, here, timestamp, []⟩ timestamp'
  have hhere : (loadVariables argv env ⟨files, here, timestamp, []⟩).2.here = here := by
    rw [loadVariables_snd]
    exact (foldl_print _ _).2
  rw [run, run]
  generalize loadVariables argv env ⟨files, here, timestamp, []⟩ = load,
    loadVariables argv env' ⟨files, here, timestamp', []⟩ = load' at *
  obtain ⟨result, w⟩ := load
  obtain ⟨result', w'⟩ := load'
  cases hworld
  cases hhere
  rcases hloaded with ⟨e, he, he'⟩ | ⟨loaded, loaded', he, he', hsame⟩
  · cases he
    cases he'
    exact agree_conclude (x := (.error e, w)) (y := (.error e, { w with timestamp := timestamp' }))
      ⟨rfl, .retimed w timestamp'⟩
  · cases he
    cases he'
    exact agree_conclude (agree_perform hsame argv stdin w timestamp')

/-- The run that logs nothing shows the result of the one that logs a record for its template. -/
theorem log_level_stays_in_log_debug_error :
    (run [] ((Environment.ofEntries ["LOG_FILE=1"]).set "LOG_LEVEL" Log.Level.debug.name) [0x78]
      ⟨⟨[]⟩, [], "1", []⟩).standardOutput = "x" := by
  have hquiet :
      (run [] ((Environment.ofEntries ["LOG_FILE=1"]).set "LOG_LEVEL" Log.Level.error.name) [0x78]
        ⟨⟨[]⟩, [], "2", []⟩).standardOutput = "x" := by
    cbv
  have h := log_level_stays_in_log [] _ _ .debug .error [0x78] ⟨[]⟩ [] "1" "2" (by cbv) (by cbv)
    fun _ => Environment.find?_set_level (Environment.ofEntries ["LOG_FILE=1"]) .debug .error
  exact h.2.1.trans hquiet

end GuardedText.Tool
