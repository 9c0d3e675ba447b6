import GuardedText.Proofs.Log.Writer
import GuardedText.Tool.Run
import Mathlib

/-! What a run of the tool leaves behind when it fails. The result is written last, so a run that
fails has written none of it: the files are as they were, but for the log, and on standard output
there is nothing but what loading the variables had to report. -/

namespace GuardedText.Tool

open Files

/-- The file of the log of a run in the directory `here`. -/
def logPlace (here : Location) : Location :=
  here ++ ["output", "logs", "preprocessor.log"]

/-- The directories that a log needs. -/
def logPlaces (here : Location) : List Location :=
  [here ++ ["output"], here ++ ["output", "logs"]]

/-- The lines that loading the variables has to report. -/
def reportedLines (argv : List String) (env : Environment) (files : Tree) (here : Location) :
    List String :=
  ((VariableSource.requested env argv).load env files here).2.lines

theorem target_logFile (here : Location) : Tree.target here logFile = logPlace here := by
  have hwalked : Path.walked logFile = ["output", "logs", "preprocessor.log"] := by cbv
  have horigin : Path.origin here logFile = here := Tree.origin_of_relative here (by cbv)
  rw [Tree.target, hwalked, horigin]
  simp [Tree.follow, logPlace]

theorem visited_logDirectory (here : Location) :
    Tree.visited (Path.origin here logDirectory) (Path.walked logDirectory) = logPlaces here := by
  have hwalked : Path.walked logDirectory = ["output", "logs"] := by cbv
  have horigin : Path.origin here logDirectory = here := Tree.origin_of_relative here (by cbv)
  rw [hwalked, horigin]
  simp [Tree.visited, Tree.follow, logPlaces]

/-- The second world is the first but for what the log of a run leaves. -/
abbrev LeavesLog (w w' : World) : Prop :=
  Log.Leaves (logPlace w.here) (logPlaces w.here) w w'

theorem leavesLog_sink (s : ToolSettings.Checked) (r : Log.Record) (w : World) :
    LeavesLog w ((logWriter s).sink r w) := by
  have h := Log.Writer.leaves_write (l := logWriter s) rfl (logPlaces w.here) r w
  rw [show (logWriter s).logFile = logFile from rfl, target_logFile] at h
  exact h

theorem leavesLog_prepare (keepsLog : Bool) (w : World) :
    LeavesLog w (Log.Writer.prepare logDirectory keepsLog w).2 := by
  have h := Log.Writer.leaves_prepare (logPlace w.here) logDirectory keepsLog w
  rw [visited_logDirectory] at h
  exact h

/-- Compiling and rendering touch the log only. -/
theorem leavesLog_request (r : Request) (s : ToolSettings.Checked) (w : World) :
    LeavesLog w (r.run (logWriter s).sink w).2 := by
  rw [Request.run]
  split
  · exact .refl _ _ w
  · split
    · exact .refl _ _ w
    · exact leavesLog_sink s _ w

/-! ### The stages of a run -/

section Stages

variable {w w' : World} {e : Error}

/-- A result that cannot be delivered changes nothing. -/
theorem deliver_eq_error {l : Log.Writer} {output : Option String} {documentName text : String}
    (h : deliver l output documentName text w = (.error e, w')) : w' = w := by
  unfold deliver at h
  split at h
  · cases h
  · split at h
    · cases h
    · split at h
      · cases h
        rfl
      · cases h

theorem leavesLog_of_process {a : Arguments} {s : ToolSettings.Checked} {stdin : List UInt8}
    (h : process a s stdin w = (.error e, w')) : LeavesLog w w' := by
  unfold process at h
  split at h
  · cases h
    exact .refl _ _ w
  · next document hread =>
    have hrequest := leavesLog_request {
      document, documentName := a.input.getD "<stdin>", names := a.define
      directivePrefix := .string (a.directivePrefix.getD s.directivePrefix.text) } s w
    dsimp only at h
    split at h
    · next hrun =>
      cases h
      rwa [hrun] at hrequest
    · next hrun =>
      rw [deliver_eq_error h]
      rwa [hrun] at hrequest

theorem leavesLog_of_perform {argv : List String} {env : Environment} {stdin : List UInt8}
    (h : perform argv env stdin w = (.error e, w')) : LeavesLog w w' := by
  unfold perform at h
  split at h
  · cases h
    exact .refl _ _ w
  · split at h
    · cases h
    · split at h
      · cases h
        exact .refl _ _ w
      · next s hs =>
        have hprepare := leavesLog_prepare s.keepsLog w
        -- Directories may have been made even if not all of them could be.
        split at h
        · next hfail =>
          cases h
          rwa [hfail] at hprepare
        · next w₁ hmade =>
          rw [hmade] at hprepare
          have hprocess := leavesLog_of_process h
          rw [LeavesLog, hprepare.here] at hprocess
          exact hprepare.trans hprocess

end Stages

/-! ### Loading the variables -/

/-- Lines that are printed on the output channels stand behind what was there. -/
theorem outputText_print_info (lines : List String) (w : World) :
    (lines.foldl (fun w line => w.print .info line) w).outputText =
      w.outputText ++ String.join (lines.map (· ++ "\n")) := by
  induction lines generalizing w with
  | nil => simp
  | cons line lines ih =>
    rw [List.foldl_cons, ih]
    simp [World.outputText, World.textOf, World.print, String.append_assoc]

theorem foldl_print (lines : List String) (w : World) :
    (lines.foldl (fun w line => w.print .info line) w).files = w.files ∧
      (lines.foldl (fun w line => w.print .info line) w).here = w.here := by
  induction lines generalizing w with
  | nil => exact ⟨rfl, rfl⟩
  | cons line lines ih => exact ih (w.print .info line)

theorem loadVariables_snd (argv : List String) (env : Environment) (w : World) :
    (loadVariables argv env w).2 =
      (reportedLines argv env w.files w.here).foldl (fun w line => w.print .info line) w :=
  rfl

/-- The line begins with the label of reports by some version. -/
def IsLabelled (line : String) : Prop :=
  ∃ version : String, ']' ∉ version.toList ∧
    (VariableSource.labelOf version).toList <+: line.toList

theorem isLabelled_join (parts : List String) :
    IsLabelled (String.join (VariableSource.label :: parts)) :=
  ⟨"16.6.1", by decide, (String.join parts).toList, by simp [VariableSource.label]⟩

section Reports

variable {line : String} {s : VariableSource}

theorem mem_of_mem_ifReported {lines : List String} (h : line ∈ s.ifReported lines) :
    line ∈ lines := by
  rw [VariableSource.ifReported] at h
  split at h
  · exact h
  · cases h

theorem ifReported_eq_nil (h : s.reports = false) (lines : List String) :
    s.ifReported lines = [] := by
  rw [VariableSource.ifReported, h]

theorem isLabelled_of_mem_keptLines {env : Environment} {found : List (String × String)}
    (h : line ∈ s.keptLines env found) : IsLabelled line := by
  obtain ⟨name, -, rfl⟩ := List.mem_map.mp h
  exact isLabelled_join _

theorem isLabelled_of_mem_report {env : Environment} {here : Location}
    {contents : Except VariableSource.Unread (List (String × String))}
    (h : line ∈ s.report env here contents) : IsLabelled line := by
  simp only [VariableSource.report, List.mem_append, List.mem_singleton] at h
  obtain ((hencoding | hunread) | hkept) | rfl := h
  · split at hencoding
    · rw [List.mem_singleton.mp hencoding]
      exact isLabelled_join _
    · cases hencoding
  · split at hunread
    · rw [List.mem_singleton.mp hunread]
      exact isLabelled_join _
    · cases hunread
  · exact isLabelled_of_mem_keptLines hkept
  · exact isLabelled_join _

theorem isLabelled_of_mem_loadPlain {env : Environment} {files : Tree} {here : Location}
    (h : line ∈ (s.loadPlain env files here).lines) : IsLabelled line :=
  isLabelled_of_mem_report (mem_of_mem_ifReported h)

theorem isLabelled_of_mem_loadSealed {env : Environment} {files : Tree} {here : Location}
    (h : line ∈ (s.loadSealed env files here).2.lines) : IsLabelled line := by
  have hfirst : line ∈ (s.asSealed here).ifReported
      [String.join [VariableSource.label, " Loading env from encrypted .env.vault"]] ++
        ((s.asSealed here).loadPlain env files here).lines → IsLabelled line := by
    intro h
    obtain hopening | hplain := List.mem_append.mp h
    · rw [List.mem_singleton.mp (mem_of_mem_ifReported hopening)]
      exact isLabelled_join _
    · exact isLabelled_of_mem_loadPlain hplain
  unfold VariableSource.loadSealed at h
  dsimp only at h
  split at h
  · exact hfirst h
  · obtain hmem | hkept := List.mem_append.mp h
    · exact hfirst hmem
    · exact isLabelled_of_mem_keptLines (mem_of_mem_ifReported hkept)

end Reports

/-- The lines on a run's variables all say where they come from. -/
theorem isLabelled_of_mem_reportedLines {argv : List String} {env : Environment} {files : Tree}
    {here : Location} {line : String} (h : line ∈ reportedLines argv env files here) :
    IsLabelled line := by
  unfold reportedLines VariableSource.load at h
  split at h
  · exact isLabelled_of_mem_loadPlain h
  · split at h
    · exact isLabelled_of_mem_loadSealed h
    · obtain rfl | hmem := List.mem_cons.mp h
      · exact isLabelled_join _
      · exact isLabelled_of_mem_loadPlain hmem

/-- Without a key, and unless reports are asked for, loading the variables prints nothing. -/
theorem reportedLines_eq_nil {argv : List String} {env : Environment} (files : Tree)
    (here : Location) (hreports : (VariableSource.requested env argv).reports = false)
    (hkeys : (VariableSource.requested env argv).keys env = "") :
    reportedLines argv env files here = [] := by
  rw [reportedLines, VariableSource.load, if_pos hkeys]
  exact ifReported_eq_nil hreports _

/-! ### A run that fails -/

/-- A run fails after its variables are loaded, and from there on it touches the log only. -/
theorem leavesLog_of_run {argv : List String} {env : Environment} {stdin : List UInt8} {w : World}
    (h : (run argv env stdin w).exitCode = 1) :
    ∃ w' message, LeavesLog (loadVariables argv env w).2 w' ∧
      run argv env stdin w = ⟨1, w'.outputText, w'.print .error message⟩ := by
  unfold run at h ⊢
  split at h
  · next e w₁ hload =>
    exact ⟨w₁, _, by rw [hload]; exact .refl _ _ w₁, rfl⟩
  · next env' w₁ hload =>
    rw [hload]
    rcases hperform : perform argv env' stdin w₁ with ⟨result, w'⟩
    rw [hperform] at h
    cases result with
    -- Once the result is written, nothing that befalls the log is an error.
    | ok text => cases h
    | error e => exact ⟨w', _, leavesLog_of_perform hperform, rfl⟩

/-- A run that fails writes nothing of its result. Standard output holds the lines that loading the
variables had to report, and none if neither reports nor a key were asked for; of the files only the
log can differ, with the directories it lies in. -/
theorem failed_run_writes_no_result (argv : List String) (env : Environment) (stdin : List UInt8)
    (files : Tree) (here : Location) (timestamp : String)
    (h : (run argv env stdin ⟨files, here, timestamp, []⟩).exitCode = 1) :
    let outcome := run argv env stdin ⟨files, here, timestamp, []⟩
    outcome.standardOutput =
        String.join ((reportedLines argv env files here).map (· ++ "\n")) ∧
      (∀ line ∈ reportedLines argv env files here, IsLabelled line) ∧
      ((VariableSource.requested env argv).reports = false →
        (VariableSource.requested env argv).keys env = "" → outcome.standardOutput = "") ∧
      ∀ loc, loc ≠ logPlace here →
        Tree.MayAppear files outcome.world.files (logPlaces here) loc := by
  obtain ⟨w', message, hleaves, hrun⟩ := leavesLog_of_run h
  rw [loadVariables_snd] at hleaves
  obtain ⟨hfiles, hhere⟩ :=
    foldl_print (reportedLines argv env files here) ⟨files, here, timestamp, []⟩
  have houtput : w'.outputText =
      String.join ((reportedLines argv env files here).map (· ++ "\n")) := by
    rw [hleaves.output, outputText_print_info]
    simp [World.outputText, World.textOf]
  dsimp only
  rw [hrun]
  refine ⟨houtput, fun _ => isLabelled_of_mem_reportedLines, ?_, ?_⟩
  · intro hreports hkeys
    rw [houtput, reportedLines_eq_nil files here hreports hkeys]
    rfl
  · intro loc hloc
    have hnodes := hleaves.nodes loc
    rw [hfiles, hhere] at hnodes
    exact hnodes hloc

/-- The directory for the result is a file, which shows only after the directory of the log is
made. -/
theorem failed_run_writes_no_result_unwritable :
    let outcome := run ["in", "-o", "out/x"] ⟨["LOG_FILE=1"], []⟩ []
      ⟨⟨[(["d"], .directory), (["d", "in"], .file [0x78]), (["d", "out"], .file [0x79])]⟩,
        ["d"], "", []⟩
    outcome.exitCode = 1 ∧ outcome.standardOutput = "" ∧
      outcome.world.files.lookup ["d", "out"] = some (.file [0x79]) := by
  have hcode : (run ["in", "-o", "out/x"] ⟨["LOG_FILE=1"], []⟩ []
      ⟨⟨[(["d"], .directory), (["d", "in"], .file [0x78]), (["d", "out"], .file [0x79])]⟩,
        ["d"], "", []⟩).exitCode = 1 := by
    cbv
  obtain ⟨-, -, hsilent, hnodes⟩ := failed_run_writes_no_result _ _ _ _ _ _ hcode
  refine ⟨hcode, hsilent (by cbv) (by cbv), ?_⟩
  rcases hnodes ["d", "out"] (by decide) with hkept | ⟨hplace, -⟩
  · exact hkept
  · exact absurd hplace (by decide)

/-- A key without a sealed file is warned of on standard output, whatever becomes of the run. -/
theorem failed_run_not_always_silent :
    ¬ ∀ (argv : List String) (env : Environment) (stdin : List UInt8) (files : Tree)
      (here : Location) (timestamp : String), files.lookup (here ++ [".env"]) = none →
      (run argv env stdin ⟨files, here, timestamp, []⟩).exitCode = 1 →
      (run argv env stdin ⟨files, here, timestamp, []⟩).standardOutput = "" := by
  intro h
  have hsilent := h ["--nope"] ⟨["DOTENV_KEY=k"], []⟩ [] ⟨[(["d"], .directory)]⟩ ["d"] ""
    (by decide) (by cbv)
  have hwarned : (run ["--nope"] ⟨["DOTENV_KEY=k"], []⟩ []
      ⟨⟨[(["d"], .directory)]⟩, ["d"], "", []⟩).standardOutput =
        VariableSource.missingLine ++ "\n" := by
    cbv
  rw [hwarned] at hsilent
  exact absurd hsilent (by decide)

end GuardedText.Tool
