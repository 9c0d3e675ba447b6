import GuardedText.Proofs.Tool.Failure

/-! Where a run that succeeds leaves its result. The text is settled by the arguments, the variables
and the input alone. Without an output option it goes to standard output and no file changes; else it
goes to the file that the last such option names, and nothing of it is printed. The one exception is a
last option with the empty value, which counts as none. -/

namespace GuardedText.Tool

open Files

/-! ### The output options among the arguments -/

/-- The value that an item gives the output option. -/
def Item.output? : Item → Option String
  | .option (some (.setting .output)) (.inline value) => some (String.ofList value)
  | .option (some (.setting .output)) (.next value) => some (String.ofList value)
  | _ => none

/-- The values that arguments give the output option, in their order. -/
def outputsGiven (argv : List String) : List String :=
  (items [] (argv.map String.toList)).filterMap Item.output?

namespace Arguments

variable {a a' : Arguments}

theorem output_add {item : Item} (h : a.add item = .ok a') :
    a'.output = item.output?.or a.output := by
  unfold add at h
  split at h
  · cases h
    rfl
  · cases h
  · next f =>
    cases h
    cases f <;> rfl
  · cases h
  · cases h
  · next s value =>
    cases h
    cases s <;> rfl
  · next s value =>
    split at h
    · cases h
    · cases h
      cases s <;> rfl

theorem output_addAll {given : List Item} (h : a.addAll given = .ok a') :
    a'.output = (given.filterMap Item.output?).getLast?.or a.output := by
  induction given generalizing a with
  | nil =>
    cases h
    rfl
  | cons item given ih =>
    rw [addAll] at h
    split at h
    · cases h
    · next b hadd =>
      rw [ih h, output_add hadd, List.filterMap_cons]
      cases item.output? with
      | none => rfl
      | some value =>
        rw [List.getLast?_cons]
        cases (given.filterMap Item.output?).getLast? <;> rfl

/-- Of several output options the last one counts. -/
theorem output_parse {argv : List String} (h : parse argv = .ok a) :
    a.output = (outputsGiven argv).getLast? := by
  unfold parse at h
  split at h
  · cases h
  · next b hall =>
    split at h
    · cases h
    · cases h
      rw [output_addAll hall, Option.or_none]
      rfl

/-- What the arguments ask for of a document. -/
def request (a : Arguments) (s : ToolSettings.Checked) (document : String) : Request where
  document := document
  documentName := a.input.getD "<stdin>"
  names := a.define
  directivePrefix := .string (a.directivePrefix.getD s.directivePrefix.text)

end Arguments

/-- The text that a run is to deliver. Neither the log nor the place that the text goes to has a part
in it. -/
def wanted (argv : List String) (env : Environment) (stdin : List UInt8) (w : World) :
    Except Error String := do
  let a ← (Arguments.parse argv).mapError .arguments
  let s ← (checkedSettings env).mapError .settings
  let document ← (readInput a.input stdin w).mapError .files
  let report ← ((a.request s document).run Log.ignore ()).1.mapError .template
  return report.text a.json a.listUsed

theorem Request.run_fst {σ τ : Type} (r : Request) (sink : Log.Sink σ) (s : σ)
    (sink' : Log.Sink τ) (t : τ) : (r.run sink s).1 = (r.run sink' t).1 := by
  unfold run
  split
  · rfl
  · split <;> rfl

/-! ### The stages of a run without a log -/

/-- How the second world shows a text that was delivered in the first: it is printed and no file has
changed, or nothing is printed and it is in the file that is named. -/
structure Delivered (w : World) (output : Option String) (text printed : String) (w' : World) :
    Prop where
  lines : w'.outputText = w.outputText
  unnamed : output = none → printed = text ∧ w'.files = w.files
  named : ∀ path, output = some path → path ≠ "" → printed = "" ∧
    w'.files.readText w.here path = .ok text ∧
    ∀ loc, loc ≠ Tree.target w.here path → w'.files.lookup loc = w.files.lookup loc

section Stages

variable {s : ToolSettings.Checked} {w w' : World} {argv : List String} {env : Environment}
  {a : Arguments} {stdin : List UInt8} {printed : String}

/-- Records of a run without a log show on the error channel at most. -/
theorem quiet_sink (hquiet : s.keepsLog = false) (r : Log.Record) (w : World) :
    ((logWriter s).sink r w).here = w.here ∧ ((logWriter s).sink r w).files = w.files ∧
      ((logWriter s).sink r w).outputText = w.outputText :=
  ⟨(leavesLog_sink s r w).here, Log.Writer.files_write hquiet r w, (leavesLog_sink s r w).output⟩

theorem quiet_request (hquiet : s.keepsLog = false) (r : Request) (w : World) :
    (r.run (logWriter s).sink w).2.here = w.here ∧
      (r.run (logWriter s).sink w).2.files = w.files ∧
      (r.run (logWriter s).sink w).2.outputText = w.outputText := by
  unfold Request.run
  split
  · exact ⟨rfl, rfl, rfl⟩
  · split
    · exact ⟨rfl, rfl, rfl⟩
    · exact quiet_sink hquiet _ w

theorem delivered_of_deliver (hquiet : s.keepsLog = false) {output : Option String}
    {documentName text : String}
    (h : deliver (logWriter s) output documentName text w = (.ok printed, w')) :
    Delivered w output text printed w' := by
  unfold deliver at h
  split at h
  · cases h
    exact ⟨rfl, fun _ => ⟨rfl, rfl⟩, nofun⟩
  · next path =>
    split at h
    · next hempty =>
      cases h
      refine ⟨rfl, nofun, fun _ hsome hne => ?_⟩
      cases hsome
      exact absurd hempty hne
    · split at h
      · cases h
      · next files hwrite =>
        cases h
        obtain ⟨-, hfiles, hlines⟩ := quiet_sink hquiet ⟨.info, "Wrote output",
          .record false [("input", .string documentName), ("output", .string path)]⟩
          { w with files }
        refine ⟨hlines, nofun, fun _ hsome _ => ?_⟩
        cases hsome
        rw [hfiles]
        exact ⟨rfl, Tree.readText_of_writeText hwrite⟩

/-- A run that succeeds has settled its text before it delivers it. -/
theorem delivered_of_process (hquiet : s.keepsLog = false)
    (h : process a s stdin w = (.ok printed, w')) :
    ∃ document report, readInput a.input stdin w = .ok document ∧
      ((a.request s document).run Log.ignore ()).1 = .ok report ∧
      Delivered w a.output (report.text a.json a.listUsed) printed w' := by
  unfold process at h
  split at h
  · cases h
  · next document hread =>
    obtain ⟨hhere, hfiles, hlines⟩ := quiet_request hquiet (a.request s document) w
    have hresult := (a.request s document).run_fst (logWriter s).sink w Log.ignore ()
    dsimp only at h
    split at h
    · cases h
    · next report w₁ hrun =>
      have hrequest : (a.request s document).run (logWriter s).sink w = (.ok report, w₁) := hrun
      rw [hrequest] at hhere hfiles hlines hresult
      have hdelivered := delivered_of_deliver hquiet h
      refine ⟨document, report, hread, hresult.symm, hdelivered.lines.trans hlines, ?_, ?_⟩
      · rw [← hfiles]
        exact hdelivered.unnamed
      · rw [← hhere, ← hfiles]
        exact hdelivered.named

theorem keepsLog_of_checkedSettings (h : checkedSettings env = .ok s) :
    env.flag "LOG_FILE" false = .ok s.keepsLog := by
  unfold checkedSettings at h
  split at h
  · cases h
  · next settings hsettings =>
    obtain ⟨keepsLog, hflag, hrest⟩ := bind_eq_ok hsettings
    cases hrest
    unfold ToolSettings.check at h
    split at h
    · cases h
    · cases h
    · split at h
      · cases h
      · cases h
        exact hflag

theorem delivered_of_perform (hhelp : ∀ a, Arguments.parse argv = .ok a → a.help = false)
    (hlog : env.flag "LOG_FILE" false = .ok false)
    (h : perform argv env stdin w = (.ok printed, w')) :
    ∃ text, wanted argv env stdin w = .ok text ∧
      Delivered w (outputsGiven argv).getLast? text printed w' := by
  unfold perform at h
  split at h
  · cases h
  · next a hparse =>
    rw [hhelp a hparse, if_neg Bool.false_ne_true] at h
    split at h
    · cases h
    · next s hchecked =>
      have hquiet : s.keepsLog = false := by
        have hflag := keepsLog_of_checkedSettings hchecked
        rw [hlog] at hflag
        exact (Except.ok.inj hflag).symm
      rw [hquiet] at h
      change process a s stdin w = _ at h
      obtain ⟨document, report, hread, hreport, hdelivered⟩ := delivered_of_process hquiet h
      rw [Arguments.output_parse hparse] at hdelivered
      refine ⟨report.text a.json a.listUsed, ?_, hdelivered⟩
      simp only [wanted, hparse, hchecked, Except.mapError, bind, Except.bind, hread, hreport]
      rfl

end Stages

/-! ### A run that succeeds -/

/-- Lines that are printed have no part in what a run is to deliver. -/
theorem wanted_congr {w w' : World} (hfiles : w.files = w'.files) (hhere : w.here = w'.here)
    (argv : List String) (env : Environment) (stdin : List UInt8) :
    wanted argv env stdin w = wanted argv env stdin w' := by
  have hread : ∀ input, readInput input stdin w = readInput input stdin w' := by
    intro input
    unfold readInput
    rw [hfiles, hhere]
  simp only [wanted, hread]

theorem delivered_of_run {argv : List String} {env : Environment} {stdin : List UInt8} {w : World}
    (hhelp : ∀ a, Arguments.parse argv = .ok a → a.help = false)
    (hlog : ∀ loaded, (loadVariables argv env w).1 = .ok loaded →
      loaded.flag "LOG_FILE" false = .ok false)
    (h : (run argv env stdin w).exitCode = 0) :
    ∃ loaded text printed w', (loadVariables argv env w).1 = .ok loaded ∧
      wanted argv loaded stdin (loadVariables argv env w).2 = .ok text ∧
      Delivered (loadVariables argv env w).2 (outputsGiven argv).getLast? text printed w' ∧
      run argv env stdin w = ⟨0, w'.outputText ++ printed, w'⟩ := by
  unfold run at h ⊢
  split at h
  · cases h
  · next loaded w₁ hload =>
    rw [hload] at hlog ⊢
    rcases hperform : perform argv loaded stdin w₁ with ⟨result, w'⟩
    rw [hperform] at h
    cases result with
    | error e => cases h
    | ok printed =>
      obtain ⟨text, hwanted, hdelivered⟩ := delivered_of_perform hhelp (hlog loaded rfl) hperform
      exact ⟨loaded, text, printed, w', rfl, hwanted, hdelivered, rfl⟩

/-- A run that keeps no log and succeeds leaves the text that is wanted in one place. Before it on
standard output stand the lines that loading the variables had to report, which are none if neither
reports nor a key were asked for. Without an output option the text comes after them and no file has
changed. If the last such option has a value, the text is in the file of that name, alone, and nowhere
else. -/
theorem result_goes_to_one_place (argv : List String) (env : Environment) (stdin : List UInt8)
    (files : Tree) (here : Location) (timestamp : String)
    (hhelp : ∀ a, Arguments.parse argv = .ok a → a.help = false)
    (hlog : ∀ loaded, (loadVariables argv env ⟨files, here, timestamp, []⟩).1 = .ok loaded →
      loaded.flag "LOG_FILE" false = .ok false)
    (h : (run argv env stdin ⟨files, here, timestamp, []⟩).exitCode = 0) :
    let w : World := ⟨files, here, timestamp, []⟩
    let outcome := run argv env stdin w
    let reported := String.join ((reportedLines argv env files here).map (· ++ "\n"))
    ∃ loaded text, (loadVariables argv env w).1 = .ok loaded ∧
      wanted argv loaded stdin w = .ok text ∧
      (outputsGiven argv = [] →
        outcome.standardOutput = reported ++ text ∧ outcome.world.files = files) ∧
      (∀ path, (outputsGiven argv).getLast? = some path → path ≠ "" →
        outcome.standardOutput = reported ∧ outcome.world.files.readText here path = .ok text ∧
        ∀ loc, loc ≠ Tree.target here path → outcome.world.files.lookup loc = files.lookup loc) ∧
      ((VariableSource.requested env argv).reports = false →
        (VariableSource.requested env argv).keys env = "" → reported = "") := by
  obtain ⟨loaded, text, printed, w', hload, hwanted, hdelivered, hrun⟩ :=
    delivered_of_run hhelp hlog h
  rw [loadVariables_snd] at hwanted hdelivered
  obtain ⟨hfiles, hhere⟩ :=
    foldl_print (reportedLines argv env files here) ⟨files, here, timestamp, []⟩
  have hlines : w'.outputText =
      String.join ((reportedLines argv env files here).map (· ++ "\n")) := by
    rw [hdelivered.lines, outputText_print_info]
    simp [World.outputText, World.textOf]
  dsimp only
  rw [hrun, hlines]
  refine ⟨loaded, text, hload, (wanted_congr hfiles hhere argv loaded stdin).symm.trans hwanted,
    fun hnone => ?_, fun path hlast hne => ?_, fun hreports hkeys => ?_⟩
  · obtain ⟨hprinted, hsame⟩ := hdelivered.unnamed (by rw [hnone]; rfl)
    exact ⟨by rw [hprinted], hsame.trans hfiles⟩
  · obtain ⟨hprinted, hread, hothers⟩ := hdelivered.named path hlast hne
    rw [hfiles, hhere] at hothers
    rw [hhere] at hread
    exact ⟨by rw [hprinted, String.append_empty], hread, hothers⟩
  · rw [reportedLines_eq_nil files here hreports hkeys]
    rfl

/-- The last of two output options names the file, and the log is switched off by a word. -/
theorem result_goes_to_one_place_last_named :
    let argv := ["-o", "x", "--output=out"]
    let env : Environment := ⟨["LOG_FILE=No"], []⟩
    let w : World := ⟨⟨[(["d"], .directory)]⟩, ["d"], "", []⟩
    let outcome := run argv env [0x79] w
    outcome.exitCode = 0 ∧ outcome.standardOutput = "" ∧
      outcome.world.files.readText ["d"] "out" = .ok "y" := by
  intro argv env w outcome
  have hparse : Arguments.parse argv = .ok { output := some "out" } := by
    cbv
  have hload : (loadVariables argv env w).1 = .ok env := by
    cbv
  have hlog : env.flag "LOG_FILE" false = .ok false := by
    cbv
  have hcode : (run argv env [0x79] w).exitCode = 0 := by
    cbv
  have hwanted : wanted argv env [0x79] w = .ok "y" := by
    cbv
  obtain ⟨loaded, text, hloaded, htext, -, hnamed, hsilent⟩ :=
    result_goes_to_one_place argv env [0x79] w.files w.here w.timestamp
      (fun a ha => by rw [hparse] at ha; cases ha; rfl)
      (fun loaded hloaded => by cases hload.symm.trans hloaded; exact hlog) hcode
  obtain ⟨hprinted, hread, -⟩ := hnamed "out" (by cbv) (by decide)
  cases hload.symm.trans hloaded
  cases hwanted.symm.trans htext
  exact ⟨hcode, hprinted.trans (hsilent (by cbv) (by cbv)), hread⟩

/-- An output option with the empty value is given, but what it should hold is printed. No file has
that name. -/
theorem result_not_always_where_named :
    ¬ ∀ (argv : List String) (env : Environment) (stdin : List UInt8) (files : Tree)
      (here : Location) (timestamp path : String),
      (∀ a, Arguments.parse argv = .ok a → a.help = false) →
      (∀ loaded, (loadVariables argv env ⟨files, here, timestamp, []⟩).1 = .ok loaded →
        loaded.flag "LOG_FILE" false = .ok false) →
      (run argv env stdin ⟨files, here, timestamp, []⟩).exitCode = 0 →
      (outputsGiven argv).getLast? = some path →
      (run argv env stdin ⟨files, here, timestamp, []⟩).standardOutput = "" := by
  intro h
  have hparse : Arguments.parse ["--output="] = .ok { output := some "" } := by cbv
  have hload : (loadVariables ["--output="] ⟨[], []⟩ ⟨⟨[(["d"], .directory)]⟩, ["d"], "", []⟩).1 =
      .ok ⟨[], []⟩ := by
    cbv
  have hprinted : (run ["--output="] ⟨[], []⟩ [0x78]
      ⟨⟨[(["d"], .directory)]⟩, ["d"], "", []⟩).standardOutput = "x" := by
    cbv
  have hsilent := h ["--output="] ⟨[], []⟩ [0x78] ⟨[(["d"], .directory)]⟩ ["d"] "" ""
    (fun a ha => by rw [hparse] at ha; cases ha; rfl)
    (fun loaded hloaded => by rw [hload] at hloaded; cases hloaded; cbv) (by cbv) (by cbv)
  rw [hprinted] at hsilent
  exact absurd hsilent (by decide)

end GuardedText.Tool
