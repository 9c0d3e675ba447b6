import GuardedText.Proofs.Log.Calls
import GuardedText.Proofs.Log.Writer
import GuardedText.Proofs.Processor
import GuardedText.Tool.Report

/-! Processors with a log. What a processor gives does not depend on the journal that it reports to,
and no record of a template fails to be written; so a log changes nothing, as long as no file is
read that the log is kept in. The records tell which templates were compiled, each on one line. -/

namespace GuardedText

/-- Writes a record, and keeps the failure if that fails. -/
def Log.Writer.noting (l : Log.Writer) : Log.Sink (World × List Log.Failure) := fun r s =>
  match l.write r s.1 with
  | (.ok _, w) => (w, s.2)
  | (.error e, w) => (w, s.2 ++ [e])

namespace Processor

open Files

/-- What can be asked of a processor. A request brings the prefix of a processor of its own. -/
inductive Task where
  | compileLines (lines : List String)
  | compileText (text : String)
  | compilePath (path : String)
  | renderText (text : String) (source : Value)
  | renderPath (path : String) (source : Value)
  | request (r : Tool.Request)

inductive Answer where
  | template (result : Except Error Template)
  | text (result : Except Error String)
  | report (result : Except Template.Rejected Tool.Report)

/-- A template with the name of its source and the prefix that it was compiled under. -/
structure Compiled where
  source : String
  prefixText : String
  template : Template

/-- The record of a template. -/
def Compiled.record (c : Compiled) : Log.Record where
  level := .debug
  message := "Compiled template"
  context := .record false [
    ("source", .string c.source),
    ("prefix", .string c.prefixText),
    ("blocks", .number (.ofNat c.template.blocks.length)),
    ("symbols", .array (c.template.usedNames.map .string))]

namespace Task

variable {σ : Type}

def perform (p : Processor) (sink : Log.Sink σ) (files : Tree) (task : Task) (s : σ) :
    Answer × σ :=
  match task with
  | .compileLines lines => (p.compileLines sink lines s).map .template id
  | .compileText text => (p.compileText sink text s).map .template id
  | .compilePath path => (p.compilePath sink files path s).map .template id
  | .renderText text source => (p.renderText sink text source s).map .text id
  | .renderPath path source => (p.renderPath sink files path source s).map .text id
  | .request r => (r.run sink s).map .report id

/-- The file that a task reads. -/
def path? : Task → Option String
  | .compilePath path | .renderPath path _ => some path
  | _ => none

/-- The template that a task compiles, if it compiles one. -/
def compiled? (p : Processor) (files : Tree) : Task → Option Compiled
  | .compileLines lines =>
    (Template.compileLines p.prefixText lines).toOption.map (⟨"lines", p.prefixText, ·⟩)
  | .compileText text | .renderText text _ =>
    (Template.compileText p.prefixText text).toOption.map (⟨"string", p.prefixText, ·⟩)
  | .compilePath path | .renderPath path _ =>
    (files.readText [] path).toOption.bind fun text =>
      (Template.compileText p.prefixText text).toOption.map (⟨path, p.prefixText, ·⟩)
  | .request r =>
    (ofPrefixOption r.directivePrefix).toOption.bind fun own =>
      (Template.compileText own.prefixText r.document).toOption.map (⟨"string", own.prefixText, ·⟩)

/-- What a task gives without a log. -/
def detached (p : Processor) (files : Tree) (task : Task) : Answer :=
  (task.perform p Log.ignore files ()).1

/-- What a task gives with a log, and the world afterwards. A record that cannot be written ends the
task. -/
def attached (p : Processor) (l : Log.Writer) (task : Task) (w : World) :
    Except Log.Failure Answer × World :=
  match task.perform p l.noting w.files (w, []) with
  | (answer, w', []) => (.ok answer, w')
  | (_, w', e :: _) => (.error e, w')

/-- Does tasks in turn, each at its time. -/
def attachedRun (p : Processor) (l : Log.Writer) :
    List (String × Task) → World → List (Except Log.Failure Answer) × World
  | [], w => ([], w)
  | (timestamp, task) :: tasks, w =>
    let (answer, w) := task.attached p l { w with timestamp }
    let (answers, w) := attachedRun p l tasks w
    (answer :: answers, w)

/-- The records of tasks that are done in turn, each over its files, behind those that are there. -/
def records (p : Processor) (tasks : List (Tree × Task)) (rs : List Log.Record) :
    List Log.Record :=
  tasks.foldl (fun rs t => (t.2.perform p Log.keep t.1 rs).2) rs

end Task

/-! ### Answers and records of one task -/

section Perform

variable {σ : Type}

theorem report_snd (p : Processor) (sink : Log.Sink σ) (source : String)
    (result : Except Template.CompileError Template) (s : σ) :
    (p.report sink source result s).2 =
      (result.toOption.map (⟨source, p.prefixText, ·⟩)).elim s fun c : Compiled =>
        sink c.record s := by
  cases result <;> rfl

theorem compilePath_snd (p : Processor) (sink : Log.Sink σ) (files : Tree) (path : String)
    (s : σ) :
    (p.compilePath sink files path s).2 =
      ((Task.compilePath path).compiled? p files).elim s fun c => sink c.record s := by
  rw [compilePath, Task.compiled?]
  cases files.readText [] path with
  | error e => rfl
  | ok text => exact p.report_snd sink path _ s

theorem perform_fst (p : Processor) (sink : Log.Sink σ) (files : Tree) (task : Task) (s : σ) :
    (task.perform p sink files s).1 = task.detached p files := by
  unfold Task.detached
  cases task with
  | compileLines lines =>
    simp only [Task.perform, Prod.map_fst, compileLines_fst]
  | compileText text =>
    simp only [Task.perform, Prod.map_fst, compileText_fst]
  | compilePath path =>
    simp only [Task.perform, Prod.map_fst, compilePath_fst]
  | renderText text source =>
    simp only [Task.perform, Prod.map_fst, renderText_fst, compileText_fst]
  | renderPath path source =>
    simp only [Task.perform, Prod.map_fst, renderPath_fst, compilePath_fst]
  | request r =>
    simp only [Task.perform, Prod.map_fst, Tool.Request.run]
    cases ofPrefixOption r.directivePrefix with
    | error e => rfl
    | ok own =>
      dsimp only
      cases Template.compileText own.prefixText r.document <;> rfl

/-- A template that is compiled is reported once, whatever becomes of it afterwards. -/
theorem perform_snd (p : Processor) (sink : Log.Sink σ) (files : Tree) (task : Task) (s : σ) :
    (task.perform p sink files s).2 =
      (task.compiled? p files).elim s fun c => sink c.record s := by
  cases task with
  | compileLines lines => exact p.report_snd sink "lines" _ s
  | compileText text => exact p.report_snd sink "string" _ s
  | compilePath path => exact p.compilePath_snd sink files path s
  | renderText text source => exact p.report_snd sink "string" _ s
  | renderPath path source => exact p.compilePath_snd sink files path s
  | request r =>
    simp only [Task.perform, Prod.map_snd, Tool.Request.run, Task.compiled?]
    cases ofPrefixOption r.directivePrefix with
    | error e => rfl
    | ok own =>
      dsimp only [Except.toOption, Option.bind_some]
      cases Template.compileText own.prefixText r.document <;> rfl

end Perform

/-- Answers change with the files that are read only. -/
theorem detached_congr (p : Processor) {place : Location} {t t' : Tree}
    (hfiles : Tree.SameBut place t t') {task : Task}
    (hplace : ∀ path ∈ task.path?, place ∉ Tree.visited [] (Path.walked path)) :
    task.detached p t = task.detached p t' := by
  cases task with
  | compileLines lines => rfl
  | compileText text => rfl
  | compilePath path =>
    simp only [Task.detached, Task.perform, compilePath, hfiles.readText_eq (hplace path rfl)]
  | renderText text source => rfl
  | renderPath path source =>
    simp only [Task.detached, Task.perform, renderPath, compilePath,
      hfiles.readText_eq (hplace path rfl)]
  | request r => rfl

/-- A template's record holds texts and a number. -/
theorem not_unwritable_record (c : Compiled) : ¬ Log.Unwritable c.record.context := by
  rintro ⟨hreaches, -⟩
  cases hreaches with
  | field hplain hmem hvalue =>
    simp only [List.mem_cons, Prod.mk.injEq, List.not_mem_nil, or_false] at hmem
    rcases hmem with ⟨-, rfl⟩ | ⟨-, rfl⟩ | ⟨-, rfl⟩ | ⟨-, rfl⟩
    · cases hvalue
    · cases hvalue
    · cases hvalue
    · cases hvalue with
      | item hitem hname =>
        obtain ⟨name, -, rfl⟩ := List.mem_map.mp hitem
        cases hname

theorem records_eq (p : Processor) (tasks : List (Tree × Task)) (rs : List Log.Record) :
    Task.records p tasks rs =
      rs ++ tasks.filterMap fun t => (t.2.compiled? p t.1).map Compiled.record := by
  induction tasks generalizing rs with
  | nil => simp [Task.records]
  | cons t tasks ih =>
    rw [Task.records, List.foldl_cons, ← Task.records, ih, perform_snd]
    cases hcompiled : t.2.compiled? p t.1 with
    | none => simp [hcompiled]
    | some c => simp [hcompiled, Log.keep]

/-! ### Answers with a log -/

section Attached

variable {options : Value} {level label : String} {l : Log.Writer}
  (h : l.Configured options level label)
include h

theorem write_record (c : Compiled) (w : World) : (l.write c.record w).1 = .ok () := by
  cases hbelow : Log.isBelow level c.record.level with
  | true => rw [h.write_below hbelow]
  | false =>
    obtain ⟨-, -, hok, -⟩ := h.write_of_writable hbelow (not_unwritable_record c) w
    exact hok

theorem noting_record (c : Compiled) (w : World) :
    l.noting c.record (w, []) = ((l.write c.record w).2, []) := by
  have hwrite := write_record h c w
  rw [Log.Writer.noting]
  generalize l.write c.record w = written at hwrite ⊢
  obtain ⟨result, w'⟩ := written
  cases hwrite
  rfl

/-- A task gives what it gives without a log; the log gets the record of its template. -/
theorem attached_eq (p : Processor) (task : Task) (w : World) :
    task.attached p l w =
      (.ok (task.detached p w.files),
        (task.compiled? p w.files).elim w fun c => (l.write c.record w).2) := by
  have hperform : task.perform p l.noting w.files (w, []) = (task.detached p w.files,
      (task.compiled? p w.files).elim w fun c => (l.write c.record w).2, []) := by
    refine Prod.ext (perform_fst p l.noting w.files task _) ?_
    rw [perform_snd]
    cases task.compiled? p w.files with
    | none => rfl
    | some c => exact noting_record h c w
  rw [Task.attached, hperform]

/-- The journal that takes no note of failures misses none. -/
theorem attached_sink (p : Processor) (task : Task) (w : World) :
    task.attached p l w =
      (.ok (task.detached p w.files), (task.perform p l.sink w.files w).2) := by
  rw [attached_eq h, perform_snd]
  rfl

/-- The log is all that a task leaves behind. -/
theorem attached_world (p : Processor) (task : Task) (w : World) :
    (task.attached p l w).2.here = w.here ∧
      Tree.SameBut (Tree.target w.here l.logFile) w.files (task.attached p l w).2.files := by
  rw [attached_eq h]
  cases task.compiled? p w.files with
  | none => exact ⟨rfl, .refl _ _⟩
  | some c => exact ⟨l.here_write c.record w, l.sameBut_write c.record w⟩

/-- In a run the files differ from those at its beginning where the log is kept, if anywhere. -/
theorem attachedRun_eq (p : Processor) {files : Tree} {tasks : List (String × Task)} {w : World}
    (hfiles : Tree.SameBut (Tree.target w.here l.logFile) files w.files)
    (hplace : ∀ t ∈ tasks, ∀ path ∈ t.2.path?,
      Tree.target w.here l.logFile ∉ Tree.visited [] (Path.walked path)) :
    (Task.attachedRun p l tasks w).1 = tasks.map fun t => .ok (t.2.detached p files) := by
  induction tasks generalizing w with
  | nil => rfl
  | cons t tasks ih =>
    obtain ⟨timestamp, task⟩ := t
    obtain ⟨htask, htasks⟩ := List.forall_mem_cons.mp hplace
    have hanswer : (task.attached p l { w with timestamp }).1 = .ok (task.detached p files) := by
      rw [attached_eq h, detached_congr p hfiles htask]
    obtain ⟨hhere, hkept⟩ := attached_world h p task { w with timestamp }
    have hrun : (Task.attachedRun p l ((timestamp, task) :: tasks) w).1 =
        (task.attached p l { w with timestamp }).1 ::
          (Task.attachedRun p l tasks (task.attached p l { w with timestamp }).2).1 := rfl
    rw [hrun, hanswer, List.map_cons]
    generalize (task.attached p l { w with timestamp }).2 = w' at hhere hkept ⊢
    have hrest : (Task.attachedRun p l tasks w').1 =
        tasks.map fun t => .ok (t.2.detached p files) := by
      refine ih ?_ ?_
      · rw [hhere]
        exact hfiles.trans hkept
      · rw [hhere]
        exact htasks
    rw [hrest]

end Attached

/-- Whatever names and paths a template's record holds, its line is written and is one line. -/
theorem oneLine_record (c : Compiled) (time : Instant) {label : String}
    (hlabel : Text.OneLine label) :
    ∃ line, Log.entryAt (some time) c.record.level.name label c.record.message c.record.context =
      .ok line ∧ Text.OneLine line := by
  have hmessage : Text.OneLine c.record.message :=
    (by decide : Text.OneLine "Compiled template")
  rw [Log.entryAt]
  cases hline : Log.entry time.isoText c.record.level.name label c.record.message
      c.record.context with
  | error e => exact absurd (Log.entry_eq_error_iff.mp hline) (not_unwritable_record c)
  | ok line => exact ⟨line, rfl, Log.oneLine_entry hlabel hmessage hline⟩

/-- A log changes no answer: not of a task in any world, where no record fails to be written, and
not of one in a run whose path keeps clear of the file of the log. The records of a run are those of
the templates compiled, in order, and each of them is written on one line. -/
theorem log_changes_no_answer (p : Processor) (options : Value) (w₀ : World) (l : Log.Writer)
    (level label : String) (hcreate : (Log.Writer.create options w₀).1 = .ok l)
    (hlevel : (Log.Writer.option options "level").text? = some level)
    (hlabel : (Log.Writer.option options "name").text? = some label) :
    (∀ (task : Task) w, task.attached p l w =
      (.ok (task.detached p w.files), (task.perform p l.sink w.files w).2)) ∧
    (∀ tasks w,
      (∀ t ∈ tasks, ∀ path ∈ t.2.path?,
        Tree.target w.here l.logFile ∉ Tree.visited [] (Path.walked path)) →
      (Task.attachedRun p l tasks w).1 = tasks.map fun t => .ok (t.2.detached p w.files)) ∧
    (∀ tasks rs, Task.records p tasks rs =
      rs ++ tasks.filterMap fun t => (t.2.compiled? p t.1).map Compiled.record) ∧
    ∀ (c : Compiled) (time : Instant) (name : String), Text.OneLine name →
      ∃ line, Log.entryAt (some time) c.record.level.name name c.record.message c.record.context =
        .ok line ∧ Text.OneLine line := by
  have h := Log.Writer.configured_of_create hcreate hlevel hlabel
  exact ⟨fun task w => attached_sink h p task w,
    fun _ w hplace => attachedRun_eq h p (.refl _ w.files) hplace,
    records_eq p, fun c time _ hname => oneLine_record c time hname⟩

theorem log_changes_no_answer_two_tasks :
    let options : Value := .record false [("level", .string "debug"), ("file", .bool true)]
    let w : World := ⟨⟨[(["in"], .file [0x78])]⟩, [], "", []⟩
    let compile : Task := .compileText "#if a\nx\n#endif"
    let render : Task := .renderPath "/in" (.array [])
    ∃ l, (Log.Writer.create options w).1 = .ok l ∧
      (Task.attachedRun .standard l [("1", compile), ("2", render)] w).1 =
        [.ok (compile.detached .standard w.files), .ok (render.detached .standard w.files)] := by
  intro options w compile render
  have hcreate : (Log.Writer.create options w).1 =
      .ok ⟨.atLeast .debug, "preprocessor", "output/logs/preprocessor.log", true, true, false⟩ := by
    cbv
  obtain ⟨-, hrun, -, -⟩ := log_changes_no_answer .standard options w _ "debug" "preprocessor"
    hcreate (by cbv) (by cbv)
  refine ⟨_, hcreate, hrun [("1", compile), ("2", render)] w ?_⟩
  have htarget : Tree.target w.here "output/logs/preprocessor.log" =
      ["output", "logs", "preprocessor.log"] := by
    cbv
  have hvisited : Tree.visited [] (Path.walked "/in") = [["in"]] := by cbv
  rw [htarget]
  intro t ht path hpath
  rcases List.mem_cons.mp ht with rfl | ht
  · cases hpath
  · obtain rfl := List.mem_singleton.mp ht
    cases hpath
    rw [hvisited]
    decide

end Processor

end GuardedText
