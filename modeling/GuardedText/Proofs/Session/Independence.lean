import GuardedText.Proofs.Processor
import GuardedText.Proofs.Session.Effect
import GuardedText.Proofs.Settings.Prefix
import GuardedText.Proofs.Template.Checked
import Mathlib

/-! Processors in a session do not touch each other. What a processor answers is told by its prefix,
and that is the last one it was given in a step that did not fail, whatever steps came between. A
template that goes by a name stays what it was until another one gets that name. -/

namespace GuardedText.Session

/-! ### Histories -/

/-- Steps with their answers, in the order of the steps. -/
abbrev History := List (Step × Except Error Answer)

def history (s : Session) (steps : List Step) : History :=
  steps.zip (s.run steps)

/-- The session that steps leave. -/
def after (s : Session) (steps : List Step) : Session :=
  steps.foldl (fun s step => (s.next step).2) s

/-- The prefix of a processor after one more step, when `last` was its prefix before. -/
def given (on : Option String) (last : Option Value) : Step × Except Error Answer → Option Value
  | (.changePrefix v, .ok _) => if on = none then some v else last
  | (.newProcessor as v _, .ok _) =>
    if on = some as then some (if v.isAbsent then .string Prefix.standard.text else v) else last
  | _ => last

/-- The prefix before the first step: only the processor in the background is there. -/
def givenFirst : Option String → Option Value
  | none => some (.string Prefix.standard.text)
  | some _ => none

/-- The prefix that a processor was given last; `none` where there is no such processor. -/
def lastGiven (on : Option String) (h : History) : Option Value :=
  h.foldl (given on) (givenFirst on)

theorem history_cons (s : Session) (step : Step) (steps : List Step) :
    s.history (step :: steps) = (step, (s.next step).1) :: (s.next step).2.history steps := rfl

theorem after_cons (s : Session) (step : Step) (steps : List Step) :
    s.after (step :: steps) = (s.next step).2.after steps := rfl

/-- A run goes on from the session that its first steps leave. -/
theorem run_append (s : Session) (xs ys : List Step) :
    s.run (xs ++ ys) = s.run xs ++ (s.after xs).run ys := by
  induction xs generalizing s with
  | nil => rfl
  | cons x xs ih =>
    rw [after_cons]
    exact congrArg ((s.next x).1 :: ·) (ih (s.next x).2)

/-! ### The prefix in force -/

/-- The prefix of a processor as a value. -/
def prefix? (s : Session) (on : Option String) : Option Value :=
  (s.processor? on).map fun p => .string p.prefixText

theorem Keeps.prefix? {s s' : Session} (h : Keeps s s') (on : Option String) :
    s'.prefix? on = s.prefix? on := by
  rw [Session.prefix?, h.processors on, Session.prefix?]

theorem given_of_setsPrefix {on : Option String} {last : Option Value} {step : Step}
    {answer : Except Error Answer} (h : step.setsPrefix = false) :
    given on last (step, answer) = last := by
  cases step with
  | newProcessor | changePrefix => cases h
  | _ => rfl

theorem given_error (on : Option String) (last : Option Value) (step : Step) (e : Error) :
    given on last (step, .error e) = last := by
  cases step <;> rfl

theorem string_of_ofPrefixOption {v : Value} {p : Processor}
    (h : Processor.ofPrefixOption v = .ok p) :
    .string p.prefixText = if v.isAbsent then .string Prefix.standard.text else v := by
  obtain ⟨settings, hsettings, rfl⟩ := map_eq_ok h
  exact (Settings.eq_string_of_ofPrefix hsettings).symm

/-- One step leaves each processor under the prefix that the step gave it, if it gave it one. -/
theorem prefix?_next (s : Session) (step : Step) (on : Option String) :
    (s.next step).2.prefix? on = given on (s.prefix? on) (step, (s.next step).1) := by
  have heffect := Effect.of_next s step
  generalize (s.next step).1 = result at heffect ⊢
  generalize (s.next step).2 = s' at heffect ⊢
  cases heffect with
  | created hp processors =>
    rw [prefix?, processors, given]
    split
    · rw [Option.map_some, string_of_ofPrefixOption hp]
    · rfl
  | changed hv processors =>
    rw [prefix?, processors, given]
    split
    · rw [Option.map_some, Settings.eq_string_of_ofPrefix hv]
      rfl
    · rfl
  | named more hstep processors =>
    rw [given_of_setsPrefix hstep, prefix?, processors, prefix?]
  | failed h => rw [given_error, h.prefix?]

theorem prefix?_after (s : Session) (steps : List Step) (on : Option String) :
    (s.after steps).prefix? on = (s.history steps).foldl (given on) (s.prefix? on) := by
  induction steps generalizing s with
  | nil => rfl
  | cons step steps ih =>
    rw [after_cons, ih, prefix?_next, history_cons, List.foldl_cons]

theorem prefix?_start (files : Files.Tree) (here : Files.Location) (on : Option String) :
    (start files here).prefix? on = givenFirst on := by
  cases on <;> rfl

theorem prefix?_after_start (files : Files.Tree) (here : Files.Location) (steps : List Step)
    (on : Option String) :
    ((start files here).after steps).prefix? on =
      lastGiven on ((start files here).history steps) := by
  rw [prefix?_after, prefix?_start, lastGiven]

/-! ### Answers under a prefix -/

def Error.ofRejected : Template.Rejected → Error
  | .settings e => .settings e
  | .compile e => .processor (.compile e)

/-- The answer where a document is compiled. -/
def compiled (result : Except Template.Rejected Template) : Except Error Answer :=
  (result.mapError Error.ofRejected).map .compiled

/-- The answer where a document is compiled and rendered at once. -/
def rendered (result : Except Template.Rejected Template) (source : Value) : Except Error Answer :=
  (result.mapError Error.ofRejected).bind fun t =>
    ((t.renderFrom source).map .text).mapError fun e => .processor (.source e)

/-- The text of a file as it is now. -/
def content (s : Session) (path : String) : Except Error String :=
  (s.files.readText [] (s.path path)).mapError fun e => .processor (.files e)

/-- Whatever is to be compiled, the processor answers as compiling under the prefix `v` does. -/
structure AnswersUnder (s : Session) (on : Option String) (v : Value) : Prop where
  lines : ∀ lines as, (s.next (.compileLines on lines as)).1 =
    compiled (Template.compileLinesUnder v lines)
  text : ∀ text as, (s.next (.compileText on text as)).1 =
    compiled (Template.compileTextUnder v text)
  file : ∀ path as, (s.next (.compilePath on path as)).1 =
    (s.content path).bind fun text => compiled (Template.compileTextUnder v text)
  renderedText : ∀ text source, (s.next (.renderText on text source)).1 =
    rendered (Template.compileTextUnder v text) source
  renderedFile : ∀ path source, (s.next (.renderPath on path source)).1 =
    (s.content path).bind fun text => rendered (Template.compileTextUnder v text) source

theorem answerCompiled_fst (as : Option String) (r : Except Error Template × Session) :
    (answerCompiled as r).1 = r.1.map .compiled := by
  obtain ⟨_ | t, s⟩ := r <;> rfl

/-- A processor compiles as under the text of its prefix, which is valid. -/
theorem compiled_prefixText (p : Processor)
    (compile : String → Except Template.CompileError Template) :
    compiled (Template.compileUnder (.string p.prefixText) compile) =
      (((compile p.prefixText).mapError .compile).mapError .processor).map .compiled := by
  rw [Processor.prefixText, Template.compileUnder_valid]
  cases compile p.settings.directivePrefix.text <;> rfl

theorem rendered_prefixText (p : Processor)
    (compile : String → Except Template.CompileError Template) (source : Value) :
    rendered (Template.compileUnder (.string p.prefixText) compile) source =
      ((Processor.renderResult ((compile p.prefixText).mapError .compile) source).mapError
        .processor).map .text := by
  rw [Processor.prefixText, Template.compileUnder_valid]
  cases compile p.settings.directivePrefix.text with
  | error e => rfl
  | ok t =>
    simp only [rendered, Except.mapError, Except.bind, Processor.renderResult]
    cases t.renderFrom source <;> rfl

theorem answersUnder {s : Session} {on : Option String} {p : Processor}
    (h : s.processor? on = some p) : AnswersUnder s on (.string p.prefixText) where
  lines lines as := by
    obtain ⟨_, hwork⟩ := work_fst s on (fun p => p.compileLines workerSink lines) h
    calc (s.next (.compileLines on lines as)).1
      _ = (s.work on fun p => p.compileLines workerSink lines).1.map .compiled :=
        answerCompiled_fst as _
      _ = compiled (Template.compileLinesUnder (.string p.prefixText) lines) := by
        rw [hwork, Processor.compileLines_fst]
        exact (compiled_prefixText p fun q => Template.compileLines q lines).symm
  text text as := by
    obtain ⟨_, hwork⟩ := work_fst s on (fun p => p.compileText workerSink text) h
    calc (s.next (.compileText on text as)).1
      _ = (s.work on fun p => p.compileText workerSink text).1.map .compiled :=
        answerCompiled_fst as _
      _ = compiled (Template.compileTextUnder (.string p.prefixText) text) := by
        rw [hwork, Processor.compileText_fst]
        exact (compiled_prefixText p fun q => Template.compileText q text).symm
  file path as := by
    obtain ⟨_, hwork⟩ :=
      work_fst s on (fun p => p.compilePath workerSink s.files (s.path path)) h
    calc (s.next (.compilePath on path as)).1
      _ = (s.work on fun p => p.compilePath workerSink s.files (s.path path)).1.map .compiled :=
        answerCompiled_fst as _
      _ = (s.content path).bind fun text =>
          compiled (Template.compileTextUnder (.string p.prefixText) text) := by
        rw [hwork, Processor.compilePath_fst, content]
        cases s.files.readText [] (s.path path) with
        | error e => rfl
        | ok text => exact (compiled_prefixText p fun q => Template.compileText q text).symm
  renderedText text source := by
    obtain ⟨_, hwork⟩ := work_fst s on (fun p => p.renderText workerSink text source) h
    calc (s.next (.renderText on text source)).1
      _ = (s.work on fun p => p.renderText workerSink text source).1.map .text := rfl
      _ = rendered (Template.compileTextUnder (.string p.prefixText) text) source := by
        rw [hwork, Processor.renderText_fst, Processor.compileText_fst]
        exact (rendered_prefixText p (fun q => Template.compileText q text) source).symm
  renderedFile path source := by
    obtain ⟨_, hwork⟩ :=
      work_fst s on (fun p => p.renderPath workerSink s.files (s.path path) source) h
    calc (s.next (.renderPath on path source)).1
      _ = (s.work on fun p =>
          p.renderPath workerSink s.files (s.path path) source).1.map .text := rfl
      _ = (s.content path).bind fun text =>
          rendered (Template.compileTextUnder (.string p.prefixText) text) source := by
        rw [hwork, Processor.renderPath_fst, Processor.compilePath_fst, content]
        cases s.files.readText [] (s.path path) with
        | error e => rfl
        | ok text => exact (rendered_prefixText p (fun q => Template.compileText q text) source).symm

/-! ### Templates under their names -/

theorem lookup_templates_next (s : Session) {step : Step} {name : String}
    (h : ¬ step.MayName name) :
    (s.next step).2.templates.lookup name = s.templates.lookup name := by
  have heffect := Effect.of_next s step
  generalize (s.next step).1 = result at heffect
  generalize (s.next step).2 = s' at heffect ⊢
  cases heffect with
  | created _ _ templates | changed _ _ templates => rw [templates]
  | failed hkeeps => rw [hkeeps.templates]
  | named more _ _ templates names =>
    have hmore : more.lookup name = none := by
      refine List.lookup_eq_none_iff.mpr fun t ht => bne_iff_ne.mpr ?_
      rintro rfl
      exact h (names t ht)
    rw [templates, List.lookup_append, hmore, Option.none_or]

theorem lookup_templates_after (s : Session) {steps : List Step} {name : String}
    (h : ∀ step ∈ steps, ¬ step.MayName name) :
    (s.after steps).templates.lookup name = s.templates.lookup name := by
  induction steps generalizing s with
  | nil => rfl
  | cons step steps ih =>
    obtain ⟨hstep, hsteps⟩ := List.forall_mem_cons.mp h
    rw [after_cons, ih _ hsteps, lookup_templates_next s hstep]

/-- The template that a step answers goes by the name that the step gave it. -/
theorem lookup_of_compiled {s : Session} {step : Step} {name : String} {t : Template}
    (hname : step.MayName name) (h : (s.next step).1 = .ok (.compiled t)) :
    ∃ held, (s.next step).2.templates.lookup name = some held ∧ held.template = t := by
  have of_answer : ∀ {as : Option String} {r : Except Error Template × Session},
      as = some name → (answerCompiled as r).1 = .ok (.compiled t) →
        ∃ held, (answerCompiled as r).2.templates.lookup name = some held ∧ held.template = t := by
    rintro _ ⟨_ | t', s'⟩ rfl hr
    · cases hr
    · cases hr
      exact ⟨_, List.lookup_cons_self, rfl⟩
  cases step with
  | compileLines | compileText | compilePath => exact of_answer hname h
  | fetch store file as =>
    obtain rfl : as = some name := hname
    simp only [next, perform] at h ⊢
    split at h
    · cases h
    · split at h
      · cases h
      · cases h
        exact ⟨_, List.lookup_cons_self, rfl⟩
  | fetchAll store names as =>
    simp only [next, perform] at h
    split at h
    · cases h
    · split at h <;> cases h
  | _ => exact hname.elim

theorem render_fst {s : Session} {name : String} {held : Held}
    (h : s.templates.lookup name = some held) (source : Value) :
    (s.next (.render name source)).1 =
      ((held.template.renderFrom source).map .text).mapError .source := by
  simp only [next, perform, withTemplate, h]

/-! ### Whole runs -/

/-- After any steps, each processor answers under the prefix that it was given last. That of the
processor in the background is in force and valid; a step that fails leaves it, the other
processors and the templates alone; and a template renders as ever under the name that it got. -/
theorem processors_independent (files : Files.Tree) (here : Files.Location)
    (steps : List Step) :
    let before := (start files here).history steps
    let s := (start files here).after steps
    (∀ step, (start files here).run (steps ++ [step]) =
      (start files here).run steps ++ [(s.next step).1]) ∧
    (lastGiven none before = some (.string s.background.prefixText) ∧
      s.background.prefixText ≠ "" ∧
      ∀ c ∈ s.background.prefixText.toList, 0x21 ≤ c.toNat ∧ c.toNat ≤ 0x7E) ∧
    (∀ step e, (s.next step).1 = .error e → Keeps s (s.next step).2) ∧
    (∀ on v, lastGiven on before = some v → AnswersUnder s on v) ∧
    (∀ step name t, step.MayName name → (s.next step).1 = .ok (.compiled t) →
      ∀ later, (∀ l ∈ later, ¬ l.MayName name) → ∀ source,
        (((s.next step).2.after later).next (.render name source)).1 =
          ((t.renderFrom source).map .text).mapError .source) := by
  intro before s
  refine ⟨fun step => run_append _ steps [step], ⟨?_, s.background.settings.directivePrefix.nonempty,
    fun c hc => ?_⟩, fun step e h => ?_, fun on v h => ?_, fun step name t hname h later hlater
    source => ?_⟩
  · exact (prefix?_after_start files here steps none).symm
  · simpa [Prefix.admits] using Prefix.admits_of_mem _ hc
  · have heffect := Effect.of_next s step
    rw [h] at heffect
    cases heffect with
    | failed hkeeps => exact hkeeps
  · rw [← prefix?_after_start] at h
    obtain ⟨p, hp, rfl⟩ := Option.map_eq_some_iff.mp h
    exact answersUnder hp
  · obtain ⟨held, hlookup, rfl⟩ := lookup_of_compiled hname h
    exact render_fst ((lookup_templates_after _ hlater).trans hlookup) source

/-- Two prefixes in use at once, between them one that is refused, and a template that outlives the
prefix it was compiled under. -/
theorem processors_independent_interleaved :
    let steps : List Step := [.newProcessor "p" (.string "//") false, .changePrefix (.string "%"),
      .changePrefix (.string "a b")]
    let before := (start .empty []).history steps
    let s := (start .empty []).after steps
    let compile : Step := .compileText none "%if a\ny\n%endif" (some "u")
    lastGiven none before = some (.string "%") ∧
    ((s.next (.changePrefix .null)).1 = .error (.settings (.ofProblems [.prefixNotText])) ∧
      Keeps s (s.next (.changePrefix .null)).2) ∧
    (lastGiven (some "p") before = some (.string "//") ∧
      AnswersUnder s (some "p") (.string "//")) ∧
    (s.next compile).1 = .ok (.compiled ⟨[.conditional [(.name "a", [.text "y\n"])]]⟩) ∧
    (((s.next compile).2.after [.changePrefix (.string "@")]).next
      (.render "u" (.string "a"))).1 = .ok (.text "y") := by
  intro steps before s compile
  obtain ⟨-, -, hfail, hanswers, hrender⟩ := processors_independent .empty [] steps
  have hbackground : lastGiven none before = some (.string "%") := by
    cbv
  have hp : lastGiven (some "p") before = some (.string "//") := by
    cbv
  have hrefused : (s.next (.changePrefix .null)).1 =
      .error (.settings (.ofProblems [.prefixNotText])) := by
    have hnull : Settings.ofPrefix .null = .error (.ofProblems [.prefixNotText]) := by
      rw [Settings.ofPrefix_eq]
      rfl
    simp only [next, perform, hnull]
  have hcompile : (s.next compile).1 =
      .ok (.compiled ⟨[.conditional [(.name "a", [.text "y\n"])]]⟩) := by
    rw [(hanswers none _ hbackground).text]
    cbv
  have hkept := hrender compile "u" _ rfl hcompile [.changePrefix (.string "@")]
    (by simp [Step.MayName]) (.string "a")
  exact ⟨hbackground, ⟨hrefused, hfail _ _ hrefused⟩, ⟨hp, hanswers _ _ hp⟩, hcompile,
    hkept.trans (by cbv)⟩

end GuardedText.Session
