import GuardedText.Proofs.Result
import GuardedText.Session

/-! What one step of a session can do to its processors and its templates. It makes a processor, or
replaces the one in the background, or names templates in front of those it has, and a step that
fails does none of this. Everything that is kept along a session follows from these cases. -/

namespace GuardedText.Session

/-- The processor that works where a step says so: one under a name, or the one in the
background. -/
def processor? (s : Session) : Option String → Option Processor
  | none => some s.background
  | some name => (s.workers.lookup name).map Worker.processor

/-- No processor and no template is another one, by whatever name. -/
structure Keeps (s s' : Session) : Prop where
  processors : ∀ on, s'.processor? on = s.processor? on
  templates : s'.templates = s.templates

/-- Whether the step can give a template this name. -/
def Step.MayName (step : Step) (name : String) : Prop :=
  match step with
  | .compileLines _ _ as | .compileText _ _ as | .compilePath _ _ as | .fetch _ _ as =>
    as = some name
  | .fetchAll _ _ as => ∃ stem file, as = some stem ∧ name = stem ++ file
  | _ => False

/-- Whether the step gives a processor its prefix. -/
def Step.setsPrefix : Step → Bool
  | .newProcessor .. | .changePrefix _ => true
  | _ => false

inductive Effect (s : Session) : Step → Except Error Answer → Session → Prop where
  | created {as v journal p s'} (hp : Processor.ofPrefixOption v = .ok p)
    (processors : ∀ on, s'.processor? on = if on = some as then some p else s.processor? on)
    (templates : s'.templates = s.templates) :
    Effect s (.newProcessor as v journal) (.ok (.processor p)) s'
  | changed {v settings s'} (hv : Settings.ofPrefix v = .ok settings)
    (processors : ∀ on, s'.processor? on = if on = none then some ⟨settings⟩ else s.processor? on)
    (templates : s'.templates = s.templates) :
    Effect s (.changePrefix v) (.ok .done) s'
  | named {step answer s'} (more : List (String × Held)) (hstep : step.setsPrefix = false)
    (processors : ∀ on, s'.processor? on = s.processor? on)
    (templates : s'.templates = more ++ s.templates)
    (names : ∀ t ∈ more, step.MayName t.1) : Effect s step (.ok answer) s'
  | failed {step e s'} (h : Keeps s s') : Effect s step (.error e) s'

/-! ### Changes that keep processors and templates -/

namespace Keeps

theorem refl (s : Session) : Keeps s s :=
  ⟨fun _ => rfl, rfl⟩

theorem setSource (s : Session) (name : String) (source : Source) :
    Keeps s (s.setSource name source) :=
  ⟨fun on => by cases on <;> rfl, rfl⟩

theorem addStore (s : Session) (as : String) (result : Except LoadError Store) :
    Keeps s (s.addStore as result).2 := by
  cases result with
  | error e => exact .refl s
  | ok l => exact .setSource s _ _

theorem withTemplate (s : Session) (name : String) (act : Held → Except Error Answer) :
    Keeps s (s.withTemplate name act).2 := by
  rw [Session.withTemplate]
  split <;> exact .refl s

end Keeps

theorem processor?_setWorker (s : Session) (name : String) (w : Worker) (on : Option String) :
    (s.setWorker name w).processor? on =
      if on = some name then some w.processor else s.processor? on := by
  cases on with
  | none => rfl
  | some n =>
    by_cases hn : n = name
    · simp [processor?, setWorker, hn]
    · simp [processor?, setWorker, hn, List.lookup_cons, beq_eq_false_iff_ne.mpr hn]

/-- A worker may get another journal. -/
theorem Keeps.setWorker {s : Session} {name : String} {w w' : Worker}
    (h : s.workers.lookup name = some w) (hw : w'.processor = w.processor) :
    Keeps s (s.setWorker name w') := by
  refine ⟨fun on => ?_, rfl⟩
  rw [processor?_setWorker]
  split
  · next hon => rw [hon, processor?, h, hw, Option.map_some]
  · rfl

section Work

variable {α : Type} (s : Session) (on : Option String)
  (act : Processor → Option (List Log.Record) →
    Except Processor.Error α × Option (List Log.Record))

theorem Keeps.work : Keeps s (s.work on act).2 := by
  cases on with
  | none => exact .refl s
  | some name =>
    rw [Session.work]
    split
    · exact .refl s
    · next hw => exact .setWorker hw rfl

/-- What is answered is what the processor makes of the task. -/
theorem work_fst {p : Processor} (h : s.processor? on = some p) :
    ∃ journal, (s.work on act).1 = (act p journal).1.mapError .processor := by
  cases on with
  | none =>
    cases h
    exact ⟨none, rfl⟩
  | some name =>
    obtain ⟨w, hw, rfl⟩ := Option.map_eq_some_iff.mp h
    exact ⟨w.journal, by rw [Session.work, hw]⟩

end Work

/-! ### Naming templates -/

theorem processor?_hold (s : Session) (as : Option String) (h : Held) (on : Option String) :
    (s.hold as h).processor? on = s.processor? on := by
  cases as <;> cases on <;> rfl

theorem templates_hold (s : Session) (as : Option String) (h : Held) :
    (s.hold as h).templates = (as.map (·, h)).toList ++ s.templates := by
  cases as <;> rfl

theorem holdEach_cons (s : Session) (as : Option String) (origin : Nat) (l : String × Loaded)
    (loaded : List (String × Loaded)) :
    s.holdEach as origin (l :: loaded) =
      (s.hold (as.map (· ++ l.1)) ⟨l.2.template, origin, l.2.serial⟩).holdEach as origin loaded :=
  rfl

theorem processor?_holdEach (s : Session) (as : Option String) (origin : Nat)
    (loaded : List (String × Loaded)) (on : Option String) :
    (s.holdEach as origin loaded).processor? on = s.processor? on := by
  induction loaded generalizing s with
  | nil => rfl
  | cons l loaded ih => rw [holdEach_cons, ih, processor?_hold]

theorem templates_holdEach (s : Session) (as : Option String) (origin : Nat)
    (loaded : List (String × Loaded)) :
    ∃ more, (s.holdEach as origin loaded).templates = more ++ s.templates ∧
      ∀ t ∈ more, ∃ stem file, as = some stem ∧ t.1 = stem ++ file := by
  induction loaded generalizing s with
  | nil => exact ⟨[], rfl, by simp⟩
  | cons l loaded ih =>
    obtain ⟨more, htemplates, hnames⟩ :=
      ih (s.hold (as.map (· ++ l.1)) ⟨l.2.template, origin, l.2.serial⟩)
    rw [holdEach_cons, htemplates, templates_hold, ← List.append_assoc]
    refine ⟨_, rfl, List.forall_mem_append.mpr ⟨hnames, ?_⟩⟩
    cases as with
    | none => simp
    | some stem => simp

/-! ### The cases -/

namespace Effect

variable {s s' : Session} {step : Step}

/-- A step that keeps all has no other effect, whether it fails or not. -/
theorem of_keeps {result : Except Error Answer} (hstep : step.setsPrefix = false)
    (h : Keeps s s') : Effect s step result s' := by
  cases result with
  | error e => exact .failed h
  | ok answer => exact .named [] hstep h.processors h.templates (by simp)

theorem of_hold {answer : Answer} {as : Option String} {held : Held}
    (hstep : step.setsPrefix = false) (h : Keeps s s')
    (hname : ∀ name, as = some name → step.MayName name) :
    Effect s step (.ok answer) (s'.hold as held) := by
  refine .named (as.map (·, held)).toList hstep (fun on => ?_) ?_ ?_
  · rw [processor?_hold, h.processors]
  · rw [templates_hold, h.templates]
  · cases as with
    | none => simp
    | some name => simpa using hname name rfl

theorem of_answerCompiled {as : Option String} {r : Except Error Template × Session}
    (hstep : step.setsPrefix = false) (h : Keeps s r.2)
    (hname : ∀ name, as = some name → step.MayName name) :
    Effect s step (answerCompiled as r).1 (answerCompiled as r).2 := by
  obtain ⟨_ | t, s'⟩ := r
  · exact .failed h
  · exact of_hold hstep h hname

theorem of_holdEach {answer : Answer} {as : Option String} {origin : Nat}
    {loaded : List (String × Loaded)} (hstep : step.setsPrefix = false) (h : Keeps s s')
    (hname : ∀ name, (∃ stem file, as = some stem ∧ name = stem ++ file) → step.MayName name) :
    Effect s step (.ok answer) (s'.holdEach as origin loaded) := by
  obtain ⟨more, htemplates, hnames⟩ := templates_holdEach s' as origin loaded
  refine .named more hstep (fun on => ?_) ?_ fun t ht => hname _ (hnames t ht)
  · rw [processor?_holdEach, h.processors]
  · rw [htemplates, h.templates]

theorem of_perform (s : Session) (step : Step) :
    Effect s step (s.perform step).1 (s.perform step).2 := by
  cases step with
  | newProcessor as v journal =>
    simp only [perform]
    split
    · exact .failed (.refl s)
    · next p hp => exact .created hp (processor?_setWorker s as _) rfl
  | changePrefix v =>
    simp only [perform]
    split
    · exact .failed (.refl s)
    · next settings hv => exact .changed hv (fun on => by cases on <;> rfl) rfl
  | compileLines | compileText | compilePath =>
    exact of_answerCompiled rfl (.work s _ _) fun _ h => h
  | renderText on text source =>
    exact of_keeps rfl (.work s on fun p => p.renderText workerSink text source)
  | renderPath on path source =>
    exact of_keeps rfl (.work s on fun p => p.renderPath workerSink s.files (s.path path) source)
  | render | blocks => exact of_keeps rfl (.withTemplate s _ _)
  | newStore => exact of_keeps rfl (.addStore s _ _)
  | askPrefix | list => exact of_keeps rfl (.refl s)
  | same a b =>
    simp only [perform]
    split <;> exact of_keeps rfl (.refl s)
  | records on =>
    simp only [perform]
    split
    · exact of_keeps rfl (.refl s)
    · next hw => exact of_keeps rfl (.setWorker hw rfl)
  | newStoreOf as on base extensions =>
    simp only [perform]
    split
    · exact of_keeps rfl (.refl s)
    · exact of_keeps rfl (.addStore s _ _)
  | fetch store file as =>
    simp only [perform]
    split
    · exact of_keeps rfl (.refl s)
    · split
      · exact of_keeps rfl (.setSource s _ _)
      · exact of_hold rfl (.setSource s _ _) fun _ h => h
  | fetchAll store names as =>
    simp only [perform]
    split
    · exact of_keeps rfl (.refl s)
    · split
      · exact of_keeps rfl (.setSource s _ _)
      · exact of_holdEach rfl (.setSource s _ _) fun _ h => h
  | forget store =>
    simp only [perform]
    split
    · exact of_keeps rfl (.refl s)
    · exact of_keeps rfl (.setSource s _ _)
  | write path bytes => exact of_keeps rfl ⟨fun on => by cases on <;> rfl, rfl⟩
  | remove path =>
    simp only [perform]
    split
    · exact of_keeps rfl (.refl s)
    · exact of_keeps rfl ⟨fun on => by cases on <;> rfl, rfl⟩

theorem of_next (s : Session) (step : Step) :
    Effect s step (s.next step).1 (s.next step).2 := by
  have counted : ∀ {result s'}, Effect s step result s' →
      Effect s step result { s' with steps := s'.steps + 1 } := by
    intro result s' h
    have hsame : ∀ on, ({ s' with steps := s'.steps + 1 } : Session).processor? on =
        s'.processor? on := by
      intro on
      cases on <;> rfl
    cases h with
    | created hp processors templates =>
      exact .created hp (fun on => (hsame on).trans (processors on)) templates
    | changed hv processors templates =>
      exact .changed hv (fun on => (hsame on).trans (processors on)) templates
    | named more hstep processors templates names =>
      exact .named more hstep (fun on => (hsame on).trans (processors on)) templates names
    | failed h => exact .failed ⟨fun on => (hsame on).trans (h.processors on), h.templates⟩
  exact counted (of_perform s step)

end Effect

end GuardedText.Session
