import GuardedText.Proofs.Template.Checked
import GuardedText.Proofs.Template.Draft

/-! What is wrong with a document, found by an automaton. It reads the lines with a stack of open
conditionals of which it knows no more than whether `else` has come and which directive came last,
and it builds nothing. Compiling succeeds where the automaton does and otherwise reports the very
error at which the automaton stops. -/

namespace GuardedText.Template

/-- What is told of a rejected document. -/
inductive Report where
  | directive (lineNumber : Nat) (line message : String)
  | guard (expression message : String)
  deriving DecidableEq, Repr

def CompileError.report : CompileError → Report
  | .directive e => .directive e.lineNumber e.line e.message
  | .guard _ e => .guard e.source e.message

namespace Automaton

inductive Mark where
  | branch | otherwise
  deriving DecidableEq, Repr

/-- An open conditional with the keyword and line of its latest directive. -/
structure Pending where
  mark : Mark
  keyword : Keyword
  lineNumber : Nat
  deriving DecidableEq, Repr

/-- A directive needs a conditional and none is open. -/
def unmatched (p line : String) (n : Nat) (k : Keyword) : Report :=
  .directive n line ("Line " ++ toString n ++ ": unexpected \"" ++ k.spelling p ++
    "\" without a matching \"" ++ p ++ "if\"")

/-- Nothing but `endif` may follow `else`. -/
def misplaced (p line : String) (n : Nat) (k : Keyword) : Report :=
  .directive n line ("Line " ++ toString n ++ ": unexpected \"" ++ k.spelling p ++
    "\" after \"" ++ p ++ "else\"")

/-- The document of `n` lines ends in an open conditional. -/
def missing (p : String) (n : Nat) (o : Pending) : Report :=
  .directive n "" ("Missing \"" ++ p ++ "endif\" for \"" ++ o.keyword.spelling p ++
    "\" on line " ++ toString o.lineNumber)

def checkGuard (argument : String) : Except Report Unit :=
  match Guard.parse argument with
  | .error e => .error (.guard e.source e.message)
  | .ok _ => .ok ()

/-- Reads line `n`. -/
def advance (p : String) (n : Nat) (raw : String) (stack : List Pending) :
    Except Report (List Pending) :=
  let line := Text.dropLineEnd raw
  match Directive.ofLine p line n with
  | .error e => .error (.directive e.lineNumber e.line e.message)
  | .ok none => .ok stack
  | .ok (some d) =>
    match d.keyword, stack with
    | .start, stack => (checkGuard d.argument).map fun _ => ⟨.branch, .start, n⟩ :: stack
    | k, [] => .error (unmatched p line n k)
    | .finish, _ :: outer => .ok outer
    | .elif, ⟨.branch, _, _⟩ :: outer =>
      (checkGuard d.argument).map fun _ => ⟨.branch, .elif, n⟩ :: outer
    | .otherwise, ⟨.branch, _, _⟩ :: outer => .ok (⟨.otherwise, .otherwise, n⟩ :: outer)
    | k, ⟨.otherwise, _, _⟩ :: _ => .error (misplaced p line n k)

/-- Reads the lines after line `n`. -/
def scan (p : String) (n : Nat) (stack : List Pending) : List String → Except Report Unit
  | [] =>
    match stack with
    | [] => .ok ()
    | o :: _ => .error (missing p n o)
  | raw :: lines => (advance p (n + 1) raw stack).bind fun stack => scan p (n + 1) stack lines

/-- What the automaton knows of an open conditional. -/
def ofOpening (o : Opening) : Pending where
  mark := if o.fallback then .otherwise else .branch
  keyword := o.latest.keyword
  lineNumber := o.latest.lineNumber

def ofDraft (s : Draft) : List Pending :=
  s.opened.map ofOpening

/-- A result as the automaton sees it. -/
def seen {α β : Type} (view : α → β) (x : Except CompileError α) : Except Report β :=
  (x.map view).mapError CompileError.report

theorem seen_bind {α β γ : Type} (view : β → γ) (x : Except CompileError α)
    (f : α → Except CompileError β) :
    seen view (x.bind f) = (seen id x).bind fun a => seen view (f a) := by
  cases x <;> rfl

theorem report_unmatched (p line : String) (n : Nat) (k : Keyword) :
    CompileError.report (.directive ⟨n, line, Scope.document.complaint p k⟩) =
      unmatched p line n k := by
  have h : ": unexpected \"" = ": " ++ "unexpected \"" := rfl
  simp [CompileError.report, Scope.complaint, Directive.Error.message, unmatched,
    String.append_assoc, h, Keyword.spelling, Keyword.text]

theorem report_misplaced (p line : String) (n : Nat) (k : Keyword) :
    CompileError.report (.directive ⟨n, line, Scope.fallback.complaint p k⟩) =
      misplaced p line n k := by
  have h : ": unexpected \"" = ": " ++ "unexpected \"" := rfl
  simp [CompileError.report, Scope.complaint, Directive.Error.message, misplaced,
    String.append_assoc, h, Keyword.spelling, Keyword.text]

theorem report_unclosed (p : String) (n : Nat) (o : Opening) :
    CompileError.report (unclosed p o.latest n) = missing p n (ofOpening o) := by
  simp [CompileError.report, unclosed, Directive.Error.message, missing, ofOpening,
    String.append_assoc, Keyword.spelling, Keyword.text]

theorem seen_enter (d : Directive Nat) (branches : List Branch) (before : List Block)
    (outer : List Opening) :
    seen ofDraft (Draft.enter d branches before outer) =
      (checkGuard d.argument).map fun _ =>
        ⟨.branch, d.keyword, d.lineNumber⟩ :: outer.map ofOpening := by
  rw [Draft.enter, checkGuard]
  cases Guard.parse d.argument <;> rfl

/-- Each step of the automaton sees what the step of the draft does. -/
theorem advance_eq (p raw : String) (s : Draft) :
    advance p (s.lineNumber + 1) raw (ofDraft s) = seen ofDraft (Draft.step p s raw) := by
  rw [advance]
  rcases hd : Directive.ofLine p (Text.dropLineEnd raw) (s.lineNumber + 1) with e | _ | d
  · rw [Draft.step_of_error hd]
    rfl
  · rw [Draft.step_of_none hd]
    rfl
  · rw [Draft.step_of_some hd]
    have hn := Directive.lineNumber_of_ofLine hd
    obtain ⟨k, argument, m⟩ := d
    obtain rfl : m = s.lineNumber + 1 := hn
    by_cases hk : k = .start
    · subst hk
      rw [Draft.take_start rfl, seen_enter]
      rfl
    · rcases ho : s.opened with _ | ⟨o, outer⟩
      · have hscope : s.scope = .document := by rw [Draft.scope, ho]
        rw [Draft.take, hscope, if_neg (by simp [Scope.endedBy]), if_neg hk, ofDraft, ho]
        cases k with
        | start => exact absurd rfl hk
        | elif | otherwise | finish => exact congrArg Except.error (report_unmatched p _ _ _).symm
      · have hscope := Draft.scope_of_opened ho
        rw [Opening.scope] at hscope
        rw [ofDraft, ho, List.map_cons]
        cases hf : o.fallback with
        | false =>
          have hof : ofOpening o = ⟨.branch, o.latest.keyword, o.latest.lineNumber⟩ := by
            simp [ofOpening, hf]
          have hended : s.scope.endedBy k = true := by
            rw [hscope, hf]
            simpa [Scope.endedBy] using hk
          rw [hof, Draft.take_of_ended hended, ho, Draft.leave, hf]
          cases k with
          | start => exact absurd rfl hk
          | elif => exact (seen_enter ..).symm
          | otherwise | finish => rfl
        | true =>
          have hof : ofOpening o = ⟨.otherwise, o.latest.keyword, o.latest.lineNumber⟩ := by
            simp [ofOpening, hf]
          rw [hof, Draft.take, hscope, hf]
          cases k with
          | start => exact absurd rfl hk
          | elif | otherwise =>
            exact congrArg Except.error (report_misplaced p _ _ _).symm
          | finish =>
            rw [if_pos (by simp [Scope.endedBy]), ho, Draft.leave, hf]
            rfl

theorem scan_eq (p : String) (s : Draft) (lines : List String) :
    scan p s.lineNumber (ofDraft s) lines = seen (fun _ => ()) (Draft.complete p s lines) := by
  induction lines generalizing s with
  | nil =>
    rw [Draft.complete, Draft.run, ofDraft]
    rcases ho : s.opened with _ | ⟨o, outer⟩
    · simp only [Except.bind, Draft.finish, ho]
      rfl
    · simp only [Except.bind, Draft.finish, ho]
      exact congrArg Except.error (report_unclosed ..).symm
  | cons raw lines ih =>
    rw [scan, advance_eq, Draft.complete_cons, seen_bind]
    cases hs : Draft.step p s raw with
    | error e => rfl
    | ok s' =>
      rw [← Draft.lineNumber_of_step hs]
      exact ih s'

end Automaton

/-- Compiling accepts the documents that the automaton accepts, and of every other it reports what
the automaton stops at. -/
theorem compileLinesUnder_agrees_with_automaton (p : Prefix) (lines : List String) :
    ((∃ t, compileLinesUnder (.string p.text) lines = .ok t) ↔
      Automaton.scan p.text 0 [] lines = .ok ()) ∧
    ∀ r, Automaton.scan p.text 0 [] lines = .error r →
      ∃ e, compileLinesUnder (.string p.text) lines = .error (.compile e) ∧ e.report = r := by
  have h := Automaton.scan_eq p.text .empty lines
  rw [compileLinesUnder_valid, Draft.compileLines_eq]
  simp only [Draft.empty, Automaton.ofDraft, List.map_nil] at h ⊢
  rw [h]
  cases Draft.complete p.text ⟨0, [], "", []⟩ lines with
  | error e =>
    refine ⟨iff_of_false ?_ ?_, fun r hr => ⟨e, rfl, Except.error.inj hr⟩⟩
    · rintro ⟨t, ht⟩
      cases ht
    · intro hr
      cases hr
  | ok bs =>
    refine ⟨iff_of_true ⟨⟨bs⟩, rfl⟩ rfl, ?_⟩
    intro r hr
    cases hr

end GuardedText.Template
