import GuardedText.Proofs.Template.Checked
import GuardedText.Proofs.Template.Printing

/-! How far a document is read, and how what was read can be completed. Lines are taken one at a
time, and the first that cannot stand where it does ends the reading: no later line can help, while
the lines before it become a document once every open conditional is ended. A document that ends
too early lacks just the lines that end its conditionals. -/

namespace GuardedText.Template

/-- The number of the line that an error is about. -/
def CompileError.lineNumber : CompileError → Nat
  | .directive e => e.lineNumber
  | .guard n _ => n

/-- The error of a document that ends with a conditional open. -/
def CompileError.isUnclosed : CompileError → Bool
  | .directive ⟨_, _, .unclosed ..⟩ => true
  | _ => false

/-- As many lines that end a conditional. -/
def endings (p : String) (k : Nat) : List String :=
  List.replicate k (Keyword.finish.spelling p)

namespace Draft

/-! ### The line that ends the reading -/

theorem of_enter_error {d : Directive Nat} {branches : List Branch} {before : List Block}
    {outer : List Opening} {e : CompileError} (h : enter d branches before outer = .error e) :
    e.lineNumber = d.lineNumber ∧ e.isUnclosed = false := by
  rw [enter] at h
  split at h
  · cases h
    exact ⟨rfl, rfl⟩
  · cases h

theorem of_leave_error {d : Directive Nat} {level : List Block} {opened : List Opening}
    {e : CompileError} (h : leave d level opened = .error e) :
    e.lineNumber = d.lineNumber ∧ e.isUnclosed = false := by
  rcases opened with _ | ⟨o, outer⟩
  · cases h
  · rw [leave] at h
    split at h
    · exact of_enter_error h
    · cases h
    · cases h

/-- A line is refused under its own number, and never for a conditional that is open. -/
theorem of_step_error {p raw : String} {s : Draft} {e : CompileError}
    (h : step p s raw = .error e) : e.lineNumber = s.lineNumber + 1 ∧ e.isUnclosed = false := by
  rcases hd : Directive.ofLine p (Text.dropLineEnd raw) (s.lineNumber + 1) with e' | _ | d
  · rw [step_of_error hd] at h
    cases h
    obtain ⟨reason, rfl, hreason⟩ := Directive.of_ofLine_error hd
    refine ⟨rfl, ?_⟩
    rw [CompileError.isUnclosed]
    intro _ _ _ _ _ heq
    cases heq
    exact hreason _ _ _ rfl
  · rw [step_of_none hd] at h
    cases h
  · rw [step_of_some hd, take] at h
    have hn := Directive.lineNumber_of_ofLine hd
    split at h
    · rw [← hn]
      exact of_leave_error h
    · split at h
      · rw [← hn]
        exact of_enter_error h
      · cases h
        refine ⟨rfl, ?_⟩
        cases s.scope <;> rfl

theorem lineNumber_of_run {p : String} {s s' : Draft} {lines : List String}
    (h : run p s lines = .ok s') : s'.lineNumber = s.lineNumber + lines.length := by
  induction lines generalizing s with
  | nil =>
    cases h
    rfl
  | cons raw lines ih =>
    obtain ⟨mid, hstep, hrun⟩ := bind_eq_ok h
    rw [ih hrun, lineNumber_of_step hstep, List.length_cons]
    omega

theorem taken_of_run {p : String} {s s' : Draft} {lines : List String}
    (h : run p s lines = .ok s') : taken p s lines = lines.length := by
  induction lines generalizing s with
  | nil => rfl
  | cons raw lines ih =>
    obtain ⟨mid, hstep, hrun⟩ := bind_eq_ok h
    rw [taken, hstep]
    simp only [ih hrun, List.length_cons]
    omega

/-- A run that fails has read the lines before the one that it refuses. -/
theorem of_run_error {p : String} {s : Draft} {lines : List String} {e : CompileError}
    (h : run p s lines = .error e) :
    ∃ done raw rest mid, lines = done ++ raw :: rest ∧ run p s done = .ok mid ∧
      step p mid raw = .error e := by
  induction lines generalizing s with
  | nil => cases h
  | cons raw lines ih =>
    cases hstep : step p s raw with
    | error e' =>
      rw [run, hstep] at h
      cases h
      exact ⟨[], raw, lines, s, rfl, rfl, hstep⟩
    | ok s' =>
      rw [run, hstep] at h
      obtain ⟨done, raw', rest, mid, rfl, hrun, hfail⟩ := ih h
      refine ⟨raw :: done, raw', rest, mid, rfl, ?_, hfail⟩
      rw [run, hstep]
      exact hrun

section Refused

variable {p raw : String} {s mid : Draft} {done : List String} {e : CompileError}

/-- Whatever follows the refused line, it is refused. -/
theorem run_of_step_error (hrun : run p s done = .ok mid) (hfail : step p mid raw = .error e)
    (more : List String) : run p s (done ++ raw :: more) = .error e := by
  rw [run_append, hrun]
  simp only [Except.bind, run, hfail]

/-- Nothing behind the refused line is taken. -/
theorem taken_of_step_error (hrun : run p s done = .ok mid) (hfail : step p mid raw = .error e)
    (more : List String) : taken p s (done ++ raw :: more) = done.length + 1 := by
  induction done generalizing s with
  | nil =>
    cases hrun
    simp [taken, hfail]
  | cons line done ih =>
    obtain ⟨s', hstep, hrun'⟩ := bind_eq_ok hrun
    simp only [List.cons_append, taken, hstep, ih hrun', List.length_cons]
    omega

/-- The error of the refused line tells its number. -/
theorem lineNumber_of_refused (hrun : run p .empty done = .ok mid)
    (hfail : step p mid raw = .error e) : e.lineNumber = done.length + 1 := by
  have hread := (of_step_error hfail).1
  rw [lineNumber_of_run hrun] at hread
  simpa [empty] using hread

end Refused

/-! ### Ending what is open -/

variable {p : Prefix}

theorem step_ending {s : Draft} {o : Opening} {outer : List Opening} (h : s.opened = o :: outer) :
    ∃ s', step p.text s (Keyword.finish.spelling p.text) = .ok s' ∧ s'.opened = outer :=
  ⟨_, (Step.finish (ofLine_bare p rfl _) rfl h).step_eq, rfl⟩

/-- Where nothing is open nothing can be ended. -/
theorem step_ending_of_closed {s s' : Draft} (h : s.opened = []) :
    step p.text s (Keyword.finish.spelling p.text) ≠ .ok s' := by
  intro hstep
  have hline := ofLine_bare p (k := .finish) rfl (s.lineNumber + 1)
  cases Step.of_step hstep with
  | text hd =>
    rw [hline] at hd
    cases hd
  | start hd hk | elif hd hk | otherwise hd hk =>
    rw [hline] at hd
    cases hd
    cases hk
  | finish _ _ ho =>
    rw [h] at ho
    cases ho

/-- Just as many endings as there are open conditionals complete what has been read. -/
theorem complete_endings_iff {s : Draft} {k : Nat} :
    (∃ bs, complete p.text s (endings p.text k) = .ok bs) ↔ k = s.opened.length := by
  -- Each ending takes one conditional off the stack, and none can be taken off an empty one.
  induction k generalizing s with
  | zero =>
    rcases ho : s.opened with _ | ⟨o, outer⟩
    · refine iff_of_true ⟨s.level, ?_⟩ rfl
      simp only [endings, List.replicate_zero, complete, run, Except.bind, finish, ho]
    · refine iff_of_false ?_ (by simp)
      rintro ⟨bs, h⟩
      simp only [endings, List.replicate_zero, complete, run, Except.bind, finish, ho] at h
      cases h
  | succ k ih =>
    have hcons : endings p.text (k + 1) = Keyword.finish.spelling p.text :: endings p.text k := rfl
    rw [hcons, complete_cons]
    rcases ho : s.opened with _ | ⟨o, outer⟩
    · refine iff_of_false ?_ (by simp)
      rintro ⟨bs, h⟩
      obtain ⟨s', hstep, -⟩ := bind_eq_ok h
      exact step_ending_of_closed ho hstep
    · obtain ⟨s', hstep, ho'⟩ := step_ending (p := p) ho
      have ih' := ih (s := s')
      rw [ho'] at ih'
      rw [hstep, List.length_cons, Nat.add_right_cancel_iff]
      exact ih'

theorem complete_append {s s' : Draft} {lines : List String} (h : run p.text s lines = .ok s')
    (more : List String) :
    complete p.text s (lines ++ more) = complete p.text s' more := by
  rw [complete, run_append, h]
  rfl

/-- A document is refused at a line, or for an open conditional after all its lines. -/
theorem of_complete_error {s : Draft} {lines : List String} {e : CompileError}
    (h : complete p.text s lines = .error e) :
    run p.text s lines = .error e ∧ e.isUnclosed = false ∨
      ∃ s', run p.text s lines = .ok s' ∧ s'.opened ≠ [] ∧ e.lineNumber = s'.lineNumber ∧
        e.isUnclosed = true := by
  rw [complete] at h
  cases hrun : run p.text s lines with
  | error e' =>
    rw [hrun] at h
    cases h
    obtain ⟨_, _, _, _, _, _, hfail⟩ := of_run_error hrun
    exact .inl ⟨rfl, (of_step_error hfail).2⟩
  | ok s' =>
    rw [hrun] at h
    simp only [Except.bind, finish] at h
    split at h
    · cases h
    · next o outer ho =>
      cases h
      exact .inr ⟨s', rfl, by simp [ho], rfl, rfl⟩

end Draft

/-! ### Documents -/

section Documents

variable {p : Prefix} {lines : List String}

theorem compileLinesUnder_eq_complete (p : Prefix) (lines : List String) :
    compileLinesUnder (.string p.text) lines =
      ((Draft.complete p.text .empty lines).map Template.mk).mapError .compile := by
  rw [compileLinesUnder_valid, Draft.compileLines_eq]

theorem exists_template_iff :
    (∃ t, compileLinesUnder (.string p.text) lines = .ok t) ↔
      ∃ bs, Draft.complete p.text .empty lines = .ok bs := by
  rw [compileLinesUnder_eq_complete]
  cases Draft.complete p.text .empty lines with
  | error e => exact iff_of_false (fun ⟨t, h⟩ => by cases h) (fun ⟨bs, h⟩ => by cases h)
  | ok bs => exact iff_of_true ⟨⟨bs⟩, rfl⟩ ⟨bs, rfl⟩

theorem compileLinesUnder_eq_error_iff {e : CompileError} :
    compileLinesUnder (.string p.text) lines = .error (.compile e) ↔
      Draft.complete p.text .empty lines = .error e := by
  rw [compileLinesUnder_eq_complete]
  cases Draft.complete p.text .empty lines with
  | error e' =>
    constructor
    · intro h
      cases h
      rfl
    · intro h
      cases h
      rfl
  | ok bs => exact iff_of_false (fun h => by cases h) (fun h => by cases h)

/-- Under a valid prefix only the lines can be at fault. -/
theorem eq_compile_of_rejected {r : Rejected}
    (h : compileLinesUnder (.string p.text) lines = .error r) : ∃ e, r = .compile e := by
  rw [compileLinesUnder_eq_complete] at h
  cases hc : Draft.complete p.text .empty lines with
  | error e =>
    rw [hc] at h
    cases h
    exact ⟨e, rfl⟩
  | ok bs =>
    rw [hc] at h
    cases h

/-- What has been read is completed by ending what is open, and by no other number of endings. -/
theorem exists_template_endings_iff {s : Draft} (h : Draft.run p.text .empty lines = .ok s)
    (k : Nat) :
    (∃ t, compileLinesUnder (.string p.text) (lines ++ endings p.text k) = .ok t) ↔
      k = s.opened.length := by
  rw [exists_template_iff, Draft.complete_append h]
  exact Draft.complete_endings_iff

/-- An error is about the last line that was taken. -/
theorem lineNumber_eq_linesRead {e : CompileError}
    (h : compileLinesUnder (.string p.text) lines = .error (.compile e)) :
    e.lineNumber = linesRead (.string p.text) lines := by
  rw [linesRead_eq_taken]
  rcases Draft.of_complete_error (compileLinesUnder_eq_error_iff.mp h) with
    ⟨hrun, -⟩ | ⟨s, hrun, -, hnumber, -⟩
  · obtain ⟨done, raw, rest, mid, rfl, hdone, hfail⟩ := Draft.of_run_error hrun
    rw [Draft.taken_of_step_error hdone hfail]
    exact Draft.lineNumber_of_refused hdone hfail
  · rw [Draft.lineNumber_of_run hrun] at hnumber
    rw [Draft.taken_of_run hrun]
    exact hnumber.trans (by simp [Draft.empty])

/-- Reading stops at line `n` with the error `e`: with these lines read no others can help, and the
lines before `n` lack at most endings. -/
structure StopsAt (p : Prefix) (lines : List String) (e : CompileError) (n : Nat) : Prop where
  pos : 1 ≤ n
  le : n ≤ lines.length
  taken : Draft.taken p.text .empty lines = n
  final : ∀ more, compileLinesUnder (.string p.text) (lines.take n ++ more) = .error (.compile e) ∧
    Draft.taken p.text .empty (lines.take n ++ more) = n
  completable : ∃ k t,
    compileLinesUnder (.string p.text) (lines.take (n - 1) ++ endings p.text k) = .ok t

theorem stopsAt_of_error {e : CompileError}
    (h : compileLinesUnder (.string p.text) lines = .error (.compile e))
    (hclosed : e.isUnclosed = false) : ∃ n, StopsAt p lines e n := by
  rcases Draft.of_complete_error (compileLinesUnder_eq_error_iff.mp h) with
    ⟨hrun, -⟩ | ⟨_, _, _, _, hopen⟩
  · obtain ⟨done, raw, rest, mid, rfl, hdone, hfail⟩ := Draft.of_run_error hrun
    have hshown : (done ++ raw :: rest).take (done.length + 1) = done ++ [raw] := by
      simp [List.take_append]
    have hbefore : (done ++ raw :: rest).take (done.length + 1 - 1) = done := by
      simp
    have hsplit : ∀ more, done ++ [raw] ++ more = done ++ raw :: more := by
      simp
    refine ⟨done.length + 1, by omega, by simp, Draft.taken_of_step_error hdone hfail rest,
      fun more => ?_, ?_⟩
    · rw [hshown, hsplit, compileLinesUnder_eq_error_iff, Draft.complete,
        Draft.run_of_step_error hdone hfail]
      exact ⟨rfl, Draft.taken_of_step_error hdone hfail more⟩
    · rw [hbefore]
      obtain ⟨t, ht⟩ := (exists_template_endings_iff hdone _).mpr rfl
      exact ⟨_, t, ht⟩
  · rw [hopen] at hclosed
    cases hclosed

/-- Only a document whose lines can all be read is completed by more lines. -/
theorem exists_run_of_template {more : List String} {t : Template}
    (h : compileLinesUnder (.string p.text) (lines ++ more) = .ok t) :
    ∃ s, Draft.run p.text .empty lines = .ok s := by
  obtain ⟨bs, hbs⟩ := exists_template_iff.mp ⟨t, h⟩
  obtain ⟨s, hs, -⟩ := bind_eq_ok hbs
  rw [Draft.run_append] at hs
  obtain ⟨mid, hmid, -⟩ := bind_eq_ok hs
  exact ⟨mid, hmid⟩

theorem unclosed_iff_completable :
    (∃ e, compileLinesUnder (.string p.text) lines = .error (.compile e) ∧
      e.isUnclosed = true) ↔
      ∃ k t, 1 ≤ k ∧
        compileLinesUnder (.string p.text) (lines ++ endings p.text k) = .ok t := by
  constructor
  · rintro ⟨e, he, hopen⟩
    rcases Draft.of_complete_error (compileLinesUnder_eq_error_iff.mp he) with
      ⟨-, hclosed⟩ | ⟨s, hrun, ho, -, -⟩
    · rw [hclosed] at hopen
      cases hopen
    · obtain ⟨t, ht⟩ := (exists_template_endings_iff hrun _).mpr rfl
      exact ⟨_, t, List.length_pos_iff.mpr ho, ht⟩
  · -- The lines can be read, so it is only at their end that they are refused.
    rintro ⟨k, t, hk, ht⟩
    obtain ⟨s, hrun⟩ := exists_run_of_template ht
    have hlength : k = s.opened.length := (exists_template_endings_iff hrun k).mp ⟨t, ht⟩
    rcases ho : s.opened with _ | ⟨o, outer⟩
    · rw [ho] at hlength
      simp only [List.length_nil] at hlength
      omega
    · refine ⟨unclosed p.text o.latest s.lineNumber, ?_, rfl⟩
      rw [compileLinesUnder_eq_error_iff, Draft.complete, hrun]
      simp only [Except.bind, Draft.finish, ho]

theorem endings_unique {k k' : Nat} {t t' : Template}
    (h : compileLinesUnder (.string p.text) (lines ++ endings p.text k) = .ok t)
    (h' : compileLinesUnder (.string p.text) (lines ++ endings p.text k') = .ok t') : k = k' := by
  obtain ⟨s, hrun⟩ := exists_run_of_template h
  rw [(exists_template_endings_iff hrun k).mp ⟨t, h⟩,
    (exists_template_endings_iff hrun k').mp ⟨t', h'⟩]

/-- What is told at the end of a document is told when all its lines are taken. -/
theorem taken_of_unclosed {e : CompileError}
    (h : compileLinesUnder (.string p.text) lines = .error (.compile e))
    (hopen : e.isUnclosed = true) : Draft.taken p.text .empty lines = lines.length := by
  rcases Draft.of_complete_error (compileLinesUnder_eq_error_iff.mp h) with
    ⟨-, hclosed⟩ | ⟨s, hrun, -⟩
  · rw [hclosed] at hopen
    cases hopen
  · exact Draft.taken_of_run hrun

theorem taken_of_template {t : Template}
    (h : compileLinesUnder (.string p.text) lines = .ok t) :
    Draft.taken p.text .empty lines = lines.length := by
  rw [← List.append_nil lines] at h
  obtain ⟨s, hrun⟩ := exists_run_of_template h
  exact Draft.taken_of_run hrun

end Documents

/-- What is neither absent nor a valid prefix is refused before any line is looked at. -/
theorem compileLinesUnder_of_invalid {v : Value} (habsent : v.isAbsent = false)
    (hinvalid : ∀ q : Prefix, v ≠ .string q.text) :
    ∃ e, ∀ lines, compileLinesUnder v lines = .error (.settings e) ∧
      linesRead v lines = 0 := by
  have hoption : Settings.ofPrefixOption v = Settings.ofPrefix v := by
    rw [Settings.ofPrefixOption, habsent]
    rfl
  cases h : Settings.ofPrefix v with
  | ok settings => exact absurd (Settings.eq_string_of_ofPrefix h) (hinvalid _)
  | error e =>
    refine ⟨e, fun lines => ?_⟩
    have hcompile : compileLinesUnder v lines = .error (.settings e) := by
      rw [compileLinesUnder, compileUnder, hoption, h]
    refine ⟨hcompile, ?_⟩
    rw [linesRead, hoption, h]

/-- Lines are taken one at a time, and no more of them than decide. An error other than an open
conditional at the end comes with the first line that no document can have there. An open
conditional at the end is what just one number of endings makes good, and is told, as success is,
when all lines are taken. An invalid prefix is refused with no line read. -/
theorem compileLinesUnder_stops_at_first_unfit_line (p : Prefix) (lines : List String) :
    linesRead (.string p.text) lines = Draft.taken p.text .empty lines ∧
    (∀ e, compileLinesUnder (.string p.text) lines = .error (.compile e) →
      e.lineNumber = linesRead (.string p.text) lines) ∧
    (∀ r, compileLinesUnder (.string p.text) lines = .error r →
      ∃ e, r = .compile e ∧ (e.isUnclosed = false → ∃ n, StopsAt p lines e n)) ∧
    ((∃ e, compileLinesUnder (.string p.text) lines = .error (.compile e) ∧
        e.isUnclosed = true) ↔
      ∃ k t, 1 ≤ k ∧
        compileLinesUnder (.string p.text) (lines ++ endings p.text k) = .ok t) ∧
    (∀ k k' t t', compileLinesUnder (.string p.text) (lines ++ endings p.text k) = .ok t →
      compileLinesUnder (.string p.text) (lines ++ endings p.text k') = .ok t' → k = k') ∧
    (∀ e, compileLinesUnder (.string p.text) lines = .error (.compile e) → e.isUnclosed = true →
      Draft.taken p.text .empty lines = lines.length) ∧
    (∀ t, compileLinesUnder (.string p.text) lines = .ok t →
      Draft.taken p.text .empty lines = lines.length) ∧
    (∀ v : Value, v.isAbsent = false → (∀ q : Prefix, v ≠ .string q.text) →
      ∃ e, ∀ unread, compileLinesUnder v unread = .error (.settings e) ∧
        linesRead v unread = 0) := by
  refine ⟨linesRead_eq_taken p lines, fun _ => lineNumber_eq_linesRead, fun r h => ?_,
    unclosed_iff_completable, fun _ _ _ _ => endings_unique, fun _ => taken_of_unclosed,
    fun _ => taken_of_template, fun _ => compileLinesUnder_of_invalid⟩
  obtain ⟨e, rfl⟩ := eq_compile_of_rejected h
  exact ⟨e, rfl, stopsAt_of_error h⟩

end GuardedText.Template
