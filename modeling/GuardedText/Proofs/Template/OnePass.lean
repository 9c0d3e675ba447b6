import GuardedText.Proofs.NameSource
import GuardedText.Proofs.Template.Checked
import GuardedText.Proofs.Template.Draft
import GuardedText.Proofs.Text.Lines
import Mathlib

/-! Compiling and then rendering, against a preprocessor that reads each line once and emits it or
not. It keeps a stack of frames with three flags and knows no blocks. A draft corresponds to what it
has emitted so far by ending every open conditional where it stands and rendering the result. -/

namespace GuardedText.Template

namespace OnePass

/-- An open conditional: whether the text around it is emitted, whether one of its branches so far
was taken, and whether the open one is. -/
structure Frame where
  parentActive : Bool
  taken : Bool
  active : Bool

structure State where
  frames : List Frame
  out : String

def start : State := ⟨[], ""⟩

def State.active (s : State) : Bool :=
  s.frames.all (·.active)

/-- Whether the guard in an argument holds, if it is one. -/
def guardHolds? (active : String → Bool) (argument : String) : Option Bool :=
  match Guard.parse argument with
  | .ok guard => some (guard.holds active)
  | .error _ => none

/-- Reads one line. A line that cannot stand there gives no state. -/
def step (p : String) (active : String → Bool) (s : State) (raw : String) : Option State :=
  let line := Text.dropLineEnd raw
  match Directive.ofLine p line () with
  | .error _ => none
  | .ok none => some (if s.active then { s with out := s.out ++ line ++ "\n" } else s)
  | .ok (some d) =>
    match d.keyword, s.frames with
    | .start, frames => (guardHolds? active d.argument).map fun holds =>
      let on := s.active && holds
      { s with frames := ⟨s.active, on, on⟩ :: frames }
    | .elif, f :: outer => (guardHolds? active d.argument).map fun holds =>
      let on := f.parentActive && !f.taken && holds
      { s with frames := ⟨f.parentActive, f.taken || on, on⟩ :: outer }
    | .otherwise, f :: outer =>
      let on := f.parentActive && !f.taken
      some { s with frames := ⟨f.parentActive, f.taken || on, on⟩ :: outer }
    | .finish, _ :: outer => some { s with frames := outer }
    | _, [] => none

def run (p : String) (active : String → Bool) (s : State) : List String → Option State
  | [] => some s
  | raw :: lines => (step p active s raw).bind fun s => run p active s lines

/-! ### What a draft has emitted -/

variable (active : String → Bool)

/-- Whether the open branch of each of the conditionals is the one rendered. -/
def live : List Opening → Bool
  | [] => true
  | o :: outer =>
    live outer && !(o.branches.any fun b => b.1.holds active) && o.guard.holds active

def framesOf : List Opening → List Frame
  | [] => []
  | o :: outer =>
    ⟨live active outer,
      live active outer &&
        ((o.branches.any fun b => b.1.holds active) || o.guard.holds active),
      live active (o :: outer)⟩ :: framesOf outer

/-- The blocks of the document if every open conditional ended here. -/
def collapse : List Opening → List Block → List Block
  | [], level => level
  | o :: outer, level => collapse outer (o.closed level)

def ofDraft (s : Draft) : State where
  frames := framesOf active s.opened
  out := Block.renderAll active (collapse s.opened s.level)

theorem framesOf_active (opened : List Opening) :
    (framesOf active opened).all (·.active) = live active opened := by
  induction opened with
  | nil => rfl
  | cons o outer ih =>
    rw [framesOf, List.all_cons, ih, live]
    cases live active outer <;> simp

theorem renderFirst_cons (guard : Guard.Expr) (body : List Block) (rest : List Branch) :
    Block.renderFirst active ((guard, body) :: rest) =
      if guard.holds active then Block.renderAll active body
      else Block.renderFirst active rest := by
  rw [Block.renderFirst]
  split <;> next h => simp [h]

/-- A conditional renders its last branch if no earlier one is taken. -/
theorem renderFirst_append (branches : List Branch) (guard : Guard.Expr) (body : List Block) :
    Block.renderFirst active (branches ++ [(guard, body)]) =
      if branches.any fun b => b.1.holds active then Block.renderFirst active branches
      else if guard.holds active then Block.renderAll active body else "" := by
  induction branches with
  | nil => simp [renderFirst_cons, Block.renderFirst]
  | cons b branches ih =>
    obtain ⟨g, bs⟩ := b
    rw [List.cons_append, renderFirst_cons, renderFirst_cons, List.any_cons, ih]
    cases g.holds active with
    | true => simp only [if_true, Bool.true_or]
    | false => simp only [Bool.false_eq_true, if_false, Bool.false_or]

theorem renderAll_closed (o : Opening) (level : List Block) :
    Block.renderAll active (o.closed level) = Block.renderAll active o.before ++
      if o.branches.any fun b => b.1.holds active then Block.renderFirst active o.branches
      else if o.guard.holds active then Block.renderAll active level else "" := by
  simp [Opening.closed, Opening.finished, Block.renderAll, Block.render, renderFirst_append]

/-- What is read into the innermost level is emitted iff every open branch around it is rendered. -/
theorem renderAll_collapse {level level' : List Block} {more : String} (opened : List Opening)
    (h : Block.renderAll active level' = Block.renderAll active level ++ more) :
    Block.renderAll active (collapse opened level') =
      Block.renderAll active (collapse opened level) ++
        if live active opened then more else "" := by
  induction opened generalizing level level' more with
  | nil => simpa [collapse, live] using h
  | cons o outer ih =>
    have hc : Block.renderAll active (o.closed level') = Block.renderAll active (o.closed level) ++
        if !(o.branches.any fun b => b.1.holds active) && o.guard.holds active then more
        else "" := by
      rw [renderAll_closed, renderAll_closed, h]
      cases o.branches.any fun b => b.1.holds active <;> cases o.guard.holds active <;>
        simp [String.append_assoc]
    rw [collapse, collapse, ih hc, live]
    cases live active outer with
    | false => simp
    | true => simp only [Bool.true_and, if_true]

theorem ofDraft_active (s : Draft) : (ofDraft active s).active = live active s.opened :=
  framesOf_active active s.opened

/-- Text that joins the innermost level is emitted where that level is. -/
theorem ofDraft_addLine (s : Draft) (line : String) :
    ofDraft active (s.addLine line) =
      if (ofDraft active s).active then
        { ofDraft active s with out := (ofDraft active s).out ++ line ++ "\n" }
      else ofDraft active s := by
  have h : Block.renderAll active (s.addLine line).level =
      Block.renderAll active s.level ++ (line ++ "\n") := by
    simp [Draft.level, Draft.addLine, renderAll_flush, Block.renderAll, Text.lineBreak,
      String.append_assoc]
  have hout := renderAll_collapse active s.opened h
  rw [ofDraft_active]
  cases hl : live active s.opened with
  | false =>
    rw [hl, if_neg (by simp), String.append_empty] at hout
    exact congrArg (State.mk (framesOf active s.opened)) hout
  | true =>
    rw [hl, if_pos rfl, ← String.append_assoc] at hout
    exact congrArg (State.mk (framesOf active s.opened)) hout

theorem renderAll_collapse_congr {level level' : List Block} (opened : List Opening)
    (h : Block.renderAll active level' = Block.renderAll active level) :
    Block.renderAll active (collapse opened level') =
      Block.renderAll active (collapse opened level) := by
  have := renderAll_collapse active opened (h.trans (String.append_empty).symm)
  simpa using this

/-- A branch that has just begun renders nothing yet. -/
theorem renderFirst_append_nil (branches : List Branch) (guard : Guard.Expr) :
    Block.renderFirst active (branches ++ [(guard, [])]) = Block.renderFirst active branches := by
  induction branches with
  | nil => simp [renderFirst_cons, Block.renderFirst, Block.renderAll]
  | cons b branches ih =>
    obtain ⟨g, bs⟩ := b
    rw [List.cons_append, renderFirst_cons, renderFirst_cons, ih]

theorem renderAll_closed_nil (o : Opening) :
    Block.renderAll active (o.closed []) =
      Block.renderAll active o.before ++ Block.renderFirst active o.branches := by
  simp [Opening.closed, Opening.finished, Block.renderAll, Block.render, renderFirst_append_nil]

/-- Another branch in place of the open one emits nothing yet. -/
theorem renderAll_collapse_reopened (o o' : Opening) (level : List Block) (outer : List Opening)
    (hbranches : o'.branches = o.finished level) (hbefore : o'.before = o.before) :
    Block.renderAll active (collapse (o' :: outer) []) =
      Block.renderAll active (collapse (o :: outer) level) := by
  refine renderAll_collapse_congr active outer ?_
  rw [renderAll_closed_nil, hbranches, hbefore]
  simp [Opening.closed, Block.renderAll, Block.render]

theorem any_finished (o : Opening) (level : List Block) :
    ((o.finished level).any fun b => b.1.holds active) =
      ((o.branches.any fun b => b.1.holds active) || o.guard.holds active) := by
  simp [Opening.finished]

/-- One step of the draft is one step of the one pass. -/
theorem ofDraft_step {p raw : String} {s s' : Draft} (hs : Draft.step p s raw = .ok s') :
    step p active (ofDraft active s) raw = some (ofDraft active s') := by
  cases Draft.Step.of_step hs with
  | text h =>
    have hline : Directive.ofLine p (Text.dropLineEnd raw) () = .ok none :=
      Directive.ofLine_eq_none_iff.mpr (Directive.ofLine_eq_none_iff.mp h)
    simp only [step, hline, ofDraft_addLine]
  | @start d guard h hk hg =>
    have hout : Block.renderAll active
        (collapse (⟨false, d, guard, [], s.level⟩ :: s.opened) []) =
        Block.renderAll active (collapse s.opened s.level) := by
      refine renderAll_collapse_congr active s.opened ?_
      rw [renderAll_closed_nil]
      simp [Block.renderFirst]
    simp only [step, Directive.ofLine_renumber () h, hk, guardHolds?, hg, ofDraft_active,
      Option.map_some]
    simp [ofDraft, framesOf, live, hout]
  | @elif d guard o outer h hk hg ho hf =>
    have hout := renderAll_collapse_reopened active o
      ⟨false, d, guard, o.finished s.level, o.before⟩ s.level outer rfl rfl
    simp only [step, Directive.ofLine_renumber () h, hk, guardHolds?, hg, ofDraft, ho, framesOf,
      Option.map_some, live, any_finished, Draft.level_of_text_empty, hout]
    cases live active outer <;> cases guard.holds active <;> cases o.guard.holds active <;>
      cases (o.branches.any fun b => b.1.holds active) <;> rfl
  | @otherwise d o outer h hk ho hf =>
    have hout := renderAll_collapse_reopened active o
      ⟨true, d, .always, o.finished s.level, o.before⟩ s.level outer rfl rfl
    simp only [step, Directive.ofLine_renumber () h, hk, ofDraft, ho, framesOf,
      live, any_finished, Draft.level_of_text_empty, hout, Guard.Expr.holds]
    cases live active outer <;> cases o.guard.holds active <;>
      cases (o.branches.any fun b => b.1.holds active) <;> rfl
  | @finish d o outer h hk ho =>
    simp only [step, Directive.ofLine_renumber () h, hk, ofDraft, ho, framesOf,
      Draft.level_of_text_empty]
    rfl

theorem ofDraft_run {p : String} {s s' : Draft} {lines : List String}
    (h : Draft.run p s lines = .ok s') :
    run p active (ofDraft active s) lines = some (ofDraft active s') := by
  induction lines generalizing s with
  | nil =>
    cases h
    rfl
  | cons raw lines ih =>
    obtain ⟨mid, hstep, hrun⟩ := bind_eq_ok h
    rw [run, ofDraft_step active hstep]
    exact ih hrun

/-! ### What is emitted consists of lines -/

/-- The text is empty or ends in a line break. -/
def Broken (out : String) : Prop :=
  out = "" ∨ ∃ rest, out = rest ++ "\n"

theorem broken_of_step {p raw : String} {s s' : State} (hs : Broken s.out)
    (h : step p active s raw = some s') : Broken s'.out := by
  have same : ∀ {f : Option (List Frame)}, f.map (⟨·, s.out⟩) = some s' → Broken s'.out := by
    intro f hf
    obtain ⟨_, _, rfl⟩ := Option.map_eq_some_iff.mp hf
    exact hs
  rw [step] at h
  split at h
  · cases h
  · cases h
    split
    · exact .inr ⟨_, rfl⟩
    · exact hs
  · split at h
    · exact same (by rw [← h, Option.map_map]; rfl)
    · exact same (by rw [← h, Option.map_map]; rfl)
    · exact same (f := some _) h
    · exact same (f := some _) h
    · cases h

theorem broken_of_run {p : String} {s s' : State} {lines : List String} (hs : Broken s.out)
    (h : run p active s lines = some s') : Broken s'.out := by
  induction lines generalizing s with
  | nil =>
    cases h
    exact hs
  | cons raw lines ih =>
    obtain ⟨mid, hstep, hrun⟩ := Option.bind_eq_some_iff.mp h
    exact ih (broken_of_step active hs hstep) hrun

theorem render_of_broken (t : Template) (h : Broken (Block.renderAll active t.blocks)) :
    Block.renderAll active t.blocks = "" ∧ t.render active = "" ∨
      Block.renderAll active t.blocks = t.render active ++ "\n" := by
  rw [Template.render]
  rcases h with hempty | ⟨rest, hrest⟩
  · rw [hempty]
    exact .inl ⟨rfl, rfl⟩
  · rw [hrest]
    exact .inr (congrArg (· ++ "\n") (Text.dropFinalBreak_append rest).symm)

end OnePass

/-- A document that compiles is read by the one pass to its end, where nothing is open. What the one
pass has emitted is what the blocks render to, and the template renders to that without its last
line break. -/
theorem rendered_in_one_pass (p : Prefix) (lines : List String) (t : Template)
    (h : compileLinesUnder (.string p.text) lines = .ok t) (names : List String) :
    ∃ out shown,
      OnePass.run p.text (NameSource.active names) OnePass.start lines = some ⟨[], out⟩ ∧
      Block.renderAll (NameSource.active names) t.blocks = out ∧
      t.renderFrom (.set (names.map .string)) = .ok shown ∧
      (out = "" ∧ shown = "" ∨ out = shown ++ "\n") := by
  obtain ⟨s, hrun, hopened, rfl⟩ :=
    Draft.compileLines_eq_ok_iff.mp (compileLinesUnder_eq_ok_iff.mp h)
  have hpass := OnePass.ofDraft_run (NameSource.active names) hrun
  have hout : OnePass.ofDraft (NameSource.active names) s =
      ⟨[], Block.renderAll (NameSource.active names) s.level⟩ := by
    rw [OnePass.ofDraft, hopened]
    rfl
  rw [hout] at hpass
  have hbroken := OnePass.broken_of_run _ (.inl rfl) hpass
  exact ⟨_, _, hpass, rfl, renderFrom_set _ names,
    OnePass.render_of_broken _ ⟨s.level⟩ hbroken⟩

/-- In this document the branch that holds comes second, and the conditional in the first one is
passed over. -/
theorem rendered_in_one_pass_second :
    ∃ t out shown,
      compileLinesUnder (.string Prefix.standard.text)
        ["#if a", "x", "#if b", "y", "#endif", "#elif b", "z\r", "#else", "#endif", "w"] = .ok t ∧
      OnePass.run Prefix.standard.text (NameSource.active ["b"]) OnePass.start
        ["#if a", "x", "#if b", "y", "#endif", "#elif b", "z\r", "#else", "#endif", "w"] =
          some ⟨[], out⟩ ∧
      Block.renderAll (NameSource.active ["b"]) t.blocks = out ∧
      t.renderFrom (.set (["b"].map .string)) = .ok shown ∧
      (out = "" ∧ shown = "" ∨ out = shown ++ "\n") := by
  have h : compileLinesUnder (.string Prefix.standard.text)
      ["#if a", "x", "#if b", "y", "#endif", "#elif b", "z\r", "#else", "#endif", "w"] =
      .ok ⟨[.conditional [
        (.name "a", [.text "x\n", .conditional [(.name "b", [.text "y\n"])]]),
        (.name "b", [.text "z\n"]), (.always, [])], .text "w\n"]⟩ := by
    cbv
  obtain ⟨out, shown, hpass⟩ := rendered_in_one_pass .standard _ _ h ["b"]
  exact ⟨_, out, shown, h, hpass⟩

end GuardedText.Template
