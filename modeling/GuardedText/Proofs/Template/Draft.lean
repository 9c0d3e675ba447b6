import GuardedText.Proofs.Template.DirectiveLine
import GuardedText.Template.Nesting

/-! Compiling with an explicit stack. A draft holds what has been read of a document: the blocks of
the innermost level, its pending text, and the conditionals that are still open around it. One step
reads one line, and whatever order the recursive readers of a level and of a conditional call each
other in, the run of these steps over all lines gives their result, error for error. -/

namespace GuardedText.Template

/-- An open conditional: the directive and guard of its open branch, the branches before that one,
and the blocks that its level held before it. -/
structure Opening where
  fallback : Bool
  latest : Directive Nat
  guard : Guard.Expr
  branches : List Branch
  before : List Block

namespace Opening

def scope (o : Opening) : Scope :=
  if o.fallback then .fallback else .guarded

/-- The branches when the open one ends with the given blocks. -/
def finished (o : Opening) (level : List Block) : List Branch :=
  o.branches ++ [(o.guard, level)]

/-- The level around the conditional when that ends with the given blocks in its open branch. -/
def closed (o : Opening) (level : List Block) : List Block :=
  o.before ++ [.conditional (o.finished level)]

end Opening

/-- What has been read of a document, innermost conditional first. -/
structure Draft where
  lineNumber : Nat
  blocks : List Block
  text : String
  opened : List Opening

/-- Pending text renders as it is. -/
theorem renderAll_flush (active : String → Bool) (text : String) (bs : List Block) :
    Block.renderAll active (flush text bs) = text ++ Block.renderAll active bs := by
  rw [flush]
  split
  · next h => simp [h]
  · simp [Block.renderAll, Block.render]

namespace Draft

def empty : Draft := ⟨0, [], "", []⟩

/-- The blocks of the innermost level, its pending text among them. -/
def level (s : Draft) : List Block :=
  s.blocks ++ flush s.text []

/-- What surrounds the innermost level. -/
def scope (s : Draft) : Scope :=
  match s.opened with
  | [] => .document
  | o :: _ => o.scope

/-- Begins a branch with the guard of `d`. -/
def enter (d : Directive Nat) (branches : List Branch) (before : List Block)
    (outer : List Opening) : Except CompileError Draft :=
  match Guard.parse d.argument with
  | .error e => .error (.guard d.lineNumber e)
  | .ok guard => .ok ⟨d.lineNumber, [], "", ⟨false, d, guard, branches, before⟩ :: outer⟩

/-- Ends the innermost level with the blocks `level` at the directive `d`. -/
def leave (d : Directive Nat) (level : List Block) : List Opening → Except CompileError Draft
  | [] => .ok ⟨d.lineNumber, level, "", []⟩
  | o :: outer =>
    match o.fallback, d.keyword with
    | false, .elif => enter d (o.finished level) o.before outer
    | false, .otherwise =>
      .ok ⟨d.lineNumber, [], "", ⟨true, d, .always, o.finished level, o.before⟩ :: outer⟩
    | _, _ => .ok ⟨d.lineNumber, o.closed level, "", outer⟩

/-- Takes a directive that stands on `line`. -/
def take (p line : String) (d : Directive Nat) (s : Draft) : Except CompileError Draft :=
  if s.scope.endedBy d.keyword then leave d s.level s.opened
  else if d.keyword = .start then enter d [] s.level s.opened
  else .error (.directive ⟨s.lineNumber + 1, line, s.scope.complaint p d.keyword⟩)

def addLine (s : Draft) (line : String) : Draft :=
  { s with lineNumber := s.lineNumber + 1, text := s.text ++ line ++ Text.lineBreak }

/-- Reads one line. -/
def step (p : String) (s : Draft) (raw : String) : Except CompileError Draft :=
  let line := Text.dropLineEnd raw
  match Directive.ofLine p line (s.lineNumber + 1) with
  | .error e => .error (.directive e)
  | .ok none => .ok (s.addLine line)
  | .ok (some d) => s.take p line d

def run (p : String) (s : Draft) : List String → Except CompileError Draft
  | [] => .ok s
  | raw :: lines => (step p s raw).bind fun s => run p s lines

/-- The blocks of the document, if nothing is open where it ends. -/
def finish (p : String) (s : Draft) : Except CompileError (List Block) :=
  match s.opened with
  | [] => .ok s.level
  | o :: _ => .error (unclosed p o.latest s.lineNumber)

/-- Reads the last lines of a document. -/
def complete (p : String) (s : Draft) (lines : List String) : Except CompileError (List Block) :=
  (run p s lines).bind (finish p)

/-- The same, with the lines that are left where one is refused. -/
def readAll (p : String) (s : Draft) : List String → Except Stopped (List Block)
  | [] => (finish p s).mapError (⟨·, []⟩)
  | raw :: lines =>
    match step p s raw with
    | .error e => .error ⟨e, lines⟩
    | .ok s => readAll p s lines

/-- Reads on behind a line that led to a draft, or was refused. -/
def readOn (p : String) (after : Except CompileError Draft) (lines : List String) :
    Except Stopped (List Block) :=
  match after with
  | .error e => .error ⟨e, lines⟩
  | .ok s => readAll p s lines

/-- How many lines have been taken when reading is over. -/
def taken (p : String) (s : Draft) : List String → Nat
  | [] => 0
  | raw :: lines =>
    match step p s raw with
    | .error _ => 1
    | .ok s' => 1 + taken p s' lines

theorem run_append (p : String) (s : Draft) (xs ys : List String) :
    run p s (xs ++ ys) = (run p s xs).bind fun s => run p s ys := by
  induction xs generalizing s with
  | nil => rfl
  | cons x xs ih =>
    simp only [List.cons_append, run]
    cases step p s x with
    | error e => rfl
    | ok s' => exact ih s'

theorem complete_cons (p : String) (s : Draft) (raw : String) (lines : List String) :
    complete p s (raw :: lines) = (step p s raw).bind (complete p · lines) := by
  simp only [complete, run]
  cases step p s raw <;> rfl

theorem readAll_cons (p : String) (s : Draft) (raw : String) (lines : List String) :
    readAll p s (raw :: lines) = readOn p (step p s raw) lines :=
  rfl

/-- The lines that are left tell nothing about the result. -/
theorem complete_eq_readAll (p : String) (s : Draft) (lines : List String) :
    complete p s lines = (readAll p s lines).mapError Stopped.error := by
  induction lines generalizing s with
  | nil =>
    simp only [complete, run, Except.bind, readAll]
    cases finish p s <;> rfl
  | cons raw lines ih =>
    rw [complete_cons, readAll_cons]
    cases step p s raw with
    | error e => rfl
    | ok s' => exact ih s'

/-- The lines that have been taken and those that are left are all. -/
theorem taken_of_readAll (p : String) (s : Draft) (lines : List String) :
    match readAll p s lines with
    | .error stop => taken p s lines + stop.rest.length = lines.length
    | .ok _ => taken p s lines = lines.length := by
  induction lines generalizing s with
  | nil =>
    rw [readAll]
    cases finish p s <;> rfl
  | cons raw lines ih =>
    rw [readAll_cons, taken]
    cases step p s raw with
    | error e => simp [readOn, Nat.add_comm]
    | ok s' =>
      have ih' := ih s'
      rw [readOn]
      dsimp only
      cases hread : readAll p s' lines with
      | error _ | ok _ =>
        rw [hread] at ih'
        simp only [List.length_cons] at ih' ⊢
        omega

@[simp] theorem level_of_text_empty (n : Nat) (blocks : List Block) (opened : List Opening) :
    level ⟨n, blocks, "", opened⟩ = blocks := by
  simp [level, flush]

theorem scope_of_opened {s : Draft} {o : Opening} {outer : List Opening}
    (h : s.opened = o :: outer) : s.scope = o.scope := by
  rw [scope, h]

/-- A conditional can begin in any scope. -/
theorem take_start {s : Draft} {p line : String} {d : Directive Nat} (h : d.keyword = .start) :
    s.take p line d = enter d [] s.level s.opened := by
  have hopen : s.scope.endedBy .start = false := by cases s.scope <;> rfl
  rw [take, h, hopen, if_neg Bool.false_ne_true, if_pos rfl]

theorem take_of_ended {s : Draft} {p line : String} {d : Directive Nat}
    (h : s.scope.endedBy d.keyword = true) : s.take p line d = leave d s.level s.opened :=
  if_pos h

/-! ### The recursive readers are runs -/

/-- The outcome of reading a level from `s` is what the run over the same lines comes to. A level
that ends leaves the run to go on behind the directive that ended it. -/
def Follows (p : String) (s : Draft) (lines : List String) {bound : Nat} :
    Except Stopped (Level bound) → Prop
  | .error stop => readAll p s lines = .error stop
  | .ok (.unended bs) =>
    readAll p s lines = readAll p ⟨s.lineNumber + lines.length, s.blocks ++ bs, "", s.opened⟩ []
  | .ok (.ended bs d rest _) =>
    s.scope.endedBy d.keyword = true ∧ d.lineNumber + rest.length = s.lineNumber + lines.length ∧
      readAll p s lines = readOn p (leave d (s.blocks ++ bs) s.opened) rest

/-- The same for a conditional, with `branches` read already and `d` beginning the next. -/
def FollowsBranches (p : String) (d : Directive Nat) (branches : List Branch)
    (before : List Block) (outer : List Opening) (lines : List String) {bound : Nat} :
    Except Stopped (Branches bound) → Prop
  | .error stop => readOn p (enter d branches before outer) lines = .error stop
  | .ok c => c.last + c.rest.length = d.lineNumber + lines.length ∧
    readOn p (enter d branches before outer) lines =
      readAll p ⟨c.last, before ++ [.conditional (branches ++ c.branches)], "", outer⟩ c.rest

theorem flush_append (text : String) (b : Block) (bs : List Block) :
    flush text (b :: bs) = flush text [] ++ b :: bs := by
  rw [flush, flush]
  split <;> rfl

theorem step_of_error {p raw : String} {s : Draft} {e : Directive.Error Nat}
    (h : Directive.ofLine p (Text.dropLineEnd raw) (s.lineNumber + 1) = .error e) :
    step p s raw = .error (.directive e) := by
  simp only [step, h]

theorem step_of_none {p raw : String} {s : Draft}
    (h : Directive.ofLine p (Text.dropLineEnd raw) (s.lineNumber + 1) = .ok none) :
    step p s raw = .ok (s.addLine (Text.dropLineEnd raw)) := by
  simp only [step, h]

theorem step_of_some {p raw : String} {s : Draft} {d : Directive Nat}
    (h : Directive.ofLine p (Text.dropLineEnd raw) (s.lineNumber + 1) = .ok (some d)) :
    step p s raw = s.take p (Text.dropLineEnd raw) d := by
  simp only [step, h]

theorem map_mapBlocks_id {bound : Nat} (r : Except Stopped (Level bound)) :
    r.map (Level.mapBlocks id) = r := by
  match r with
  | .error _ | .ok (.unended _) | .ok (.ended ..) => rfl

/-- Reading that comes to where other reading begins follows what that one follows, with the blocks
read in between put in front. -/
theorem Follows.resume {p : String} {s s' : Draft} {lines lines' : List String}
    {f : List Block → List Block} (hc : readAll p s lines = readAll p s' lines')
    (hn : s'.lineNumber + lines'.length = s.lineNumber + lines.length)
    (ho : s'.opened = s.opened) (hb : ∀ bs, s'.blocks ++ bs = s.blocks ++ f bs)
    {bound : Nat} {r : Except Stopped (Level bound)} (h : Follows p s' lines' r) :
    Follows p s lines (r.map (Level.mapBlocks f)) := by
  match r with
  | .error stop => exact hc.trans h
  | .ok (.unended bs) =>
    refine hc.trans (h.trans ?_)
    rw [hn, ho, hb]
  | .ok (.ended bs d rest _) =>
    obtain ⟨he, hl, h⟩ := h
    refine ⟨?_, hl.trans hn, hc.trans (h.trans ?_)⟩
    · simpa only [scope, ho] using he
    · rw [ho, hb]

mutual

theorem follows_level (p : String) (scope : Scope) (s : Draft) (lines : List String)
    (bound : Nat) (fits : lines.length ≤ bound) (hscope : s.scope = scope) :
    Follows p s lines (Template.level p scope s.text s.lineNumber lines bound fits) := by
  match lines with
  | [] =>
    rw [Template.level]
    simp only [Follows, readAll, finish, level_of_text_empty]
    rfl
  | raw :: lines =>
    rw [Template.level]
    rcases hd : Directive.ofLine p (Text.dropLineEnd raw) (s.lineNumber + 1) with e | _ | d
    · rw [Follows, readAll_cons, step_of_error hd]
      rfl
    · have ih := follows_level p scope (s.addLine (Text.dropLineEnd raw)) lines bound
        (Nat.le_of_lt fits) hscope
      have hc : readAll p s (raw :: lines) =
          readAll p (s.addLine (Text.dropLineEnd raw)) lines := by
        rw [readAll_cons, step_of_none hd]
        rfl
      have h := ih.resume (f := id) hc (by simp [addLine]; omega) rfl (fun _ => rfl)
      rwa [map_mapBlocks_id] at h
    · have hn := Directive.lineNumber_of_ofLine hd
      have hc : readAll p s (raw :: lines) =
          readOn p (s.take p (Text.dropLineEnd raw) d) lines := by
        rw [readAll_cons, step_of_some hd]
      rw [take, hscope] at hc
      dsimp only
      split
      · next hended =>
        rw [if_pos hended] at hc
        exact ⟨hscope ▸ hended, by simp [hn]; omega, hc⟩
      · next hopen =>
        rw [if_neg hopen] at hc
        split
        · next hstart =>
          rw [if_pos hstart] at hc
          have ih := follows_conditional p d [] s.level s.opened lines lines.length (Nat.le_refl _)
          split
          · next stop he =>
            rw [he] at ih
            exact hc.trans ih
          · next c he =>
            rw [he] at ih
            obtain ⟨hl, hb⟩ := ih
            have fewer := c.shorter
            have ih := follows_level p scope
              ⟨c.last, s.level ++ [.conditional c.branches], "", s.opened⟩ c.rest bound
              (by simp at fits; omega) hscope
            have h := ih.resume (f := fun bs => flush s.text (.conditional c.branches :: bs))
              (hc.trans hb) (by simp [hl, hn]; omega) rfl
              (fun bs => by simp [Draft.level, flush_append s.text _ bs])
            split
            · next stop he' =>
              rw [he'] at h
              exact h
            · next l he' =>
              rw [he'] at h
              exact h
        · next hstart =>
          rw [if_neg hstart] at hc
          exact hc
termination_by (lines.length, 0)

theorem follows_conditional (p : String) (d : Directive Nat) (branches : List Branch)
    (before : List Block) (outer : List Opening) (lines : List String)
    (bound : Nat) (fits : lines.length ≤ bound) :
    FollowsBranches p d branches before outer lines (conditional p d lines bound fits) := by
  rw [conditional]
  split
  · next e hg =>
    simp only [FollowsBranches, enter, hg]
    rfl
  · next guard hg =>
    have henter : readOn p (enter d branches before outer) lines =
        readAll p ⟨d.lineNumber, [], "", ⟨false, d, guard, branches, before⟩ :: outer⟩ lines := by
      simp only [enter, hg]
      rfl
    have ih := follows_level p .guarded
      ⟨d.lineNumber, [], "", ⟨false, d, guard, branches, before⟩ :: outer⟩ lines lines.length
      (Nat.le_refl _) rfl
    simp only at ih
    split
    · next stop he =>
      rw [he] at ih
      exact henter.trans ih
    · next he =>
      rw [he] at ih
      exact henter.trans ih
    · next body next rest fewer he =>
      rw [he] at ih
      obtain ⟨-, hcount, hbody⟩ := ih
      have hrun := henter.trans hbody
      split
      · next hk =>
        have ih := follows_conditional p next (branches ++ [(guard, body)]) before outer rest bound
          (by omega)
        simp only [leave, hk] at hrun
        split
        · next stop he =>
          rw [he] at ih
          exact hrun.trans ih
        · next c he =>
          rw [he] at ih
          refine ⟨ih.1.trans hcount, hrun.trans (ih.2.trans ?_)⟩
          simp
      · next hk =>
        have ih := follows_level p .fallback
          ⟨next.lineNumber, [], "",
            ⟨true, next, .always, branches ++ [(guard, body)], before⟩ :: outer⟩ rest rest.length
          (Nat.le_refl _) rfl
        simp only at ih
        simp only [leave, hk] at hrun
        split
        · next stop he =>
          rw [he] at ih
          exact hrun.trans ih
        · next he =>
          rw [he] at ih
          exact hrun.trans ih
        · next final last rest' fewer' he =>
          rw [he] at ih
          refine ⟨ih.2.1.trans hcount, hrun.trans (ih.2.2.trans ?_)⟩
          simp [leave, Opening.closed, Opening.finished, readOn]
      · next hk hk' =>
        refine ⟨hcount, hrun.trans ?_⟩
        rw [leave]
        split
        · next h => exact absurd h hk
        · next h => exact absurd h hk'
        · rfl
termination_by (lines.length, 1)

end

/-- Compiling reads from the empty draft, and leaves what that leaves. -/
theorem readLines_eq (p : String) (lines : List String) :
    readLines p lines =
      match readAll p empty lines with
      | .error stop => (.error stop.error, stop.rest)
      | .ok bs => (.ok ⟨bs⟩, []) := by
  have h := follows_level p .document empty lines lines.length (Nat.le_refl _) rfl
  rw [readLines]
  simp only [empty] at h ⊢
  match he : Template.level p .document "" 0 lines lines.length (Nat.le_refl _) with
  | .error stop =>
    rw [he] at h
    rw [h]
  | .ok (.unended bs) =>
    rw [he] at h
    rw [h, readAll, finish]
    simp [Except.mapError, Level.blocks, Level.rest]
  | .ok (.ended bs d rest fewer) =>
    rw [he] at h
    exact absurd h.1 (by simp [scope, Scope.endedBy])

/-- Compiling is the run from the empty draft. -/
theorem compileLines_eq (p : String) (lines : List String) :
    compileLines p lines = (complete p empty lines).map Template.mk := by
  rw [compileLines, readLines_eq, complete_eq_readAll]
  cases readAll p empty lines <;> rfl

/-- What compiling leaves unread is what was not taken, one line at a time. -/
theorem taken_add_unread (p : String) (lines : List String) :
    taken p empty lines + (readLines p lines).2.length = lines.length := by
  have h := taken_of_readAll p empty lines
  rw [readLines_eq]
  generalize readAll p empty lines = r at h
  cases r with
  | error _ | ok _ => exact h

/-- A document compiles when its run ends with nothing open. -/
theorem compileLines_eq_ok_iff {p : String} {lines : List String} {t : Template} :
    compileLines p lines = .ok t ↔
      ∃ s, run p empty lines = .ok s ∧ s.opened = [] ∧ t = ⟨s.level⟩ := by
  rw [compileLines_eq, complete]
  constructor
  · intro h
    obtain ⟨bs, hbs, rfl⟩ := map_eq_ok h
    obtain ⟨s, hrun, hfinish⟩ := bind_eq_ok hbs
    rw [finish] at hfinish
    split at hfinish
    · next ho =>
      cases hfinish
      exact ⟨s, hrun, ho, rfl⟩
    · cases hfinish
  · rintro ⟨s, hrun, ho, rfl⟩
    rw [hrun]
    simp only [Except.bind, finish, ho]
    rfl

/-! ### What one step can do -/

/-- The steps that succeed: the line is text, or a directive that begins a conditional, begins
another branch of the innermost one, or ends it. -/
inductive Step (p raw : String) (s : Draft) : Draft → Prop where
  | text (h : Directive.ofLine p (Text.dropLineEnd raw) (s.lineNumber + 1) = .ok none) :
    Step p raw s (s.addLine (Text.dropLineEnd raw))
  | start {d guard}
    (h : Directive.ofLine p (Text.dropLineEnd raw) (s.lineNumber + 1) = .ok (some d))
    (hk : d.keyword = .start) (hg : Guard.parse d.argument = .ok guard) :
    Step p raw s ⟨s.lineNumber + 1, [], "", ⟨false, d, guard, [], s.level⟩ :: s.opened⟩
  | elif {d guard o outer}
    (h : Directive.ofLine p (Text.dropLineEnd raw) (s.lineNumber + 1) = .ok (some d))
    (hk : d.keyword = .elif) (hg : Guard.parse d.argument = .ok guard)
    (ho : s.opened = o :: outer) (hf : o.fallback = false) :
    Step p raw s
      ⟨s.lineNumber + 1, [], "", ⟨false, d, guard, o.finished s.level, o.before⟩ :: outer⟩
  | otherwise {d o outer}
    (h : Directive.ofLine p (Text.dropLineEnd raw) (s.lineNumber + 1) = .ok (some d))
    (hk : d.keyword = .otherwise) (ho : s.opened = o :: outer) (hf : o.fallback = false) :
    Step p raw s
      ⟨s.lineNumber + 1, [], "", ⟨true, d, .always, o.finished s.level, o.before⟩ :: outer⟩
  | finish {d o outer}
    (h : Directive.ofLine p (Text.dropLineEnd raw) (s.lineNumber + 1) = .ok (some d))
    (hk : d.keyword = .finish) (ho : s.opened = o :: outer) :
    Step p raw s ⟨s.lineNumber + 1, o.closed s.level, "", outer⟩

theorem enter_eq_ok {d : Directive Nat} {branches : List Branch} {before : List Block}
    {outer : List Opening} {s : Draft} (h : enter d branches before outer = .ok s) :
    ∃ guard, Guard.parse d.argument = .ok guard ∧
      s = ⟨d.lineNumber, [], "", ⟨false, d, guard, branches, before⟩ :: outer⟩ := by
  rw [enter] at h
  split at h
  · cases h
  · next guard hg => exact ⟨guard, hg, (Except.ok.inj h).symm⟩

theorem Step.of_step {p raw : String} {s s' : Draft} (h : step p s raw = .ok s') :
    Step p raw s s' := by
  rcases hd : Directive.ofLine p (Text.dropLineEnd raw) (s.lineNumber + 1) with e | _ | d
  · rw [step_of_error hd] at h
    cases h
  · rw [step_of_none hd] at h
    cases h
    exact .text hd
  · rw [step_of_some hd, take] at h
    have hn := Directive.lineNumber_of_ofLine hd
    split at h
    · next hended =>
      rcases ho : s.opened with _ | ⟨o, outer⟩
      · simp [scope, ho, Scope.endedBy] at hended
      · rw [ho, leave] at h
        split at h
        · next hf hk =>
          obtain ⟨guard, hg, rfl⟩ := enter_eq_ok h
          rw [hn]
          exact .elif hd hk hg ho hf
        · next hf hk =>
          cases h
          rw [hn]
          exact .otherwise hd hk ho hf
        · next hnot hnot' =>
          cases h
          rw [hn]
          refine .finish hd ?_ ho
          cases hk : d.keyword <;> cases hf : o.fallback <;>
            simp_all [scope, Opening.scope, Scope.endedBy]
    · split at h
      · next hk =>
        obtain ⟨guard, hg, rfl⟩ := enter_eq_ok h
        rw [hn]
        exact .start hd hk hg
      · cases h

theorem Step.step_eq {p raw : String} {s s' : Draft} (h : Step p raw s s') :
    step p s raw = .ok s' := by
  cases h with
  | text h => exact step_of_none h
  | @start d guard h hk hg =>
    rw [step_of_some h, take_start hk, enter, hg, Directive.lineNumber_of_ofLine h]
  | @elif d guard o outer h hk hg ho hf =>
    have hended : s.scope.endedBy d.keyword = true := by
      rw [scope_of_opened ho, Opening.scope, hf, hk]
      rfl
    rw [step_of_some h, take_of_ended hended, ho, leave, hk, hf]
    simp only [enter, hg, Directive.lineNumber_of_ofLine h]
  | @otherwise d o outer h hk ho hf =>
    have hended : s.scope.endedBy d.keyword = true := by
      rw [scope_of_opened ho, Opening.scope, hf, hk]
      rfl
    rw [step_of_some h, take_of_ended hended, ho, leave, hk, hf]
    simp only [Directive.lineNumber_of_ofLine h]
  | @finish d o outer h hk ho =>
    have hended : s.scope.endedBy d.keyword = true := by
      rw [scope_of_opened ho, Opening.scope, hk]
      cases o.fallback <;> rfl
    rw [step_of_some h, take_of_ended hended, ho, leave, hk]
    cases o.fallback <;> simp only [Directive.lineNumber_of_ofLine h]

theorem lineNumber_of_step {p raw : String} {s s' : Draft} (h : step p s raw = .ok s') :
    s'.lineNumber = s.lineNumber + 1 := by
  cases Step.of_step h <;> rfl

/-- What every line keeps is kept by all of them. -/
theorem run_preserves {p : String} {P : Draft → Prop} {s s' : Draft} {lines : List String}
    (hstep : ∀ raw ∈ lines, ∀ s s', P s → Step p raw s s' → P s') (hs : P s)
    (h : run p s lines = .ok s') : P s' := by
  induction lines generalizing s with
  | nil =>
    cases h
    exact hs
  | cons raw lines ih =>
    obtain ⟨mid, hmid, hrun⟩ := bind_eq_ok h
    obtain ⟨hraw, hlines⟩ := List.forall_mem_cons.mp hstep
    exact ih hlines (hraw s mid hs (.of_step hmid)) hrun

theorem Step.run_cons {p raw : String} {s s' : Draft} (h : Step p raw s s')
    (lines : List String) : run p s (raw :: lines) = run p s' lines := by
  rw [run, h.step_eq]
  rfl

end Draft

end GuardedText.Template
