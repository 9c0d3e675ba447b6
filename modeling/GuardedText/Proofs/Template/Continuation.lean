import GuardedText.Proofs.Template.Completion
import GuardedText.Proofs.Template.Diagnosis

/-! Reading on. What follows in a document is read as it would be read on its own: its lines are
numbered from where the reading stands, and its blocks come behind those of the level there, with
text on both sides of the border made one block. This holds in front of every line of it, so it
holds for all of it, and also for the error at which it ends. -/

namespace GuardedText.Template

/-- The blocks of two lists, where text that ends the first and text that begins the second are one
block. -/
def joinBlocks (xs ys : List Block) : List Block :=
  match xs.getLast?, ys with
  | some (.text s), .text t :: rest => xs.dropLast ++ .text (s ++ t) :: rest
  | _, _ => xs ++ ys

/-! ### Joining lists of blocks -/

@[simp] theorem joinBlocks_nil_left (ys : List Block) : joinBlocks [] ys = ys := by
  simp [joinBlocks]

@[simp] theorem joinBlocks_nil_right (xs : List Block) : joinBlocks xs [] = xs := by
  simp [joinBlocks]

/-- Only the last block of the first list meets the second one. -/
theorem joinBlocks_concat (xs : List Block) (x : Block) (ys : List Block) :
    joinBlocks (xs ++ [x]) ys = xs ++ joinBlocks [x] ys := by
  cases x with
  | text s =>
    rcases ys with _ | ⟨_ | _, ys⟩
    · simp
    · simp [joinBlocks]
    · simp [joinBlocks]
  | conditional branches => simp [joinBlocks]

/-- Only the first block of the second list meets the first one. -/
theorem joinBlocks_cons (xs : List Block) (y : Block) (ys : List Block) :
    joinBlocks xs (y :: ys) = joinBlocks xs [y] ++ ys := by
  rcases List.eq_nil_or_concat' xs with rfl | ⟨xs, x, rfl⟩
  · simp
  · rw [joinBlocks_concat, joinBlocks_concat, List.append_assoc]
    cases x <;> cases y <;> simp [joinBlocks]

@[simp] theorem joinBlocks_conditional (xs : List Block) (branches : List Branch) :
    joinBlocks xs [.conditional branches] = xs ++ [.conditional branches] := by
  rw [joinBlocks]
  intro s t rest _ h
  cases h

theorem joinBlocks_of_not_endsWithText {xs : List Block} (h : endsWithText xs = false)
    (ys : List Block) : joinBlocks xs ys = xs ++ ys := by
  rw [joinBlocks]
  intro s t rest hs
  simp [endsWithText, hs, Block.isText] at h

theorem joinBlocks_assoc_singleton (xs ys : List Block) (z : Block) :
    joinBlocks (joinBlocks xs ys) [z] = joinBlocks xs (joinBlocks ys [z]) := by
  rcases ys with _ | ⟨y, ys⟩
  · simp
  rcases List.eq_nil_or_concat' ys with rfl | ⟨ys, y', rfl⟩
  · -- The border blocks meet: three of them, each text or not.
    rcases List.eq_nil_or_concat' xs with rfl | ⟨xs, x, rfl⟩
    · simp
    · rw [joinBlocks_concat xs x [y], joinBlocks_concat xs x]
      cases x <;> cases y <;> cases z <;>
        simp [joinBlocks, List.getLast?_append, String.append_assoc]
  · -- Something stands between the two borders.
    have hfirst : joinBlocks xs (y :: (ys ++ [y'])) = joinBlocks xs (y :: ys) ++ [y'] := by
      rw [joinBlocks_cons, ← List.append_assoc, ← joinBlocks_cons]
    have hlast : joinBlocks (y :: (ys ++ [y'])) [z] = y :: (ys ++ joinBlocks [y'] [z]) := by
      rw [← List.cons_append, joinBlocks_concat, List.cons_append]
    rw [hfirst, hlast, joinBlocks_concat, joinBlocks_cons xs y (ys ++ _), ← List.append_assoc,
      ← joinBlocks_cons]

/-- Rendering goes over the border. -/
theorem renderAll_joinBlocks (active : String → Bool) (xs ys : List Block) :
    Block.renderAll active (joinBlocks xs ys) =
      Block.renderAll active xs ++ Block.renderAll active ys := by
  rcases List.eq_nil_or_concat' xs with rfl | ⟨xs, x, rfl⟩
  · simp [Block.renderAll]
  · rw [joinBlocks_concat, Block.renderAll_append, Block.renderAll_append, String.append_assoc]
    congr 1
    cases x with
    | conditional branches => simp [joinBlocks, Block.renderAll]
    | text s =>
      rcases ys with _ | ⟨_ | _, ys⟩ <;>
        simp [joinBlocks, Block.renderAll, Block.render, String.append_assoc]

/-! ### More lines in front -/

/-- The error with `k` lines more in front of the document. -/
def CompileError.later (k : Nat) : CompileError → CompileError
  | .directive e => .directive (e.renumber (· + k))
  | .guard n e => .guard (n + k) e

/-- What is told of an error, with every line number written larger by `k`. -/
def CompileError.reportLater (k : Nat) : CompileError → Report
  | .directive e =>
    .directive (e.lineNumber + k) e.line
      (@Directive.Error.message Nat ⟨fun n => toString (n + k)⟩ e)
  | .guard _ e => .guard e.source e.message

theorem CompileError.report_later (k : Nat) (e : CompileError) :
    (e.later k).report = e.reportLater k := by
  cases e with
  | guard n e => rfl
  | directive e =>
    obtain ⟨n, line, reason⟩ := e
    cases reason with
    | reported text => cases text <;> rfl
    | _ => rfl

/-! ### Reading behind a draft -/

/-- A level and the conditionals around it, as they stand behind the blocks `before` of a level that
`outer` surrounds. -/
def behind (before : List Block) (k : Nat) (outer : List Opening) (level : List Block) :
    List Opening → List Block × List Opening
  | [] => (joinBlocks before level, outer)
  | o :: opened =>
    (level, { o with
      latest := o.latest.renumber (· + k)
      before := (behind before k outer o.before opened).1 } ::
        (behind before k outer o.before opened).2)

theorem behind_joinBlocks (before : List Block) (k : Nat) (outer : List Opening)
    (level : List Block) (b : Block) (opened : List Opening) :
    behind before k outer (joinBlocks level [b]) opened =
      (joinBlocks (behind before k outer level opened).1 [b],
        (behind before k outer level opened).2) := by
  cases opened with
  | nil => rw [behind, behind, joinBlocks_assoc_singleton]
  | cons o opened => rfl

theorem behind_conditional (before : List Block) (k : Nat) (outer : List Opening)
    (level : List Block) (branches : List Branch) (opened : List Opening) :
    behind before k outer (level ++ [.conditional branches]) opened =
      ((behind before k outer level opened).1 ++ [.conditional branches],
        (behind before k outer level opened).2) := by
  rw [← joinBlocks_conditional, behind_joinBlocks, joinBlocks_conditional]

namespace Draft

variable {p : String} {base s s' t : Draft} {raw : String}

/-- The draft `s'` is what `s` is, with all that was read into it read behind `base`. -/
structure Behind (base s s' : Draft) : Prop where
  lineNumber : s'.lineNumber = s.lineNumber + base.lineNumber
  level : s'.level = (behind base.level base.lineNumber base.opened s.level s.opened).1
  opened : s'.opened = (behind base.level base.lineNumber base.opened s.level s.opened).2
  ends : endsWithText s.blocks = false
  ends' : endsWithText s'.blocks = false

/-- Text is pending only behind blocks that do not end in text. -/
theorem Step.ends (h : endsWithText s.blocks = false) (hstep : Step p raw s t) :
    endsWithText t.blocks = false := by
  cases hstep with
  | text _ => exact h
  | start | elif | otherwise => rfl
  | finish =>
    rw [Opening.closed, endsWithText_concat]
    rfl

theorem ends_of_run {lines : List String} (h : endsWithText s.blocks = false)
    (hrun : run p s lines = .ok t) : endsWithText t.blocks = false :=
  run_preserves (P := fun s => endsWithText s.blocks = false)
    (fun _ _ _ _ hs hstep => hstep.ends hs) h hrun

theorem level_addLine (h : endsWithText s.blocks = false) (line : String) :
    (s.addLine line).level = joinBlocks s.level [.text (line ++ Text.lineBreak)] := by
  have hne : ∀ text : String, text ++ line ++ Text.lineBreak ≠ "" := by
    intro text
    simp [Text.lineBreak]
  rw [level, level, addLine, flush, if_neg (hne s.text), flush]
  split
  · next htext => rw [htext, List.append_nil, joinBlocks_of_not_endsWithText h, String.empty_append]
  · rw [joinBlocks_concat, String.append_assoc]
    rfl

theorem Behind.start (h : endsWithText base.blocks = false) : Behind base empty base where
  lineNumber := (Nat.zero_add _).symm
  level := (joinBlocks_nil_right _).symm
  opened := rfl
  ends := rfl
  ends' := h

theorem Behind.ofLine_eq (h : Behind base s s') (line : String) :
    Directive.ofLine p line (s'.lineNumber + 1) =
      ((Directive.ofLine p line (s.lineNumber + 1)).map
        (Option.map (Directive.renumber (· + base.lineNumber)))).mapError
          (Directive.Error.renumber (· + base.lineNumber)) := by
  rw [← Directive.ofLine_apply (· + base.lineNumber), h.lineNumber, Nat.add_right_comm]

/-- The innermost conditional is the same but for what its level held before it. -/
theorem Behind.opened_cons (h : Behind base s s') {o : Opening} {outer : List Opening}
    (ho : s.opened = o :: outer) :
    s'.level = s.level ∧
      s'.opened = { o with
        latest := o.latest.renumber (· + base.lineNumber)
        before := (behind base.level base.lineNumber base.opened o.before outer).1 } ::
          (behind base.level base.lineNumber base.opened o.before outer).2 := by
  have hlevel := h.level
  have hopened := h.opened
  rw [ho] at hlevel hopened
  exact ⟨hlevel, hopened⟩

/-- A branch that begins behind the base is empty and has the conditionals around it moved there. -/
theorem Behind.begun (base : Draft) (n : Nat) (o : Opening) (outer : List Opening) :
    Behind base ⟨n, [], "", o :: outer⟩ ⟨n + base.lineNumber, [], "",
      (behind base.level base.lineNumber base.opened [] (o :: outer)).2⟩ where
  lineNumber := rfl
  level := by
    rw [level_of_text_empty, level_of_text_empty]
    rfl
  opened := by
    rw [level_of_text_empty]
  ends := rfl
  ends' := rfl

/-- A line that can be read is read behind the base as well. -/
theorem Behind.step (h : Behind base s s') (hstep : Step p raw s t) :
    ∃ t', Step p raw s' t' ∧ Behind base t t' := by
  have hline := h.ofLine_eq (p := p) (Text.dropLineEnd raw)
  have hnumber : s'.lineNumber + 1 = s.lineNumber + 1 + base.lineNumber := by
    rw [h.lineNumber, Nat.add_right_comm]
  have hends := hstep.ends h.ends
  cases hstep with
  | text hd =>
    rw [hd] at hline
    refine ⟨_, .text hline, hnumber, ?_, ?_, hends, h.ends'⟩
    · rw [level_addLine h.ends', level_addLine h.ends, behind_joinBlocks, h.level]
      rfl
    · rw [level_addLine h.ends, behind_joinBlocks]
      exact h.opened
  | start hd hk hg =>
    rw [hd] at hline
    refine ⟨_, .start hline hk hg, ?_⟩
    rw [hnumber, h.level, h.opened]
    exact .begun ..
  | elif hd hk hg ho hf =>
    obtain ⟨hlevel, hopened⟩ := h.opened_cons ho
    rw [hd] at hline
    refine ⟨_, .elif hline hk hg hopened hf, ?_⟩
    rw [hnumber, hlevel]
    exact .begun ..
  | otherwise hd hk ho hf =>
    obtain ⟨hlevel, hopened⟩ := h.opened_cons ho
    rw [hd] at hline
    refine ⟨_, .otherwise hline hk hopened hf, ?_⟩
    rw [hnumber, hlevel]
    exact .begun ..
  | finish hd hk ho =>
    obtain ⟨hlevel, hopened⟩ := h.opened_cons ho
    rw [hd] at hline
    have hstep' := Step.finish hline hk hopened
    refine ⟨_, hstep', hnumber, ?_, ?_, hends, hstep'.ends h.ends'⟩
    · rw [level_of_text_empty, level_of_text_empty, hlevel, Opening.closed, Opening.closed,
        behind_conditional]
      rfl
    · rw [level_of_text_empty]
      exact (congrArg Prod.snd (behind_conditional ..)).symm

theorem Behind.run (h : Behind base s s') {lines : List String} (hrun : run p s lines = .ok t) :
    ∃ t', Draft.run p s' lines = .ok t' ∧ Behind base t t' := by
  induction lines generalizing s s' with
  | nil =>
    cases hrun
    exact ⟨s', rfl, h⟩
  | cons raw lines ih =>
    obtain ⟨mid, hstep, hrun⟩ := bind_eq_ok hrun
    obtain ⟨mid', hstep', hmid⟩ := h.step (.of_step hstep)
    obtain ⟨t', hrun', ht⟩ := ih hmid hrun
    exact ⟨t', (hstep'.run_cons lines).trans hrun', ht⟩

/-- Lines that compile on their own are read at any level, which then has their blocks too. -/
theorem run_behind (base : Draft) {lines : List String} {bs : List Block}
    (hends : endsWithText base.blocks = false) (h : compileLines p lines = .ok ⟨bs⟩) :
    ∃ s, Draft.run p base lines = .ok s ∧ s.level = joinBlocks base.level bs ∧
      s.opened = base.opened := by
  obtain ⟨t, hrun, hopened, hblocks⟩ := compileLines_eq_ok_iff.mp h
  cases hblocks
  obtain ⟨t', hrun', ht⟩ := (Behind.start hends).run hrun
  have hlevel' := ht.level
  have hopened' := ht.opened
  rw [hopened] at hlevel' hopened'
  exact ⟨t', hrun', hlevel', hopened'⟩

/-! ### Reading behind a draft that has nothing open -/

theorem enter_error_later {d : Directive Nat} {branches branches' : List Branch}
    {before before' : List Block} {outer outer' : List Opening} {e : CompileError} (k : Nat)
    (h : enter d branches before outer = .error e) :
    enter (d.renumber (· + k)) branches' before' outer' = .error (e.later k) := by
  rw [enter] at h ⊢
  split at h
  · next hg =>
    cases h
    simp only [Directive.renumber, hg]
    rfl
  · cases h

variable (hbase : base.opened = [])

include hbase

theorem Behind.scope_eq (h : Behind base s s') : s'.scope = s.scope := by
  rcases ho : s.opened with _ | ⟨o, outer⟩
  · have hopened := h.opened
    rw [ho, behind, hbase] at hopened
    rw [scope, hopened, scope, ho]
  · rw [scope_of_opened (h.opened_cons ho).2, scope_of_opened ho]
    rfl

theorem Behind.take_error (h : Behind base s s') {line : String} {d : Directive Nat}
    {e : CompileError} (he : s.take p line d = .error e) :
    s'.take p line (d.renumber (· + base.lineNumber)) = .error (e.later base.lineNumber) := by
  have hkeyword : (d.renumber (· + base.lineNumber)).keyword = d.keyword := rfl
  rw [take, h.scope_eq hbase, hkeyword]
  rw [take] at he
  split at he
  · next hended =>
    rw [if_pos hended]
    rcases ho : s.opened with _ | ⟨o, outer⟩
    · rw [ho] at he
      cases he
    · rw [ho, leave] at he
      rw [(h.opened_cons ho).2, leave, hkeyword]
      split at he
      · next hf hk =>
        simp only [hf, hk]
        exact enter_error_later _ he
      · cases he
      · cases he
  · next hended =>
    rw [if_neg hended]
    split at he
    · next hstart =>
      rw [if_pos hstart]
      exact enter_error_later _ he
    · next hstart =>
      rw [if_neg hstart]
      cases he
      rw [h.lineNumber, Nat.add_right_comm]
      cases s.scope <;> rfl

/-- A line that is refused is refused behind the base as well, for the same reason. -/
theorem Behind.step_error (h : Behind base s s') {e : CompileError}
    (he : Draft.step p s raw = .error e) :
    Draft.step p s' raw = .error (e.later base.lineNumber) := by
  have hline := h.ofLine_eq (p := p) (Text.dropLineEnd raw)
  rcases hd : Directive.ofLine p (Text.dropLineEnd raw) (s.lineNumber + 1) with e' | _ | d
  · rw [hd] at hline
    rw [step_of_error hd] at he
    cases he
    exact step_of_error hline
  · rw [step_of_none hd] at he
    cases he
  · rw [hd] at hline
    rw [step_of_some hd] at he
    rw [step_of_some hline]
    exact h.take_error hbase he

theorem Behind.finish_eq (h : Behind base s s') :
    finish p s' = ((finish p s).map (joinBlocks base.level)).mapError
      (CompileError.later base.lineNumber) := by
  rcases ho : s.opened with _ | ⟨o, outer⟩
  · have hopened := h.opened
    have hlevel := h.level
    rw [ho, behind] at hopened hlevel
    simp only [finish, ho, hopened, hbase, hlevel]
    rfl
  · simp only [finish, ho, (h.opened_cons ho).2, h.lineNumber]
    rfl

/-- Lines that are read behind others give their blocks behind the blocks of these, or their error
further down. -/
theorem complete_behind (hends : endsWithText base.blocks = false) (lines : List String) :
    complete p base lines =
      ((complete p .empty lines).map (joinBlocks base.level)).mapError
        (CompileError.later base.lineNumber) := by
  have hstart := Behind.start hends
  rw [complete, complete]
  cases hrun : Draft.run p .empty lines with
  | ok t =>
    obtain ⟨t', hrun', ht⟩ := hstart.run hrun
    rw [hrun']
    exact ht.finish_eq hbase
  | error e =>
    obtain ⟨done, raw, rest, mid, rfl, hdone, hfail⟩ := of_run_error hrun
    obtain ⟨mid', hdone', hmid⟩ := hstart.run hdone
    rw [run_of_step_error hdone' (hmid.step_error hbase hfail)]
    rfl

end Draft

end GuardedText.Template
