import GuardedText.Proofs.Template.Checked
import GuardedText.Proofs.Template.NormalForm

/-! Writing a block tree as a document. Text blocks are written as their lines and conditionals as
directive lines around their branches, the guards in parentheses. Each line of a normal tree is read
back as what it was written for, whatever has been read before, so compiling the document rebuilds
the tree. -/

namespace GuardedText.Template

/-- A guard as the argument of a directive. -/
def guardArgument (guard : Guard.Expr) : String :=
  "(" ++ guard.text ++ ")"

/-- The line that begins a branch with a guard. -/
def guardLine (p : String) (k : Keyword) (guard : Guard.Expr) : String :=
  k.spelling p ++ " " ++ guardArgument guard

/-- The line that begins a branch. -/
def branchLine (p : String) (k : Keyword) (guard : Guard.Expr) : String :=
  if guard = .always then Keyword.otherwise.spelling p else guardLine p k guard

mutual

/-- The lines that a block is written as. -/
def blockLines (p : String) : Block → List String
  | .text s => Text.endedLines s
  | .conditional branches => branchLines p .start branches ++ [Keyword.finish.spelling p]

/-- The lines of branches, the first of which the keyword `k` begins. -/
def branchLines (p : String) (k : Keyword) : List (Guard.Expr × List Block) → List String
  | [] => []
  | (guard, body) :: rest => branchLine p k guard :: (lines p body ++ branchLines p .elif rest)

def lines (p : String) : List Block → List String
  | [] => []
  | b :: rest => blockLines p b ++ lines p rest

end

/-- The document that a block tree is written as. -/
def document (p : String) (bs : List Block) : String :=
  Text.lineBreak.intercalate (lines p bs)

/-! ### How the lines of a document are read -/

theorem TextLine.dropLineEnd_eq {p line : String} (h : TextLine p line) :
    Text.dropLineEnd line = line := by
  refine Text.dropLineEnd_of_getLast fun c hc => ?_
  have hlf : c ≠ '\n' := by
    rintro rfl
    exact h.unbroken (List.mem_of_getLast? hc)
  have hcr : c ≠ '\r' := by
    rintro rfl
    exact h.stripped hc
  simp [Text.isLineEnd, hlf, hcr]

theorem ofLine_bare (p : Prefix) {k : Keyword} (hk : k.takesGuard = false) (n : Nat) :
    Directive.ofLine p.text (Text.dropLineEnd (k.spelling p.text)) n = .ok (some ⟨k, "", n⟩) := by
  have hline : Text.dropLineEnd (k.spelling p.text) = k.spelling p.text :=
    Text.dropLineEnd_of_getLast fun c hc =>
      Text.isLineEnd_of_not_isBlank (k.spelling_not_blank p c (List.mem_of_getLast? hc))
  have hblank : Text.BlankFirst [] := by simp [Text.BlankFirst]
  have h := Directive.ofLine_spelling p k hblank (by simp [hk]) n
  rw [String.ofList_nil, String.append_empty] at h
  rw [hline]
  exact h

theorem trim_guardArgument (guard : Guard.Expr) :
    Text.trim (guardArgument guard).toList = (guardArgument guard).toList := by
  have hfront : (guardArgument guard).toList.dropWhile Text.isBlank =
      (guardArgument guard).toList := by
    simp [guardArgument, Text.isBlank]
  rw [Text.trim, hfront]
  refine Text.dropEndWhile_of_getLast fun c hc => ?_
  rw [guardArgument, String.toList_append, List.getLast?_append] at hc
  cases hc
  decide

/-- Blank space around the argument of a keyword is not a part of it. -/
theorem ofLine_argument (p : Prefix) (k : Keyword) {argument : String}
    (hne : Text.trim argument.toList ≠ []) (n : Nat) :
    Directive.ofLine p.text (Text.dropLineEnd (k.spelling p.text ++ " " ++ argument)) n =
      .ok (some ⟨k, String.ofList (Text.trim argument.toList), n⟩) := by
  have hspace : Text.trim (' ' :: argument.toList) = Text.trim argument.toList := by
    simp [Text.trim, Text.isBlank]
  have hend : Text.trim (Text.dropEndWhile Text.isLineEnd (' ' :: argument.toList)) =
      Text.trim argument.toList := by
    rw [Text.trim_dropEndWhile_of_blank fun _ => Text.isBlank_of_isLineEnd, hspace]
  have hblank : Text.BlankFirst (Text.dropEndWhile Text.isLineEnd (' ' :: argument.toList)) := by
    rw [Text.dropEndWhile_cons]
    split
    · simp [Text.BlankFirst]
    · simp [Text.BlankFirst, Text.isBlank]
  have hchars : k.spelling p.text ++ " " ++ argument =
      String.ofList ([] ++ (k.spelling p.text).toList ++ ' ' :: argument.toList) := by
    rw [← String.toList_inj]
    simp
  have hline : Text.dropLineEnd (k.spelling p.text ++ " " ++ argument) = k.spelling p.text ++
      String.ofList (Text.dropEndWhile Text.isLineEnd (' ' :: argument.toList)) := by
    rw [hchars, Text.dropLineEnd_word_append (k.toList_spelling_ne_nil p)
      (k.spelling_not_blank p), ← String.toList_inj]
    simp
  have h := Directive.ofLine_spelling p k hblank (fun _ => by rwa [hend]) n
  rw [hline, h, hend]

theorem ofLine_guardLine (p : Prefix) (k : Keyword) (guard : Guard.Expr) (n : Nat) :
    Directive.ofLine p.text (Text.dropLineEnd (guardLine p.text k guard)) n =
      .ok (some ⟨k, guardArgument guard, n⟩) := by
  have hne : Text.trim (guardArgument guard).toList ≠ [] := by
    rw [trim_guardArgument]
    simp [guardArgument]
  rw [guardLine, ofLine_argument p k hne, trim_guardArgument, String.ofList_toList]

theorem parse_guardArgument {guard : Guard.Expr} (h : guard.Named GuardName) :
    Guard.parse (guardArgument guard) = .ok guard :=
  Guard.parse_parenthesized (h.mono fun _ hs => hs.1)

theorem ne_always_of_named {guard : Guard.Expr} (h : guard.Named GuardName) :
    guard ≠ .always := by
  rintro rfl
  exact h

theorem branchLine_of_named {p : String} {k : Keyword} {guard : Guard.Expr}
    (h : guard.Named GuardName) : branchLine p k guard = guardLine p k guard :=
  if_neg (ne_always_of_named h)

/-! ### What reading the lines of a tree comes to -/

namespace Draft

variable {p : Prefix}

theorem Step.textLine {line : String} (h : TextLine p.text line) (s : Draft) :
    Step p.text line s (s.addLine line) := by
  have hstep : Step p.text line s (s.addLine (Text.dropLineEnd line)) := by
    refine .text (Directive.ofLine_eq_none_iff.mpr ?_)
    rw [h.dropLineEnd_eq]
    exact h.plain
  rwa [h.dropLineEnd_eq] at hstep

theorem Step.startLine {guard : Guard.Expr} (h : guard.Named GuardName) (s : Draft) :
    ∃ d, Step p.text (branchLine p.text .start guard) s
      ⟨s.lineNumber + 1, [], "", ⟨false, d, guard, [], s.level⟩ :: s.opened⟩ := by
  rw [branchLine_of_named h]
  exact ⟨_, .start (ofLine_guardLine p .start guard _) rfl (parse_guardArgument h)⟩

/-- A branch that is not the first begins with `elif`, or with `else` if its guard always holds. -/
theorem Step.branchLine {s : Draft} {o : Opening} {outer : List Opening} {guard : Guard.Expr}
    (h : guard.Named GuardName ∨ guard = .always) (ho : s.opened = o :: outer)
    (hf : o.fallback = false) :
    ∃ d, Step p.text (branchLine p.text .elif guard) s ⟨s.lineNumber + 1, [], "",
      ⟨decide (guard = .always), d, guard, o.finished s.level, o.before⟩ :: outer⟩ := by
  rcases h with h | rfl
  · rw [branchLine_of_named h, decide_eq_false (ne_always_of_named h)]
    exact ⟨_, .elif (ofLine_guardLine p .elif guard _) rfl (parse_guardArgument h) ho hf⟩
  · exact ⟨_, .otherwise (ofLine_bare p rfl _) rfl ho hf⟩

theorem run_textLines {ls : List String} (h : ∀ line ∈ ls, TextLine p.text line) (s : Draft) :
    run p.text s ls =
      .ok ⟨s.lineNumber + ls.length, s.blocks, s.text ++ Text.endLines ls, s.opened⟩ := by
  induction ls generalizing s with
  | nil => simp [run, Text.endLines]
  | cons line ls ih =>
    obtain ⟨hline, hls⟩ := List.forall_mem_cons.mp h
    rw [(Step.textLine hline s).run_cons, ih hls]
    simp only [addLine, Text.endLines_cons, String.append_assoc, List.length_cons, Nat.add_assoc,
      Nat.add_comm 1]

mutual

theorem run_blockLines (b : Block) (hb : NormalBlock p.text b) (s : Draft)
    (hs : b.isText = true → s.text = "") :
    ∃ s', run p.text s (blockLines p.text b) = .ok s' ∧ s'.opened = s.opened ∧
      s'.level = s.level ++ [b] ∧ (b.isText = false → s'.text = "") := by
  match b with
  | .text text =>
    obtain ⟨hne, ls, rfl, hls⟩ := hb
    have hrun := run_textLines hls s
    rw [hs rfl, String.empty_append] at hrun
    refine ⟨⟨s.lineNumber + ls.length, s.blocks, Text.endLines ls, s.opened⟩, ?_, rfl, ?_,
      fun h => by cases h⟩
    · rw [blockLines, Text.endedLines_endLines fun line hl => (hls line hl).unbroken]
      exact hrun
    · simp [level, flush, hs rfl, hne]
  | .conditional [] => cases hb
  | .conditional ((guard, body) :: rest) =>
    obtain ⟨hguard, hbody, hrest⟩ := hb
    replace hguard : guard.Named GuardName := hguard.resolve_right (by simp)
    obtain ⟨d, hstep⟩ := Step.startLine (p := p) hguard s
    obtain ⟨n, hrun⟩ := run_branch body rest hbody hrest (s.lineNumber + 1)
      ⟨false, d, guard, [], s.level⟩ s.opened (.inl rfl)
    refine ⟨⟨n, s.level ++ [.conditional ((guard, body) :: rest)], "", s.opened⟩, ?_, rfl,
      level_of_text_empty .., fun _ => rfl⟩
    rw [blockLines, branchLines, List.cons_append, List.append_assoc, hstep.run_cons]
    exact hrun
termination_by sizeOf b

theorem run_branch (body : List Block) (rest : List Branch) (hbody : Normal p.text body)
    (hrest : NormalBranches p.text false rest) (n : Nat) (o : Opening) (outer : List Opening)
    (ho : o.fallback = false ∨ rest = []) :
    ∃ n', run p.text ⟨n, [], "", o :: outer⟩
        (lines p.text body ++
          (branchLines p.text .elif rest ++ [Keyword.finish.spelling p.text])) =
      .ok ⟨n', o.before ++ [.conditional (o.branches ++ (o.guard, body) :: rest)], "", outer⟩ := by
  obtain ⟨s, hrun, hopened, hlevel⟩ := run_lines body hbody ⟨n, [], "", o :: outer⟩ fun _ => rfl
  rw [level_of_text_empty, List.nil_append] at hlevel
  rw [run_append, hrun]
  match rest with
  | [] =>
    have hstep : Step p.text _ s _ := .finish (ofLine_bare p rfl _) rfl hopened
    refine ⟨s.lineNumber + 1, (hstep.run_cons []).trans ?_⟩
    rw [run, hlevel]
    rfl
  | (guard, next) :: rest =>
    have hf : o.fallback = false := ho.resolve_right (by simp)
    obtain ⟨hguard, hnext, hrest⟩ := hrest
    have hlast : decide (guard = .always) = false ∨ rest = [] :=
      hguard.imp (fun h => decide_eq_false (ne_always_of_named h)) fun h => h.2.2
    obtain ⟨d, hstep⟩ := Step.branchLine (p := p) (hguard.imp_right And.left) hopened hf
    obtain ⟨n', hnext⟩ := run_branch next rest hnext hrest (s.lineNumber + 1)
      ⟨decide (guard = .always), d, guard, o.finished s.level, o.before⟩ outer hlast
    refine ⟨n', ?_⟩
    rw [branchLines, List.cons_append, List.append_assoc]
    refine (hstep.run_cons _).trans (hnext.trans ?_)
    simp [Opening.finished, hlevel]
termination_by sizeOf body + sizeOf rest + 1

theorem run_lines (bs : List Block) (hbs : Normal p.text bs) (s : Draft)
    (hs : startsWithText bs = true → s.text = "") :
    ∃ s', run p.text s (lines p.text bs) = .ok s' ∧ s'.opened = s.opened ∧
      s'.level = s.level ++ bs := by
  match bs with
  | [] => exact ⟨s, rfl, rfl, (List.append_nil _).symm⟩
  | b :: bs =>
    obtain ⟨hb, hnext, hbs⟩ := hbs
    obtain ⟨s₁, hrun₁, hopened₁, hlevel₁, htext₁⟩ := run_blockLines b hb s hs
    have hs₁ : startsWithText bs = true → s₁.text = "" := by
      intro hstarts
      refine htext₁ (Bool.eq_false_iff.mpr fun ht => ?_)
      simp [hnext ht] at hstarts
    obtain ⟨s₂, hrun₂, hopened₂, hlevel₂⟩ := run_lines bs hbs s₁ hs₁
    refine ⟨s₂, ?_, hopened₂.trans hopened₁, ?_⟩
    · rw [lines, run_append, hrun₁]
      exact hrun₂
    · rw [hlevel₂, hlevel₁]
      simp
termination_by sizeOf bs

end

end Draft

/-! ### The lines of a document are lines -/

section Unbroken

variable {p : Prefix}

theorem lineFeed_not_mem_spelling (k : Keyword) : '\n' ∉ (k.spelling p.text).toList :=
  fun h => absurd (k.spelling_not_blank p _ h) (by decide)

theorem lineFeed_not_mem_branchLine {guard : Guard.Expr} (k : Keyword)
    (h : guard.Named GuardName ∨ guard = .always) :
    '\n' ∉ (branchLine p.text k guard).toList := by
  rcases h with h | rfl
  · have htext := Guard.lineFeed_not_mem_text (h.mono fun _ hs => hs.2)
    rw [branchLine_of_named h, guardLine, guardArgument]
    simp [lineFeed_not_mem_spelling, htext]
  · exact lineFeed_not_mem_spelling .otherwise

mutual

theorem unbroken_blockLines (b : Block) (hb : NormalBlock p.text b) :
    ∀ line ∈ blockLines p.text b, '\n' ∉ line.toList := by
  match b with
  | .text text =>
    obtain ⟨-, ls, rfl, hls⟩ := hb
    have hlines : ∀ line ∈ ls, '\n' ∉ line.toList := fun line hl => (hls line hl).unbroken
    rw [blockLines, Text.endedLines_endLines hlines]
    exact hlines
  | .conditional branches =>
    rw [blockLines]
    exact List.forall_mem_append.mpr
      ⟨unbroken_branchLines .start branches true hb, by simp [lineFeed_not_mem_spelling]⟩

theorem unbroken_branchLines (k : Keyword) (branches : List Branch) (first : Bool)
    (hb : NormalBranches p.text first branches) :
    ∀ line ∈ branchLines p.text k branches, '\n' ∉ line.toList := by
  match branches with
  | [] => simp [branchLines]
  | (guard, body) :: rest =>
    obtain ⟨hguard, hbody, hrest⟩ := hb
    have hline := lineFeed_not_mem_branchLine (p := p) k (hguard.imp_right And.left)
    rw [branchLines]
    exact List.forall_mem_cons.mpr ⟨hline, List.forall_mem_append.mpr
      ⟨unbroken_lines body hbody, unbroken_branchLines .elif rest false hrest⟩⟩

theorem unbroken_lines (bs : List Block) (hbs : Normal p.text bs) :
    ∀ line ∈ lines p.text bs, '\n' ∉ line.toList := by
  match bs with
  | [] => simp [lines]
  | b :: rest =>
    rw [lines]
    exact List.forall_mem_append.mpr
      ⟨unbroken_blockLines b hbs.1, unbroken_lines rest hbs.2.2⟩

end

end Unbroken

theorem compileText_document {p : Prefix} {bs : List Block} (hne : bs ≠ [])
    (h : Normal p.text bs) : compileText p.text (document p.text bs) = .ok ⟨bs⟩ := by
  obtain ⟨s, hrun, hopened, hlevel⟩ := Draft.run_lines bs h .empty fun _ => rfl
  have hlines : lines p.text bs ≠ [] := by
    intro hnil
    rw [hnil] at hrun
    cases hrun
    exact hne hlevel.symm
  rw [compileText, document, Text.splitLines_intercalate hlines (unbroken_lines bs h)]
  exact Draft.compileLines_eq_ok_iff.mpr ⟨s, hrun, hopened, congrArg Template.mk hlevel.symm⟩

/-- The trees that documents compile to are the normal ones with a block in them, and each of these
is what the document that it is written as compiles to. -/
theorem compileTextUnder_image (p : Prefix) :
    (∀ text t, compileTextUnder (.string p.text) text = .ok t →
      t.blocks ≠ [] ∧ Normal p.text t.blocks) ∧
    (∀ bs, bs ≠ [] → Normal p.text bs →
      compileTextUnder (.string p.text) (document p.text bs) = .ok ⟨bs⟩) := by
  constructor
  · intro text t h
    have hcompile := compileTextUnder_eq_ok_iff.mp h
    exact ⟨blocks_ne_nil_of_compileLines (Text.splitLines_ne_nil text) hcompile,
      normal_of_compileLines (fun _ => Text.not_mem_of_mem_splitLines) hcompile⟩
  · intro bs hne hbs
    exact compileTextUnder_eq_ok_iff.mpr (compileText_document hne hbs)

/-- A line of text, and a conditional with an empty branch and one after `else`. -/
theorem compileTextUnder_image_branches :
    Normal Prefix.standard.text
      [.text "x\n", .conditional [(.not (.name "a"), []), (.always, [.text "y\n"])]] ∧
    compileTextUnder (.string Prefix.standard.text) "x\n#if (not a)\n#else\ny\n#endif" =
      .ok ⟨[.text "x\n", .conditional [(.not (.name "a"), []), (.always, [.text "y\n"])]]⟩ := by
  have hx : TextLine Prefix.standard.text "x" := ⟨by decide, by decide, by decide⟩
  have hy : TextLine Prefix.standard.text "y" := ⟨by decide, by decide, by decide⟩
  have hreserved : ∀ k : Guard.Keyword, Text.lower "a" ≠ k.text := by
    intro k
    cases k <;> decide
  have ha : GuardName "a" := ⟨⟨by decide, by simp, hreserved⟩, by decide⟩
  have htext : NormalBlock Prefix.standard.text (.text "x\n") :=
    ⟨by decide, ["x"], by decide, by simpa using hx⟩
  have htext' : NormalBlock Prefix.standard.text (.text "y\n") :=
    ⟨by decide, ["y"], by decide, by simpa using hy⟩
  have hnormal : Normal Prefix.standard.text
      [.text "x\n", .conditional [(.not (.name "a"), []), (.always, [.text "y\n"])]] :=
    ⟨htext, fun _ => rfl, ⟨.inl ha, trivial, .inr ⟨rfl, rfl, rfl⟩,
      ⟨htext', fun _ => rfl, trivial⟩, rfl⟩, fun _ => rfl, trivial⟩
  refine ⟨hnormal, ?_⟩
  have h := (compileTextUnder_image .standard).2 _ (by simp) hnormal
  rwa [show document _ _ = "x\n#if (not a)\n#else\ny\n#endif" by decide] at h

end GuardedText.Template
