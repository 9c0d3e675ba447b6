import GuardedText.Proofs.Template.Continuation

/-! Templates put together from templates. Documents that follow each other compile to the blocks of
the one behind those of the other, and documents that stand in the branches of a conditional compile
to its bodies. What each of them compiles to on its own is all that matters. -/

namespace GuardedText.Template

/-- Branches as they are written, each by the text of its guard and the lines of its body. The first
begins with the keyword `k`. -/
def writtenBranches (p : String) (k : Keyword) : List (String × List String) → List String
  | [] => []
  | (guard, body) :: rest =>
    (k.spelling p ++ " " ++ guard) :: (body ++ writtenBranches p .elif rest)

/-- The lines that end a conditional, with a body after `else` before them if there is one. -/
def writtenEnd (p : String) : Option (List String) → List String
  | none => [Keyword.finish.spelling p]
  | some body => Keyword.otherwise.spelling p :: (body ++ [Keyword.finish.spelling p])

def writtenConditional (p : String) (parts : List (String × List String))
    (last : Option (List String)) : List String :=
  writtenBranches p .start parts ++ writtenEnd p last

/-- The branch after `else`, if there is one. -/
def fallbackBranch (last : Option (List Block)) : List Branch :=
  last.toList.map fun body => (.always, body)

/-- The lines compile to the blocks. -/
def CompilesTo (p : Prefix) (lines : List String) (bs : List Block) : Prop :=
  compileLinesUnder (.string p.text) lines = .ok ⟨bs⟩

/-- The text of a guard and the lines of a body compile to those of a branch. -/
structure Written (p : Prefix) (part : String × List String) (branch : Branch) : Prop where
  guard : Guard.parse (String.ofList (Text.trim part.1.toList)) = .ok branch.1
  body : CompilesTo p part.2 branch.2

variable {p : Prefix}

/-! ### One document behind another -/

/-- Behind lines that compile, others compile as they do on their own. -/
theorem compileLinesUnder_append {before : List String} {bs : List Block}
    (h : CompilesTo p before bs) (after : List String) :
    compileLinesUnder (.string p.text) (before ++ after) =
      (((Draft.complete p.text .empty after).map fun more =>
        ⟨joinBlocks bs more⟩).mapError (CompileError.later before.length)).mapError .compile := by
  obtain ⟨s, hrun, hopened, hblocks⟩ :=
    Draft.compileLines_eq_ok_iff.mp (compileLinesUnder_eq_ok_iff.mp h)
  cases hblocks
  have hends := Draft.ends_of_run rfl hrun
  have hnumber : s.lineNumber = before.length := by
    rw [Draft.lineNumber_of_run hrun]
    exact Nat.zero_add _
  rw [compileLinesUnder_eq_complete, Draft.complete_append hrun,
    Draft.complete_behind hopened hends, hnumber]
  cases Draft.complete p.text .empty after <;> rfl

/-! ### The bodies of a conditional -/

theorem trim_ne_nil_of_parse {argument : String} {guard : Guard.Expr}
    (h : Guard.parse (String.ofList (Text.trim argument.toList)) = .ok guard) :
    Text.trim argument.toList ≠ [] := by
  intro hnil
  rw [hnil] at h
  cases h

namespace Draft

/-- A body is read in an open branch as the blocks that it compiles to. -/
theorem run_body {body : List String} {bs : List Block} (hbody : CompilesTo p body bs) (n : Nat)
    (o : Opening) (outer : List Opening) :
    ∃ s, run p.text ⟨n, [], "", o :: outer⟩ body = .ok s ∧ s.level = bs ∧
      s.opened = o :: outer := by
  obtain ⟨s, hrun, hlevel, hopened⟩ :=
    run_behind ⟨n, [], "", o :: outer⟩ rfl (compileLinesUnder_eq_ok_iff.mp hbody)
  rw [level_of_text_empty, joinBlocks_nil_left] at hlevel
  exact ⟨s, hrun, hlevel, hopened⟩

/-- A body that ends its conditional becomes the last branch of that. -/
theorem run_lastBody {body : List String} {bs : List Block} (hbody : CompilesTo p body bs) (n : Nat)
    (o : Opening) (outer : List Opening) :
    ∃ n', run p.text ⟨n, [], "", o :: outer⟩ (body ++ [Keyword.finish.spelling p.text]) =
      .ok ⟨n', o.before ++ [.conditional (o.branches ++ [(o.guard, bs)])], "", outer⟩ := by
  obtain ⟨s, hrun, rfl, hopened⟩ := run_body hbody n o outer
  have hstep : Step p.text _ s _ := .finish (ofLine_bare p rfl _) rfl hopened
  refine ⟨s.lineNumber + 1, ?_⟩
  rw [run_append, hrun]
  exact hstep.run_cons []

/-- From a body in an open branch on, the branches are those that were written. -/
theorem run_written {parts : List (String × List String)} {branches : List Branch}
    {last : Option (List String)} {lastBlocks : Option (List Block)}
    (hparts : List.Forall₂ (Written p) parts branches)
    (hlast : Option.Rel (CompilesTo p) last lastBlocks)
    {body : List String} {bs : List Block} (hbody : CompilesTo p body bs) (n : Nat)
    {o : Opening} (hf : o.fallback = false) (outer : List Opening) :
    ∃ n', run p.text ⟨n, [], "", o :: outer⟩
        (body ++ (writtenBranches p.text .elif parts ++ writtenEnd p.text last)) =
      .ok ⟨n', o.before ++ [.conditional (o.branches ++ (o.guard, bs) ::
        (branches ++ fallbackBranch lastBlocks))], "", outer⟩ := by
  induction hparts generalizing body bs n o with
  | nil =>
    cases hlast with
    | none => exact run_lastBody hbody n o outer
    | @some final finalBlocks hfinal =>
      obtain ⟨s, hrun, rfl, hopened⟩ := run_body hbody n o outer
      have hstep : Step p.text _ s _ := .otherwise (ofLine_bare p rfl _) rfl hopened hf
      obtain ⟨n', hend⟩ := run_lastBody hfinal (s.lineNumber + 1)
        ⟨true, ⟨.otherwise, "", s.lineNumber + 1⟩, .always, o.finished s.level, o.before⟩ outer
      refine ⟨n', ?_⟩
      rw [run_append, hrun]
      refine (hstep.run_cons _).trans (hend.trans ?_)
      simp [Opening.finished, fallbackBranch]
  | @cons part branch parts branches hpart _ ih =>
    obtain ⟨argument, next⟩ := part
    obtain ⟨guard, nextBlocks⟩ := branch
    obtain ⟨hguard, hnext⟩ := hpart
    obtain ⟨s, hrun, rfl, hopened⟩ := run_body hbody n o outer
    have hline := ofLine_argument p .elif (trim_ne_nil_of_parse hguard) (s.lineNumber + 1)
    have hstep : Step p.text _ s _ := .elif hline rfl hguard hopened hf
    obtain ⟨n', hend⟩ := ih hnext (s.lineNumber + 1) (o := ⟨false,
      ⟨.elif, String.ofList (Text.trim argument.toList), s.lineNumber + 1⟩, guard,
      o.finished s.level, o.before⟩) rfl
    refine ⟨n', ?_⟩
    rw [run_append, hrun, writtenBranches, List.cons_append, List.append_assoc]
    refine (hstep.run_cons _).trans (hend.trans ?_)
    simp [Opening.finished]

end Draft

/-- A conditional is compiled to its branches, whatever they hold. -/
theorem compilesTo_conditional {parts : List (String × List String)} {branches : List Branch}
    {last : Option (List String)} {lastBlocks : Option (List Block)} (hne : parts ≠ [])
    (hparts : List.Forall₂ (Written p) parts branches)
    (hlast : Option.Rel (CompilesTo p) last lastBlocks) :
    CompilesTo p (writtenConditional p.text parts last)
      [.conditional (branches ++ fallbackBranch lastBlocks)] := by
  cases hparts with
  | nil => exact absurd rfl hne
  | @cons part branch parts branches hpart hparts =>
    obtain ⟨argument, body⟩ := part
    obtain ⟨guard, bs⟩ := branch
    obtain ⟨hguard, hbody⟩ := hpart
    have hline := ofLine_argument p .start (trim_ne_nil_of_parse hguard) 1
    have hstep : Draft.Step p.text _ .empty _ := .start hline rfl hguard
    obtain ⟨n, hrun⟩ := Draft.run_written hparts hlast hbody 1 (o := ⟨false,
      ⟨.start, String.ofList (Text.trim argument.toList), 1⟩, guard, [], []⟩) rfl []
    have hlines : Draft.run p.text .empty
        (writtenConditional p.text ((argument, body) :: parts) last) =
          .ok ⟨n, [.conditional ((guard, bs) :: (branches ++ fallbackBranch lastBlocks))], "",
            []⟩ := by
      rw [writtenConditional, writtenBranches, List.cons_append, List.append_assoc]
      exact (hstep.run_cons _).trans hrun
    refine compileLinesUnder_eq_ok_iff.mpr
      (Draft.compileLines_eq_ok_iff.mpr ⟨_, hlines, rfl, ?_⟩)
    rw [Draft.level_of_text_empty, List.cons_append]

/-- Templates compose. Behind lines that compile, others compile if they do on their own, to their
blocks behind those of the first lines, and are refused for the same error with its line numbers
counted from the first line. A conditional written around lines that compile is one block with a
branch for each of them. -/
theorem compileLinesUnder_compose (p : Prefix) :
    (∀ before after t, compileLinesUnder (.string p.text) before = .ok t →
      ((∃ t', compileLinesUnder (.string p.text) (before ++ after) = .ok t') ↔
        ∃ t', compileLinesUnder (.string p.text) after = .ok t') ∧
      (∀ t', compileLinesUnder (.string p.text) after = .ok t' →
        compileLinesUnder (.string p.text) (before ++ after) =
          .ok ⟨joinBlocks t.blocks t'.blocks⟩ ∧
        ∀ active, Block.renderAll active (joinBlocks t.blocks t'.blocks) =
          Block.renderAll active t.blocks ++ Block.renderAll active t'.blocks) ∧
      (∀ r, compileLinesUnder (.string p.text) after = .error r →
        ∃ e, r = .compile e ∧
          compileLinesUnder (.string p.text) (before ++ after) =
            .error (.compile (e.later before.length)) ∧
          (e.later before.length).report = e.reportLater before.length)) ∧
    (∀ parts branches last lastBlocks, parts ≠ [] → List.Forall₂ (Written p) parts branches →
      Option.Rel (CompilesTo p) last lastBlocks →
      compileLinesUnder (.string p.text) (writtenConditional p.text parts last) =
        .ok ⟨[.conditional (branches ++ fallbackBranch lastBlocks)]⟩) := by
  constructor
  · intro before after t h
    have happend := compileLinesUnder_append h after
    rw [happend, compileLinesUnder_eq_complete]
    cases Draft.complete p.text .empty after with
    | ok more =>
      refine ⟨iff_of_true ⟨_, rfl⟩ ⟨_, rfl⟩, ?_, ?_⟩
      · intro t' ht'
        cases ht'
        exact ⟨rfl, fun active => renderAll_joinBlocks active _ _⟩
      · intro r hr
        cases hr
    | error e =>
      refine ⟨iff_of_false ?_ ?_, ?_, ?_⟩
      · rintro ⟨t', ht'⟩
        cases ht'
      · rintro ⟨t', ht'⟩
        cases ht'
      · intro t' ht'
        cases ht'
      · intro r hr
        cases hr
        exact ⟨e, rfl, rfl, e.report_later _⟩
  · intro parts branches last lastBlocks hne hparts hlast
    exact compilesTo_conditional hne hparts hlast

/-- Text meets text at the border, an error tells of two lines behind the border, and a conditional
has the two documents as bodies. -/
theorem compileLinesUnder_compose_border :
    compileLinesUnder (.string "#") (["#if a", "#endif", "x"] ++ ["y"]) =
      .ok ⟨[.conditional [(.name "a", [])], .text "x\ny\n"]⟩ ∧
    (∃ e, compileLinesUnder (.string "#") (["#if a", "#endif", "x"] ++ ["y", "#if b"]) =
        .error (.compile e) ∧
      e.report = .directive 5 "" "Missing \"#endif\" for \"#if\" on line 5") ∧
    compileLinesUnder (.string "#")
        ["#if  (a) \r", "#if a", "#endif", "x", "#elif b", "#else", "y", "#endif"] =
      .ok ⟨[.conditional [(.name "a", [.conditional [(.name "a", [])], .text "x\n"]),
        (.name "b", []), (.always, [.text "y\n"])]]⟩ := by
  have hx : compileLinesUnder (.string "#") ["#if a", "#endif", "x"] =
      .ok ⟨[.conditional [(.name "a", [])], .text "x\n"]⟩ := by
    cbv
  have hy : compileLinesUnder (.string "#") ["y"] = .ok ⟨[.text "y\n"]⟩ := by
    cbv
  obtain ⟨hbehind, hconditional⟩ := compileLinesUnder_compose .standard
  refine ⟨((hbehind _ ["y"] _ hx).2.1 _ hy).1, ?_, ?_⟩
  · have hopen : compileLinesUnder (.string "#") ["y", "#if b"] = .error (.compile
        (.directive ⟨2, "", .unclosed "#endif" "#if" 2⟩)) := by
      cbv
    obtain ⟨e, he, hlater, -⟩ := (hbehind _ ["y", "#if b"] _ hx).2.2 _ hopen
    cases he
    exact ⟨_, hlater, by decide⟩
  · have ha : Written .standard (" (a) \r", ["#if a", "#endif", "x"])
        (.name "a", [.conditional [(.name "a", [])], .text "x\n"]) := ⟨by cbv, hx⟩
    have hb : Written .standard ("b", []) (.name "b", []) := ⟨by cbv, by cbv⟩
    exact hconditional [(" (a) \r", ["#if a", "#endif", "x"]), ("b", [])] _ (some ["y"]) _
      (by simp) (.cons ha (.cons hb .nil)) (.some hy)

end GuardedText.Template
