import GuardedText.Proofs.Guard.Lexing
import GuardedText.Proofs.Guard.Names
import GuardedText.Proofs.NameSource
import GuardedText.Proofs.Template.Checked
import GuardedText.Proofs.Template.Draft
import GuardedText.Proofs.Text.Lines
import GuardedText.Proofs.Text.Units
import Mathlib

/-! What rendering can depend on. Which branch is taken depends on the guards before it, so all the
names that a template uses in guards count, those in branches that are never taken too. Names that
are active or not beyond these change nothing. For a template made of lines they are the names in
the arguments of its `if` and `elif` lines. -/

namespace GuardedText.Template

/-! ### Rendering asks for names in guards only -/

namespace Block

variable {f g : String → Bool}

mutual

theorem render_congr (b : Block) (h : ∀ s ∈ b.guardNames, f s = g s) :
    b.render f = b.render g := by
  match b with
  | .text s => rfl
  | .conditional branches => exact renderFirst_congr branches h

theorem renderFirst_congr (branches : List Branch) (h : ∀ s ∈ branchNames branches, f s = g s) :
    renderFirst f branches = renderFirst g branches := by
  match branches with
  | [] => rfl
  | (guard, body) :: rest =>
    rw [branchNames, List.forall_mem_append, List.forall_mem_append] at h
    obtain ⟨⟨hguard, hbody⟩, hrest⟩ := h
    rw [renderFirst, renderFirst, guard.holds_congr hguard]
    -- The guard decides alike for both, and either way the same part is rendered.
    cases guard.holds g with
    | true => exact renderAll_congr body hbody
    | false => exact renderFirst_congr rest hrest

theorem renderAll_congr (bs : List Block) (h : ∀ s ∈ allNames bs, f s = g s) :
    renderAll f bs = renderAll g bs := by
  match bs with
  | [] => rfl
  | b :: rest =>
    rw [allNames, List.forall_mem_append] at h
    rw [renderAll, renderAll, render_congr b h.1, renderAll_congr rest h.2]

end

@[simp] theorem branchNames_append (xs ys : List Branch) :
    branchNames (xs ++ ys) = branchNames xs ++ branchNames ys := by
  induction xs with
  | nil => simp [branchNames]
  | cons x xs ih => simp [branchNames, ih]

theorem allNames_flush (text : String) (bs : List Block) :
    allNames (flush text bs) = allNames bs := by
  rw [flush]
  split
  · rfl
  · simp [allNames, guardNames]

end Block

theorem mem_usedNames {t : Template} {s : String} :
    s ∈ t.usedNames ↔ s ∈ Block.allNames t.blocks := by
  rw [usedNames, Text.mem_sortNames, Text.mem_distinct]

theorem render_congr {t : Template} {f g : String → Bool} (h : ∀ s ∈ t.usedNames, f s = g s) :
    t.render f = t.render g := by
  have hall := Block.renderAll_congr t.blocks fun s hs => h s (mem_usedNames.mpr hs)
  rw [render, render, hall]

theorem renderFrom_congr {t : Template} {source source' : Value} {names names' : List String}
    (hs : NameSource.names source = .ok names) (hs' : NameSource.names source' = .ok names')
    (h : ∀ s ∈ t.usedNames, s ∈ names ↔ s ∈ names') :
    ∃ out, t.renderFrom source = .ok out ∧ t.renderFrom source' = .ok out := by
  have hactive : ∀ s ∈ t.usedNames, NameSource.active names s = NameSource.active names' s := by
    intro s hmem
    rw [NameSource.active, NameSource.active, Bool.eq_iff_iff, List.contains_iff_mem,
      List.contains_iff_mem]
    exact h s hmem
  refine ⟨t.render (NameSource.active names), ?_, ?_⟩
  · rw [renderFrom, hs]
    rfl
  · rw [renderFrom, hs', render_congr hactive]
    rfl

/-! ### The names of what has been read -/

/-- The guard text of a line, if it is an `if` or `elif` line. -/
def guardText? (p raw : String) : Option String :=
  match Directive.ofLine p (Text.dropLineEnd raw) () with
  | .ok (some d) => if d.keyword.takesGuard then some d.argument else none
  | _ => none

def guardTexts (p : String) (lines : List String) : List String :=
  lines.filterMap (guardText? p)

/-- The names in guard texts, in their order, repetitions kept. -/
def namesOfTexts (texts : List String) : List String :=
  texts.flatMap fun text => Guard.namesIn (Guard.lex text)

theorem mem_namesOfTexts {texts : List String} {s : String} :
    s ∈ namesOfTexts texts ↔ ∃ text ∈ texts, .name s ∈ Guard.lex text := by
  simp [namesOfTexts, Guard.mem_namesIn]

theorem namesOfTexts_append (xs ys : List String) :
    namesOfTexts (xs ++ ys) = namesOfTexts xs ++ namesOfTexts ys :=
  List.flatMap_append

def Opening.names (o : Opening) : List String :=
  Block.allNames o.before ++ Block.branchNames o.branches ++ o.guard.leaves

/-- The names of open conditionals, given innermost first, from the outermost on. -/
def openedNames : List Opening → List String
  | [] => []
  | o :: outer => openedNames outer ++ o.names

namespace Draft

/-- The names of all guards read so far, in document order. -/
def names (s : Draft) : List String :=
  openedNames s.opened ++ Block.allNames s.level

theorem names_addLine (s : Draft) (line : String) : (s.addLine line).names = s.names := by
  simp [names, level, addLine, Block.allNames_flush]

/-- A conditional that has just begun a branch with a guard. -/
theorem names_begun (n : Nat) (fallback : Bool) (d : Directive Nat) (guard : Guard.Expr)
    (branches : List Branch) (before : List Block) (outer : List Opening) :
    names ⟨n, [], "", ⟨fallback, d, guard, branches, before⟩ :: outer⟩ =
      openedNames outer ++ (Block.allNames before ++ Block.branchNames branches) ++
        guard.leaves := by
  simp [names, openedNames, Opening.names, Block.allNames]

/-- Ending the open branch keeps its names in their place. -/
theorem names_finished {s : Draft} {o : Opening} {outer : List Opening}
    (ho : s.opened = o :: outer) :
    openedNames outer ++ (Block.allNames o.before ++ Block.branchNames (o.finished s.level)) =
      s.names := by
  simp [names, ho, openedNames, Opening.names, Opening.finished, Block.branchNames]

theorem guardText?_of_none {p raw : String} {n : Nat}
    (h : Directive.ofLine p (Text.dropLineEnd raw) n = .ok none) : guardText? p raw = none := by
  have hline : Directive.ofLine p (Text.dropLineEnd raw) () = .ok none :=
    Directive.ofLine_eq_none_iff.mpr (Directive.ofLine_eq_none_iff.mp h)
  rw [guardText?, hline]

theorem guardText?_of_some {p raw : String} {n : Nat} {d : Directive Nat}
    (h : Directive.ofLine p (Text.dropLineEnd raw) n = .ok (some d)) :
    guardText? p raw = if d.keyword.takesGuard then some d.argument else none := by
  rw [guardText?, Directive.ofLine_renumber () h]

/-- Each line adds the names of its own guard behind those of the lines before it. -/
theorem Step.names_eq {p raw : String} {s s' : Draft} (h : Step p raw s s') :
    s'.names = s.names ++ namesOfTexts (guardTexts p [raw]) := by
  have hguards : guardTexts p [raw] = (guardText? p raw).toList := by
    cases hg : guardText? p raw <;> simp [guardTexts, hg]
  rw [hguards]
  cases h with
  | text h =>
    rw [guardText?_of_none h, names_addLine]
    simp [namesOfTexts]
  | start h hk hg =>
    rw [guardText?_of_some h, hk, names_begun, Guard.leaves_of_parse hg]
    simp [Keyword.takesGuard, namesOfTexts, names, Block.branchNames]
  | elif h hk hg ho hf =>
    rw [guardText?_of_some h, hk, names_begun, names_finished ho, Guard.leaves_of_parse hg]
    simp [Keyword.takesGuard, namesOfTexts]
  | otherwise h hk ho hf =>
    rw [guardText?_of_some h, hk, names_begun, names_finished ho]
    simp [Keyword.takesGuard, namesOfTexts, Guard.Expr.leaves]
  | finish h hk ho =>
    rw [guardText?_of_some h, hk, ← names_finished ho]
    simp [Keyword.takesGuard, namesOfTexts, names, Opening.closed, Block.allNames,
      Block.guardNames]

theorem names_of_run {p : String} {s s' : Draft} {lines : List String}
    (h : run p s lines = .ok s') : s'.names = s.names ++ namesOfTexts (guardTexts p lines) := by
  induction lines generalizing s with
  | nil =>
    cases h
    simp [guardTexts, namesOfTexts]
  | cons raw lines ih =>
    obtain ⟨mid, hstep, hrun⟩ := bind_eq_ok h
    have hsplit : guardTexts p (raw :: lines) = guardTexts p [raw] ++ guardTexts p lines :=
      List.filterMap_append (l := [raw])
    rw [ih hrun, (Step.of_step hstep).names_eq, hsplit, namesOfTexts_append, List.append_assoc]

end Draft

/-- The guards of a compiled document hold the names of its guard texts, in the same order. -/
theorem allNames_of_compileLines {p : String} {lines : List String} {t : Template}
    (h : compileLines p lines = .ok t) :
    Block.allNames t.blocks = namesOfTexts (guardTexts p lines) := by
  obtain ⟨s, hrun, hopened, rfl⟩ := Draft.compileLines_eq_ok_iff.mp h
  have hnames := Draft.names_of_run hrun
  simpa [Draft.names, hopened, openedNames, Draft.empty, Block.allNames] using hnames

/-- The names that a compiled document uses are cut out of its lines, so that none goes over two of
them. -/
theorem lineFeed_not_mem_usedNames {p text : String} {t : Template}
    (h : compileText p text = .ok t) {s : String} (hs : s ∈ t.usedNames) : '\n' ∉ s.toList := by
  rw [mem_usedNames, allNames_of_compileLines h, mem_namesOfTexts] at hs
  obtain ⟨guard, hguard, hname⟩ := hs
  obtain ⟨raw, hraw, hline⟩ := List.mem_filterMap.mp hguard
  intro hfeed
  have hargument := (Guard.isName_of_mem_lex hname).2 _ hfeed
  rw [guardText?] at hline
  split at hline
  · next d hd =>
    split at hline
    · cases hline
      exact Text.not_mem_of_mem_splitLines hraw
        (Text.mem_of_mem_dropLineEnd (Directive.mem_of_mem_argument hd hargument))
    · cases hline
  · cases hline

/-- Sources that agree on the names that a template uses render it to one text. These names are in
strictly increasing order, and a compiled template uses just those that stand in its guards. -/
theorem usedNames_decide_rendering (t : Template) :
    (∀ source source' names names', NameSource.names source = .ok names →
      NameSource.names source' = .ok names' → (∀ s ∈ t.usedNames, s ∈ names ↔ s ∈ names') →
      ∃ out, t.renderFrom source = .ok out ∧ t.renderFrom source' = .ok out) ∧
    (t.usedNames.Pairwise fun a b => Text.units a < Text.units b) ∧
    (∀ (p : Prefix) lines, compileLinesUnder (.string p.text) lines = .ok t →
      ∀ s, s ∈ t.usedNames ↔ ∃ text ∈ guardTexts p.text lines, .name s ∈ Guard.lex text) := by
  refine ⟨fun _ _ _ _ => renderFrom_congr, ?_, ?_⟩
  · exact Text.strict_sortNames (Text.nodup_distinct _)
  · intro p lines h s
    have hnames := allNames_of_compileLines (compileLinesUnder_eq_ok_iff.mp h)
    rw [mem_usedNames, hnames, mem_namesOfTexts]

/-- The name in a branch that is never taken is among the used ones, and one that stands in no guard
makes no difference. -/
theorem usedNames_decide_rendering_untaken :
    ∃ t out,
      compileLinesUnder (.string Prefix.standard.text)
        ["#if a and not a", "#if b", "#endif", "#elif c or (a)", "x", "#endif"] = .ok t ∧
      "b" ∈ t.usedNames ∧
      t.renderFrom (.set [.string "z", .string "a"]) = .ok out ∧
      t.renderFrom (.string "a") = .ok out := by
  have h : compileLinesUnder (.string Prefix.standard.text)
      ["#if a and not a", "#if b", "#endif", "#elif c or (a)", "x", "#endif"] =
      .ok ⟨[.conditional [
        (.and (.name "a") (.not (.name "a")), [.conditional [(.name "b", [])]]),
        (.or (.name "c") (.name "a"), [.text "x\n"])]]⟩ := by
    cbv
  obtain ⟨hrender, -, hcompiled⟩ := usedNames_decide_rendering _
  have htexts : guardTexts Prefix.standard.text
      ["#if a and not a", "#if b", "#endif", "#elif c or (a)", "x", "#endif"] =
      ["a and not a", "b", "c or (a)"] := by
    decide
  have hused := hcompiled _ _ h
  simp only [htexts] at hused
  have hb : ∃ text ∈ ["a and not a", "b", "c or (a)"], .name "b" ∈ Guard.lex text := by decide
  have hz : ¬ ∃ text ∈ ["a and not a", "b", "c or (a)"], .name "z" ∈ Guard.lex text := by decide
  have hsource : NameSource.names (.set [.string "z", .string "a"]) = .ok ["z", "a"] := by cbv
  obtain ⟨out, hout⟩ := hrender (.set [.string "z", .string "a"]) (.string "a") _ ["a"] hsource rfl
    fun s hs => by
      have hne : s ≠ "z" := by
        rintro rfl
        exact hz ((hused "z").mp hs)
      simp [hne]
  exact ⟨_, out, h, (hused "b").mpr hb, hout⟩

end GuardedText.Template
