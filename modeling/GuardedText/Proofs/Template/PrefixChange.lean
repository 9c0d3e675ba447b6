import GuardedText.Proofs.Template.Checked
import GuardedText.Proofs.Template.Draft
import GuardedText.Proofs.Text.Lines
import Mathlib

/-! Another prefix. Where each directive line of a document has its prefix exchanged for another one
and no line of text begins with that, the document means under the other prefix what it meant
before. It compiles to the same blocks or is refused at the same line for the same kind of reason,
although the matcher folds the letter case of prefix and keyword as one word. -/

namespace GuardedText.Template

/-- The line with `q` in the place of the prefix `p`, if it has that behind its indentation. -/
def reprefixed (p q line : String) : String :=
  if p.toList.isPrefixOf (Text.trim line.toList) then
    String.ofList (line.toList.takeWhile Text.isBlank ++ q.toList ++
      (line.toList.dropWhile Text.isBlank).drop p.toList.length)
  else line

/-- What an error tells apart from the spelling of directive lines: where a directive is wrong, or
all that is wrong with a guard. -/
inductive Outline where
  | directive (lineNumber : Nat)
  | guard (lineNumber : Nat) (e : Guard.Error)
  deriving DecidableEq, Repr

def CompileError.outline : CompileError → Outline
  | .directive e => .directive e.lineNumber
  | .guard n e => .guard n e

/-! ### One line -/

theorem reprefixed_of_not_prefixed {p q line : String} (h : ¬ p.toList <+: Text.trim line.toList) :
    reprefixed p q line = line := by
  rw [reprefixed, if_neg]
  rwa [List.isPrefixOf_iff_prefix]

/-- A line with a prefix consists of blanks, the prefix and a rest, and only the prefix changes. -/
theorem exists_reprefixed {p line : String} (h : p.toList <+: Text.trim line.toList) (q : String) :
    ∃ lead rest : List Char, (∀ c ∈ lead, Text.isBlank c = true) ∧
      line = String.ofList (lead ++ p.toList ++ rest) ∧
      reprefixed p q line = String.ofList (lead ++ q.toList ++ rest) := by
  have hfront : p.toList <+: line.toList.dropWhile Text.isBlank :=
    h.trans (List.rdropWhile_prefix _ _)
  obtain ⟨rest, hrest⟩ := hfront
  refine ⟨line.toList.takeWhile Text.isBlank, rest, ?_, ?_, ?_⟩
  · intro c hc
    exact List.mem_takeWhile_imp hc
  · rw [List.append_assoc, hrest, List.takeWhile_append_dropWhile, String.ofList_toList]
  · rw [reprefixed, if_pos (List.isPrefixOf_iff_prefix.mpr h), ← hrest, List.drop_left]

namespace Directive

variable {ν : Type}

/-- The word behind the prefix and the argument decide about a directive, under any prefix. -/
theorem ofWords_outline (p q : Prefix) (line line' : String) (n : ν) (word argument : List Char) :
    (ofWords q.text line' n (q.text.toList ++ word) argument).mapError Error.lineNumber =
      (ofWords p.text line n (p.text.toList ++ word) argument).mapError Error.lineNumber := by
  rw [ofWords, ofWords, Keyword.ofWord?_append, Keyword.ofWord?_append]
  cases Keyword.all.find? fun k => Text.lowerChars word == k.text.toList with
  | none => rfl
  | some k =>
    dsimp only
    cases k.takesGuard <;> cases argument <;> rfl

theorem ofLine_outline (p q : Prefix) {raw : String} (n : ν)
    (h : p.text.toList <+: Text.trim raw.toList) :
    (ofLine q.text (Text.dropLineEnd (reprefixed p.text q.text raw)) n).mapError Error.lineNumber =
      (ofLine p.text (Text.dropLineEnd raw) n).mapError Error.lineNumber := by
  obtain ⟨lead, rest, hlead, hraw, hreprefixed⟩ := exists_reprefixed h q.text
  have hword : ∀ (p : Prefix), ∀ c ∈ p.text.toList, Text.isBlank c = false :=
    fun p c hc => Prefix.isBlank_of_admits (p.admits_of_mem hc)
  have hmap : ∀ x : Except (Error ν) (Directive ν),
      (x.map some).mapError Error.lineNumber = (x.mapError Error.lineNumber).map some := by
    intro x
    cases x <;> rfl
  rw [hreprefixed, hraw, Text.dropLineEnd_word_append q.toList_ne_nil (hword q),
    Text.dropLineEnd_word_append p.toList_ne_nil (hword p), ofLine_prefixed q hlead,
    ofLine_prefixed p hlead, hmap, hmap, ofWords_outline]

end Directive

/-! ### Reading under the two prefixes -/

namespace Draft

theorem take_outline (p q line line' : String) (d : Directive Nat) (s : Draft) :
    (s.take q line' d).mapError CompileError.outline =
      (s.take p line d).mapError CompileError.outline := by
  rw [take, take]
  split
  · rfl
  · split <;> rfl

variable (p q : Prefix)

/-- Each line leads both readers from one draft to one draft, or ends both. -/
theorem step_outline (s : Draft) {raw : String}
    (h : ¬ p.text.toList <+: Text.trim raw.toList → ¬ q.text.toList <+: Text.trim raw.toList) :
    (step q.text s (reprefixed p.text q.text raw)).mapError CompileError.outline =
      (step p.text s raw).mapError CompileError.outline := by
  by_cases hp : p.text.toList <+: Text.trim raw.toList
  · have hline := Directive.ofLine_outline p q (s.lineNumber + 1) hp
    rcases of_mapError_eq hline with ⟨d?, hq', hp'⟩ | ⟨e', e, hq', hp', hn⟩
    · cases d? with
      | none =>
        have htext := Directive.ofLine_eq_none_iff.mp hp'
        rw [Text.trim_dropLineEnd] at htext
        exact absurd hp htext
      | some d =>
        rw [step_of_some hq', step_of_some hp']
        exact take_outline ..
    · rw [step_of_error hq', step_of_error hp']
      exact congrArg (fun n => Except.error (Outline.directive n)) hn
  · have hnone : ∀ p : Prefix, ¬ p.text.toList <+: Text.trim raw.toList →
        step p.text s raw = .ok (s.addLine (Text.dropLineEnd raw)) := by
      intro p hp
      apply step_of_none
      rwa [Directive.ofLine_eq_none_iff, Text.trim_dropLineEnd]
    rw [reprefixed_of_not_prefixed hp, hnone p hp, hnone q (h hp)]

theorem run_outline (s : Draft) {lines : List String}
    (h : ∀ raw ∈ lines, ¬ p.text.toList <+: Text.trim raw.toList →
      ¬ q.text.toList <+: Text.trim raw.toList) :
    (run q.text s (lines.map (reprefixed p.text q.text))).mapError CompileError.outline =
      (run p.text s lines).mapError CompileError.outline := by
  induction lines generalizing s with
  | nil => rfl
  | cons raw lines ih =>
    obtain ⟨hraw, hlines⟩ := List.forall_mem_cons.mp h
    have hrest : ∀ s : Draft,
        (run q.text s (lines.map (reprefixed p.text q.text))).mapError CompileError.outline =
          (run p.text s lines).mapError CompileError.outline := fun s => ih s hlines
    rw [List.map_cons, run, run, mapError_bind, mapError_bind, step_outline p q s hraw]
    simp only [hrest]

/-- Both readers take as many lines. -/
theorem taken_reprefixed (s : Draft) {lines : List String}
    (h : ∀ raw ∈ lines, ¬ p.text.toList <+: Text.trim raw.toList →
      ¬ q.text.toList <+: Text.trim raw.toList) :
    taken q.text s (lines.map (reprefixed p.text q.text)) = taken p.text s lines := by
  induction lines generalizing s with
  | nil => rfl
  | cons raw lines ih =>
    obtain ⟨hraw, hlines⟩ := List.forall_mem_cons.mp h
    rw [List.map_cons, taken, taken]
    rcases of_mapError_eq (step_outline p q s hraw) with ⟨s', hq, hp⟩ | ⟨e', e, hq, hp, -⟩
    · rw [hq, hp]
      exact congrArg (1 + ·) (ih s' hlines)
    · rw [hq, hp]

theorem complete_outline (s : Draft) {lines : List String}
    (h : ∀ raw ∈ lines, ¬ p.text.toList <+: Text.trim raw.toList →
      ¬ q.text.toList <+: Text.trim raw.toList) :
    (complete q.text s (lines.map (reprefixed p.text q.text))).mapError CompileError.outline =
      (complete p.text s lines).mapError CompileError.outline := by
  have hfinish : ∀ s : Draft, (finish q.text s).mapError CompileError.outline =
      (finish p.text s).mapError CompileError.outline := by
    intro s
    rw [finish, finish]
    split <;> rfl
  rw [complete, complete, mapError_bind, mapError_bind, run_outline p q s h]
  simp only [hfinish]

end Draft

/-- A document whose directive lines have the prefix `p` exchanged for `q` compiles under `q` to
what the document compiles to under `p`, or both are refused after as many lines, for directives on
lines of one number or for the very same fault of a guard. -/
theorem compileLinesUnder_reprefixed (p q : Prefix) (lines : List String)
    (h : ∀ raw ∈ lines, ¬ p.text.toList <+: Text.trim raw.toList →
      ¬ q.text.toList <+: Text.trim raw.toList) :
    linesRead (.string q.text) (lines.map (reprefixed p.text q.text)) =
      linesRead (.string p.text) lines ∧
    ((∃ t, compileLinesUnder (.string p.text) lines = .ok t ∧
        compileLinesUnder (.string q.text) (lines.map (reprefixed p.text q.text)) = .ok t) ∨
      ∃ e e', compileLinesUnder (.string p.text) lines = .error (.compile e) ∧
        compileLinesUnder (.string q.text) (lines.map (reprefixed p.text q.text)) =
          .error (.compile e') ∧
        e.outline = e'.outline) := by
  refine ⟨?_, ?_⟩
  · rw [linesRead_eq_taken, linesRead_eq_taken]
    exact Draft.taken_reprefixed p q .empty h
  · have hcomplete := Draft.complete_outline p q .empty h
    simp only [compileLinesUnder_valid, Draft.compileLines_eq]
    rcases of_mapError_eq hcomplete with ⟨bs, hq, hp⟩ | ⟨e', e, hq, hp, he⟩
    · rw [hq, hp]
      exact .inl ⟨⟨bs⟩, rfl, rfl⟩
    · rw [hq, hp]
      exact .inr ⟨e, e', rfl, rfl, he.symm⟩

/-- The second prefix is the beginning of two keywords, and one directive is written in capitals. -/
theorem compileLinesUnder_reprefixed_keyword_letters :
    ∃ (q : Prefix) (t : Template), q.text = "el" ∧
      ["  #IF a", "x", "#elif b", "#Else", "#endif"].map (reprefixed "#" q.text) =
        ["  elIF a", "x", "elelif b", "elElse", "elendif"] ∧
      compileLinesUnder (.string "#") ["  #IF a", "x", "#elif b", "#Else", "#endif"] = .ok t ∧
      compileLinesUnder (.string q.text) ["  elIF a", "x", "elelif b", "elElse", "elendif"] =
        .ok t := by
  have hlines : ["  #IF a", "x", "#elif b", "#Else", "#endif"].map (reprefixed "#" "el") =
      ["  elIF a", "x", "elelif b", "elElse", "elendif"] := by
    decide
  have hp : compileLinesUnder (.string "#") ["  #IF a", "x", "#elif b", "#Else", "#endif"] =
      .ok ⟨[.conditional [(.name "a", [.text "x\n"]), (.name "b", []), (.always, [])]]⟩ := by
    cbv
  have h := (compileLinesUnder_reprefixed .standard ⟨"el", by decide, by decide⟩
    ["  #IF a", "x", "#elif b", "#Else", "#endif"] (by decide)).2
  rcases h with ⟨t, ht, hq⟩ | ⟨e, -, he, -⟩
  · rw [show Prefix.standard.text = "#" from rfl, hlines] at hq
    exact ⟨⟨"el", by decide, by decide⟩, t, rfl, hlines, ht, hq⟩
  · cases hp.symm.trans he

end GuardedText.Template
