import GuardedText.Proofs.Template.Rendered
import GuardedText.Proofs.Text.Returns

/-! Line ends. A line is read without its line end, so the compiler sees nothing of the carriage
returns before line feeds and at the end of a document: its result, a template or an error, is that
of the document without them. A document without directives renders to just that. -/

namespace GuardedText.Template

namespace Draft

theorem step_dropLineEnd (p : String) (s : Draft) (raw : String) :
    step p s (Text.dropLineEnd raw) = step p s raw := by
  rw [step, step, Text.dropLineEnd_dropLineEnd]

theorem run_map_dropLineEnd (p : String) (s : Draft) (lines : List String) :
    run p s (lines.map Text.dropLineEnd) = run p s lines := by
  induction lines generalizing s with
  | nil => rfl
  | cons raw lines ih => simp only [List.map_cons, run, step_dropLineEnd, ih]

end Draft

/-- Lines compile without their ends to what they compile to with them. -/
theorem compileLines_map_dropLineEnd (p : String) (lines : List String) :
    compileLines p (lines.map Text.dropLineEnd) = compileLines p lines := by
  rw [Draft.compileLines_eq, Draft.compileLines_eq, Draft.complete, Draft.complete,
    Draft.run_map_dropLineEnd]

theorem compileText_withoutReturns (p text : String) :
    compileText p (Text.withoutReturns text) = compileText p text := by
  rw [compileText, compileText, Text.splitLines_withoutReturns, compileLines_map_dropLineEnd]

theorem compileTextUnder_withoutReturns (directivePrefix : Value) (text : String) :
    compileTextUnder directivePrefix (Text.withoutReturns text) =
      compileTextUnder directivePrefix text := by
  rw [compileTextUnder, compileTextUnder]
  simp only [compileText_withoutReturns]

/-- No line starts with the prefix, behind its indentation. -/
def Undirected (p text : String) : Prop :=
  ∀ line ∈ Text.splitLines text, ¬ p.toList <+: Text.trim line.toList

theorem plainDocument_withoutReturns {p text : String} (h : Undirected p text) :
    PlainDocument p (Text.withoutReturns text) := by
  rw [PlainDocument, Text.splitLines_withoutReturns]
  intro line hline
  obtain ⟨raw, hraw, rfl⟩ := List.mem_map.mp hline
  refine ⟨fun hmem => ?_, fun hlast => ?_, ?_⟩
  · exact Text.not_mem_of_mem_splitLines hraw (Text.mem_of_mem_dropLineEnd hmem)
  · exact absurd (Text.getLast_dropLineEnd _ hlast) (by decide)
  · rw [Text.trim_dropLineEnd]
    exact h raw hraw

/-- A document without directives is one block of text, which renders to the document without the
carriage returns before its line feeds and at its end. -/
theorem exists_render_undirected (p : Prefix) {text : String} (h : Undirected p.text text) :
    ∃ t, compileText p.text text = .ok t ∧
      ∀ active, t.render active = Text.withoutReturns text := by
  rw [← compileText_withoutReturns]
  exact ⟨_, compileText_plain (plainDocument_withoutReturns h), render_plain _⟩

/-- Carriage returns before line feeds and at the end of a document have no part in its compilation,
under whatever prefix, valid or not. A document without directives renders to itself without them,
and to itself if it has none. -/
theorem compileTextUnder_ignores_line_ends :
    (∀ (directivePrefix : Value) (text text' : String), Text.SameButReturns text text' →
      compileTextUnder directivePrefix text = compileTextUnder directivePrefix text') ∧
    ∀ (directivePrefix : Value) (settings : Settings) (text : String),
      Settings.ofPrefixOption directivePrefix = .ok settings →
      Undirected settings.directivePrefix.text text →
      ∃ t, compileTextUnder directivePrefix text = .ok t ∧
        (∀ active, t.render active = Text.withoutReturns text) ∧
        ('\r' ∉ text.toList → ∀ active, t.render active = text) := by
  constructor
  · intro directivePrefix text text' hsame
    rw [← compileTextUnder_withoutReturns, hsame.withoutReturns_eq, compileTextUnder_withoutReturns]
  · intro directivePrefix settings text hsettings hundirected
    obtain ⟨t, hcompile, hrender⟩ := exists_render_undirected settings.directivePrefix hundirected
    refine ⟨t, ?_, hrender, fun hnone active => ?_⟩
    · simp only [compileTextUnder, compileUnder, hsettings, hcompile]
      rfl
    · rw [hrender, Text.withoutReturns_of_not_mem hnone]

/-- One return is added in front, one left out in the middle and one added at the end, and that
within a line stays. -/
theorem compileTextUnder_ignores_line_ends_mixed :
    Text.SameButReturns "#if a\nx\ry\r\n#endif" "#if a\r\nx\ry\n#endif\r" ∧
      compileTextUnder .null "#if a\nx\ry\r\n#endif" =
        compileTextUnder .null "#if a\r\nx\ry\n#endif\r" ∧
      ∃ t, compileTextUnder .null " x\r\r\n\ry\r" = .ok t ∧
        ∀ active, t.render active = " x\n\ry" := by
  have hsame : Text.SameButReturns "#if a\nx\ry\r\n#endif" "#if a\r\nx\ry\n#endif\r" :=
    .trans _ _ _ (.rel _ _ ⟨"#if a".toList, "\nx\ry\r\n#endif".toList, .cons _, rfl, rfl⟩)
      (.trans _ _ _
        (.symm _ _ (.rel _ _ ⟨"#if a\r\nx\ry".toList, "\n#endif".toList, .cons _, rfl, rfl⟩))
        (.rel _ _ ⟨"#if a\r\nx\ry\n#endif".toList, [], .nil, rfl, rfl⟩))
  have hundirected : Undirected Prefix.standard.text " x\r\r\n\ry\r" := by
    unfold Undirected
    decide +kernel
  obtain ⟨t, ht, hrender, -⟩ := compileTextUnder_ignores_line_ends.2 .null ⟨.standard⟩
    " x\r\r\n\ry\r" (Settings.ofPrefixOption_text .standard) hundirected
  exact ⟨hsame, compileTextUnder_ignores_line_ends.1 .null _ _ hsame, t, ht, hrender⟩

end GuardedText.Template
