import GuardedText.Processor
import GuardedText.Proofs.Result

/-! What a processor answers. The journal that it reports to has no part in the answers, which are
those of compiling under its prefix and of rendering what that gives. -/

namespace GuardedText.Processor

variable {σ : Type}

theorem report_fst (p : Processor) (sink : Log.Sink σ) (source : String)
    (result : Except Template.CompileError Template) (s : σ) :
    (p.report sink source result s).1 = result.mapError .compile := by
  cases result <;> rfl

theorem compileLines_fst (p : Processor) (sink : Log.Sink σ) (lines : List String) (s : σ) :
    (p.compileLines sink lines s).1 =
      (Template.compileLines p.prefixText lines).mapError .compile :=
  p.report_fst sink _ _ s

theorem compileText_fst (p : Processor) (sink : Log.Sink σ) (text : String) (s : σ) :
    (p.compileText sink text s).1 = (Template.compileText p.prefixText text).mapError .compile :=
  p.report_fst sink _ _ s

/-- A file is compiled as the text that it holds. -/
theorem compilePath_fst (p : Processor) (sink : Log.Sink σ) (files : Files.Tree) (path : String)
    (s : σ) :
    (p.compilePath sink files path s).1 =
      ((files.readText [] path).mapError .files).bind fun text =>
        (Template.compileText p.prefixText text).mapError .compile := by
  rw [compilePath]
  cases files.readText [] path with
  | error e => rfl
  | ok text => exact p.report_fst sink _ _ s

theorem renderText_fst (p : Processor) (sink : Log.Sink σ) (text : String) (source : Value)
    (s : σ) :
    (p.renderText sink text source s).1 = renderResult (p.compileText sink text s).1 source := rfl

theorem renderPath_fst (p : Processor) (sink : Log.Sink σ) (files : Files.Tree) (path : String)
    (source : Value) (s : σ) :
    (p.renderPath sink files path source s).1 =
      renderResult (p.compilePath sink files path s).1 source := rfl

theorem renderText_eq_ok_iff {p : Processor} {sink : Log.Sink σ} {text out : String}
    {source : Value} {s : σ} :
    (p.renderText sink text source s).1 = .ok out ↔
      ∃ t, Template.compileText p.prefixText text = .ok t ∧ t.renderFrom source = .ok out := by
  rw [renderText_fst, compileText_fst]
  cases Template.compileText p.prefixText text with
  | error e => exact iff_of_false (fun h => by cases h) fun ⟨_, ht, _⟩ => by cases ht
  | ok t =>
    have hrender : renderResult ((Except.ok t : Except Template.CompileError Template).mapError
        Error.compile) source = (t.renderFrom source).mapError .source := rfl
    rw [hrender, mapError_eq_ok_iff]
    constructor
    · intro h
      exact ⟨t, rfl, h⟩
    · rintro ⟨_, ht, h⟩
      cases ht
      exact h

end GuardedText.Processor
