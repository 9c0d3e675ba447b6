import GuardedText.Proofs.Result
import GuardedText.Proofs.Settings.Check
import GuardedText.Proofs.Template.Draft
import GuardedText.Template.Checked

/-! Under a valid prefix, compiling fails for no reason but the document, and it reads the lines that
are taken one at a time. -/

namespace GuardedText.Template

theorem compileUnder_valid (p : Prefix) (compile : String → Except CompileError Template) :
    compileUnder (.string p.text) compile = (compile p.text).mapError .compile := by
  rw [compileUnder, Settings.ofPrefixOption_text]

theorem compileLinesUnder_valid (p : Prefix) (lines : List String) :
    compileLinesUnder (.string p.text) lines = (compileLines p.text lines).mapError .compile :=
  compileUnder_valid p _

theorem compileTextUnder_valid (p : Prefix) (text : String) :
    compileTextUnder (.string p.text) text = (compileText p.text text).mapError .compile :=
  compileUnder_valid p _

theorem compileLinesUnder_eq_ok_iff {p : Prefix} {lines : List String} {t : Template} :
    compileLinesUnder (.string p.text) lines = .ok t ↔ compileLines p.text lines = .ok t := by
  rw [compileLinesUnder_valid, mapError_eq_ok_iff]

theorem compileTextUnder_eq_ok_iff {p : Prefix} {text : String} {t : Template} :
    compileTextUnder (.string p.text) text = .ok t ↔ compileText p.text text = .ok t := by
  rw [compileTextUnder_valid, mapError_eq_ok_iff]

/-- The lines that count as read are those that were taken, one at a time. -/
theorem linesRead_eq_taken (p : Prefix) (lines : List String) :
    linesRead (.string p.text) lines = Draft.taken p.text .empty lines := by
  have hall := Draft.taken_add_unread p.text lines
  rw [linesRead, Settings.ofPrefixOption_text]
  dsimp only
  omega

end GuardedText.Template
