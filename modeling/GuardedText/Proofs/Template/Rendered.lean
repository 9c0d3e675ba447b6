import GuardedText.Proofs.Processor
import GuardedText.Proofs.Template.Printing

/-! Rendered documents. The blocks of a normal tree render to ended lines, and none of these is a
directive or carries a line end of its own. Without the last break they are a document that compiles
to one block of text, so rendering it under any names gives it back unchanged. -/

namespace GuardedText.Template

/-- A document whose lines are all stored as they are read. -/
def PlainDocument (p s : String) : Prop :=
  ∀ line ∈ Text.splitLines s, TextLine p line

theorem StoredText.empty (p : String) : StoredText p "" :=
  ⟨[], rfl, by simp⟩

theorem StoredText.append {p s t : String} (hs : StoredText p s) (ht : StoredText p t) :
    StoredText p (s ++ t) := by
  obtain ⟨xs, rfl, hxs⟩ := hs
  obtain ⟨ys, rfl, hys⟩ := ht
  exact ⟨xs ++ ys, (Text.endLines_append xs ys).symm, List.forall_mem_append.mpr ⟨hxs, hys⟩⟩

/-! ### What a normal tree renders to -/

section Rendering

variable {p : String} (active : String → Bool)

mutual

theorem storedText_render (b : Block) (hb : NormalBlock p b) : StoredText p (b.render active) := by
  match b with
  | .text s => exact hb.2
  | .conditional branches => exact storedText_renderFirst branches true hb

theorem storedText_renderFirst (branches : List Branch) (first : Bool)
    (hb : NormalBranches p first branches) :
    StoredText p (Block.renderFirst active branches) := by
  match branches with
  | [] => exact .empty p
  | (guard, body) :: rest =>
    obtain ⟨-, hbody, hrest⟩ := hb
    rw [Block.renderFirst]
    split
    · exact storedText_renderAll body hbody
    · exact storedText_renderFirst rest false hrest

theorem storedText_renderAll (bs : List Block) (hbs : Normal p bs) :
    StoredText p (Block.renderAll active bs) := by
  match bs with
  | [] => exact .empty p
  | b :: rest =>
    obtain ⟨hb, -, hrest⟩ := hbs
    exact (storedText_render b hb).append (storedText_renderAll rest hrest)

end

end Rendering

variable {p : Prefix}

/-- The empty line is text under every prefix. -/
theorem textLine_empty (p : Prefix) : TextLine p.text "" where
  unbroken := by simp
  stripped := by simp
  plain := by
    intro h
    exact p.toList_ne_nil (List.prefix_nil.mp h)

/-- Stored text without its last break is plain, also if there is none of it. -/
theorem plainDocument_dropFinalBreak {s : String} (h : StoredText p.text s) :
    PlainDocument p.text (Text.dropFinalBreak s) := by
  obtain ⟨lines, rfl, hlines⟩ := h
  rw [Text.dropFinalBreak_endLines, PlainDocument]
  by_cases hne : lines = []
  · subst hne
    have hsplit : Text.splitLines (Text.lineBreak.intercalate []) = [""] := rfl
    rw [hsplit]
    exact List.forall_mem_singleton.mpr (textLine_empty p)
  · rw [Text.splitLines_intercalate hne fun line hl => (hlines line hl).unbroken]
    exact hlines

theorem plainDocument_render {text : String} {t : Template}
    (h : compileText p.text text = .ok t) (active : String → Bool) :
    PlainDocument p.text (t.render active) := by
  have hnormal := normal_of_compileLines (fun _ => Text.not_mem_of_mem_splitLines) h
  exact plainDocument_dropFinalBreak (storedText_renderAll active t.blocks hnormal)

/-! ### Plain documents -/

theorem compileText_plain {s : String} (h : PlainDocument p.text s) :
    compileText p.text s = .ok ⟨flush (Text.endLines (Text.splitLines s)) []⟩ := by
  have hrun := Draft.run_textLines h .empty
  refine Draft.compileLines_eq_ok_iff.mpr ⟨_, hrun, rfl, ?_⟩
  simp [Draft.empty, Draft.level]

/-- A plain document renders to itself, whatever names are active. -/
theorem render_plain (s : String) (active : String → Bool) :
    render ⟨flush (Text.endLines (Text.splitLines s)) []⟩ active = s := by
  rw [render, renderAll_flush, Block.renderAll, String.append_empty, Text.dropFinalBreak_endLines,
    Text.intercalate_splitLines]

end GuardedText.Template

namespace GuardedText.Processor

/-- What a processor renders has no directive line and no line end but the breaks between its
lines, and the processor renders it to itself, with any source that holds names. -/
theorem renderText_idempotent {σ σ' : Type} (p : Processor) (sink : Log.Sink σ)
    (sink' : Log.Sink σ') (text out : String) (source source' : Value) (names' : List String)
    (s : σ) (s' : σ') (h : (p.renderText sink text source s).1 = .ok out)
    (hnames : NameSource.names source' = .ok names') :
    Template.PlainDocument p.prefixText out ∧
      (p.renderText sink' out source' s').1 = .ok out := by
  obtain ⟨t, hcompile, hrender⟩ := renderText_eq_ok_iff.mp h
  obtain ⟨names, -, rfl⟩ := map_eq_ok hrender
  have hplain := Template.plainDocument_render hcompile (NameSource.active names)
  refine ⟨hplain, renderText_eq_ok_iff.mpr ⟨_, Template.compileText_plain hplain, ?_⟩⟩
  rw [Template.renderFrom, hnames]
  exact congrArg Except.ok (Template.render_plain _ _)

/-- Two empty lines and a line with carriage returns are left, the last of them from a branch. -/
theorem renderText_idempotent_breaks :
    (standard.renderText Log.ignore "#if a\r\n\r\nx\ry\r\r\n#else\nz\n#endif\n" (.string "a") ()).1 =
      .ok "\nx\ry\n" ∧
    (standard.renderText Log.ignore "\nx\ry\n" (.set []) ()).1 = .ok "\nx\ry\n" := by
  have h : (standard.renderText Log.ignore "#if a\r\n\r\nx\ry\r\r\n#else\nz\n#endif\n"
      (.string "a") ()).1 = .ok "\nx\ry\n" := by
    cbv
  exact ⟨h, (renderText_idempotent standard Log.ignore Log.ignore _ _ _ (.set []) [] () () h
    rfl).2⟩

end GuardedText.Processor
