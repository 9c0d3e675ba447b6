import GuardedText.Log.Writer
import GuardedText.Proofs.Files.Elsewhere

/-! What logging leaves behind. A writer that prints on the error channel changes its own file and
nothing else that can be seen on the output channels or in the files; making its directory adds
directories where nothing was. -/

namespace GuardedText.Log

open Files

/-- The second world is the first but for the file at `file`, the directories that may have appeared
at `places`, and lines on the error channels. -/
structure Leaves (file : Location) (places : List Location) (w w' : World) : Prop where
  here : w'.here = w.here
  output : w'.outputText = w.outputText
  nodes : ∀ loc, loc ≠ file → Tree.MayAppear w.files w'.files places loc

namespace Leaves

variable {file : Location} {places : List Location} {w w' w'' : World}

theorem refl (file : Location) (places : List Location) (w : World) : Leaves file places w w :=
  ⟨rfl, rfl, fun _ _ => .inl rfl⟩

theorem trans (h : Leaves file places w w') (h' : Leaves file places w' w'') :
    Leaves file places w w'' where
  here := h'.here.trans h.here
  output := h'.output.trans h.output
  nodes := fun loc hloc => (h.nodes loc hloc).trans (h'.nodes loc hloc)

/-- A line on the error channel. -/
theorem print_error (h : Leaves file places w w') (line : String) :
    Leaves file places w (w'.print .error line) where
  here := h.here
  output := by
    rw [← h.output]
    simp [World.outputText, World.textOf, World.print]
  nodes := h.nodes

end Leaves

namespace Writer

variable {l : Writer} {places : List Location} {w : World}

theorem leaves_printEntry (herrors : l.toErrors = true) (file : Location)
    (places : List Location) (level : Level) (line : String) (w : World) :
    Leaves file places w (l.printEntry level line w) := by
  rw [printEntry, herrors]
  split
  · exact (Leaves.refl file places w).print_error line
  · exact .refl file places w

theorem leaves_appendEntry (places : List Location) (line : String) (w : World) :
    Leaves (Tree.target w.here l.logFile) places w (l.appendEntry line w) := by
  rw [appendEntry]
  split
  · split
    · next files happend =>
      exact ⟨rfl, rfl, fun loc hloc => .inl (Tree.lookup_of_appendText happend hloc)⟩
    · exact (Leaves.refl _ places w).print_error _
  · exact .refl _ places w

/-- A record leaves the world as it is, or as it is once its line is printed and appended. -/
theorem write_snd (l : Writer) (r : Record) (w : World) :
    (l.write r w).2 = w ∨
      ∃ line, (l.write r w).2 = l.appendEntry line (l.printEntry r.level line w) := by
  rw [write]
  split
  · exact .inl rfl
  · exact .inl rfl
  · split
    · exact .inl rfl
    · split
      · exact .inl rfl
      · exact .inr ⟨_, rfl⟩

theorem leaves_write (herrors : l.toErrors = true) (places : List Location) (r : Record)
    (w : World) : Leaves (Tree.target w.here l.logFile) places w (l.write r w).2 := by
  obtain hsame | ⟨line, hline⟩ := l.write_snd r w
  · rw [hsame]
    exact .refl _ places w
  · have hprint := leaves_printEntry herrors (Tree.target w.here l.logFile) places r.level line w
    have happend := l.leaves_appendEntry places line (l.printEntry r.level line w)
    rw [hprint.here] at happend
    rw [hline]
    exact hprint.trans happend

theorem printEntry_here_files (l : Writer) (level : Level) (line : String) (w : World) :
    (l.printEntry level line w).here = w.here ∧ (l.printEntry level line w).files = w.files := by
  rw [printEntry]
  split <;> exact ⟨rfl, rfl⟩

/-- A writer that keeps no file changes none. -/
theorem files_write {l : Writer} (h : l.toFile = false) (r : Record) (w : World) :
    (l.write r w).2.files = w.files := by
  obtain hsame | ⟨line, hline⟩ := l.write_snd r w
  · rw [hsame]
  · have hkept : ∀ w, l.appendEntry line w = w := by
      intro w
      rw [appendEntry, h]
      rfl
    rw [hline, hkept, (l.printEntry_here_files r.level line w).2]

theorem here_write (l : Writer) (r : Record) (w : World) : (l.write r w).2.here = w.here := by
  obtain hsame | ⟨line, hline⟩ := l.write_snd r w
  · rw [hsame]
  · rw [hline, (l.leaves_appendEntry [] line _).here, (l.printEntry_here_files r.level line w).1]

/-- What is written goes behind what a file holds, so no directory comes or goes. -/
theorem sameBut_write (l : Writer) (r : Record) (w : World) :
    Tree.SameBut (Tree.target w.here l.logFile) w.files (l.write r w).2.files := by
  obtain hsame | ⟨line, hline⟩ := l.write_snd r w
  · rw [hsame]
    exact .refl _ _
  · obtain ⟨hhere, hfiles⟩ := l.printEntry_here_files r.level line w
    rw [hline, appendEntry, hhere, ← hfiles]
    split
    · split
      · next files happend => exact Tree.sameBut_of_appendText happend
      · exact .refl _ _
    · exact .refl _ _

/-- Making the directory of a log touches no file. -/
theorem leaves_prepare (file : Location) (directory : String) (toFile : Bool) (w : World) :
    Leaves file (Tree.visited (Path.origin w.here directory) (Path.walked directory)) w
      (prepare directory toFile w).2 := by
  unfold prepare
  split
  · exact ⟨rfl, rfl, fun loc _ => Tree.mayAppear_makeDirectories w.files w.here directory loc⟩
  · exact .refl file _ w

end Writer

end GuardedText.Log
