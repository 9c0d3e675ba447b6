import GuardedText.Proofs.Files.Tree
import GuardedText.Proofs.Text.Utf8

/-! Trees that agree everywhere but at one place, which is a directory in both or in neither. Every
path leads through the same directories of both, so what can be written in one can be written in the
other. A file that is read by a path that does not touch the place is the same in both. -/

namespace GuardedText.Files.Tree

structure SameBut (place : Location) (t t' : Tree) : Prop where
  elsewhere : ∀ loc, loc ≠ place → t.lookup loc = t'.lookup loc
  directory : t.lookup place = some .directory ↔ t'.lookup place = some .directory

namespace SameBut

variable {place here loc : Location} {t t' t'' : Tree} {path : String}

theorem refl (place : Location) (t : Tree) : SameBut place t t :=
  ⟨fun _ _ => rfl, Iff.rfl⟩

theorem symm (h : SameBut place t t') : SameBut place t' t :=
  ⟨fun loc hloc => (h.elsewhere loc hloc).symm, h.directory.symm⟩

theorem trans (h : SameBut place t t') (h' : SameBut place t' t'') : SameBut place t t'' :=
  ⟨fun loc hloc => (h.elsewhere loc hloc).trans (h'.elsewhere loc hloc),
    h.directory.trans h'.directory⟩

theorem lookup_directory (h : SameBut place t t') (loc : Location) :
    t.lookup loc = some .directory ↔ t'.lookup loc = some .directory := by
  by_cases hloc : loc = place
  · rw [hloc]
    exact h.directory
  · rw [h.elsewhere loc hloc]

/-- A walk only asks which nodes are directories, as long as it succeeds. -/
theorem walk_eq_ok (h : SameBut place t t') {steps : List String} {loc' : Location}
    (hwalk : t.walk loc steps = .ok loc') : t'.walk loc steps = .ok loc' := by
  induction steps generalizing loc with
  | nil => exact hwalk
  | cons step steps ih =>
    rw [walk] at hwalk ⊢
    split at hwalk
    · cases hwalk
    · cases hwalk
    · next hdirectory =>
      rw [(h.lookup_directory loc).mp hdirectory]
      split at hwalk
      · next hshort =>
        rw [if_pos hshort]
        exact ih hwalk
      · cases hwalk

theorem locate_eq_ok (h : SameBut place t t') (hlocate : t.locate here path = .ok loc) :
    t'.locate here path = .ok loc := by
  rw [locate] at hlocate ⊢
  split at hlocate
  · cases hlocate
  · exact h.walk_eq_ok hlocate

theorem writable_eq_ok (h : SameBut place t t') (hwritable : t.writable here path = .ok loc) :
    t'.writable here path = .ok loc := by
  obtain ⟨hends, hlocate, hnot⟩ := writable_eq_ok_iff.mp hwritable
  exact writable_eq_ok_iff.mpr
    ⟨hends, h.locate_eq_ok hlocate, mt (h.lookup_directory loc).mpr hnot⟩

theorem put (h : SameBut place t t') (hne : loc ≠ []) (node : Node) :
    SameBut place (t.put loc node) (t'.put loc node) where
  elsewhere := fun other hother => by
    rw [lookup_put t node hne, lookup_put t' node hne, h.elsewhere other hother]
  directory := by
    rw [lookup_put t node hne, lookup_put t' node hne]
    split
    · rfl
    · exact h.directory

/-- A file is written in both trees or in neither. -/
theorem writeText (h : SameBut place t t') (here : Location) (path text : String) :
    (∃ u u', t.writeText here path text = .ok u ∧ t'.writeText here path text = .ok u' ∧
      SameBut place u u') ∨
    ∃ e e', t.writeText here path text = .error e ∧ t'.writeText here path text = .error e' := by
  have hwrite : ∀ u : Tree, u.writeText here path text =
      (u.writable here path).map fun loc => u.put loc (.file (Text.Utf8.encode text)) :=
    fun _ => rfl
  rw [hwrite, hwrite]
  cases hwritable : t.writable here path with
  | ok loc =>
    rw [h.writable_eq_ok hwritable]
    exact .inl ⟨_, _, rfl, rfl, h.put (Tree.writable_eq_ok hwritable).2 _⟩
  | error e =>
    cases hwritable' : t'.writable here path with
    | ok loc =>
      rw [h.symm.writable_eq_ok hwritable'] at hwritable
      cases hwritable
    | error e' => exact .inr ⟨e, e', rfl, rfl⟩

/-- A walk that does not come to the place goes the same way in both trees, to the same nodes. -/
theorem walk_eq (h : SameBut place t t') {start : Location} {steps : List String}
    (hstart : t.lookup start = t'.lookup start) (hplace : place ∉ visited start steps) :
    t.walk start steps = t'.walk start steps ∧
      ∀ loc, t.walk start steps = .ok loc → t.lookup loc = t'.lookup loc := by
  induction steps generalizing start with
  | nil =>
    refine ⟨rfl, fun loc hwalk => ?_⟩
    cases hwalk
    exact hstart
  | cons step steps ih =>
    rw [visited, List.mem_cons, not_or] at hplace
    have hnext := ih (h.elsewhere _ (Ne.symm hplace.1)) hplace.2
    rw [walk, walk, ← hstart]
    split
    · exact ⟨rfl, fun loc hwalk => by cases hwalk⟩
    · exact ⟨rfl, fun loc hwalk => by cases hwalk⟩
    · split
      · exact hnext
      · exact ⟨rfl, fun loc hwalk => by cases hwalk⟩

/-- A path from the root is read alike unless it leads to the place or through it. -/
theorem readText_eq (h : SameBut place t t') (hplace : place ∉ visited [] (Path.walked path)) :
    t.readText [] path = t'.readText [] path := by
  have horigin : Path.origin [] path = [] := by
    rw [Path.origin]
    split <;> rfl
  obtain ⟨hwalk, hlookup⟩ := h.walk_eq (rfl : t.lookup [] = t'.lookup []) hplace
  have hnode : t.node? [] path = t'.node? [] path := by
    rw [node?, node?, locate, locate, horigin, ← hwalk]
    split
    · rfl
    · next hlocate =>
      split at hlocate
      · cases hlocate
      · rw [hlookup _ hlocate]
  rw [readText, readText, readBytes, readBytes, hnode]

end SameBut

/-- A file that is put where no directory is makes no difference elsewhere. -/
theorem sameBut_put_file {t : Tree} {place : Location} (hne : place ≠ [])
    (hnot : t.lookup place ≠ some .directory) (bytes : List UInt8) :
    SameBut place t (t.put place (.file bytes)) where
  elsewhere := fun loc hloc => by rw [lookup_put t _ hne, if_neg hloc]
  directory := by
    rw [lookup_put t _ hne, if_pos rfl]
    exact iff_of_false hnot (by simp)

/-- No directory is appended to, and what is appended to is a file. -/
theorem sameBut_of_appendText {t t' : Tree} {here : Location} {path text : String}
    (h : t.appendText here path text = .ok t') : SameBut (target here path) t t' := by
  obtain ⟨place, hwritable, rfl⟩ := map_eq_ok h
  obtain ⟨rfl, hne⟩ := writable_eq_ok hwritable
  obtain ⟨-, -, hnot⟩ := writable_eq_ok_iff.mp hwritable
  exact sameBut_put_file hne hnot _

/-- What is written under a path is read back under it, and no other node has changed. -/
theorem readText_of_writeText {t t' : Tree} {here : Location} {path text : String}
    (h : t.writeText here path text = .ok t') :
    t'.readText here path = .ok text ∧
      ∀ loc, loc ≠ target here path → t'.lookup loc = t.lookup loc := by
  obtain ⟨place, hwritable, rfl⟩ := map_eq_ok h
  obtain ⟨htarget, hne⟩ := writable_eq_ok hwritable
  obtain ⟨-, hlocate, hnot⟩ := writable_eq_ok_iff.mp hwritable
  have hsame := sameBut_put_file hne hnot (Text.Utf8.encode text)
  refine ⟨?_, fun loc hloc => (hsame.elsewhere loc (htarget ▸ hloc)).symm⟩
  have hnode : (t.put place (.file (Text.Utf8.encode text))).node? here path =
      .ok (.file (Text.Utf8.encode text)) := by
    rw [node?, hsame.locate_eq_ok hlocate]
    dsimp only
    rw [lookup_put t _ hne, if_pos rfl]
    rfl
  rw [readText, readBytes, hnode]
  exact congrArg Except.ok (Text.Utf8.decode_encode text)

end GuardedText.Files.Tree
