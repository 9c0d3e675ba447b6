import GuardedText.Files.Tree
import GuardedText.Proofs.Result

/-! What the operations on a tree of files change. A path that can be written leads to the location
that its steps tell, whatever the files are, and nothing changes elsewhere; making directories puts
them only where nothing was. -/

namespace GuardedText.Files.Tree

/-- Where a path leads from `here`, if it leads anywhere. -/
def target (here : Location) (path : String) : Location :=
  (Path.walked path).foldl follow (Path.origin here path)

theorem origin_of_relative {path : String} (here : Location)
    (h : Path.isAbsolute path = false) : Path.origin here path = here := by
  rw [Path.origin, h]

theorem walk_eq_ok {t : Tree} {loc loc' : Location} {steps : List String}
    (h : t.walk loc steps = .ok loc') : loc' = steps.foldl follow loc := by
  induction steps generalizing loc with
  | nil =>
    cases h
    rfl
  | cons step steps ih =>
    rw [walk] at h
    split at h
    · cases h
    · cases h
    · split at h
      · exact ih h
      · cases h

theorem locate_eq_ok {t : Tree} {here loc : Location} {path : String}
    (h : t.locate here path = .ok loc) : loc = target here path := by
  rw [locate] at h
  split at h
  · cases h
  · exact walk_eq_ok h

theorem ofPath?_of_locate {t : Tree} {here loc : Location} {path : String}
    (h : t.locate here path = .ok loc) : Failure.ofPath? path = none := by
  rw [locate] at h
  split at h
  · cases h
  · assumption

/-- What can be written is where its path leads, and is no directory. -/
theorem writable_eq_ok_iff {t : Tree} {here loc : Location} {path : String} :
    t.writable here path = .ok loc ↔
      Path.endsInSlash path = false ∧ t.locate here path = .ok loc ∧
        t.lookup loc ≠ some .directory := by
  constructor
  · intro h
    rw [writable] at h
    split at h
    · cases h
    · split at h
      · cases h
      · cases h
    · next hends =>
      split at h
      · cases h
      · next hlocate =>
        split at h
        · cases h
        · next hnot =>
          cases h
          exact ⟨hends, hlocate, hnot⟩
  · rintro ⟨hends, hlocate, hnot⟩
    rw [writable, ofPath?_of_locate hlocate, hends]
    simp only [hlocate]

theorem writable_eq_ok {t : Tree} {here loc : Location} {path : String}
    (h : t.writable here path = .ok loc) : loc = target here path ∧ loc ≠ [] := by
  obtain ⟨-, hlocate, hnot⟩ := writable_eq_ok_iff.mp h
  refine ⟨locate_eq_ok hlocate, ?_⟩
  rintro rfl
  exact hnot rfl

theorem lookup_of_appendText {t t' : Tree} {here : Location} {path text : String}
    (h : t.appendText here path text = .ok t') {loc : Location} (hloc : loc ≠ target here path) :
    t'.lookup loc = t.lookup loc := by
  obtain ⟨place, hwritable, rfl⟩ := map_eq_ok h
  obtain ⟨htarget, hne⟩ := writable_eq_ok hwritable
  rw [lookup_put t _ hne, if_neg (htarget ▸ hloc)]

/-- What is appended stands behind what the file held. -/
theorem lookup_target_of_appendText {t t' : Tree} {here : Location} {path text : String}
    (h : t.appendText here path text = .ok t') :
    t'.lookup (target here path) =
      some (.file (t.bytesAt (target here path) ++ Text.Utf8.encode text)) := by
  obtain ⟨place, hwritable, rfl⟩ := map_eq_ok h
  obtain ⟨rfl, hne⟩ := writable_eq_ok hwritable
  rw [lookup_put t _ hne, if_pos rfl]

/-- The node at a location is as it was, or a directory where nothing was. -/
def MayAppear (t t' : Tree) (places : List Location) (loc : Location) : Prop :=
  t'.lookup loc = t.lookup loc ∨
    loc ∈ places ∧ t.lookup loc = none ∧ t'.lookup loc = some .directory

theorem MayAppear.trans {t t' t'' : Tree} {places : List Location} {loc : Location}
    (h : MayAppear t t' places loc) (h' : MayAppear t' t'' places loc) :
    MayAppear t t'' places loc := by
  rcases h' with heq' | ⟨hmem', hnone', hdirectory'⟩
  · rw [MayAppear, heq']
    exact h
  · rcases h with heq | ⟨-, -, hdirectory⟩
    · exact .inr ⟨hmem', heq ▸ hnone', hdirectory'⟩
    · rw [hdirectory] at hnone'
      cases hnone'

theorem MayAppear.mono {t t' : Tree} {places places' : List Location} {loc : Location}
    (h : MayAppear t t' places loc) (hsub : ∀ l ∈ places, l ∈ places') :
    MayAppear t t' places' loc :=
  h.imp_right fun ⟨hmem, hrest⟩ => ⟨hsub _ hmem, hrest⟩

/-- A directory that is put where nothing was. -/
theorem mayAppear_put {t : Tree} {place : Location} (h : t.lookup place = none) (loc : Location) :
    MayAppear t (t.put place .directory) [place] loc := by
  have hne : place ≠ [] := by
    rintro rfl
    cases h
  rw [MayAppear, lookup_put t _ hne]
  by_cases hloc : loc = place
  · rw [if_pos hloc, hloc]
    exact .inr ⟨by simp, h, rfl⟩
  · rw [if_neg hloc]
    exact .inl rfl

theorem mayAppear_makeSteps (t : Tree) (start : Location) (steps : List String) (loc : Location) :
    MayAppear t (t.makeSteps start steps).2 (visited start steps) loc := by
  induction steps generalizing t start with
  | nil => exact .inl rfl
  | cons step steps ih =>
    have hlater : ∀ t, MayAppear t (t.makeSteps (follow start step) steps).2
        (visited start (step :: steps)) loc :=
      fun t => (ih t (follow start step)).mono fun _ => List.mem_cons_of_mem _
    rw [makeSteps]
    split
    · split
      · exact .inl rfl
      · exact hlater t
      · next hnone =>
        have hfirst : ∀ l ∈ [follow start step], l ∈ visited start (step :: steps) := by
          intro l hl
          rw [List.mem_singleton.mp hl]
          exact List.mem_cons_self
        exact ((mayAppear_put hnone loc).mono hfirst).trans (hlater _)
    · exact .inl rfl

theorem mayAppear_makeDirectories (t : Tree) (here : Location) (path : String) (loc : Location) :
    MayAppear t (t.makeDirectories here path).2
      (visited (Path.origin here path) (Path.walked path)) loc := by
  rw [makeDirectories]
  split
  · exact .inl rfl
  · exact mayAppear_makeSteps t _ _ loc

end GuardedText.Files.Tree
