import GuardedText.Proofs.Result
import GuardedText.Proofs.Text.Units
import GuardedText.Store

/-! What a store does with one file, and with files in turn. A file whose template is kept is not
looked at; another is compiled as it is now, and only a template is kept. Files that are fetched in
turn are all kept up to the first that fails. -/

namespace GuardedText.Store

/-- The template that is kept under a file name. -/
def kept (l : Store) (name : String) : Option Loaded :=
  l.cache.lookup name

/-- The store with one more template. -/
def keep (l : Store) (name : String) (t : Template) : Store :=
  { l with cache := (name, ⟨t, l.compiled⟩) :: l.cache, compiled := l.compiled + 1 }

/-- What there is to compile at a path: no regular file, the bytes of one, or what cannot be told. -/
inductive Found where
  | noFile
  | file (bytes : List UInt8)
  | failed (e : Files.Failure)

/-- What the files have at a path. -/
def find (files : Files.View) (path : String) : Found :=
  match files.present path, files.isFile path, files.readBytes path with
  | false, _, _ | true, .ok false, _ => .noFile
  | true, .ok true, .ok bytes => .file bytes
  | true, .error e, _ | true, .ok true, .error e => .failed e

/-- What compiling a file as it is now gives. -/
def compileNow (base : String) (directivePrefix : Value) (files : Files.View) (name : String) :
    Except Error Template :=
  let path := Files.Path.join [base, name]
  match find files path with
  | .noFile => .error (.load ⟨path, .noFile⟩)
  | .file bytes =>
    (Template.compileTextUnder directivePrefix (Text.Utf8.decode bytes)).mapError .template
  | .failed e => .error (.files e)

theorem readTemplate_eq (base : String) (directivePrefix : Value) (files : Files.View)
    (name : String) :
    readTemplate files (Files.Path.join [base, name]) directivePrefix =
      compileNow base directivePrefix files name := by
  rw [readTemplate, compileNow, find, Files.View.readText]
  generalize Files.Path.join [base, name] = path
  rcases files.present path with - | - <;> rcases files.isFile path with e | - | - <;>
    rcases files.readBytes path with e' | bytes <;> rfl

/-- In a tree just the nodes that are files can be read. -/
theorem find_view (files : Files.Tree) (path : String) :
    find files path =
      match files.node? [] path with
      | .ok (.file bytes) => .file bytes
      | _ => .noFile := by
  rw [find, Files.Tree.view_present, Files.Tree.view_isFile, Files.Tree.view_readBytes,
    Files.Tree.present, Files.Tree.isFile, Files.Tree.readBytes]
  rcases files.node? [] path with e | bytes | - <;> rfl

theorem kept_keep (l : Store) (name : String) (t : Template) (n : String) :
    (l.keep name t).kept n = if n = name then some ⟨t, l.compiled⟩ else l.kept n := by
  rw [kept, keep, List.lookup_cons]
  by_cases hn : n = name
  · simp [hn]
  · simp [hn, beq_eq_false_iff_ne.mpr hn, kept]

/-- The ways in which fetching a file can go. -/
inductive Fetched (l : Store) (files : Files.View) (name : String) :
    Except Error Loaded × Store → Prop where
  | kept {found} (h : l.kept name = some found) : Fetched l files name (.ok found, l)
  | compiled {t} (h : l.kept name = none)
    (ht : compileNow l.base l.directivePrefix files name = .ok t) :
    Fetched l files name (.ok ⟨t, l.compiled⟩, l.keep name t)
  | failed {e} (h : l.kept name = none)
    (he : compileNow l.base l.directivePrefix files name = .error e) :
    Fetched l files name (.error e, l)

theorem fetched (l : Store) (files : Files.View) (name : String) :
    Fetched l files name (l.fetch files name) := by
  rw [fetch]
  split
  · next found h => exact .kept h
  · next h =>
    rw [readTemplate_eq]
    split
    · next e he => exact .failed h he
    · next t ht => exact .compiled h ht

theorem fetch_of_kept {l : Store} {name : String} {found : Loaded} (h : l.kept name = some found)
    (files : Files.View) : l.fetch files name = (.ok found, l) := by
  have hfetched := l.fetched files name
  generalize l.fetch files name = r at hfetched
  cases hfetched with
  | kept h' =>
    rw [h] at h'
    cases h'
    rfl
  | compiled h' _ | failed h' _ =>
    rw [h] at h'
    cases h'

/-- A failure leaves the store as it was. -/
theorem fetch_snd_of_error {l : Store} {files : Files.View} {name : String} {e : Error}
    (h : (l.fetch files name).1 = .error e) : (l.fetch files name).2 = l := by
  have hfetched := l.fetched files name
  generalize l.fetch files name = r at h hfetched ⊢
  cases hfetched with
  | kept | failed => rfl
  | compiled => cases h

theorem kept_of_fetch {l : Store} {files : Files.View} {name : String} {found : Loaded}
    (h : (l.fetch files name).1 = .ok found) : (l.fetch files name).2.kept name = some found := by
  have hfetched := l.fetched files name
  generalize l.fetch files name = r at h hfetched ⊢
  cases hfetched with
  | kept hkept =>
    cases h
    exact hkept
  | compiled =>
    cases h
    rw [kept_keep, if_pos rfl]
  | failed => cases h

/-- The template that a store answers for a file. -/
def answer (l : Store) (files : Files.View) (name : String) : Except Error Template :=
  (l.fetch files name).1.map Loaded.template

theorem answer_eq_error_iff {l : Store} {files : Files.View} {name : String} {e : Error} :
    l.answer files name = .error e ↔ (l.fetch files name).1 = .error e :=
  map_eq_error_iff

theorem answer_of_kept {l : Store} {name : String} {found : Loaded}
    (h : l.kept name = some found) (files : Files.View) :
    l.answer files name = .ok found.template := by
  rw [answer, fetch_of_kept h]
  rfl

theorem answer_of_not_kept {l : Store} {name : String} (h : l.kept name = none)
    (files : Files.View) :
    l.answer files name = compileNow l.base l.directivePrefix files name := by
  have hfetched := l.fetched files name
  rw [answer]
  generalize l.fetch files name = r at hfetched
  cases hfetched with
  | kept h' =>
    rw [h] at h'
    cases h'
  | compiled _ ht => exact ht.symm
  | failed _ he => exact he.symm

/-! ### Files in turn -/

/-- A store that keeps what `l` keeps, and exactly the files `names` besides, each with the template
that `l` answers for it. -/
structure Grown (l : Store) (files : Files.View) (names : List String) (l' : Store) : Prop where
  base : l'.base = l.base
  directivePrefix : l'.directivePrefix = l.directivePrefix
  accepted : l'.accepted = l.accepted
  keeps : ∀ n found, l.kept n = some found → l'.kept n = some found
  adds : ∀ n ∈ names, ∃ found, l'.kept n = some found ∧ l.answer files n = .ok found.template
  others : ∀ n, n ∉ names → l'.kept n = l.kept n

namespace Grown

variable {l l' l'' : Store} {files : Files.View} {xs ys : List String}

theorem refl (l : Store) (files : Files.View) : Grown l files [] l :=
  ⟨rfl, rfl, rfl, fun _ _ h => h, by simp, fun _ _ => rfl⟩

/-- The answers of the store stay. -/
theorem answer_eq (h : Grown l files xs l') (n : String) :
    l'.answer files n = l.answer files n := by
  by_cases hn : n ∈ xs
  · obtain ⟨found, hfound, hanswer⟩ := h.adds n hn
    rw [answer_of_kept hfound, hanswer]
  · have hkept := h.others n hn
    cases hl : l.kept n with
    | some found =>
      rw [hl] at hkept
      rw [answer_of_kept hl, answer_of_kept hkept]
    | none =>
      rw [hl] at hkept
      rw [answer_of_not_kept hl, answer_of_not_kept hkept, h.base, h.directivePrefix]

theorem trans (h : Grown l files xs l') (h' : Grown l' files ys l'') :
    Grown l files (xs ++ ys) l'' where
  base := h'.base.trans h.base
  directivePrefix := h'.directivePrefix.trans h.directivePrefix
  accepted := h'.accepted.trans h.accepted
  keeps n found hn := h'.keeps n found (h.keeps n found hn)
  adds n hn := by
    rcases List.mem_append.mp hn with hn | hn
    · obtain ⟨found, hfound, hanswer⟩ := h.adds n hn
      exact ⟨found, h'.keeps n found hfound, hanswer⟩
    · obtain ⟨found, hfound, hanswer⟩ := h'.adds n hn
      exact ⟨found, hfound, (h.answer_eq n).symm.trans hanswer⟩
  others n hn := by
    obtain ⟨hxs, hys⟩ := not_or.mp (mt List.mem_append.mpr hn)
    exact (h'.others n hys).trans (h.others n hxs)

theorem of_fetch {name : String} {found : Loaded}
    (h : (l.fetch files name).1 = .ok found) : Grown l files [name] (l.fetch files name).2 := by
  have hanswer : l.answer files name = .ok found.template := by
    rw [answer, h]
    rfl
  have hfetched := l.fetched files name
  generalize l.fetch files name = r at h hfetched
  cases hfetched with
  | kept hkept =>
    cases h
    refine ⟨rfl, rfl, rfl, fun _ _ h => h, ?_, fun _ _ => rfl⟩
    exact List.forall_mem_singleton.mpr ⟨found, hkept, hanswer⟩
  | @compiled t hnew ht =>
    cases h
    refine ⟨rfl, rfl, rfl, fun n other hn => ?_, ?_, fun n hn => ?_⟩
    · have hne : n ≠ name := by
        rintro rfl
        rw [hnew] at hn
        cases hn
      rw [kept_keep, if_neg hne]
      exact hn
    · exact List.forall_mem_singleton.mpr ⟨_, by rw [kept_keep, if_pos rfl], hanswer⟩
    · rw [kept_keep, if_neg (fun hname => hn (List.mem_singleton.mpr hname))]
  | failed => cases h

end Grown

theorem fetchEach_cons_of_error {l : Store} {files : Files.View} {name : String} {e : Error}
    (h : (l.fetch files name).1 = .error e) (rest : List String) :
    l.fetchEach files (name :: rest) = (.error e, l) := by
  have hl := fetch_snd_of_error h
  rw [fetchEach]
  generalize l.fetch files name = r at h hl
  obtain ⟨r, l'⟩ := r
  cases h
  cases hl
  rfl

theorem fetchEach_cons_of_ok {l : Store} {files : Files.View} {name : String} {found : Loaded}
    (h : (l.fetch files name).1 = .ok found) (rest : List String) :
    l.fetchEach files (name :: rest) =
      (((l.fetch files name).2.fetchEach files rest).1.map ((name, found) :: ·),
        ((l.fetch files name).2.fetchEach files rest).2) := by
  rw [fetchEach]
  generalize l.fetch files name = r at h
  obtain ⟨r, l'⟩ := r
  cases h
  generalize hr : l'.fetchEach files rest = q
  obtain ⟨_ | others, l''⟩ := q <;> simp only [hr] <;> rfl

/-- What is fetched in turn is answered in that order. -/
theorem map_fst_fetchEach {l : Store} {files : Files.View} {names : List String}
    {loaded : List (String × Loaded)} (h : (l.fetchEach files names).1 = .ok loaded) :
    loaded.map Prod.fst = names := by
  induction names generalizing l loaded with
  | nil =>
    cases h
    rfl
  | cons name names ih =>
    cases hfetch : (l.fetch files name).1 with
    | error e =>
      rw [fetchEach_cons_of_error hfetch] at h
      cases h
    | ok found =>
      rw [fetchEach_cons_of_ok hfetch] at h
      obtain ⟨others, hothers, rfl⟩ := map_eq_ok h
      rw [List.map_cons, ih hothers]

/-- Fetching in turn fails where the first file fails, and all before that one are kept. -/
theorem fetchEach_error {l : Store} {files : Files.View} {names : List String} {e : Error}
    (h : (l.fetchEach files names).1 = .error e) :
    ∃ done name rest, names = done ++ name :: rest ∧ (l.fetch files name).1 = .error e ∧
      Grown l files done (l.fetchEach files names).2 := by
  induction names generalizing l with
  | nil => cases h
  | cons name names ih =>
    cases hfetch : (l.fetch files name).1 with
    | error e' =>
      rw [fetchEach_cons_of_error hfetch] at h ⊢
      cases h
      exact ⟨[], name, names, rfl, hfetch, .refl l files⟩
    | ok found =>
      rw [fetchEach_cons_of_ok hfetch] at h ⊢
      have hgrown := Grown.of_fetch hfetch
      obtain ⟨done, stopped, rest, rfl, hstopped, hmore⟩ := ih (map_eq_error_iff.mp h)
      refine ⟨name :: done, stopped, rest, rfl, ?_, hgrown.trans hmore⟩
      rw [← answer_eq_error_iff, ← hgrown.answer_eq]
      exact answer_eq_error_iff.mpr hstopped

end GuardedText.Store
