import GuardedText.Proofs.Files.Regular
import GuardedText.Proofs.Store.Snapshots
import GuardedText.Proofs.Text.Case

/-! The two operations on all template files of a directory: one lists their names, the other fetches
them. Both take the regular files with an accepted extension, in the order of their names, whatever
order the directory has them in. A file that is listed is there to be fetched, so only its text can
make fetching fail. -/

namespace GuardedText.Store

/-! ### Extensions -/

/-- Lists of extensions that differ in the case of ASCII letters, in order and in repetitions. -/
def SameExtensions (es es' : List String) : Prop :=
  ∀ e, e ∈ es.map Text.asciiLower ↔ e ∈ es'.map Text.asciiLower

theorem admits_acceptedOf {extensions : Option (List String)} {name : String} :
    admits (acceptedOf extensions) name = true ↔
      ∀ es ∈ extensions, ∃ e ∈ es, Text.lower e = Text.lower (Files.Path.extension name) := by
  cases extensions with
  | none => simp [acceptedOf, admits]
  | some es => simp [acceptedOf, admits]

theorem map_lower_asciiLower (es : List String) :
    (es.map Text.asciiLower).map Text.lower = es.map Text.lower := by
  rw [List.map_map]
  exact List.map_congr_left fun e _ => Text.lower_asciiLower e

theorem admits_congr {extensions extensions' : Option (List String)}
    (h : Option.Rel SameExtensions extensions extensions') :
    admits (acceptedOf extensions) = admits (acceptedOf extensions') := by
  funext name
  cases h with
  | none => rfl
  | @some es es' hsame =>
    simp only [acceptedOf, Option.map_some, admits]
    rw [← map_lower_asciiLower es, ← map_lower_asciiLower es', Bool.eq_iff_iff,
      List.contains_iff_mem, List.contains_iff_mem, List.mem_map, List.mem_map]
    exact exists_congr fun e => and_congr_left fun _ => hsame e

theorem filesAmong_congr {accepted accepted' : Option (List String)}
    (h : admits accepted = admits accepted') (files : Files.View) (directory : String)
    (names : List String) :
    filesAmong files directory accepted names = filesAmong files directory accepted' names := by
  induction names with
  | nil => rfl
  | cons name names ih => rw [filesAmong, filesAmong, ih, h]

theorem fileNames_congr {extensions extensions' : Option (List String)}
    (h : Option.Rel SameExtensions extensions extensions') (files : Files.View)
    (directory : String) :
    fileNames files directory (acceptedOf extensions) =
      fileNames files directory (acceptedOf extensions') := by
  rw [fileNames, fileNames]
  simp only [filesAmong_congr (admits_congr h)]

/-! ### What is listed -/

/-- What the search keeps of the names. -/
theorem of_filesAmong_eq_ok {files : Files.View} {directory : String}
    {accepted : Option (List String)} {names listed : List String}
    (h : filesAmong files directory accepted names = .ok listed) :
    listed.Sublist names ∧ ∀ name, name ∈ listed ↔ name ∈ names ∧
      files.isFile (Files.Path.join [directory, name]) = .ok true ∧
      admits accepted name = true := by
  induction names generalizing listed with
  | nil =>
    cases h
    simp
  | cons first names ih =>
    rw [filesAmong] at h
    cases hfirst : files.isFile (Files.Path.join [directory, first]) with
    | error e =>
      rw [hfirst] at h
      cases h
    | ok isFile =>
      rw [hfirst] at h
      obtain ⟨others, hothers, rfl⟩ := map_eq_ok h
      obtain ⟨hsublist, hmem⟩ := ih hothers
      cases hkeep : isFile && admits accepted first with
      | true =>
        obtain ⟨rfl, hadmits⟩ := Bool.and_eq_true_iff.mp hkeep
        refine ⟨hsublist.cons_cons first, fun name => ?_⟩
        rw [List.mem_cons, List.mem_cons, hmem]
        constructor
        · rintro (rfl | ⟨hname, hfile⟩)
          · exact ⟨.inl rfl, hfirst, hadmits⟩
          · exact ⟨.inr hname, hfile⟩
        · rintro ⟨rfl | hname, hfile⟩
          · exact .inl rfl
          · exact .inr ⟨hname, hfile⟩
      | false =>
        refine ⟨hsublist.cons first, fun name => ?_⟩
        rw [List.mem_cons, hmem]
        constructor
        · rintro ⟨hname, hfile⟩
          exact ⟨.inr hname, hfile⟩
        · rintro ⟨rfl | hname, hfile, hadmits⟩
          · cases hfirst.symm.trans hfile
            cases hkeep.symm.trans hadmits
          · exact ⟨hname, hfile, hadmits⟩

theorem isFile_of_mem_fileNames {files : Files.View} {directory : String}
    {accepted : Option (List String)} {names : List String}
    (h : fileNames files directory accepted = .ok names) {name : String} (hname : name ∈ names) :
    files.isFile (Files.Path.join [directory, name]) = .ok true := by
  rw [fileNames] at h
  split at h
  · cases h
  · obtain ⟨listed, hlisted, rfl⟩ := map_eq_ok h
    have hmem := ((of_filesAmong_eq_ok hlisted).2 name).mp (Text.mem_sortNames.mp hname)
    exact hmem.2.1

section Directory

variable {files : Files.Tree} {loc : Files.Location}

/-- Of each node of a directory it is told under its path whether it is a file. -/
theorem isFile_join (hregular : files.Regular) (hfound : files.NoneDangling loc) {name : String}
    (hname : files.lookup (loc ++ [name]) ≠ none) :
    (∃ isFile, files.view.isFile (Files.Path.join [Files.Path.ofSteps loc, name]) = .ok isFile) ∧
      (files.view.isFile (Files.Path.join [Files.Path.ofSteps loc, name]) = .ok true ↔
        ∃ bytes, files.lookup (loc ++ [name]) = some (.file bytes)) := by
  have hall := hregular.nameable hname
  obtain ⟨hloc, hlast⟩ := List.forall_mem_append.mp hall
  have hpath := Files.Path.join_ofSteps hloc (hlast name (by simp))
  obtain ⟨node, hnode⟩ := Files.Tree.exists_node?_of_present (hfound name hname)
  rw [hpath] at hnode ⊢
  rw [Files.Tree.view_isFile, Files.Tree.isFile, hnode, Files.Tree.lookup_of_node? hall hnode]
  cases node <;> simp

/-- The files of a directory with an accepted extension, in strict order. -/
theorem exists_fileNames (hregular : files.Regular) (hloc : ∀ name ∈ loc, Files.Path.Nameable name)
    (hdirectory : files.node? [] (Files.Path.ofSteps loc) = .ok .directory)
    (hfound : files.NoneDangling loc) (accepted : Option (List String)) :
    ∃ names, fileNames files (Files.Path.ofSteps loc) accepted = .ok names ∧
      (names.Pairwise fun a b => Text.units a < Text.units b) ∧
      ∀ name, name ∈ names ↔ (∃ bytes, files.lookup (loc ++ [name]) = some (.file bytes)) ∧
        admits accepted name = true := by
  obtain ⟨all, hall, hnodup, hmem⟩ :=
    Files.Tree.readDirectory_eq_ok (Files.Tree.locate_of_node? hloc hdirectory)
      (Files.Tree.lookup_of_node? hloc hdirectory)
  rw [fileNames, Files.Tree.view_readDirectory, hall]
  dsimp only
  cases hlisted : filesAmong files (Files.Path.ofSteps loc) accepted all with
  | error f =>
    obtain ⟨before, name, after, rfl, -, hfails⟩ := filesAmong_eq_error_iff.mp hlisted
    obtain ⟨isFile, hfile⟩ :=
      (isFile_join hregular hfound ((hmem name).mp (by simp))).1
    cases hfails.symm.trans hfile
  | ok listed =>
    obtain ⟨hsublist, hlist⟩ := of_filesAmong_eq_ok hlisted
    refine ⟨_, rfl, Text.strict_sortNames (hnodup.sublist hsublist), fun name => ?_⟩
    rw [Text.mem_sortNames, hlist, hmem]
    constructor
    · rintro ⟨hname, hfile, hadmits⟩
      exact ⟨(isFile_join hregular hfound hname).2.mp hfile, hadmits⟩
    · rintro ⟨⟨bytes, hfile⟩, hadmits⟩
      have hname : files.lookup (loc ++ [name]) ≠ none := by simp [hfile]
      exact ⟨hname, (isFile_join hregular hfound hname).2.mpr ⟨bytes, hfile⟩, hadmits⟩

end Directory

/-! ### What is fetched -/

section Fetched

variable {l : Store} {names : List String} {loaded : List (String × Loaded)}

/-- What is fetched in turn is kept. -/
theorem kept_fetchEach {files : Files.View} (h : (l.fetchEach files names).1 = .ok loaded) :
    ∀ p ∈ loaded, (l.fetchEach files names).2.kept p.1 = some p.2 := by
  induction names generalizing l loaded with
  | nil =>
    cases h
    simp
  | cons name names ih =>
    cases hfetch : (l.fetch files name).1 with
    | error e =>
      rw [fetchEach_cons_of_error hfetch] at h
      cases h
    | ok found =>
      rw [fetchEach_cons_of_ok hfetch] at h ⊢
      obtain ⟨others, hothers, rfl⟩ := map_eq_ok h
      refine List.forall_mem_cons.mpr ⟨?_, ih hothers⟩
      obtain ⟨done, hgrown⟩ := (l.fetch files name).2.fetchEach_grown files names
      exact hgrown.keeps name found (kept_of_fetch hfetch)

/-- A file of a tree is not missed. -/
theorem fetch_ne_load {files : Files.Tree} {name : String}
    (h : files.view.isFile (Files.Path.join [l.base, name]) = .ok true) (e : LoadError) :
    (l.fetch files name).1 ≠ .error (.load e) := by
  have hfetched := l.fetched files name
  generalize l.fetch files name = r at hfetched ⊢
  cases hfetched with
  | kept | compiled => simp
  | failed _ he =>
    rintro heq
    cases heq
    rw [Files.Tree.view_isFile, Files.Tree.isFile] at h
    rw [compileNow, find_view] at he
    split at h
    · cases h
    · next bytes hnode =>
      rw [hnode] at he
      obtain ⟨_, -, hload⟩ := mapError_eq_error he
      cases hload
    · cases h

theorem fetchAll_ne_load (l : Store) (files : Files.Tree) (e : LoadError) :
    (l.fetchAll files).1 ≠ .error (.load e) := by
  intro h
  cases hnames : fileNames files l.base l.accepted with
  | error f =>
    rw [fetchAll_of_unlisted hnames] at h
    cases h
  | ok names =>
    rw [fetchAll_of_listed hnames] at h
    obtain ⟨done, name, rest, rfl, hname, -⟩ := fetchEach_error h
    exact fetch_ne_load (isFile_of_mem_fileNames hnames (by simp)) e hname

end Fetched

/-! ### Stores that accept other extensions -/

/-- The store with other accepted extensions. -/
def accepting (l : Store) (accepted : Option (List String)) : Store :=
  { l with accepted }

theorem fetch_accepting (l : Store) (accepted : Option (List String)) (files : Files.View)
    (name : String) :
    (l.accepting accepted).fetch files name =
      ((l.fetch files name).1, (l.fetch files name).2.accepting accepted) := by
  rw [fetch, fetch]
  cases hkept : l.cache.lookup name with
  | some found => simp only [accepting, hkept]
  | none =>
    cases hread : readTemplate files (Files.Path.join [l.base, name]) l.directivePrefix with
    | error e => simp only [accepting, hkept, hread]
    | ok t => simp only [accepting, hkept, hread]

theorem fetchEach_accepting (l : Store) (accepted : Option (List String)) (files : Files.View)
    (names : List String) :
    (l.accepting accepted).fetchEach files names =
      ((l.fetchEach files names).1, (l.fetchEach files names).2.accepting accepted) := by
  induction names generalizing l with
  | nil => rfl
  | cons name names ih =>
    rw [fetchEach, fetchEach, fetch_accepting]
    obtain ⟨e | found, l'⟩ := l.fetch files name
    · rfl
    · dsimp only
      rw [ih]
      obtain ⟨e | others, l''⟩ := l'.fetchEach files names <;> rfl

theorem fetchAll_accepting {l : Store} {accepted : Option (List String)} {files : Files.View}
    (h : fileNames files l.base accepted = fileNames files l.base l.accepted) :
    (l.accepting accepted).fetchAll files =
      ((l.fetchAll files).1, (l.fetchAll files).2.accepting accepted) := by
  have hnames : fileNames files (l.accepting accepted).base (l.accepting accepted).accepted =
      fileNames files l.base l.accepted := h
  rw [fetchAll, fetchAll, hnames]
  cases fileNames files l.base l.accepted with
  | error f => rfl
  | ok names => exact l.fetchEach_accepting accepted files names

/-! ### Listing and fetching -/

theorem templateFiles_of_present {files : Files.View} {directory : String}
    (h : files.present directory = true) (extensions : Option (List String)) :
    templateFiles files directory extensions =
      fileNames files directory (acceptedOf extensions) := by
  rw [templateFiles, h]

/-- In a directory without dangling names, whatever order it has them in, listing answers the names
of the regular files with one of the extensions, in strict 16-bit order. A store over the directory
with these extensions that fetches all files answers with just these names in this order, and with
what it then answers for each of them, whatever it kept before; none of them is missed. Neither the
case of ASCII letters nor order nor repetitions matter among the extensions. -/
theorem listing_agrees_with_fetchAll {files : Files.Tree} (hregular : files.Regular)
    {here : Files.Location} (hhere : files.lookup here = some .directory) {directory : String}
    (hdirectory : files.node? [] (Files.Path.resolve here directory) = .ok .directory)
    (hfound : files.NoneDangling (Files.Path.stepsFromRoot here directory))
    (extensions : Option (List String)) :
    let base := Files.Path.resolve here directory
    let loc := Files.Path.stepsFromRoot here directory
    ∃ names,
      templateFiles files base extensions = .ok names ∧
      (names.Pairwise fun a b => Text.units a < Text.units b) ∧
      (∀ name, name ∈ names ↔ (∃ bytes, files.lookup (loc ++ [name]) = some (.file bytes)) ∧
        ∀ es ∈ extensions, ∃ e ∈ es, Text.lower e = Text.lower (Files.Path.extension name)) ∧
      (∀ l : Store, l.base = base → l.accepted = acceptedOf extensions →
        (∀ loaded, (l.fetchAll files).1 = .ok loaded → loaded.map Prod.fst = names ∧
          ∀ name found, (name, found) ∈ loaded → ∀ later,
            (l.fetchAll files).2.fetch later name = (.ok found, (l.fetchAll files).2)) ∧
        ∀ e, (l.fetchAll files).1 ≠ .error (.load e)) ∧
      ∀ extensions', Option.Rel SameExtensions extensions extensions' →
        templateFiles files base extensions' = .ok names ∧
        ∀ l : Store, l.base = base → l.accepted = acceptedOf extensions →
          (l.accepting (acceptedOf extensions')).fetchAll files =
            ((l.fetchAll files).1, (l.fetchAll files).2.accepting (acceptedOf extensions')) := by
  intro base loc
  have hloc : ∀ name ∈ loc, Files.Path.Nameable name :=
    Files.Path.nameable_stepsFromRoot (hregular.nameable (by simp [hhere])) directory
  have hpresent : files.view.present base = true := by
    rw [Files.Tree.view_present, Files.Tree.present, hdirectory]
    rfl
  obtain ⟨names, hnames, hsorted, hmem⟩ :=
    exists_fileNames hregular hloc hdirectory hfound (acceptedOf extensions)
  refine ⟨names, (templateFiles_of_present hpresent _).trans hnames, hsorted, fun name => ?_,
    fun l hbase haccepted => ⟨fun loaded hloaded => ?_, l.fetchAll_ne_load files⟩,
    fun extensions' hsame => ⟨?_, fun l hbase haccepted => ?_⟩⟩
  · rw [hmem, admits_acceptedOf]
  · have hlisted : l.fetchAll files = l.fetchEach files names :=
      fetchAll_of_listed (by rw [hbase, haccepted]; exact hnames)
    rw [hlisted] at hloaded ⊢
    exact ⟨map_fst_fetchEach hloaded,
      fun name found hfetched => fetch_of_kept (kept_fetchEach hloaded _ hfetched)⟩
  · rw [templateFiles_of_present hpresent, ← fileNames_congr hsame]
    exact hnames
  · refine fetchAll_accepting ?_
    rw [haccepted, fileNames_congr hsame]

/-- A hidden file, a directory with the name of a template and a file with two dots, fetched by a
store that keeps a template whose file is gone. -/
theorem listing_agrees_with_fetchAll_mixed :
    let files : Files.Tree := ⟨[(["d", "é.ini"], .file []), (["d", "e.ini"], .directory),
      (["d", "b.c.ini"], .file [0x79]), (["d", "B.INI"], .file [0x78]), (["d", ".ini"], .file []),
      (["d"], .directory)]⟩
    let l : Store := ⟨"/d", .undefined, some [".ini"], [("gone.ini", ⟨⟨[]⟩, 0⟩)], 1⟩
    let names := ["B.INI", "b.c.ini", "é.ini"]
    templateFiles files "/d" (some [".INI", ".ini"]) = .ok names ∧
      ∃ loaded, (l.fetchAll files).1 = .ok loaded ∧ loaded.map Prod.fst = names ∧
        ∀ name found, (name, found) ∈ loaded → ∀ later,
          (l.fetchAll files).2.fetch later name = (.ok found, (l.fetchAll files).2) := by
  intro files l names
  have hmade : files = Files.Tree.empty.afterAll [.install "/d/.ini" [], .install "/d/B.INI" [0x78],
      .install "/d/b.c.ini" [0x79], .makeDirectories "/d/e.ini", .write "/d/é.ini" []] :=
    congrArg Files.Tree.mk (by decide +kernel)
  have hregular : files.Regular := by
    rw [hmade]
    exact Files.Tree.regular_empty.afterAll _
  have hshort : ∀ n ∈ files.nodes, (Files.Path.ofSteps n.1).utf8ByteSize ≤ Files.longestPath := by
    decide +kernel
  have hdirectory : files.node? [] (Files.Path.resolve [] "d") = .ok .directory := by
    decide +kernel
  obtain ⟨names', hnames', -, -, hfetch, hsame⟩ :=
    listing_agrees_with_fetchAll hregular rfl hdirectory (hregular.noneDangling hshort _)
      (some [".ini"])
  have hbase : Files.Path.resolve [] "d" = "/d" := by
    decide +kernel
  rw [hbase] at hnames' hfetch hsame
  have hnames : templateFiles files "/d" (some [".ini"]) = .ok names := by
    cbv
  obtain rfl : names = names' := Except.ok.inj (hnames.symm.trans hnames')
  have hsameExtensions : Option.Rel SameExtensions (some [".ini"]) (some [".INI", ".ini"]) :=
    .some fun e => by
      have hlower : [".INI", ".ini"].map Text.asciiLower = [".ini", ".ini"] := by
        decide +kernel
      have hlower' : [".ini"].map Text.asciiLower = [".ini"] := by
        decide +kernel
      simp [hlower, hlower']
  refine ⟨(hsame _ hsameExtensions).1, ?_⟩
  have hreturns : (l.fetchAll files).1.toOption.isSome = true := by
    cbv
  cases hloaded : (l.fetchAll files).1 with
  | error e =>
    rw [hloaded] at hreturns
    cases hreturns
  | ok loaded =>
    have hl : l.accepted = acceptedOf (some [".ini"]) := by
      decide +kernel
    exact ⟨loaded, rfl, (hfetch l rfl hl).1 loaded hloaded⟩

end GuardedText.Store
