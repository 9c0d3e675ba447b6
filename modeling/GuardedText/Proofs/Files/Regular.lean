import GuardedText.Proofs.Files.Path
import GuardedText.Proofs.Files.Tree

/-! Trees in which every node lies in a directory, under a name that a path can hold. There the path
of a location leads to the node at the location, unless it is too long for any path, and a directory
lists exactly the names of what lies in it. -/

namespace GuardedText.Files.Tree

/-- A name that a node can have. -/
structure Admissible (name : String) : Prop extends Path.Nameable name where
  noNull : Char.ofNat 0 ∉ name.toList
  short : name.utf8ByteSize ≤ longestName

structure Regular (t : Tree) : Prop where
  admissible : ∀ loc, t.lookup loc ≠ none → ∀ name ∈ loc, Admissible name
  inDirectory : ∀ loc name, t.lookup (loc ++ [name]) ≠ none → t.lookup loc = some .directory

/-- Each name in a directory leads to a node. -/
def NoneDangling (t : Tree) (directory : Location) : Prop :=
  ∀ name, t.lookup (directory ++ [name]) ≠ none →
    t.present [] (Path.join [Path.ofSteps directory, name]) = true

theorem Regular.nameable {t : Tree} {loc : Location} (h : t.Regular) (hloc : t.lookup loc ≠ none) :
    ∀ name ∈ loc, Path.Nameable name :=
  fun name hname => (h.admissible loc hloc name hname).toNameable

/-! ### The path of a location -/

theorem follow_of_nameable {name : String} (h : Path.Nameable name) (loc : Location) :
    follow loc name = loc ++ [name] := by
  rw [follow, if_neg h.notHere, if_neg h.notUp]

theorem foldl_follow_of_nameable {loc : Location} (h : ∀ name ∈ loc, Path.Nameable name)
    (start : Location) : loc.foldl follow start = start ++ loc := by
  induction loc generalizing start with
  | nil => simp
  | cons name loc ih =>
    obtain ⟨hname, hloc⟩ := List.forall_mem_cons.mp h
    rw [List.foldl_cons, follow_of_nameable hname, ih hloc, List.append_assoc,
      List.singleton_append]

theorem target_ofSteps {loc : Location} (h : ∀ name ∈ loc, Path.Nameable name)
    (here : Location) : target here (Path.ofSteps loc) = loc := by
  rw [target, Path.origin_ofSteps]
  by_cases hroot : loc = []
  · subst hroot
    decide +kernel
  · rw [Path.walked_ofSteps hroot fun name hname => (h name hname).toStep,
      foldl_follow_of_nameable h, List.nil_append]

theorem node?_eq_ok_iff {t : Tree} {here : Location} {path : String} {node : Node} :
    t.node? here path = .ok node ↔
      ∃ loc, t.locate here path = .ok loc ∧ t.lookup loc = some node := by
  rw [node?]
  cases t.locate here path with
  | error e => simp
  | ok loc => cases hnode : t.lookup loc <;> simp [hnode]

theorem locate_of_node? {t : Tree} {here loc : Location} {node : Node}
    (hloc : ∀ name ∈ loc, Path.Nameable name) (h : t.node? here (Path.ofSteps loc) = .ok node) :
    t.locate here (Path.ofSteps loc) = .ok loc := by
  obtain ⟨found, hlocate, -⟩ := node?_eq_ok_iff.mp h
  rw [hlocate, locate_eq_ok hlocate, target_ofSteps hloc]

/-- Whatever the path of a location leads to is at that location. -/
theorem lookup_of_node? {t : Tree} {here loc : Location} {node : Node}
    (hloc : ∀ name ∈ loc, Path.Nameable name) (h : t.node? here (Path.ofSteps loc) = .ok node) :
    t.lookup loc = some node := by
  obtain ⟨found, hlocate, hnode⟩ := node?_eq_ok_iff.mp h
  rwa [locate_eq_ok hlocate, target_ofSteps hloc] at hnode

theorem exists_node?_of_present {t : Tree} {here : Location} {path : String}
    (h : t.present here path = true) : ∃ node, t.node? here path = .ok node := by
  rw [present] at h
  cases hnode : t.node? here path with
  | error e =>
    rw [hnode] at h
    cases h
  | ok node => exact ⟨node, rfl⟩

theorem walk_concat {t : Tree} {start mid : Location} {steps : List String} {step : String}
    (h : t.walk start steps = .ok mid) (hmid : t.lookup mid = some .directory)
    (hshort : step.utf8ByteSize ≤ longestName) :
    t.walk start (steps ++ [step]) = .ok (follow mid step) := by
  induction steps generalizing start with
  | nil =>
    cases h
    rw [List.nil_append, walk, hmid]
    simp [hshort, walk]
  | cons first steps ih =>
    rw [walk] at h
    rw [List.cons_append, walk]
    split at h
    · cases h
    · cases h
    · next hdirectory =>
      split at h
      · next hfirst =>
        simp only [if_pos hfirst]
        exact ih h
      · cases h

/-- One can walk to each node. -/
theorem Regular.walk_eq_ok {t : Tree} (h : t.Regular) {loc : Location}
    (hloc : t.lookup loc ≠ none) : t.walk [] loc = .ok loc := by
  induction loc using List.reverseRecOn with
  | nil => rfl
  | append_singleton loc name ih =>
    have hdirectory := h.inDirectory loc name hloc
    have hname := h.admissible _ hloc name (by simp)
    rw [walk_concat (ih (by simp [hdirectory])) hdirectory hname.short,
      follow_of_nameable hname.toNameable]

theorem ofPath?_ofSteps {loc : Location} (h : ∀ name ∈ loc, Char.ofNat 0 ∉ name.toList)
    (hshort : (Path.ofSteps loc).utf8ByteSize ≤ longestPath) :
    Failure.ofPath? (Path.ofSteps loc) = none := by
  have hnull := Path.not_mem_ofSteps (by decide) h
  have hne : Path.ofSteps loc ≠ "" := by
    simp [Path.ofSteps]
  rw [Failure.ofPath?, if_neg hnull, if_neg hne, if_pos hshort]

theorem Regular.node?_ofSteps {t : Tree} (h : t.Regular) {loc : Location} {node : Node}
    (hloc : t.lookup loc = some node)
    (hshort : (Path.ofSteps loc).utf8ByteSize ≤ longestPath) (here : Location) :
    t.node? here (Path.ofSteps loc) = .ok node := by
  have hsome : t.lookup loc ≠ none := by simp [hloc]
  refine node?_eq_ok_iff.mpr ⟨loc, ?_, hloc⟩
  have hnull : ∀ name ∈ loc, Char.ofNat 0 ∉ name.toList :=
    fun name hname => (h.admissible loc hsome name hname).noNull
  rw [locate, ofPath?_ofSteps hnull hshort, Path.origin_ofSteps]
  by_cases hroot : loc = []
  · subst hroot
    rfl
  · rw [Path.walked_ofSteps hroot fun name hname => (h.nameable hsome name hname).toStep]
    exact h.walk_eq_ok hsome

theorem exists_mem_nodes_iff {t : Tree} {loc : Location} (h : loc ≠ []) :
    (∃ n ∈ t.nodes, n.1 = loc) ↔ t.lookup loc ≠ none := by
  rw [lookup, if_neg h, Ne, List.lookup_eq_none_iff]
  constructor
  · rintro ⟨n, hn, rfl⟩ hnone
    exact absurd (hnone n hn) (by simp)
  · intro hsome
    by_contra hnone
    exact hsome fun n hn => by
      have hne : n.1 ≠ loc := fun heq => hnone ⟨n, hn, heq⟩
      simpa using hne.symm

/-- Where no path is too long, no name is left dangling. -/
theorem Regular.noneDangling {t : Tree} (h : t.Regular)
    (hshort : ∀ n ∈ t.nodes, (Path.ofSteps n.1).utf8ByteSize ≤ longestPath)
    (directory : Location) : t.NoneDangling directory := by
  intro name hname
  obtain ⟨hdirectory, hlast⟩ := List.forall_mem_append.mp (h.nameable hname)
  obtain ⟨node, hnode⟩ := Option.ne_none_iff_exists'.mp hname
  obtain ⟨n, hn, hloc⟩ := (exists_mem_nodes_iff (by simp)).mpr hname
  rw [present, Path.join_ofSteps hdirectory (hlast name (by simp)),
    h.node?_ofSteps hnode (hloc ▸ hshort n hn)]
  rfl

/-! ### Directories -/

theorem childOf?_eq_some {directory loc : Location} {name : String} :
    childOf? directory loc = some name ↔ loc = directory ++ [name] := by
  rw [childOf?]
  constructor
  · intro h
    split at h
    · next hfront =>
      obtain ⟨front, rfl⟩ := List.getLast?_eq_some_iff.mp h
      rw [List.dropLast_concat, beq_iff_eq] at hfront
      rw [hfront]
    · cases h
  · rintro rfl
    simp

/-- A directory lists what lies in it, each name once. -/
theorem readDirectory_eq_ok {t : Tree} {here loc : Location} {path : String}
    (hlocate : t.locate here path = .ok loc) (hdirectory : t.lookup loc = some .directory) :
    ∃ names, t.readDirectory here path = .ok names ∧ names.Nodup ∧
      ∀ name, name ∈ names ↔ t.lookup (loc ++ [name]) ≠ none := by
  refine ⟨_, ?_, Text.nodup_distinct (t.nodes.filterMap fun n => childOf? loc n.1), fun name => ?_⟩
  · rw [readDirectory, hlocate]
    simp only [hdirectory]
  · rw [Text.mem_distinct, List.mem_filterMap, ← exists_mem_nodes_iff (by simp)]
    simp only [childOf?_eq_some]

/-! ### What operations leave -/

/-- A place where a node is or can be put. -/
def Free (t : Tree) (loc : Location) : Prop :=
  loc = [] ∨ ∃ directory name, loc = directory ++ [name] ∧
    t.lookup directory = some .directory ∧ Admissible name

theorem regular_empty : empty.Regular where
  admissible := fun loc hloc => by
    have hroot : loc = [] := by
      by_contra hne
      exact hloc (by simp [lookup, empty, hne])
    simp [hroot]
  inDirectory := fun loc name hloc => absurd (by simp [lookup, empty]) hloc

namespace Regular

variable {t t' : Tree} {here loc start : Location} {path : String}

theorem free_of_lookup (h : t.Regular) (hloc : t.lookup loc ≠ none) : t.Free loc := by
  rcases List.eq_nil_or_concat' loc with hroot | ⟨directory, name, rfl⟩
  · exact .inl hroot
  · exact .inr ⟨directory, name, rfl, h.inDirectory directory name hloc,
      h.admissible _ hloc name (by simp)⟩

/-- A file does not take the place of a directory, which would leave what lies there in none. -/
theorem put (h : t.Regular) (hfree : t.Free loc) (hne : loc ≠ []) {node : Node}
    (hkeep : t.lookup loc = some .directory → node = .directory) : (t.put loc node).Regular := by
  obtain ⟨directory, name, rfl, hdirectory, hname⟩ := hfree.resolve_left hne
  constructor
  · intro other hother
    rw [lookup_put t node hne] at hother
    split at hother
    · next heq =>
      rw [heq]
      refine List.forall_mem_append.mpr ⟨h.admissible directory (by simp [hdirectory]), ?_⟩
      exact List.forall_mem_singleton.mpr hname
    · exact h.admissible other hother
  · intro front last hother
    have hfront : t.lookup front = some .directory := by
      rw [lookup_put t node hne] at hother
      split at hother
      · next heq => rwa [(List.append_inj' heq rfl).1]
      · exact h.inDirectory front last hother
    rw [lookup_put t node hne]
    split
    · next heq => rw [hkeep (heq ▸ hfront)]
    · exact hfront

theorem free_follow (h : t.Regular) (hstart : t.lookup start = some .directory) {step : String}
    (hstep : Path.Step step) (hnull : Char.ofNat 0 ∉ step.toList)
    (hshort : step.utf8ByteSize ≤ longestName) : t.Free (follow start step) := by
  rw [follow]
  split
  · exact h.free_of_lookup (by simp [hstart])
  · next hhere =>
    split
    · rcases List.eq_nil_or_concat' start with rfl | ⟨directory, name, rfl⟩
      · exact .inl rfl
      · rw [List.dropLast_concat]
        have hdirectory := h.inDirectory directory name (by simp [hstart])
        exact h.free_of_lookup (by simp [hdirectory])
    · next hup => exact .inr ⟨start, step, rfl, hstart, ⟨⟨hstep, hhere, hup⟩, hnull, hshort⟩⟩

theorem free_of_walk (h : t.Regular) {steps : List String}
    (hsteps : ∀ step ∈ steps, Path.Step step ∧ Char.ofNat 0 ∉ step.toList) (hstart : t.Free start)
    (hwalk : t.walk start steps = .ok loc) : t.Free loc := by
  induction steps generalizing start with
  | nil =>
    cases hwalk
    exact hstart
  | cons step steps ih =>
    obtain ⟨⟨hstep, hnull⟩, hrest⟩ := List.forall_mem_cons.mp hsteps
    rw [walk] at hwalk
    split at hwalk
    · cases hwalk
    · cases hwalk
    · next hdirectory =>
      split at hwalk
      · next hshort => exact ih hrest (h.free_follow hdirectory hstep hnull hshort) hwalk
      · cases hwalk

end Regular

theorem lookup_origin {t : Tree} {here : Location} (h : t.lookup here = some .directory)
    (path : String) : t.lookup (Path.origin here path) = some .directory := by
  rw [Path.origin]
  split
  · rfl
  · exact h

theorem step_of_mem_walked {path : String} (h : Failure.ofPath? path = none) :
    ∀ step ∈ Path.walked path, Path.Step step ∧ Char.ofNat 0 ∉ step.toList := by
  have hnull : Char.ofNat 0 ∉ path.toList := by
    intro hmem
    rw [Failure.ofPath?, if_pos hmem] at h
    cases h
  intro step hstep
  rcases Path.mem_walked hstep with hmem | rfl
  · exact ⟨Path.step_of_mem_steps hmem, Path.not_mem_of_mem_steps hnull hmem⟩
  · exact ⟨⟨by decide, by decide⟩, by decide⟩

namespace Regular

variable {t t' : Tree} {here loc : Location} {path : String}

theorem free_of_locate (h : t.Regular) (hhere : t.lookup here = some .directory)
    (hlocate : t.locate here path = .ok loc) : t.Free loc := by
  have hpath := ofPath?_of_locate hlocate
  rw [locate, hpath] at hlocate
  have horigin := lookup_origin hhere path
  exact h.free_of_walk (step_of_mem_walked hpath) (h.free_of_lookup (by simp [horigin])) hlocate

/-- A file can be put wherever a path lets it be written. -/
theorem put_of_writable (h : t.Regular) (hhere : t.lookup here = some .directory)
    (hwritable : t.writable here path = .ok loc) (bytes : List UInt8) :
    (t.put loc (.file bytes)).Regular := by
  obtain ⟨-, hlocate, hnot⟩ := writable_eq_ok_iff.mp hwritable
  exact h.put (h.free_of_locate hhere hlocate) (writable_eq_ok hwritable).2
    fun hdirectory => absurd hdirectory hnot

theorem writeBytes (h : t.Regular) (hhere : t.lookup here = some .directory) {bytes : List UInt8}
    (hwrite : t.writeBytes here path bytes = .ok t') : t'.Regular := by
  obtain ⟨loc, hwritable, rfl⟩ := map_eq_ok hwrite
  exact h.put_of_writable hhere hwritable bytes

theorem appendText (h : t.Regular) (hhere : t.lookup here = some .directory) {text : String}
    (happend : t.appendText here path text = .ok t') : t'.Regular := by
  obtain ⟨loc, hwritable, rfl⟩ := map_eq_ok happend
  exact h.put_of_writable hhere hwritable _

theorem makeSteps (h : t.Regular) {start : Location} (hstart : t.lookup start = some .directory)
    {steps : List String}
    (hsteps : ∀ step ∈ steps, Path.Step step ∧ Char.ofNat 0 ∉ step.toList) :
    (t.makeSteps start steps).2.Regular := by
  -- Each step sets out from a directory, one that was there or that the step before it has made.
  induction steps generalizing t start with
  | nil => exact h
  | cons step steps ih =>
    obtain ⟨⟨hstep, hnull⟩, hrest⟩ := List.forall_mem_cons.mp hsteps
    rw [Tree.makeSteps]
    split
    · next hshort =>
      split
      · exact h
      · next hdirectory => exact ih h hdirectory hrest
      · next hnone =>
        have hne : follow start step ≠ [] := by
          intro hroot
          rw [hroot] at hnone
          cases hnone
        refine ih (h.put (h.free_follow hstart hstep hnull hshort) hne fun _ => rfl) ?_ hrest
        rw [lookup_put t _ hne, if_pos rfl]
    · exact h

theorem makeDirectories (h : t.Regular) (hhere : t.lookup here = some .directory) :
    (t.makeDirectories here path).2.Regular := by
  rw [Tree.makeDirectories]
  split
  · exact h
  · next hpath => exact h.makeSteps (lookup_origin hhere path) (step_of_mem_walked hpath)

/-- A directory stays where others are made. -/
theorem lookup_makeParent (hloc : t.lookup loc = some .directory) (here : Location)
    (path : String) : (t.makeParent here path).2.lookup loc = some .directory := by
  rw [Tree.makeParent]
  split
  · exact hloc
  · rcases mayAppear_makeSteps t [] (Path.stepsFromRoot here path).dropLast loc with
      hsame | ⟨-, hnone, -⟩
    · exact hsame.trans hloc
    · rw [hloc] at hnone
      cases hnone

theorem makeParent (h : t.Regular) (hhere : t.lookup here = some .directory) :
    (t.makeParent here path).2.Regular := by
  rw [Tree.makeParent]
  split
  · exact h
  · next hparent =>
    refine h.makeSteps rfl fun step hstep => ⟨?_, fun hnull => ?_⟩
    · exact (Path.nameable_stepsFromRoot (h.nameable (by simp [hhere])) path step
        (List.dropLast_subset _ hstep)).toStep
    · have hany : ((Path.stepsFromRoot here path).dropLast.any
          (·.toList.contains (Char.ofNat 0))) = true :=
        List.any_eq_true.mpr ⟨step, hstep, List.contains_iff_mem.mpr hnull⟩
      rw [Failure.ofLocation?, if_pos hany] at hparent
      cases hparent

theorem install (h : t.Regular) (hhere : t.lookup here = some .directory) {bytes : List UInt8} :
    (t.install here path bytes).2.Regular := by
  have hmade : (t.makeParent here path).2.Regular := h.makeParent hhere
  have hstays := lookup_makeParent hhere here path
  rw [Tree.install]
  generalize t.makeParent here path = made at hmade hstays
  obtain ⟨e | ⟨⟩, t₁⟩ := made
  · exact hmade
  · dsimp only
    cases hwrite : t₁.writeBytes here path bytes with
    | error e => exact hmade
    | ok t' => exact hmade.writeBytes hstays hwrite

end Regular

/-- What stands below a node goes no later than anything that the node goes no later than. -/
theorem goesNoLater_append {a b : Location} (h : goesNoLater a b = true) (c : Location) :
    goesNoLater (a ++ c) b = true := by
  induction b generalizing a with
  | nil => cases a <;> cases c <;> rfl
  | cons y b ih =>
    cases a with
    | nil => cases h
    | cons x a =>
      rw [List.cons_append, goesNoLater]
      rw [goesNoLater] at h
      split at h
      · next hxy => rw [if_pos hxy]; exact ih h
      · next hxy => rw [if_neg hxy]; exact h

/-- What lies in a directory that is taken out is taken out too. -/
theorem goes_below {loc place : Location} {trail : List Location}
    (h : (loc.isPrefixOf place && trail.all (goesNoLater place)) = true) (name : String) :
    (loc.isPrefixOf (place ++ [name]) && trail.all (goesNoLater (place ++ [name]))) = true := by
  rw [Bool.and_eq_true, List.isPrefixOf_iff_prefix, List.all_eq_true] at h ⊢
  obtain ⟨hinside, htrail⟩ := h
  exact ⟨hinside.trans (List.prefix_append place [name]),
    fun stop hstop => goesNoLater_append (htrail stop hstop) [name]⟩

theorem lookup_filter (t : Tree) (keeps : Location → Bool) {loc : Location} (hne : loc ≠ []) :
    (Tree.mk (t.nodes.filter fun n => keeps n.1)).lookup loc =
      if keeps loc = true then t.lookup loc else none := by
  simp only [lookup, if_neg hne]
  induction t.nodes with
  | nil => simp
  | cons n nodes ih =>
    obtain ⟨key, node⟩ := n
    rw [List.filter_cons]
    by_cases heq : loc = key
    · subst heq
      cases hkeeps : keeps loc with
      | true => simp
      | false => simpa [hkeeps] using ih
    · have hb : (loc == key) = false := beq_eq_false_iff_ne.mpr heq
      cases hkeeps : keeps key <;> simp [List.lookup_cons, hb, ih]

/-- What is left where nodes are taken out with all that lies below them. -/
theorem Regular.filter {t : Tree} (h : t.Regular) (keeps : Location → Bool)
    (hkeeps : ∀ loc name, keeps (loc ++ [name]) = true → keeps loc = true) :
    (Tree.mk (t.nodes.filter fun n => keeps n.1)).Regular := by
  have hold : ∀ loc, (Tree.mk (t.nodes.filter fun n => keeps n.1)).lookup loc ≠ none →
      t.lookup loc ≠ none := by
    intro loc hloc
    by_cases hroot : loc = []
    · simp [hroot, lookup]
    · rw [lookup_filter t keeps hroot] at hloc
      exact fun hnone => hloc (by simp [hnone])
  refine ⟨fun loc hloc => h.admissible loc (hold loc hloc), fun loc name hloc => ?_⟩
  have hdirectory := h.inDirectory loc name (hold _ hloc)
  by_cases hroot : loc = []
  · simp [hroot, lookup]
  · rw [lookup_filter t keeps (by simp)] at hloc
    rw [lookup_filter t keeps hroot, hdirectory, if_pos]
    exact hkeeps loc name (by_contra fun hgone => hloc (if_neg hgone))

theorem Regular.remove {t t' : Tree} {here : Location} {path : String} (h : t.Regular)
    (hremove : t.remove here path = .ok t') : t'.Regular := by
  rw [Tree.remove] at hremove
  split at hremove
  · cases hremove
  · next loc _ =>
    split at hremove
    · cases hremove
    · cases hremove
    · cases hremove
      let trail := (visited (Path.origin here path) (Path.steps path)).filter loc.isPrefixOf
      refine h.filter (fun place => !(loc.isPrefixOf place && trail.all (goesNoLater place))) ?_
      intro place name hkept
      rw [Bool.not_eq_true'] at hkept ⊢
      exact Bool.eq_false_iff.mpr fun hgone => Bool.eq_false_iff.mp hkept (goes_below hgone name)

/-! ### Runs of operations -/

/-- An operation on absolute paths. -/
inductive Operation where
  | write (path : String) (bytes : List UInt8)
  | append (path text : String)
  | makeDirectories (path : String)
  | install (path : String) (bytes : List UInt8)
  | remove (path : String)

/-- The tree that an operation leaves, whether or not it succeeds. -/
def after (t : Tree) : Operation → Tree
  | .write path bytes => (t.writeBytes [] path bytes).toOption.getD t
  | .append path text => (t.appendText [] path text).toOption.getD t
  | .makeDirectories path => (t.makeDirectories [] path).2
  | .install path bytes => (t.install [] path bytes).2
  | .remove path => (t.remove [] path).toOption.getD t

/-- The tree that operations leave, first to last. -/
def afterAll (t : Tree) (operations : List Operation) : Tree :=
  operations.foldl after t

theorem Regular.getD {t : Tree} (h : t.Regular) {result : Except Failure Tree}
    (hresult : ∀ t', result = .ok t' → t'.Regular) : (result.toOption.getD t).Regular := by
  cases result with
  | error e => exact h
  | ok t' => exact hresult t' rfl

theorem Regular.after {t : Tree} (h : t.Regular) (operation : Operation) :
    (t.after operation).Regular := by
  have hroot : t.lookup [] = some .directory := rfl
  cases operation with
  | write path bytes => exact h.getD fun t' hwrite => h.writeBytes hroot hwrite
  | append path text => exact h.getD fun t' happend => h.appendText hroot happend
  | makeDirectories path => exact h.makeDirectories hroot
  | install path bytes => exact h.install hroot
  | remove path => exact h.getD fun t' hremove => h.remove hremove

/-- Operations keep a tree regular. -/
theorem Regular.afterAll {t : Tree} (h : t.Regular) (operations : List Operation) :
    (t.afterAll operations).Regular := by
  induction operations generalizing t with
  | nil => exact h
  | cons operation operations ih => exact ih (h.after operation)

end GuardedText.Files.Tree
