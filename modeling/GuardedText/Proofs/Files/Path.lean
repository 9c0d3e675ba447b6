import GuardedText.Files.Path
import GuardedText.Proofs.Text.Lines

/-! Paths as the steps that they are written from. Names that can only be taken for one step down are
read back from a path that is made of them, and a path that is joined to such a name leads one step
further. -/

namespace GuardedText.Files.Path

/-- A text that stands between slashes in a path. -/
structure Step (step : String) : Prop where
  nonempty : step ≠ ""
  noSlash : '/' ∉ step.toList

/-- A text that can be the name of a node: a step that leads down. -/
structure Nameable (name : String) : Prop extends Step name where
  notHere : name ≠ "."
  notUp : name ≠ ".."

/-! ### Steps of texts -/

theorem steps_append_slash (s t : String) : steps (s ++ "/" ++ t) = steps s ++ steps t := by
  have hchars : (s ++ "/" ++ t).toList = s.toList ++ '/' :: t.toList := by
    simp
  rw [steps, Text.split, hchars, Text.splitFrom_append_separator, List.map_append,
    List.filter_append]
  rfl

theorem steps_of_step {step : String} (h : Step step) : steps step = [step] := by
  have hpieces : Text.split '/' step = [step] := by
    simp [Text.split, Text.splitFrom_of_not_mem h.noSlash]
  rw [steps, hpieces]
  simp [h.nonempty]

theorem steps_intercalate {loc : List String} (h : ∀ step ∈ loc, Step step) :
    steps ("/".intercalate loc) = loc := by
  induction loc with
  | nil => rfl
  | cons step loc ih =>
    obtain ⟨hstep, hloc⟩ := List.forall_mem_cons.mp h
    cases loc with
    | nil => simpa using steps_of_step hstep
    | cons next loc =>
      rw [String.intercalate_cons_cons, steps_append_slash, steps_of_step hstep, ih hloc]
      rfl

theorem steps_ofSteps {loc : List String} (h : ∀ step ∈ loc, Step step) :
    steps (ofSteps loc) = loc := by
  have hroot := steps_append_slash "" ("/".intercalate loc)
  rw [String.empty_append, steps_intercalate h] at hroot
  exact hroot

theorem step_of_mem_steps {path step : String} (h : step ∈ steps path) : Step step := by
  obtain ⟨hmem, hnonempty⟩ := List.mem_filter.mp h
  obtain ⟨piece, hpiece, rfl⟩ := List.mem_map.mp hmem
  refine ⟨fun hempty => ?_, ?_⟩
  · simp [hempty] at hnonempty
  · simpa using Text.not_mem_of_mem_splitFrom List.not_mem_nil hpiece

theorem not_mem_of_mem_steps {path step : String} {c : Char} (hpath : c ∉ path.toList)
    (h : step ∈ steps path) : c ∉ step.toList := by
  obtain ⟨piece, hpiece, rfl⟩ := List.mem_map.mp (List.mem_filter.mp h).1
  rw [String.toList_ofList]
  exact fun hc => hpath ((Text.mem_of_mem_splitFrom hpiece hc).resolve_left List.not_mem_nil)

/-- What is taken along a path are its steps, or a step in place. -/
theorem mem_walked {path step : String} (h : step ∈ walked path) :
    step ∈ steps path ∨ step = "." := by
  rw [walked] at h
  split at h
  · simpa using h
  · exact .inl h

/-! ### Locations -/

theorem mem_intercalate {loc : List String} {c : Char} (h : c ∈ ("/".intercalate loc).toList) :
    c = '/' ∨ ∃ name ∈ loc, c ∈ name.toList := by
  induction loc with
  | nil => simp at h
  | cons name loc ih =>
    by_cases hloc : loc = []
    · subst hloc
      exact .inr ⟨name, by simp, by simpa using h⟩
    · rw [String.intercalate_cons_of_ne_nil hloc, String.toList_append, String.toList_append,
        List.append_assoc, List.mem_append, List.mem_append] at h
      rcases h with hname | hslash | hrest
      · exact .inr ⟨name, by simp, hname⟩
      · exact .inl (by simpa using hslash)
      · exact (ih hrest).imp_right fun ⟨n, hn, hc⟩ => ⟨n, List.mem_cons_of_mem _ hn, hc⟩

theorem not_mem_ofSteps {loc : List String} {c : Char} (hslash : c ≠ '/')
    (h : ∀ name ∈ loc, c ∉ name.toList) : c ∉ (ofSteps loc).toList := by
  rw [ofSteps, String.toList_append, List.mem_append]
  rintro (hfirst | hrest)
  · exact hslash (by simpa using hfirst)
  · rcases mem_intercalate hrest with hc | ⟨name, hname, hc⟩
    · exact hslash hc
    · exact h name hname hc

theorem resolveStep_of_nameable {name : String} (h : Nameable name) (absolute : Bool)
    (done : List String) : resolveStep absolute done name = done ++ [name] := by
  rw [resolveStep, if_neg h.notHere, if_neg h.notUp]

/-- Steps that all lead down are resolved as they stand. -/
theorem resolveSteps_of_nameable {loc : List String} (h : ∀ name ∈ loc, Nameable name)
    (absolute : Bool) : resolveSteps absolute loc = loc := by
  have hfrom : ∀ done, loc.foldl (resolveStep absolute) done = done ++ loc := by
    induction loc with
    | nil => simp
    | cons name loc ih =>
      obtain ⟨hname, hloc⟩ := List.forall_mem_cons.mp h
      intro done
      rw [List.foldl_cons, resolveStep_of_nameable hname, ih hloc, List.append_assoc,
        List.singleton_append]
  exact hfrom []

theorem nameable_resolveStep {done : List String} {step : String}
    (hdone : ∀ name ∈ done, Nameable name) (hstep : Step step) :
    ∀ name ∈ resolveStep true done step, Nameable name := by
  rw [resolveStep]
  split
  · exact hdone
  · next hhere =>
    split
    · split
      · simp
      · next last hlast =>
        rw [if_neg (hdone last (List.mem_of_getLast? hlast)).notUp]
        exact fun name hname => hdone name (List.dropLast_subset done hname)
    · next hup =>
      intro name hname
      rcases List.mem_append.mp hname with hname | hname
      · exact hdone name hname
      · rw [List.mem_singleton.mp hname]
        exact ⟨hstep, hhere, hup⟩

/-- What is resolved from the root leads down only. -/
theorem nameable_resolveSteps {path : List String} (h : ∀ step ∈ path, Step step) :
    ∀ name ∈ resolveSteps true path, Nameable name := by
  have hfrom : ∀ done, (∀ name ∈ done, Nameable name) →
      ∀ name ∈ path.foldl (resolveStep true) done, Nameable name := by
    induction path with
    | nil => exact fun _ hdone => hdone
    | cons step path ih =>
      obtain ⟨hstep, hpath⟩ := List.forall_mem_cons.mp h
      exact fun done hdone => ih hpath _ (nameable_resolveStep hdone hstep)
  exact hfrom [] (by simp)

theorem nameable_stepsFromRoot {here : List String} (hhere : ∀ name ∈ here, Nameable name)
    (path : String) : ∀ name ∈ stepsFromRoot here path, Nameable name := by
  refine nameable_resolveSteps fun step hstep => ?_
  rcases List.mem_append.mp hstep with horigin | hstep
  · rw [origin] at horigin
    split at horigin
    · simp at horigin
    · exact (hhere step horigin).toStep
  · exact step_of_mem_steps hstep

theorem isAbsolute_ofSteps (loc : List String) : isAbsolute (ofSteps loc) = true := by
  simp [isAbsolute, ofSteps]

theorem origin_ofSteps (here loc : List String) : origin here (ofSteps loc) = [] := by
  rw [origin, isAbsolute_ofSteps]

theorem endsInSlash_append {name : String} (h : Step name) (s : String) :
    endsInSlash (s ++ name) = false := by
  have hne : name.toList ≠ [] := by
    simpa using h.nonempty
  have hlast : name.toList.getLast hne ≠ '/' := by
    intro hslash
    exact h.noSlash (hslash ▸ List.getLast_mem hne)
  rw [endsInSlash, String.toList_append, List.getLast?_append_of_ne_nil _ hne,
    List.getLast?_eq_some_getLast hne]
  simpa using hlast

theorem ofSteps_concat {loc : List String} (hne : loc ≠ []) (name : String) :
    ofSteps (loc ++ [name]) = ofSteps loc ++ "/" ++ name := by
  rw [ofSteps, String.intercalate_append_of_ne_nil hne (List.cons_ne_nil _ _),
    String.intercalate_singleton, ofSteps]
  simp only [String.append_assoc]

theorem endsInSlash_ofSteps {loc : List String} (hne : loc ≠ []) (h : ∀ step ∈ loc, Step step) :
    endsInSlash (ofSteps loc) = false := by
  obtain ⟨front, name, rfl⟩ := (List.eq_nil_or_concat' loc).resolve_left hne
  have hname := h name (by simp)
  by_cases hfront : front = []
  · subst hfront
    exact endsInSlash_append hname "/"
  · rw [ofSteps_concat hfront]
    exact endsInSlash_append hname _

/-- A path is walked along the location that it is made of. -/
theorem walked_ofSteps {loc : List String} (hne : loc ≠ []) (h : ∀ step ∈ loc, Step step) :
    walked (ofSteps loc) = loc := by
  rw [walked, endsInSlash_ofSteps hne h, steps_ofSteps h]

/-- A name that is joined to the path of a directory leads into that directory. -/
theorem join_ofSteps {loc : List String} (hloc : ∀ step ∈ loc, Nameable step) {name : String}
    (hname : Nameable name) : join [ofSteps loc, name] = ofSteps (loc ++ [name]) := by
  have hdirectory : ofSteps loc ≠ "" := by
    simp [ofSteps]
  have hparts : [ofSteps loc, name].filter (!·.isEmpty) = [ofSteps loc, name] := by
    simp [hdirectory, hname.nonempty]
  have hall : ∀ step ∈ loc ++ [name], Nameable step :=
    List.forall_mem_append.mpr ⟨hloc, List.forall_mem_singleton.mpr hname⟩
  have habsolute : isAbsolute (ofSteps loc ++ "/" ++ name) = true := by
    simp [isAbsolute, ofSteps]
  have hsteps : steps (ofSteps loc ++ "/" ++ name) = loc ++ [name] := by
    rw [steps_append_slash, steps_ofSteps fun step hstep => (hloc step hstep).toStep,
      steps_of_step hname.toStep]
  rw [join, hparts, String.intercalate_cons_cons, String.intercalate_singleton, normalize,
    habsolute, hsteps, resolveSteps_of_nameable hall, endsInSlash_append hname.toStep]
  cases hlast : loc ++ [name] with
  | nil => simp at hlast
  | cons => exact String.append_empty

end GuardedText.Files.Path
