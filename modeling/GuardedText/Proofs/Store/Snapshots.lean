import GuardedText.Proofs.Store.Fetch
import Mathlib

/-! A store over a whole run of calls, each made with what the files answer at the time. Since the
store was last told to forget, the first template that it made of a file is the one that it answers,
whatever has become of the file. Until there is one, it answers what the file compiles to now. -/

namespace GuardedText.Store

/-- A call on a store and the files that it finds. -/
inductive Call where
  | fetch (files : Files.View) (name : String)
  | fetchAll (files : Files.View)
  | forget

/-- The store that a call leaves. -/
def after (l : Store) : Call → Store
  | .fetch files name => (l.fetch files name).2
  | .fetchAll files => (l.fetchAll files).2
  | .forget => l.forget

/-- The store that calls leave, first to last. -/
def afterAll (l : Store) (calls : List Call) : Store :=
  calls.foldl after l

/-- The templates of files that are fetched in turn, up to the first that fails. -/
def fetchedInTurn (l : Store) (files : Files.View) : List String → List (String × Loaded)
  | [] => []
  | name :: rest =>
    match (l.fetch files name).1 with
    | .error _ => []
    | .ok found => (name, found) :: fetchedInTurn (l.fetch files name).2 files rest

/-- The templates that a call fetches, one by one, be it that it fails in the end. -/
def fetchedBy (l : Store) : Call → List (String × Loaded)
  | .fetch files name => l.fetchedInTurn files [name]
  | .fetchAll files =>
    match fileNames files l.base l.accepted with
    | .error _ => []
    | .ok names => l.fetchedInTurn files names
  | .forget => []

/-- What was fetched since the store was last told to forget, `past` before the first call. -/
def fetchedSince (l : Store) (past : List (String × Loaded)) : List Call → List (String × Loaded)
  | [] => past
  | .forget :: rest => fetchedSince l.forget [] rest
  | call :: rest => fetchedSince (l.after call) (past ++ l.fetchedBy call) rest

/-! ### What each fetch preserves -/

theorem fetchEach_singleton_snd (l : Store) (files : Files.View) (name : String) :
    (l.fetchEach files [name]).2 = (l.fetch files name).2 := by
  cases hfetch : (l.fetch files name).1 with
  | error e => rw [fetchEach_cons_of_error hfetch, fetch_snd_of_error hfetch]
  | ok found =>
    rw [fetchEach_cons_of_ok hfetch]
    rfl

/-- What holds of a store and the templates fetched so far holds with one more of them. -/
def Survives (R : Store → List (String × Loaded) → Prop) : Prop :=
  ∀ {l : Store} {past files name found}, R l past → (l.fetch files name).1 = .ok found →
    R (l.fetch files name).2 (past ++ [(name, found)])

namespace Survives

variable {R : Store → List (String × Loaded) → Prop} {l : Store} {past : List (String × Loaded)}

theorem fetchEach (hR : Survives R) (h : R l past) (files : Files.View) (names : List String) :
    R (l.fetchEach files names).2 (past ++ l.fetchedInTurn files names) := by
  induction names generalizing l past with
  | nil => simpa [Store.fetchEach, fetchedInTurn] using h
  | cons name names ih =>
    rw [fetchedInTurn]
    cases hfetch : (l.fetch files name).1 with
    | error e =>
      rw [fetchEach_cons_of_error hfetch]
      simpa using h
    | ok found =>
      have hnext := ih (hR h hfetch)
      rw [fetchEach_cons_of_ok hfetch]
      rwa [List.append_assoc] at hnext

theorem after (hR : Survives R) (h : R l past) {call : Call} (hcall : call ≠ .forget) :
    R (l.after call) (past ++ l.fetchedBy call) := by
  cases call with
  | fetch files name =>
    rw [Store.after, fetchedBy, ← fetchEach_singleton_snd]
    exact hR.fetchEach h files [name]
  | fetchAll files =>
    rw [Store.after, fetchedBy, fetchAll]
    cases fileNames files l.base l.accepted with
    | error f => simpa using h
    | ok names => exact hR.fetchEach h files names
  | forget => exact absurd rfl hcall

/-- Over a run, what survives each fetch has to survive forgetting only where a call forgets. -/
theorem afterAll (hR : Survives R) {calls : List Call}
    (hforget : .forget ∈ calls → ∀ l : Store, R l.forget []) (h : R l past) :
    R (l.afterAll calls) (l.fetchedSince past calls) := by
  induction calls generalizing l past with
  | nil => exact h
  | cons call calls ih =>
    have hrest : .forget ∈ calls → ∀ l : Store, R l.forget [] :=
      fun hmem => hforget (List.mem_cons_of_mem call hmem)
    cases call with
    | forget => exact ih hrest (hforget List.mem_cons_self l)
    | fetch | fetchAll => exact ih hrest (hR.after h (by simp))

end Survives

/-! ### What is kept is what was fetched -/

/-- The store keeps exactly the templates that were fetched. -/
def Remembers (l : Store) (past : List (String × Loaded)) : Prop :=
  ∀ name found, (name, found) ∈ past ↔ l.kept name = some found

theorem Remembers.of_cache_eq_nil {l : Store} (h : l.cache = []) : Remembers l [] := by
  intro name found
  simp [kept, h]

theorem Remembers.again {l : Store} {past : List (String × Loaded)} (h : Remembers l past)
    {p : String × Loaded} (hp : p ∈ past) : Remembers l (past ++ [p]) := by
  intro name found
  rw [← h name found, List.mem_append, List.mem_singleton]
  refine ⟨fun hmem => hmem.elim id ?_, .inl⟩
  rintro rfl
  exact hp

theorem Remembers.keep {l : Store} {past : List (String × Loaded)} (h : Remembers l past)
    {name : String} (hnew : l.kept name = none) (t : Template) :
    Remembers (l.keep name t) (past ++ [(name, ⟨t, l.compiled⟩)]) := by
  intro n found
  rw [List.mem_append, List.mem_singleton, Prod.mk.injEq, h n found, kept_keep]
  by_cases hn : n = name
  · subst hn
    simp [hnew, eq_comm (a := found)]
  · simp [hn]

theorem Remembers.survives : Survives Remembers := by
  intro l past files name found h hfetch
  have hfetched := l.fetched files name
  generalize l.fetch files name = r at hfetch hfetched
  cases hfetched with
  | kept hkept =>
    cases hfetch
    exact h.again ((h name found).mpr hkept)
  | compiled hnew =>
    cases hfetch
    exact h.keep hnew _
  | failed => cases hfetch

theorem Remembers.afterAll {l : Store} {past : List (String × Loaded)} (h : Remembers l past)
    (calls : List Call) : Remembers (l.afterAll calls) (l.fetchedSince past calls) :=
  survives.afterAll (fun _ _ => .of_cache_eq_nil rfl) h

/-! ### What calls leave alone -/

theorem fetchEach_grown (l : Store) (files : Files.View) (names : List String) :
    ∃ done, Grown l files done (l.fetchEach files names).2 := by
  induction names generalizing l with
  | nil => exact ⟨[], .refl l files⟩
  | cons name names ih =>
    cases hfetch : (l.fetch files name).1 with
    | error e =>
      rw [fetchEach_cons_of_error hfetch]
      exact ⟨[], .refl l files⟩
    | ok found =>
      obtain ⟨done, hgrown⟩ := ih (l.fetch files name).2
      rw [fetchEach_cons_of_ok hfetch]
      exact ⟨_, (Grown.of_fetch hfetch).trans hgrown⟩

theorem settings_fetchEach (l : Store) (files : Files.View) (names : List String) :
    (l.fetchEach files names).2.base = l.base ∧
      (l.fetchEach files names).2.directivePrefix = l.directivePrefix ∧
      (l.fetchEach files names).2.accepted = l.accepted := by
  obtain ⟨done, hgrown⟩ := l.fetchEach_grown files names
  exact ⟨hgrown.base, hgrown.directivePrefix, hgrown.accepted⟩

/-- No call changes where a store looks for files and under which prefix it compiles them. -/
theorem settings_after (l : Store) (call : Call) :
    (l.after call).base = l.base ∧ (l.after call).directivePrefix = l.directivePrefix ∧
      (l.after call).accepted = l.accepted := by
  cases call with
  | fetch files name =>
    rw [after, ← fetchEach_singleton_snd]
    exact l.settings_fetchEach files [name]
  | fetchAll files =>
    rw [after, fetchAll]
    cases fileNames files l.base l.accepted with
    | error f => exact ⟨rfl, rfl, rfl⟩
    | ok names => exact l.settings_fetchEach files names
  | forget => exact ⟨rfl, rfl, rfl⟩

theorem settings_afterAll (l : Store) (calls : List Call) :
    (l.afterAll calls).base = l.base ∧ (l.afterAll calls).directivePrefix = l.directivePrefix ∧
      (l.afterAll calls).accepted = l.accepted := by
  induction calls generalizing l with
  | nil => exact ⟨rfl, rfl, rfl⟩
  | cons call calls ih =>
    obtain ⟨hbase, hprefix, haccepted⟩ := l.settings_after call
    obtain ⟨hbase', hprefix', haccepted'⟩ := ih (l.after call)
    exact ⟨hbase'.trans hbase, hprefix'.trans hprefix, haccepted'.trans haccepted⟩

/-! ### Listings -/

theorem filesAmong_eq_error_iff {files : Files.View} {directory : String}
    {accepted : Option (List String)} {names : List String} {f : Files.Failure} :
    filesAmong files directory accepted names = .error f ↔
      ∃ before name after, names = before ++ name :: after ∧
        (∀ n ∈ before, ∃ isFile, files.isFile (Files.Path.join [directory, n]) = .ok isFile) ∧
        files.isFile (Files.Path.join [directory, name]) = .error f := by
  induction names with
  | nil => simp [filesAmong]
  | cons first names ih =>
    rw [filesAmong]
    cases hfirst : files.isFile (Files.Path.join [directory, first]) with
    | error e =>
      constructor
      · intro h
        cases h
        exact ⟨[], first, names, rfl, by simp, hfirst⟩
      · rintro ⟨before, name, after, hnames, hbefore, hname⟩
        rcases before with _ | ⟨n, before⟩
        · cases hnames
          cases hfirst.symm.trans hname
          rfl
        · cases hnames
          obtain ⟨isFile, hfile⟩ := hbefore first List.mem_cons_self
          cases hfirst.symm.trans hfile
    | ok isFile =>
      dsimp only
      rw [map_eq_error_iff, ih]
      constructor
      · rintro ⟨before, name, after, rfl, hbefore, hname⟩
        refine ⟨first :: before, name, after, rfl, ?_, hname⟩
        exact List.forall_mem_cons.mpr ⟨⟨isFile, hfirst⟩, hbefore⟩
      · rintro ⟨before, name, after, hnames, hbefore, hname⟩
        rcases before with _ | ⟨n, before⟩
        · cases hnames
          cases hfirst.symm.trans hname
        · cases hnames
          exact ⟨before, name, after, rfl, (List.forall_mem_cons.mp hbefore).2, hname⟩

theorem fetchAll_of_listed {l : Store} {files : Files.View} {names : List String}
    (h : fileNames files l.base l.accepted = .ok names) :
    l.fetchAll files = l.fetchEach files names := by
  rw [fetchAll, h]

theorem fetchAll_of_unlisted {l : Store} {files : Files.View} {f : Files.Failure}
    (h : fileNames files l.base l.accepted = .error f) :
    l.fetchAll files = (.error (.files f), l) := by
  rw [fetchAll, h]

/-! ### Snapshots -/

theorem of_ofDirectory {files : Files.View} {base : String} {directivePrefix : Value}
    {extensions : Option (List String)} {l : Store}
    (h : ofDirectory files base directivePrefix extensions = .ok l) :
    l.base = base ∧ l.directivePrefix = directivePrefix ∧ l.accepted = acceptedOf extensions ∧
      l.cache = [] := by
  rw [ofDirectory] at h
  split at h
  · cases h
    exact ⟨rfl, rfl, rfl, rfl⟩
  · cases h

end GuardedText.Store
