import GuardedText.Proofs.Store.Snapshots
import Mathlib

/-! How often a store compiles. From one time that it is told to forget to the next it compiles once
for each name that it fetches a file under, and numbers its templates in that order, so one name
always gives one template. Two names are two templates, also where they lead to one file; these are
alike as long as the file is, and else each is what the file was when its name was first fetched. -/

namespace GuardedText.Store

/-- The files that a call finds, if it looks for any. -/
def Call.files? : Call → Option Files.View
  | .fetch files _ | .fetchAll files => some files
  | .forget => none

/-- The files that the first call found that fetched a file under the name. -/
def firstFound (l : Store) (name : String) : List Call → Option Files.View
  | [] => none
  | call :: rest =>
    if name ∈ (l.fetchedBy call).map Prod.fst then call.files?
    else firstFound (l.after call) name rest

/-! ### One number for each name -/

theorem Remembers.eq_of_mem {l : Store} {past : List (String × Loaded)} (h : Remembers l past)
    {name : String} {found found' : Loaded} (hmem : (name, found) ∈ past)
    (hmem' : (name, found') ∈ past) : found = found' := by
  have hkept := (h name found).mp hmem
  rw [(h name found').mp hmem'] at hkept
  exact (Option.some.inj hkept).symm

/-- A store that had compiled `start` templates and has fetched those in `past` since: these have
numbers below that of the next, different names have different numbers, and there is one for each
name. -/
structure Numbered (start : ℕ) (l : Store) (past : List (String × Loaded)) : Prop where
  remembers : Remembers l past
  below : ∀ p ∈ past, p.2.serial < l.compiled
  apart : ∀ p ∈ past, ∀ q ∈ past, p.2.serial = q.2.serial → p.1 = q.1
  count : l.compiled = start + (past.map Prod.fst).toFinset.card

namespace Numbered

theorem of_cache_eq_nil {l : Store} (h : l.cache = []) : Numbered l.compiled l [] :=
  ⟨.of_cache_eq_nil h, by simp, by simp, by simp⟩

section Fetch

variable {start : ℕ} {l : Store} {past : List (String × Loaded)}

theorem again (h : Numbered start l past) {p : String × Loaded} (hp : p ∈ past) :
    Numbered start l (past ++ [p]) := by
  have hold : ∀ q ∈ past ++ [p], q ∈ past := by
    intro q hq
    rcases List.mem_append.mp hq with hq | hq
    · exact hq
    · rw [List.mem_singleton.mp hq]
      exact hp
  refine ⟨h.remembers.again hp, fun q hq => h.below q (hold q hq),
    fun q hq r hr => h.apart q (hold q hq) r (hold r hr), ?_⟩
  have hname : p.1 ∈ past.map Prod.fst := List.mem_map_of_mem hp
  rw [h.count, List.map_append, List.toFinset_append]
  simp [hname]

theorem keep (h : Numbered start l past) {name : String} (hnew : l.kept name = none)
    (t : Template) : Numbered start (l.keep name t) (past ++ [(name, ⟨t, l.compiled⟩)]) := by
  have hname : name ∉ past.map Prod.fst := by
    intro hname
    obtain ⟨p, hp, rfl⟩ := List.mem_map.mp hname
    rw [(h.remembers p.1 p.2).mp hp] at hnew
    cases hnew
  have hbelow : ∀ p ∈ past, p.2.serial ≠ l.compiled := fun p hp => Nat.ne_of_lt (h.below p hp)
  refine ⟨h.remembers.keep hnew t, fun p hp => ?_, fun p hp q hq hserial => ?_, ?_⟩
  · rcases List.mem_append.mp hp with hp | hp
    · exact Nat.lt_succ_of_lt (h.below p hp)
    · rw [List.mem_singleton.mp hp]
      exact Nat.lt_succ_self _
  · rcases List.mem_append.mp hp with hp | hp <;> rcases List.mem_append.mp hq with hq | hq
    · exact h.apart p hp q hq hserial
    · rw [List.mem_singleton.mp hq] at hserial
      exact absurd hserial (hbelow p hp)
    · rw [List.mem_singleton.mp hp] at hserial
      exact absurd hserial.symm (hbelow q hq)
    · rw [List.mem_singleton.mp hp, List.mem_singleton.mp hq]
  · have hone : (past.map Prod.fst ++ [name]).toFinset =
        insert name (past.map Prod.fst).toFinset := by
      ext n
      simp
    rw [List.map_append, List.map_singleton, hone,
      Finset.card_insert_of_notMem (mt List.mem_toFinset.mp hname), ← Nat.add_assoc, ← h.count]
    rfl

end Fetch

theorem survives (start : ℕ) : Survives (Numbered start) := by
  intro l past files name found h hfetch
  have hfetched := l.fetched files name
  generalize l.fetch files name = r at hfetch hfetched
  cases hfetched with
  | kept hkept =>
    cases hfetch
    exact h.again ((h.remembers name found).mpr hkept)
  | compiled hnew =>
    cases hfetch
    exact h.keep hnew _
  | failed => cases hfetch

theorem snd_eq_iff {start : ℕ} {l : Store} {past : List (String × Loaded)}
    (h : Numbered start l past) {p q : String × Loaded} (hp : p ∈ past) (hq : q ∈ past) :
    p.2 = q.2 ↔ p.1 = q.1 := by
  constructor
  · intro heq
    exact h.apart p hp q hq (congrArg Loaded.serial heq)
  · intro hname
    obtain ⟨name, found⟩ := p
    cases hname
    exact h.remembers.eq_of_mem hp hq

end Numbered

/-! ### What each template was compiled from -/

theorem answer_of_mem_fetchedInTurn {l : Store} {files : Files.View} {names : List String}
    {name : String} {found : Loaded} (h : (name, found) ∈ l.fetchedInTurn files names) :
    l.answer files name = .ok found.template := by
  induction names generalizing l with
  | nil => cases h
  | cons n names ih =>
    rw [fetchedInTurn] at h
    cases hfetch : (l.fetch files n).1 with
    | error e =>
      rw [hfetch] at h
      cases h
    | ok first =>
      rw [hfetch] at h
      rcases List.mem_cons.mp h with hfirst | hrest
      · cases hfirst
        rw [answer, hfetch]
        rfl
      · rw [← (Grown.of_fetch hfetch).answer_eq name]
        exact ih hrest

theorem answer_of_mem_fetchedBy {l : Store} {call : Call} {name : String} {found : Loaded}
    (h : (name, found) ∈ l.fetchedBy call) :
    ∃ files, call.files? = some files ∧ l.answer files name = .ok found.template := by
  cases call with
  | fetch files n => exact ⟨files, rfl, answer_of_mem_fetchedInTurn h⟩
  | fetchAll files =>
    rw [fetchedBy] at h
    cases hnames : fileNames files l.base l.accepted with
    | error f =>
      rw [hnames] at h
      cases h
    | ok names =>
      rw [hnames] at h
      exact ⟨files, rfl, answer_of_mem_fetchedInTurn h⟩
  | forget => cases h

theorem fetchedSince_cons (l : Store) (past : List (String × Loaded)) {call : Call}
    (hcall : call ≠ .forget) (calls : List Call) :
    l.fetchedSince past (call :: calls) =
      (l.after call).fetchedSince (past ++ l.fetchedBy call) calls := by
  cases call with
  | forget => exact absurd rfl hcall
  | fetch | fetchAll => rfl

theorem mem_fetchedSince {l : Store} {past : List (String × Loaded)} {calls : List Call}
    (hcalls : .forget ∉ calls) {p : String × Loaded} (hp : p ∈ past) :
    p ∈ l.fetchedSince past calls := by
  induction calls generalizing l past with
  | nil => exact hp
  | cons call calls ih =>
    obtain ⟨hcall, hrest⟩ := not_or.mp (mt List.mem_cons.mpr hcalls)
    rw [fetchedSince_cons l past (Ne.symm hcall)]
    exact ih hrest (List.mem_append_left _ hp)

/-- A template that was not there before is what its file compiled to when it was first fetched. -/
theorem Remembers.exists_firstFound {l : Store} {past : List (String × Loaded)}
    (h : Remembers l past) {calls : List Call} (hcalls : .forget ∉ calls) {name : String}
    (hnew : l.kept name = none) {found : Loaded}
    (hmem : (name, found) ∈ l.fetchedSince past calls) :
    ∃ files, l.firstFound name calls = some files ∧
      compileNow l.base l.directivePrefix files name = .ok found.template := by
  induction calls generalizing l past with
  | nil =>
    rw [(h name found).mp hmem] at hnew
    cases hnew
  | cons call calls ih =>
    obtain ⟨hcall, hrest⟩ := not_or.mp (mt List.mem_cons.mpr hcalls)
    rw [fetchedSince_cons l past (Ne.symm hcall)] at hmem
    have hafter : Remembers (l.after call) (past ++ l.fetchedBy call) :=
      survives.after h (Ne.symm hcall)
    rw [firstFound]
    split
    · next hname =>
      obtain ⟨⟨n, first⟩, hfirst, rfl⟩ := List.mem_map.mp hname
      obtain rfl : found = first := (hafter.afterAll calls).eq_of_mem hmem
        (mem_fetchedSince hrest (List.mem_append_right _ hfirst))
      obtain ⟨files, hfiles, hanswer⟩ := answer_of_mem_fetchedBy hfirst
      exact ⟨files, hfiles, (answer_of_not_kept hnew files).symm.trans hanswer⟩
    · next hname =>
      have hstill : (l.after call).kept name = none := by
        refine Option.eq_none_iff_forall_ne_some.mpr fun first hfirst => ?_
        rcases List.mem_append.mp ((hafter name first).mpr hfirst) with hpast | hcalled
        · rw [(h name first).mp hpast] at hnew
          cases hnew
        · exact hname (List.mem_map_of_mem (f := Prod.fst) hcalled)
      obtain ⟨hbase, hprefix, -⟩ := l.settings_after call
      have hfirst := ih hafter hrest hstill hmem
      rwa [hbase, hprefix] at hfirst

/-- A file compiles to the same under each of its names, and whatever other files there are. -/
theorem compileNow_congr {base name name' : String} {files files' : Files.View}
    (hpath : Files.Path.join [base, name] = Files.Path.join [base, name'])
    (hfind : find files (Files.Path.join [base, name]) =
      find files' (Files.Path.join [base, name])) (directivePrefix : Value) :
    compileNow base directivePrefix files name = compileNow base directivePrefix files' name' := by
  rw [compileNow, compileNow, ← hpath, hfind]

/-! ### Periods -/

theorem cache_afterAll_eq_nil {l : Store} (h : l.cache = []) {calls : List Call}
    (hcalls : ∀ call ∈ calls.getLast?, call = .forget) : (l.afterAll calls).cache = [] := by
  rcases List.eq_nil_or_concat' calls with rfl | ⟨earlier, call, rfl⟩
  · exact h
  · rw [hcalls call (by simp), afterAll, List.foldl_append]
    rfl

/-- From the start, or from the last time that a store was told to forget, whatever becomes of the
files: two fetches give one template just if they name the file alike, and its number is then the
same and is otherwise not. A template is what its file compiled to for the first call that fetched
it under that name, so templates of one file under two names are alike if the file was the same at
these two times. And the store compiles as often as there are names. -/
theorem compiled_once_per_name {files₀ : Files.View} {base : String} {directivePrefix : Value}
    {extensions : Option (List String)} {l₀ : Store}
    (h : ofDirectory files₀ base directivePrefix extensions = .ok l₀) {earlier period : List Call}
    (hearlier : ∀ call ∈ earlier.getLast?, call = .forget) (hperiod : .forget ∉ period) :
    let l := l₀.afterAll earlier
    let past := l.fetchedSince [] period
    (∀ p ∈ past, ∀ q ∈ past,
      (p.2 = q.2 ↔ p.1 = q.1) ∧ (p.2.serial = q.2.serial ↔ p.1 = q.1)) ∧
    (∀ p ∈ past, ∃ files, l.firstFound p.1 period = some files ∧
      compileNow base directivePrefix files p.1 = .ok p.2.template) ∧
    (∀ p ∈ past, ∀ q ∈ past, ∀ files files',
      l.firstFound p.1 period = some files → l.firstFound q.1 period = some files' →
      Files.Path.join [base, p.1] = Files.Path.join [base, q.1] →
      find files (Files.Path.join [base, p.1]) = find files' (Files.Path.join [base, p.1]) →
      p.2.template = q.2.template) ∧
    (l.afterAll period).compiled = l.compiled + (past.map Prod.fst).toFinset.card := by
  intro l past
  obtain ⟨hbase₀, hprefix₀, -, hcache₀⟩ := of_ofDirectory h
  obtain ⟨hbase, hprefix, -⟩ := l₀.settings_afterAll earlier
  have hcache : l.cache = [] := cache_afterAll_eq_nil hcache₀ hearlier
  have hnumbered : Numbered l.compiled (l.afterAll period) past :=
    Survives.afterAll (Numbered.survives l.compiled) (fun hforget => absurd hforget hperiod)
      (.of_cache_eq_nil hcache)
  have hfirst : ∀ p ∈ past, ∃ files, l.firstFound p.1 period = some files ∧
      compileNow base directivePrefix files p.1 = .ok p.2.template := by
    intro p hp
    have hnew : l.kept p.1 = none := by
      rw [kept, hcache]
      rfl
    have hfound := (Remembers.of_cache_eq_nil hcache).exists_firstFound hperiod hnew hp
    rwa [hbase, hbase₀, hprefix, hprefix₀] at hfound
  refine ⟨fun p hp q hq => ⟨hnumbered.snd_eq_iff hp hq, ?_⟩, hfirst,
    fun p hp q hq files files' hfiles hfiles' hpath hfind => ?_, hnumbered.count⟩
  · exact ⟨hnumbered.apart p hp q hq,
      fun hname => congrArg Loaded.serial ((hnumbered.snd_eq_iff hp hq).mpr hname)⟩
  · obtain ⟨_, hp₁, hp₂⟩ := hfirst p hp
    obtain ⟨_, hq₁, hq₂⟩ := hfirst q hq
    cases hfiles.symm.trans hp₁
    cases hfiles'.symm.trans hq₁
    rw [compileNow_congr hpath hfind, hq₂] at hp₂
    exact (Except.ok.inj hp₂).symm

/-- After forgetting, a file under its name, changed and then under two longer spellings of its path
and among all files: three names, of which the first keeps what the file was. -/
theorem compiled_once_per_name_spellings :
    let files : Files.Tree := ⟨[(["d"], .directory), (["d", "a"], .file [0x78])]⟩
    let later : Files.Tree := files.put ["d", "a"] (.file [0x79])
    let l₀ : Store := ⟨"/d", .undefined, none, [], 0⟩
    let l : Store := l₀.afterAll [.fetch files "a", .forget]
    let period : List Call :=
      [.fetch files "a", .fetch later "./a", .fetchAll later, .fetch later "e/..//a"]
    let past := l.fetchedSince [] period
    past.map Prod.fst = ["a", "./a", "a", "e/..//a"] ∧
    (∀ found, ("a", found) ∈ past → found = ⟨⟨[.text "x\n"]⟩, 1⟩) ∧
    (∀ found found', ("./a", found) ∈ past → ("e/..//a", found') ∈ past →
      found.template = found'.template ∧ found.serial ≠ found'.serial) ∧
    (l.afterAll period).compiled = 4 := by
  intro files later l₀ l period past
  have hstore : ofDirectory files "/d" .undefined none = .ok l₀ := by
    rfl
  have hl : l₀.afterAll [.fetch files "a", .forget] = ⟨"/d", .undefined, none, [], 1⟩ := by
    cbv
  have hpast : past = [("a", ⟨⟨[.text "x\n"]⟩, 1⟩), ("./a", ⟨⟨[.text "y\n"]⟩, 2⟩),
      ("a", ⟨⟨[.text "x\n"]⟩, 1⟩), ("e/..//a", ⟨⟨[.text "y\n"]⟩, 3⟩)] := by
    show (l₀.afterAll [.fetch files "a", .forget]).fetchedSince [] [.fetch files "a",
      .fetch later "./a", .fetchAll later, .fetch later "e/..//a"] = _
    rw [hl]
    cbv
  have hnames : past.map Prod.fst = ["a", "./a", "a", "e/..//a"] := by
    rw [hpast]
    rfl
  have hfound : l.firstFound "./a" period = some later.view ∧
      l.firstFound "e/..//a" period = some later.view := by
    show (l₀.afterAll [.fetch files "a", .forget]).firstFound "./a" [.fetch files "a",
      .fetch later "./a", .fetchAll later, .fetch later "e/..//a"] = some later.view ∧
      (l₀.afterAll [.fetch files "a", .forget]).firstFound "e/..//a" [.fetch files "a",
      .fetch later "./a", .fetchAll later, .fetch later "e/..//a"] = some later.view
    rw [hl]
    cbv
  have hearlier : ∀ call ∈ [Call.fetch files "a", .forget].getLast?, call = .forget := by
    simp
  have hperiod : .forget ∉ period := by
    simp [period]
  obtain ⟨hsame, -, halike, hcount⟩ := compiled_once_per_name hstore hearlier hperiod
  refine ⟨hnames, fun found hmem => ?_, fun found found' hmem hmem' => ⟨?_, fun hserial => ?_⟩, ?_⟩
  · have hfirst : ("a", ⟨⟨[.text "x\n"]⟩, 1⟩) ∈ past := by
      simp [hpast]
    exact (hsame _ hmem _ hfirst).1.mpr rfl
  · exact halike _ hmem _ hmem' later later hfound.1 hfound.2 (by cbv) rfl
  · have hne : "./a" ≠ "e/..//a" := by
      decide
    exact hne ((hsame _ hmem _ hmem').2.mp hserial)
  · have hstart : l.compiled = 1 := congrArg Store.compiled hl
    have hcard : (past.map Prod.fst).toFinset.card = 3 := by
      rw [hnames]
      decide
    exact hcount.trans (congrArg₂ (· + ·) hstart hcard)

/-- A file that changes between two fetches that name it in two ways gives two templates. -/
theorem not_compiled_once_per_file :
    ¬ ∀ (files₀ : Files.Tree) (base : String) (directivePrefix : Value)
      (extensions : Option (List String)) (l₀ : Store) (earlier period : List Call),
      ofDirectory files₀ base directivePrefix extensions = .ok l₀ →
      (∀ call ∈ earlier.getLast?, call = .forget) → .forget ∉ period →
      ∀ p ∈ (l₀.afterAll earlier).fetchedSince [] period,
        ∀ q ∈ (l₀.afterAll earlier).fetchedSince [] period,
          Files.Path.join [base, p.1] = Files.Path.join [base, q.1] →
          p.2.template = q.2.template := by
  intro h
  let files : Files.Tree := ⟨[(["d"], .directory), (["d", "a"], .file [0x78])]⟩
  let later : Files.Tree := files.put ["d", "a"] (.file [0x79])
  let l₀ : Store := ⟨"/d", .undefined, none, [], 0⟩
  have hpast : (l₀.afterAll []).fetchedSince [] [.fetch files "a", .fetch later "./a"] =
      [("a", ⟨⟨[.text "x\n"]⟩, 0⟩), ("./a", ⟨⟨[.text "y\n"]⟩, 1⟩)] := by
    cbv
  have halike := h files "/d" .undefined none l₀ [] [.fetch files "a", .fetch later "./a"] rfl
    (by simp) (by simp)
  rw [hpast] at halike
  have heq := halike _ List.mem_cons_self _ (List.mem_cons_of_mem _ List.mem_cons_self) (by cbv)
  simp at heq

end GuardedText.Store
