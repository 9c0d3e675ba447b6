import GuardedText.Settings.VariableSource
import GuardedText.Proofs.Result

/-! Environments that differ in the level of the log only. Setting a variable leaves another as it
is or decides what it is, so the difference does not spread: such environments are given the same
variables by a file, the same is reported of that, and they make the same settings but for the
level. -/

namespace GuardedText

namespace Environment

theorem eq_of_valueIn? {name entry value : List Char} (h : valueIn? name entry = some value) :
    entry = name ++ '=' :: value := by
  induction name generalizing entry with
  | nil =>
    rw [valueIn?.eq_def] at h
    split at h
    · cases h
      rfl
    · next hname => cases hname
    · cases h
  | cons c name ih =>
    cases entry with
    | nil => cases h
    | cons d entry =>
      rw [valueIn?] at h
      split at h
      · next hc => rw [hc, ih h, List.cons_append]
      · cases h

/-- An entry for one name is one for another without the sign if that is what stands before the
first sign. -/
theorem isSome_valueIn?_append {name : List Char} (hname : '=' ∉ name) (other value : List Char) :
    (valueIn? name (other ++ '=' :: value)).isSome = true ↔ other.takeWhile (· ≠ '=') = name := by
  induction other generalizing name with
  | nil =>
    cases name with
    | nil => simp [valueIn?]
    | cons c name =>
      have hc : c ≠ '=' := fun h => hname (h ▸ List.mem_cons_self)
      simp [valueIn?, hc]
  | cons d other ih =>
    by_cases hd : d = '='
    · cases name with
      | nil => simp [valueIn?, hd]
      | cons c name =>
        have hc : c ≠ '=' := fun h => hname (h ▸ List.mem_cons_self)
        simp [valueIn?, hd, hc]
    · cases name with
      | nil => simp [valueIn?, hd]
      | cons c name =>
        by_cases hc : c = d
        · have hrest := ih fun h => hname (List.mem_cons_of_mem c h)
          simp only [List.cons_append, valueIn?, hc, if_true, hrest]
          simp [hd]
        · simp [valueIn?, hd, hc, Ne.symm hc]

/-- What an entry says of a name with the sign in it is lost with the variable before the sign. -/
theorem findSome?_filter_valueIn? {name : List Char} (hname : '=' ∉ name) (other : List Char)
    (entries : List String) :
    (entries.filter fun e => (valueIn? name e.toList).isNone).findSome? (valueIn? other ·.toList) =
      if other.takeWhile (· ≠ '=') = name then none
      else entries.findSome? (valueIn? other ·.toList) := by
  have hentry : ∀ (e : String) value, valueIn? other e.toList = some value →
      ((valueIn? name e.toList).isSome = true ↔ other.takeWhile (· ≠ '=') = name) := by
    intro e value he
    rw [eq_of_valueIn? he]
    exact isSome_valueIn?_append hname other value
  induction entries with
  | nil => simp
  | cons e entries ih =>
    rw [List.filter_cons, List.findSome?_cons]
    cases he : valueIn? other e.toList with
    | none =>
      split
      · rw [List.findSome?_cons, he]
        exact ih
      · exact ih
    | some value =>
      have hsome := hentry e value he
      by_cases htaken : other.takeWhile (· ≠ '=') = name
      · rw [if_pos htaken] at ih ⊢
        have hnot : ¬ (valueIn? name e.toList).isNone = true := by
          rw [Option.isNone_iff_eq_none]
          exact Option.isSome_iff_ne_none.mp (hsome.mpr htaken)
        rw [if_neg hnot]
        exact ih
      · rw [if_neg htaken]
        rw [if_pos (by simpa using mt hsome.mp htaken), List.findSome?_cons, he]

theorem setEntry_of_settable {name : List Char} (hne : name ≠ []) (hsign : '=' ∉ name)
    (value : List Char) (entries : List String) :
    setEntry name value entries = String.ofList (name ++ '=' :: value) ::
      entries.filter fun e => (valueIn? name e.toList).isNone := by
  have hcontains : name.contains '=' = false := by simpa using hsign
  cases name with
  | nil => exact absurd rfl hne
  | cons c name =>
    unfold setEntry
    rw [hcontains]

theorem setEntry_of_not_settable {name : List Char} (h : name = [] ∨ '=' ∈ name)
    (value : List Char) (entries : List String) : setEntry name value entries = entries := by
  rcases h with rfl | hsign
  · rfl
  · have hcontains : name.contains '=' = true := by simpa using hsign
    unfold setEntry
    rw [hcontains]
    cases name <;> rfl

theorem findSome?_setEntry (name value other : List Char) :
    (∀ entries : List String, (setEntry name value entries).findSome? (valueIn? other ·.toList) =
      entries.findSome? (valueIn? other ·.toList)) ∨
    ∃ r, ∀ entries : List String,
      (setEntry name value entries).findSome? (valueIn? other ·.toList) = r := by
  by_cases hset : name = [] ∨ '=' ∈ name
  · exact .inl fun entries => by rw [setEntry_of_not_settable hset]
  · obtain ⟨hne, hsign⟩ := not_or.mp hset
    simp only [setEntry_of_settable hne hsign, List.findSome?_cons, String.toList_ofList,
      findSome?_filter_valueIn? hsign]
    cases valueIn? other (name ++ '=' :: value) with
    | some found => exact .inr ⟨some found, fun _ => rfl⟩
    | none =>
      by_cases htaken : other.takeWhile (· ≠ '=') = name
      · exact .inr ⟨none, fun _ => if_pos htaken⟩
      · exact .inl fun _ => if_neg htaken

/-- Setting a variable leaves another as it is or decides what it is, in every environment. -/
theorem find?_set_or (name value other : String) :
    (∀ env : Environment, (env.set name value).find? other = env.find? other) ∨
    ∃ r, ∀ env : Environment, (env.set name value).find? other = r := by
  cases hname : isIndex name with
  | true =>
    cases hother : isIndex other with
    | true =>
      simp only [find?, set, hname, hother, List.lookup_cons]
      cases other == name with
      | true => exact .inr ⟨some value, fun _ => rfl⟩
      | false => exact .inl fun _ => rfl
    | false => exact .inl fun env => by simp only [find?, set, hname, hother]
  | false =>
    cases hother : isIndex other with
    | true => exact .inl fun env => by simp only [find?, set, hname, hother]
    | false =>
      simp only [find?, set, hname, hother]
      rcases findSome?_setEntry (storable name) (storable value) (storable other) with
        hkept | ⟨r, hr⟩
      · exact .inl fun env => by rw [hkept]
      · exact .inr ⟨r.map String.ofList, fun env => by rw [hr]⟩

theorem isIndex_of_not_digit {name : String} {c : Char} (hc : c ∈ name.toList)
    (hdigit : c.isDigit = false) : isIndex name = false := by
  have hall : name.toList.all Char.isDigit = false := by
    rw [List.all_eq_false]
    exact ⟨c, hc, by simp [hdigit]⟩
  rw [isIndex, Value.arrayIndex?, hall]
  rfl

theorem isIndex_level : isIndex "LOG_LEVEL" = false :=
  isIndex_of_not_digit (c := 'L') (by decide) (by decide)

/-- Whether the name is stored as that of the variable for the log level. -/
def IsLevelName (name : String) : Prop :=
  storable name = "LOG_LEVEL".toList

instance (name : String) : Decidable (IsLevelName name) :=
  inferInstanceAs (Decidable (storable name = "LOG_LEVEL".toList))

theorem IsLevelName.find? {name : String} (h : IsLevelName name) (env : Environment) :
    env.find? name = env.find? "LOG_LEVEL" := by
  have hmem : 'L' ∈ storable name := by
    rw [h]
    decide
  have hindex : isIndex name = false :=
    isIndex_of_not_digit ((List.takeWhile_sublist _).subset hmem) (by decide)
  rw [Environment.find?, Environment.find?, hindex, isIndex_level, h]
  rfl

/-- The environments agree on every variable but the level of the log, which is the same in both or
a valid one in each. -/
structure SameButLevel (env env' : Environment) : Prop where
  others : ∀ name, ¬ IsLevelName name → env.find? name = env'.find? name
  level : env.find? "LOG_LEVEL" = env'.find? "LOG_LEVEL" ∨
    ∃ a b : Log.Level, env.find? "LOG_LEVEL" = some a.name ∧ env'.find? "LOG_LEVEL" = some b.name

/-- An entry without a sign in its value is one for its own name only. -/
theorem valueIn?_eq_none {name other value : List Char} (hname : '=' ∉ name) (hvalue : '=' ∉ value)
    (hne : other ≠ name) : valueIn? other (name ++ '=' :: value) = none := by
  rw [Option.eq_none_iff_forall_ne_some]
  intro found h
  rcases List.append_eq_append_iff.mp (eq_of_valueIn? h) with
    ⟨gap, hother, hrest⟩ | ⟨gap, hname', hrest⟩
  · cases gap with
    | nil => exact hne (by rw [hother, List.append_nil])
    | cons c gap =>
      rw [List.cons_append, List.cons.injEq] at hrest
      exact hvalue (hrest.2 ▸ by simp)
  · cases gap with
    | nil => exact hne (by rw [hname', List.append_nil])
    | cons c gap =>
      rw [List.cons_append, List.cons.injEq] at hrest
      exact hname (by rw [hname', ← hrest.1]; simp)

/-- No name but its own tells which level was set. -/
theorem find?_set_level (env : Environment) (a b : Log.Level) {name : String}
    (hname : ¬ IsLevelName name) :
    (env.set "LOG_LEVEL" a.name).find? name = (env.set "LOG_LEVEL" b.name).find? name := by
  have hsettable := fun value entries =>
    setEntry_of_settable (by decide : storable "LOG_LEVEL" ≠ []) (by decide) value entries
  have hentry : ∀ k : Log.Level,
      valueIn? (storable name) (storable "LOG_LEVEL" ++ '=' :: storable k.name) = none :=
    fun k => valueIn?_eq_none (by decide) (by cases k <;> decide) hname
  cases hindex : isIndex name with
  | true => simp only [find?, set, isIndex_level, hindex]
  | false =>
    simp only [find?, set, isIndex_level, hindex, hsettable, List.findSome?_cons,
      String.toList_ofList, hentry]

namespace SameButLevel

variable {env env' : Environment}

theorem isSome_find? (h : SameButLevel env env') (name : String) :
    (env.find? name).isSome = (env'.find? name).isSome := by
  by_cases hname : IsLevelName name
  · rw [hname.find?, hname.find?]
    rcases h.level with hsame | ⟨a, b, ha, hb⟩
    · rw [hsame]
    · rw [ha, hb]
      rfl
  · rw [h.others name hname]

theorem set (h : SameButLevel env env') (name value : String) :
    SameButLevel (env.set name value) (env'.set name value) where
  others := fun other hother => by
    rcases find?_set_or name value other with hkept | ⟨r, hr⟩
    · rw [hkept, hkept, h.others other hother]
    · rw [hr, hr]
  level := by
    rcases find?_set_or name value "LOG_LEVEL" with hkept | ⟨r, hr⟩
    · rw [hkept, hkept]
      exact h.level
    · exact .inl (by rw [hr, hr])

theorem complete (h : SameButLevel env env') (s : VariableSource) (found : List (String × String)) :
    SameButLevel (s.complete env found) (s.complete env' found) := by
  have hset : ∀ added : List (String × String), ∀ {env env'}, SameButLevel env env' →
      SameButLevel (added.foldl (fun env v => env.set v.1 v.2) env)
        (added.foldl (fun env v => env.set v.1 v.2) env') := by
    intro added
    induction added with
    | nil => exact fun h => h
    | cons v added ih => exact fun h => ih (h.set v.1 v.2)
  have hnone : ∀ v : String × String, (env.find? v.1).isNone = (env'.find? v.1).isNone := by
    intro v
    rw [← Option.not_isSome, ← Option.not_isSome, h.isSome_find?]
  rw [VariableSource.complete, VariableSource.complete]
  simp only [hnone]
  exact hset _ h

end SameButLevel

end Environment

namespace VariableSource

open Environment

variable {env env' : Environment}

theorem option_congr (h : SameButLevel env env') (argv : List String) (argument : String)
    {name : String} (hname : ¬ IsLevelName name) :
    option env argv argument name = option env' argv argument name := by
  rw [option, option, h.others name hname]

/-- No variable that is asked for here is the level of the log. -/
theorem requested_congr (h : SameButLevel env env') (argv : List String) :
    requested env argv = requested env' argv := by
  unfold requested
  rw [h.others "HOME" (by decide),
    option_congr h argv "dotenv_config_path" (by decide),
    option_congr h argv "dotenv_config_encoding" (by decide),
    option_congr h argv "dotenv_config_DOTENV_KEY" (by decide),
    option_congr h argv "dotenv_config_override" (by decide),
    option_congr h argv "dotenv_config_debug" (by decide)]

theorem keys_congr (h : SameButLevel env env') (s : VariableSource) : s.keys env = s.keys env' := by
  rw [keys, keys, Environment.text, Environment.text, h.others "DOTENV_KEY" (by decide)]

theorem keptLines_congr (h : SameButLevel env env') (s : VariableSource)
    (found : List (String × String)) : s.keptLines env found = s.keptLines env' found := by
  simp only [keptLines, h.isSome_find?]

theorem loadPlain_congr (h : SameButLevel env env') (s : VariableSource) (t : Files.Tree)
    (here : Files.Location) :
    (s.loadPlain env t here).lines = (s.loadPlain env' t here).lines ∧
      SameButLevel (s.loadPlain env t here).env (s.loadPlain env' t here).env := by
  refine ⟨?_, h.complete s _⟩
  simp only [loadPlain, report, keptLines_congr h]

theorem loadSealed_congr (h : SameButLevel env env') (s : VariableSource) (t : Files.Tree)
    (here : Files.Location) :
    (s.loadSealed env t here).1 = (s.loadSealed env' t here).1 ∧
      (s.loadSealed env t here).2.lines = (s.loadSealed env' t here).2.lines ∧
      SameButLevel (s.loadSealed env t here).2.env (s.loadSealed env' t here).2.env := by
  obtain ⟨hlines, henv⟩ := loadPlain_congr h (s.asSealed here) t here
  unfold loadSealed
  dsimp only
  rw [keys_congr henv, hlines]
  split
  · exact ⟨rfl, rfl, henv⟩
  · exact ⟨rfl, by rw [keptLines_congr henv], henv.complete _ _⟩

/-- Loading answers alike and reports alike. -/
theorem load_congr (h : SameButLevel env env') (s : VariableSource) (t : Files.Tree)
    (here : Files.Location) :
    (s.load env t here).1 = (s.load env' t here).1 ∧
      (s.load env t here).2.lines = (s.load env' t here).2.lines ∧
      SameButLevel (s.load env t here).2.env (s.load env' t here).2.env := by
  obtain ⟨hlines, henv⟩ := loadPlain_congr h s t here
  rw [load, load, keys_congr h]
  split
  · exact ⟨rfl, hlines, henv⟩
  · split
    · exact loadSealed_congr h s t here
    · exact ⟨rfl, congrArg (missingLine :: ·) hlines, henv⟩

end VariableSource

namespace ToolSettings

open Environment

variable {env env' : Environment}

/-- Both checks fail alike, or they let the same settings through but for the level. -/
inductive Alike : Except Error Checked → Except Error Checked → Prop where
  | error (e : Error) : Alike (.error e) (.error e)
  | ok (s : Checked) (k : Log.Level) : Alike (.ok s) (.ok { s with logLevel := k })

theorem check_alike (s : ToolSettings) {v : Value}
    (h : level s.logLevel = level v ∨ ∃ a b, level s.logLevel = .ok a ∧ level v = .ok b) :
    Alike s.check { s with logLevel := v }.check := by
  unfold check
  cases isEnvironment s.environment with
  | false => exact .error _
  | true =>
    rcases h with hsame | ⟨a, b, ha, hb⟩
    · rw [hsame]
      cases level v with
      | error e => exact .error e
      | ok k =>
        dsimp only
        split
        · exact .error _
        · exact .ok _ _
    · rw [ha, hb]
      dsimp only
      split
      · exact .error _
      · exact .ok _ _

theorem level_name {k : Log.Level} (fallback : String) (h : env.find? "LOG_LEVEL" = some k.name) :
    level (.string (env.text "LOG_LEVEL" fallback)) = .ok k := by
  rw [Environment.text, h]
  cases k <;> rfl

theorem flag_congr (h : SameButLevel env env') {name : String} (hname : ¬ IsLevelName name)
    (fallback : Bool) : env.flag name fallback = env'.flag name fallback := by
  unfold Environment.flag Environment.flag? Environment.get
  rw [h.others name hname]

theorem text_congr (h : SameButLevel env env') {name : String} (hname : ¬ IsLevelName name)
    (fallback : String) : env.text name fallback = env'.text name fallback := by
  rw [Environment.text, Environment.text, h.others name hname]

/-- What is checked of two environments differs in the text of the level, which is valid in both or
the same. -/
theorem ofEnvironment_alike (h : SameButLevel env env') :
    (∃ e, ofEnvironment env = .error e ∧ ofEnvironment env' = .error e) ∨
    ∃ s v, ofEnvironment env = .ok s ∧ ofEnvironment env' = .ok { s with logLevel := v } ∧
      (level s.logLevel = level v ∨ ∃ a b, level s.logLevel = .ok a ∧ level v = .ok b) := by
  have hmake : ∀ env : Environment, ofEnvironment env =
      (env.flag "LOG_FILE" false).map fun keepsLog =>
        ⟨.string (env.text "NODE_ENV" "development"), .string (env.text "LOG_LEVEL" "warn"),
          keepsLog, .string (env.text "PPD_DIRECTIVE_PREFIX" Prefix.standard.text)⟩ := by
    intro env
    rw [ofEnvironment]
    cases env.flag "LOG_FILE" false <;> rfl
  rw [hmake, hmake, flag_congr h (by decide), text_congr h (by decide : ¬ IsLevelName "NODE_ENV"),
    text_congr h (by decide : ¬ IsLevelName "PPD_DIRECTIVE_PREFIX")]
  cases env'.flag "LOG_FILE" false with
  | error e => exact .inl ⟨e, rfl, rfl⟩
  | ok keepsLog =>
    refine .inr ⟨_, .string (env'.text "LOG_LEVEL" "warn"), rfl, rfl, ?_⟩
    rcases h.level with hsame | ⟨a, b, ha, hb⟩
    · rw [Environment.text, Environment.text, hsame]
      exact .inl rfl
    · exact .inr ⟨a, b, level_name "warn" ha, level_name "warn" hb⟩

end ToolSettings

end GuardedText
