import GuardedText.Log.Entry
import GuardedText.Log.Level
import GuardedText.Proofs.Json.OneLine
import GuardedText.Proofs.NameSource
import GuardedText.Proofs.Value.Json

/-! Lines of a log. A record has no line if its context comes to a bigint, and for no other reason.
If its label and its message stand on one line, so does all that is written for it, whatever its
context holds. -/

namespace GuardedText.Log

/-- A context that comes to a bigint through its items or fields has some. -/
theorem isShown_of_reachesBigint {context : Value} (h : context.ReachesBigint)
    (hbare : ∀ n, context ≠ .bigint n) : context.truthy = true ∧ context.ownKeys ≠ [] := by
  cases h with
  | bigint n => exact absurd rfl (hbare n)
  | item hmem =>
    refine ⟨rfl, ?_⟩
    simpa [Value.ownKeys, Value.ownFields] using List.ne_nil_of_mem hmem
  | @field bare _ _ _ _ hmem =>
    exact ⟨rfl, List.ne_nil_of_mem
      ((Value.mem_ownKeys_record bare).mpr (List.mem_map_of_mem hmem))⟩

/-- The context is to be shown and comes to a bigint. One that is itself a bigint has no fields to
show. -/
structure Unwritable (context : Value) : Prop where
  reaches : context.ReachesBigint
  not_bare : ∀ n, context ≠ .bigint n

theorem contextText_eq_error_iff {context : Value} {e : Value.JsonError} :
    contextText context = .error e ↔ Unwritable context := by
  constructor
  · intro h
    rw [contextText] at h
    split at h
    · next hkeys =>
      refine ⟨Value.toJson?_eq_error_iff.mp (map_eq_error_iff.mp h), ?_⟩
      rintro n rfl
      cases hkeys
    · cases h
  · rintro ⟨hreaches, hbare⟩
    obtain ⟨htruthy, hkeys⟩ := isShown_of_reachesBigint hreaches hbare
    obtain ⟨key, keys, hkeys⟩ := List.exists_cons_of_ne_nil hkeys
    rw [contextText, htruthy, hkeys]
    exact map_eq_error_iff.mpr (Value.toJson?_eq_error_iff.mpr hreaches)

theorem entry_eq_error_iff {timestamp level label message : String} {context : Value}
    {e : Value.JsonError} :
    entry timestamp level label message context = .error e ↔ Unwritable context := by
  rw [entry, map_eq_error_iff, contextText_eq_error_iff]

/-! ### One line for a record -/

section OneLine

open Text

theorem noControls_padDigits (width n : Nat) : NoControls (Instant.padDigits width n) := by
  refine noControls_append.mpr ⟨noControls_ofList.mpr fun c hc => ?_, noControls_nat n⟩
  rw [List.eq_of_mem_replicate hc]
  decide

theorem noControls_isoText (t : Instant) : NoControls t.isoText := by
  have hyear : ∀ year, NoControls (Instant.yearText year) := by
    intro year
    rw [Instant.yearText]
    split
    · exact noControls_padDigits 4 _
    · refine noControls_append.mpr ⟨?_, noControls_padDigits 6 _⟩
      split <;> decide
  unfold Instant.isoText Instant.clockText
  simp only [noControls_append, hyear, noControls_padDigits, true_and, and_true]
  decide

theorem noControls_contextText {context : Value} {tail : String}
    (h : contextText context = .ok tail) : NoControls tail := by
  rw [contextText] at h
  split at h
  · obtain ⟨j, -, rfl⟩ := map_eq_ok h
    refine noControls_append.mpr ⟨by decide, ?_⟩
    cases j with
    | none => decide
    | some j => exact j.noControls_compact
  · cases h
    decide

theorem oneLine_entry {time : Instant} {k : Level} {label message line : String} {context : Value}
    (hlabel : OneLine label) (hmessage : OneLine message)
    (h : entry time.isoText k.name label message context = .ok line) : OneLine line := by
  obtain ⟨tail, htail, rfl⟩ := map_eq_ok h
  have hlevel : OneLine (padRight 5 (upper k.name)) := by cases k <;> decide
  have hbracket : OneLine "[" ∧ OneLine "] [" ∧ OneLine "] " := by decide
  simp only [oneLine_append, hlevel, hbracket, hlabel, hmessage,
    (noControls_isoText time).oneLine, (noControls_contextText htail).oneLine, and_self]

end OneLine

end GuardedText.Log
