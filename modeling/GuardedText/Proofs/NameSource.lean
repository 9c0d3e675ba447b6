import GuardedText.NameSource
import GuardedText.Template.Subject
import Mathlib.Data.List.Induction

/-! Which names a source makes active is told by the set of names in it, in whatever shape they are
handed in, and the values beside them are not looked at. One shape is taken for another: a record
with functions under the two names that tell a map is asked for its names as a map would be, and has
none to give. -/

namespace GuardedText

namespace Value

theorem sameMember_string_iff (s : String) (v : Value) :
    sameMember (.string s) v = true ↔ v = .string s := by
  cases v with
  | string t => simp [sameMember, eq_comm (a := s)]
  | _ => simp [sameMember]

theorem distinctMembers_concat (items : List Value) (v : Value) :
    distinctMembers (items ++ [v]) =
      if (distinctMembers items).any (sameMember v) then distinctMembers items
      else distinctMembers items ++ [v] := by
  unfold distinctMembers
  rw [List.foldl_append, List.foldl_cons, List.foldl_nil]
  split <;> next h => rw [h]; rfl

/-- A set holds the texts that were added to it. -/
theorem string_mem_distinctMembers (s : String) (items : List Value) :
    .string s ∈ distinctMembers items ↔ .string s ∈ items := by
  induction items using List.reverseRecOn with
  | nil => exact Iff.rfl
  | append_singleton items v ih =>
    rw [distinctMembers_concat]
    split
    · next h =>
      rw [ih, List.mem_append, List.mem_singleton]
      refine ⟨.inl, fun hmem => hmem.elim id ?_⟩
      rintro rfl
      obtain ⟨w, hw, hvw⟩ := List.any_eq_true.mp h
      exact ih.mp ((sameMember_string_iff s w).mp hvw ▸ hw)
    · rw [List.mem_append, List.mem_append, ih]

theorem mem_keys_setField {fields : List (String × Value)} {name s : String} {v : Value} :
    s ∈ (setField fields name v).map (·.1) ↔ s ∈ fields.map (·.1) ∨ s = name := by
  rw [setField]
  cases h : fields.any (·.1 == name) with
  | true =>
    have hkeys : (fields.map fun f => if f.1 = name then (name, v) else f).map (·.1) =
        fields.map (·.1) := by
      rw [List.map_map]
      refine List.map_congr_left fun f _ => ?_
      by_cases hf : f.1 = name <;> simp [hf]
    obtain ⟨f, hf, hname⟩ := List.any_eq_true.mp h
    have hmem : name ∈ fields.map (·.1) := List.mem_map.mpr ⟨f, hf, eq_of_beq hname⟩
    rw [hkeys]
    constructor
    · exact .inl
    · rintro (hs | rfl)
      · exact hs
      · exact hmem
  | false => simp

/-- Entries that replace one another have the same keys in the end. -/
theorem mem_keys_fieldsOf {entries : List (String × Value)} {s : String} :
    s ∈ (fieldsOf entries).map (·.1) ↔ s ∈ entries.map (·.1) := by
  induction entries using List.reverseRecOn with
  | nil => exact Iff.rfl
  | append_singleton entries e ih =>
    have hlast : fieldsOf (entries ++ [e]) = setField (fieldsOf entries) e.1 e.2 := by
      rw [fieldsOf, List.foldl_append]
      rfl
    rw [hlast, mem_keys_setField, ih]
    simp

theorem mem_enumerate {α : Type} {fields : List (String × α)} {f : String × α} :
    f ∈ enumerate fields ↔ f ∈ fields := by
  have hsorted : f ∈ ((fields.filterMap fun f => (arrayIndex? f.1).map (·, f)).mergeSort
      fun a b => a.1 ≤ b.1).map (·.2) ↔ f ∈ fields ∧ (arrayIndex? f.1).isSome = true := by
    simp only [List.mem_map, List.mem_mergeSort, List.mem_filterMap, Option.map_eq_some_iff,
      Option.isSome_iff_exists]
    constructor
    · rintro ⟨-, ⟨g, hg, n, hn, rfl⟩, rfl⟩
      exact ⟨hg, n, hn⟩
    · rintro ⟨hf, n, hn⟩
      exact ⟨(n, f), ⟨f, hf, n, hn, rfl⟩, rfl⟩
  rw [enumerate, List.mem_append, hsorted, List.mem_filter]
  cases arrayIndex? f.1 <;> simp

theorem mem_ownKeys_record (bare : Bool) {fields : List (String × Value)} {s : String} :
    s ∈ (Value.record bare fields).ownKeys ↔ s ∈ fields.map (·.1) := by
  simp only [ownKeys, ownFields, List.mem_map, mem_enumerate]

end Value

namespace NameSource

/-- The source holds these names, in any order and each of them any number of times. The values
beside the keys of a map or a record are of any kind. -/
inductive Presents (names : List String) : Value → Prop
  | single {s : String} (h : ∀ t, t ∈ names ↔ t = s) : Presents names (.string s)
  | array {listed : List String} (h : ∀ s, s ∈ listed ↔ s ∈ names) :
    Presents names (.array (listed.map .string))
  | set {listed : List String} (h : ∀ s, s ∈ listed ↔ s ∈ names) :
    Presents names (.set (listed.map .string))
  | sequence {listed : List String} (h : ∀ s, s ∈ listed ↔ s ∈ names) :
    Presents names (.sequence (listed.map .string))
  | map {entries : List (String × Value)} (h : ∀ s, s ∈ entries.map (·.1) ↔ s ∈ names) :
    Presents names (.map entries)
  | lookup {entries : List (String × Value)} (h : ∀ s, s ∈ entries.map (·.1) ↔ s ∈ names) :
    Presents names (.lookup entries)
  | record {bare : Bool} {fields : List (String × Value)}
    (h : ∀ s, s ∈ fields.map (·.1) ↔ s ∈ names) : Presents names (.record bare fields)

/-- A record that is taken for a map by the values of two of its fields. -/
def isAsked : Value → Bool
  | .record _ fields => Value.hasFunctions fields ["keys", "get"]
  | _ => false

theorem active_congr {xs ys : List String} (h : ∀ s, s ∈ xs ↔ s ∈ ys) : active xs = active ys := by
  funext s
  rw [active, active, Bool.eq_iff_iff, List.contains_iff_mem, List.contains_iff_mem, h]

theorem mem_filterMap_nameOf? {ms : List Value} {s : String} :
    s ∈ ms.filterMap nameOf? ↔ .string s ∈ ms := by
  have hname : ∀ v, nameOf? v = some s ↔ v = .string s := by
    intro v
    cases v <;> simp [nameOf?]
  simp only [List.mem_filterMap, hname, exists_eq_right]

/-- The texts among the members are the names, unless the source is asked. -/
theorem members_presented {names : List String} {source : Value} (h : Presents names source) :
    ∃ ms, members source = .ok ms ∧
      ∀ s, .string s ∈ ms ↔ s ∈ if isAsked source then [] else names := by
  cases h with
  | single h =>
    refine ⟨_, rfl, fun t => ?_⟩
    simp [isAsked, h]
  | array h | set h | sequence h =>
    refine ⟨_, rfl, fun s => (Value.string_mem_distinctMembers s _).trans ?_⟩
    simpa [isAsked] using h s
  | map h | lookup h =>
    refine ⟨_, rfl, fun s => ?_⟩
    have hkeys := Value.mem_keys_fieldsOf.trans (h s)
    simpa [isAsked] using hkeys
  | @record bare fields h =>
    cases hasked : Value.hasFunctions fields ["keys", "get"] with
    | true => exact ⟨[], by rw [members, hasked], by simp [isAsked, hasked]⟩
    | false =>
      refine ⟨_, by rw [members, hasked], fun s => ?_⟩
      have hkeys := (Value.mem_ownKeys_record bare).trans (h s)
      simpa [isAsked, hasked] using hkeys

theorem names_presented {names : List String} {source : Value} (h : Presents names source) :
    ∃ ns, NameSource.names source = .ok ns ∧
      active ns = active (if isAsked source then [] else names) := by
  obtain ⟨ms, hms, hmem⟩ := members_presented h
  refine ⟨ms.filterMap nameOf?, by rw [NameSource.names, hms]; rfl, ?_⟩
  exact active_congr fun s => mem_filterMap_nameOf?.trans (hmem s)

end NameSource

namespace Template

open NameSource

theorem renderFrom_of_presents (t : Template) {names : List String} {source : Value}
    (h : Presents names source) :
    t.renderFrom source = .ok (t.render (active (if isAsked source then [] else names))) := by
  obtain ⟨ns, hns, hactive⟩ := names_presented h
  rw [renderFrom, hns, ← hactive]
  rfl

/-- Texts handed in as a set are active, and no others. -/
theorem renderFrom_set (t : Template) (names : List String) :
    t.renderFrom (.set (names.map .string)) = .ok (t.render (active names)) :=
  t.renderFrom_of_presents (.set fun _ => Iff.rfl)

end Template

end GuardedText
