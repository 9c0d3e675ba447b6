import GuardedText.Json
import GuardedText.Proofs.Result

/-! Which values have no JSON form: those from which writing comes to a bigint, through the items of
arrays and the fields of records. -/

namespace GuardedText.Value

/-- Writing the value as JSON comes to a bigint. It does not look into collections other than
arrays, nor at the fields of a record with a function `toJSON`. -/
inductive ReachesBigint : Value → Prop
  | bigint (n : Int) : ReachesBigint (.bigint n)
  | item {items : List Value} {v : Value} (hmem : v ∈ items) (h : ReachesBigint v) :
    ReachesBigint (.array items)
  | field {bare : Bool} {fields : List (String × Value)} {name : String} {v : Value}
    (hwritten : hasFunctions fields ["toJSON"] = false) (hmem : (name, v) ∈ fields)
    (h : ReachesBigint v) : ReachesBigint (.record bare fields)

mutual

theorem reachesBigint_of_toJson? {e : JsonError} (v : Value) (h : v.toJson? = .error e) :
    v.ReachesBigint := by
  match v with
  | .bigint n => exact .bigint n
  | .array items =>
    obtain ⟨v, hmem, hv⟩ := exists_of_itemsToJson items ((map_eq_error_iff).mp h)
    exact .item hmem hv
  | .record bare fields =>
    rw [toJson?] at h
    split at h
    · cases h
    · next hwritten =>
      obtain ⟨f, hmem, hf⟩ := exists_of_fieldsToJson fields (map_eq_error_iff.mp h)
      exact .field hwritten hmem hf

theorem exists_of_itemsToJson {e : JsonError} (items : List Value)
    (h : itemsToJson items = .error e) : ∃ v ∈ items, v.ReachesBigint := by
  match items with
  | [] => cases h
  | v :: rest =>
    rw [itemsToJson] at h
    split at h
    · next hv => exact ⟨v, List.mem_cons_self, reachesBigint_of_toJson? v hv⟩
    · obtain ⟨w, hmem, hw⟩ := exists_of_itemsToJson rest (map_eq_error_iff.mp h)
      exact ⟨w, List.mem_cons_of_mem _ hmem, hw⟩

theorem exists_of_fieldsToJson {e : JsonError} (fields : List (String × Value))
    (h : fieldsToJson fields = .error e) : ∃ f ∈ fields, f.2.ReachesBigint := by
  match fields with
  | [] => cases h
  | (name, v) :: rest =>
    rw [fieldsToJson] at h
    split at h
    · next hv => exact ⟨(name, v), List.mem_cons_self, reachesBigint_of_toJson? v hv⟩
    · obtain ⟨f, hmem, hf⟩ := exists_of_fieldsToJson rest h
      exact ⟨f, List.mem_cons_of_mem _ hmem, hf⟩
    · obtain ⟨f, hmem, hf⟩ := exists_of_fieldsToJson rest (map_eq_error_iff.mp h)
      exact ⟨f, List.mem_cons_of_mem _ hmem, hf⟩

end

theorem itemsToJson_eq_error {items : List Value} {v : Value} (hmem : v ∈ items)
    (hv : v.toJson? = .error .bigint) : itemsToJson items = .error .bigint := by
  induction items with
  | nil => cases hmem
  | cons w rest ih =>
    rw [itemsToJson]
    rcases List.mem_cons.mp hmem with rfl | hmem
    · rw [hv]
    · cases w.toJson? with
      | error e => rfl
      | ok j => exact map_eq_error_iff.mpr (ih hmem)

theorem fieldsToJson_eq_error {fields : List (String × Value)} {name : String} {v : Value}
    (hmem : (name, v) ∈ fields) (hv : v.toJson? = .error .bigint) :
    fieldsToJson fields = .error .bigint := by
  induction fields with
  | nil => cases hmem
  | cons f rest ih =>
    rw [fieldsToJson]
    rcases List.mem_cons.mp hmem with rfl | hmem
    · rw [hv]
    · cases f.2.toJson? with
      | error e => rfl
      | ok j =>
        cases j with
        | none => exact ih hmem
        | some j => exact map_eq_error_iff.mpr (ih hmem)

/-- A value has no JSON form if writing it comes to a bigint, and for no other reason. -/
theorem toJson?_eq_error_iff {v : Value} {e : JsonError} :
    v.toJson? = .error e ↔ v.ReachesBigint := by
  refine ⟨reachesBigint_of_toJson? v, fun h => ?_⟩
  obtain rfl : e = .bigint := by cases e; rfl
  induction h with
  | bigint n => rfl
  | item hmem _ ih => exact map_eq_error_iff.mpr (itemsToJson_eq_error hmem ih)
  | field hwritten hmem _ ih =>
    rw [toJson?, hwritten]
    exact map_eq_error_iff.mpr (fieldsToJson_eq_error hmem ih)

end GuardedText.Value
