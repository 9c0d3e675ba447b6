import GuardedText.Value.Describe
import Mathlib.Data.Option.Basic

/-! Which values have no text, and so which of them no message can name. A value refuses to be a text
if it is a symbol, a record that neither inherits a text nor has a function that gives it one, or an
array with such a member, however deep it lies. A value that is no primitive is named by its class,
so it goes without a name if what it calls the name of its class refuses. -/

namespace GuardedText.Value

/-- A record that has no text: no function of its own gives it one, and the one it would inherit is
hidden or not there. -/
structure LacksText (bare : Bool) (fields : List (String × Value)) : Prop where
  toString : fields.lookup "toString" ≠ some .function
  valueOf : fields.lookup "valueOf" ≠ some .function
  inherited : bare = false → fields.lookup "toString" ≠ none

/-- The value refuses to be a text. -/
inductive Textless : Value → Prop
  | symbol (description : String) : Textless (.symbol description)
  | record {bare : Bool} {fields : List (String × Value)} (h : LacksText bare fields) :
    Textless (.record bare fields)
  | item {items : List Value} {v : Value} (hmem : v ∈ items) (h : Textless v) :
    Textless (.array items)

theorem hasFunctions_singleton {fields : List (String × Value)} {name : String} :
    hasFunctions fields [name] = true ↔ fields.lookup name = some .function := by
  have hfunction : ∀ v : Value, v.isFunction = true ↔ v = .function := by
    intro v
    cases v <;> simp [isFunction]
  rw [hasFunctions, List.all_cons, List.all_nil, Bool.and_true]
  cases fields.lookup name <;> simp [hfunction]

theorem recordText?_eq_none_iff {bare : Bool} {fields : List (String × Value)} :
    recordText? bare fields = none ↔ LacksText bare fields := by
  unfold recordText?
  split
  · next hto => exact iff_of_false (by simp) fun h => h.toString hto
  · next hto => exact iff_of_false (by simp) fun h => h.inherited rfl hto
  · next hto hinherited =>
    split
    · next hof => exact iff_of_false (by simp) fun h => h.valueOf (hasFunctions_singleton.mp hof)
    · next hof =>
      refine iff_of_true rfl ⟨hto, fun h => ?_, fun h hnone => hinherited h hnone⟩
      rw [hasFunctions_singleton.mpr h] at hof
      cases hof

theorem Textless.not_absent {v : Value} (h : v.Textless) : v.isAbsent = false := by
  cases h <;> rfl

theorem itemTexts_cons_eq_none_iff {v : Value} {rest : List Value} :
    itemTexts (v :: rest) = none ↔
      (v.isAbsent = false ∧ v.text? = none) ∨ itemTexts rest = none := by
  rw [itemTexts]
  cases v.isAbsent <;> cases v.text? <;> cases itemTexts rest <;> simp

mutual

theorem textless_of_text? (v : Value) (h : v.text? = none) : v.Textless := by
  match v with
  | .symbol description => exact .symbol description
  | .record bare fields =>
    rw [text?] at h
    exact .record (recordText?_eq_none_iff.mp h)
  | .array items =>
    rw [text?, Option.map_eq_none_iff] at h
    obtain ⟨v, hmem, hv⟩ := exists_of_itemTexts items h
    exact .item hmem hv

theorem exists_of_itemTexts (items : List Value) (h : itemTexts items = none) :
    ∃ v ∈ items, v.Textless := by
  match items with
  | [] => cases h
  | v :: rest =>
    rcases itemTexts_cons_eq_none_iff.mp h with ⟨-, hv⟩ | hrest
    · exact ⟨v, List.mem_cons_self, textless_of_text? v hv⟩
    · obtain ⟨w, hmem, hw⟩ := exists_of_itemTexts rest hrest
      exact ⟨w, List.mem_cons_of_mem _ hmem, hw⟩

end

theorem itemTexts_eq_none {items : List Value} {v : Value} (hmem : v ∈ items)
    (habsent : v.isAbsent = false) (hv : v.text? = none) : itemTexts items = none := by
  induction items with
  | nil => cases hmem
  | cons w rest ih =>
    rw [itemTexts_cons_eq_none_iff]
    rcases List.mem_cons.mp hmem with rfl | hmem
    · exact .inl ⟨habsent, hv⟩
    · exact .inr (ih hmem)

theorem text?_eq_none_iff {v : Value} : v.text? = none ↔ v.Textless := by
  refine ⟨textless_of_text? v, fun h => ?_⟩
  induction h with
  | symbol => rfl
  | record h =>
    rw [text?]
    exact recordText?_eq_none_iff.mpr h
  | item hmem h ih =>
    rw [text?, Option.map_eq_none_iff]
    exact itemTexts_eq_none hmem h.not_absent ih

theorem textless_nameOf_iff {v : Value} :
    v.nameOf.Textless ↔ ∃ name, v.field? "name" = some name ∧ name.Textless := by
  unfold nameOf
  split
  · exact iff_of_false (fun h => by cases h) (fun ⟨_, h, _⟩ => by cases h)
  · cases v.field? "name" with
    | none => exact iff_of_false (fun h => by cases h) (fun ⟨_, h, _⟩ => by cases h)
    | some name => simp

/-- The value has a constructor of its own, and that a name which refuses to be a text. -/
def Misnamed : Value → Prop
  | .record _ fields => ∃ constructor name, fields.lookup "constructor" = some constructor ∧
      constructor.field? "name" = some name ∧ name.Textless
  | _ => False

/-- The class that a record inherits has a text for a name, so only a constructor of its own can
refuse one. -/
theorem textless_constructorName_iff {bare : Bool} {fields : List (String × Value)} :
    (record bare fields).constructorName.Textless ↔ (record bare fields).Misnamed := by
  unfold constructorName Misnamed
  dsimp only
  cases fields.lookup "constructor" with
  | some c => simp [textless_nameOf_iff]
  | none =>
    refine iff_of_false (fun h => ?_) (fun ⟨_, _, h, _⟩ => by cases h)
    cases bare <;> cases h

theorem designation?_record_eq_none_iff {bare : Bool} {fields : List (String × Value)} :
    (record bare fields).designation? = none ↔
      (record bare fields).constructorName.Textless := by
  have hrecord : (record bare fields).designation? =
      if (record bare fields).constructorName.isAbsent then some "object"
      else (record bare fields).constructorName.text? := by
    unfold designation? kind
    dsimp only
    cases hasFunctions fields ["then", "catch"] <;> rfl
  rw [hrecord]
  split
  · next habsent =>
    refine iff_of_false (Option.some_ne_none _) fun h => ?_
    rw [h.not_absent] at habsent
    cases habsent
  · exact text?_eq_none_iff

theorem designation?_eq_none_iff {v : Value} : v.designation? = none ↔ v.Misnamed := by
  cases v with
  | record bare fields => exact designation?_record_eq_none_iff.trans textless_constructorName_iff
  | number x =>
    refine iff_of_false ?_ id
    unfold designation? kind
    dsimp only
    cases x.isNaN <;> exact Option.some_ne_none _
  | _ => exact iff_of_false (Option.some_ne_none _) id

end GuardedText.Value
