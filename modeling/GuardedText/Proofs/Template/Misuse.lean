import GuardedText.Proofs.Value.Describe
import GuardedText.Template.Subject
import Mathlib

/-! Rendering something that is no template. Whatever source comes with it, it is refused before that is
looked at, and the refusal says what it is. It cannot say so of a record that names its class by
something without a text, and what is reported then is no misuse. -/

namespace GuardedText.Template

/-- What is no template is reported as misuse, in words that no source has a part in, if it is not
misnamed; and if it is, it is refused as indescribable. -/
theorem renderSubject_reports_misuse (v : Value) :
    (¬ v.Misnamed → ∃ description, ∀ source, renderSubject (.other v) source =
      .error (.usage ⟨"Expected a compiled Template, got " ++ description⟩)) ∧
    (v.Misnamed → ∀ source, renderSubject (.other v) source = .error .indescribable) := by
  rw [← Value.designation?_eq_none_iff]
  cases h : v.designation? with
  | none =>
    refine ⟨fun hsome => absurd rfl hsome, fun _ source => ?_⟩
    rw [renderSubject, h]
  | some description =>
    refine ⟨fun _ => ⟨description, fun source => ?_⟩, fun hnone => by cases hnone⟩
    rw [renderSubject, h]

/-- A class named by an array that has a text, and one named by an array with a symbol deep in it. No
source is ever looked at, so an invalid one makes no difference. -/
theorem renderSubject_reports_misuse_named_by_array :
    let named : Value → Value := fun name =>
      .record false [("constructor", .record true [("name", name)])]
    (∃ description,
      renderSubject (.other (named (.array [.string "a", .null, .array [.bigint 1]]))) .null =
        .error (.usage ⟨"Expected a compiled Template, got " ++ description⟩)) ∧
    renderSubject (.other (named (.array [.string "a", .array [.symbol "s"]]))) .null =
      .error .indescribable := by
  intro named
  have hnamed : ¬ (named (.array [.string "a", .null, .array [.bigint 1]])).Misnamed := by
    have htext : (named (.array [.string "a", .null, .array [.bigint 1]])).designation? =
        some "a,,1" := by
      cbv
    rw [← Value.designation?_eq_none_iff, htext]
    exact Option.some_ne_none _
  have hmisnamed : (named (.array [.string "a", .array [.symbol "s"]])).Misnamed := by
    rw [← Value.designation?_eq_none_iff]
    cbv
  obtain ⟨description, hreported⟩ := (renderSubject_reports_misuse _).1 hnamed
  exact ⟨⟨description, hreported .null⟩, (renderSubject_reports_misuse _).2 hmisnamed .null⟩

/-- The name of the class is a symbol. -/
theorem misuse_not_always_reported :
    ¬ ∀ v source : Value, ∃ e, renderSubject (.other v) source = .error (.usage e) := by
  intro h
  obtain ⟨e, he⟩ := h (.record false [("constructor", .record false [("name", .symbol "s")])])
    (.array [])
  have hrefused : renderSubject
      (.other (.record false [("constructor", .record false [("name", .symbol "s")])])) (.array []) =
        .error .indescribable := by
    cbv
  rw [hrefused] at he
  cases he

end GuardedText.Template
