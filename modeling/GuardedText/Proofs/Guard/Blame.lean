import GuardedText.Proofs.Guard.Position
import Mathlib

/-! Which token of a rejected guard is to blame. Every token list that the automaton has not refused
can be completed to a guard, so the first token that it refuses is the first behind which no
continuation can help. The fault that reading reports names this token and tells what was missing
before it. -/

namespace GuardedText.Guard

def Accepted (ts : List Token) : Prop :=
  ∃ e, parseTokens ts = .ok e

/-- Some continuation makes a guard of the tokens. -/
def Viable (ts : List Token) : Prop :=
  ∃ us, Accepted (ts ++ us)

/-- The tokens lack nothing but parentheses that close, at least one. -/
def LacksClosing (ts : List Token) : Prop :=
  ∃ k, 1 ≤ k ∧ Accepted (ts ++ List.replicate k .closing)

/-- The token `t` at the place `i` is the first that no continuation can follow. -/
structure FirstUnfit (ts : List Token) (i : Nat) (t : Token) : Prop where
  at_place : ts[i]? = some t
  unfit : ¬ Viable (ts.take (i + 1))
  first : ∀ j < i, Viable (ts.take (j + 1))

/-- What the report on rejected tokens has to say. -/
structure Blamed (ts : List Token) (detail : String) : Prop where
  none_given : ts = [] → detail = "empty expression"
  cut_short : ts ≠ [] → Viable ts → detail = "unexpected end of expression"
  unfit : ¬ Viable ts → ∃ i t, FirstUnfit ts i t ∧
    (Accepted (ts.take i) → detail = "unexpected \"" ++ t.text ++ "\" after expression") ∧
    (LacksClosing (ts.take i) → detail = "expected \")\" but found \"" ++ t.text ++ "\"") ∧
    (¬ Accepted (ts.take i) → ¬ LacksClosing (ts.take i) →
      detail = "unexpected \"" ++ t.text ++ "\"")

namespace Position

theorem scan_eq_ok_iff {s : Position} {ts : List Token} :
    scan s ts = .ok () ↔ walk s ts = .ok accepting := by
  rw [scan]
  cases walk s ts with
  | error f => exact iff_of_false (fun h => by cases h) (fun h => by cases h)
  | ok s' =>
    by_cases hs : s' = accepting
    · simp [Except.bind, finish, hs]
    · simp [Except.bind, finish, hs]

/-- Where parentheses are open behind an operand, as many can close. -/
theorem walk_closing (k : Nat) :
    walk ⟨.operator, k⟩ (List.replicate k .closing) = .ok accepting := by
  induction k with
  | zero => rfl
  | succ k ih =>
    have hstep : step ⟨.operator, k + 1⟩ .closing = .ok ⟨.operator, k⟩ := rfl
    rw [List.replicate_succ, walk, hstep]
    exact ih

/-- From every position some tokens complete a guard. -/
theorem exists_walk_accepting (s : Position) : ∃ us, walk s us = .ok accepting := by
  obtain ⟨due, depth⟩ := s
  cases due with
  | operator => exact ⟨_, walk_closing depth⟩
  | operand | primary => exact ⟨.name "a" :: List.replicate depth .closing, walk_closing depth⟩

/-- Only behind an operand and inside parentheses can one close. -/
theorem step_closing_eq_ok {s s' : Position} (h : step s .closing = .ok s') :
    s = ⟨.operator, s'.depth + 1⟩ ∧ s' = ⟨.operator, s'.depth⟩ := by
  obtain ⟨due, depth⟩ := s
  cases due with
  | operand | primary => cases h
  | operator =>
    cases depth with
    | zero => cases h
    | succ depth =>
      cases h
      exact ⟨rfl, rfl⟩

/-- What a refused token is told by the position that refuses it. -/
theorem step_eq_error {s : Position} {t : Token} {f : Fault} (h : step s t = .error f) :
    (s = accepting ∧ f = .trailing t) ∨ (∃ k, s = ⟨.operator, k + 1⟩ ∧ f = .unclosed t) ∨
      (s.due ≠ .operator ∧ f = .unexpected t) := by
  obtain ⟨due, depth⟩ := s
  cases due with
  | operand =>
    refine .inr (.inr ⟨by simp, ?_⟩)
    match t with
    | .name _ | .opening | .keyword .not => cases h
    | .closing | .keyword .and | .keyword .or =>
      cases h
      rfl
  | primary =>
    refine .inr (.inr ⟨by simp, ?_⟩)
    match t with
    | .name _ | .opening => cases h
    | .closing | .keyword .and | .keyword .or | .keyword .not =>
      cases h
      rfl
  | operator =>
    match t, depth with
    | .keyword .and, _ | .keyword .or, _ | .closing, _ + 1 => cases h
    | .keyword .not, 0 | .name _, 0 | .opening, 0 | .closing, 0 =>
      cases h
      exact .inl ⟨rfl, rfl⟩
    | .keyword .not, k + 1 | .name _, k + 1 | .opening, k + 1 =>
      cases h
      exact .inr (.inl ⟨k, rfl, rfl⟩)

/-- A walk that fails has walked up to the token that fails. -/
theorem walk_eq_error {s : Position} {ts : List Token} {f : Fault} (h : walk s ts = .error f) :
    ∃ i t s', ts[i]? = some t ∧ walk s (ts.take i) = .ok s' ∧ step s' t = .error f := by
  induction ts generalizing s with
  | nil => cases h
  | cons t ts ih =>
    rw [walk] at h
    cases hstep : step s t with
    | error g =>
      rw [hstep] at h
      cases h
      exact ⟨0, t, s, rfl, rfl, hstep⟩
    | ok mid =>
      rw [hstep] at h
      obtain ⟨i, u, s', hu, hwalk, herror⟩ := ih h
      refine ⟨i + 1, u, s', hu, ?_, herror⟩
      rw [List.take_succ_cons, walk, hstep]
      exact hwalk

theorem walk_of_append {s s' : Position} {ts us : List Token} (h : walk s (ts ++ us) = .ok s') :
    ∃ mid, walk s ts = .ok mid ∧ walk mid us = .ok s' := by
  rw [walk_append] at h
  exact bind_eq_ok h

end Position

open Position

theorem accepted_iff {ts : List Token} : Accepted ts ↔ walk start ts = .ok accepting := by
  by_cases hne : ts = []
  · subst hne
    refine iff_of_false ?_ (by simp [walk, start, accepting])
    rintro ⟨e, he⟩
    cases he
  · rw [← scan_eq_ok_iff, ← parseTokens_eq_scan hne]
    constructor
    · rintro ⟨e, he⟩
      rw [he]
      rfl
    · intro h
      obtain ⟨e, he, -⟩ := map_eq_ok h
      exact ⟨e, he⟩

theorem viable_iff {ts : List Token} : Viable ts ↔ ∃ s, walk start ts = .ok s := by
  constructor
  · rintro ⟨us, h⟩
    obtain ⟨s, hs, -⟩ := walk_of_append (accepted_iff.mp h)
    exact ⟨s, hs⟩
  · rintro ⟨s, hs⟩
    obtain ⟨us, hus⟩ := exists_walk_accepting s
    refine ⟨us, accepted_iff.mpr ?_⟩
    rw [walk_append, hs]
    exact hus

theorem lacksClosing_iff {ts : List Token} :
    LacksClosing ts ↔ ∃ k, walk start ts = .ok ⟨.operator, k + 1⟩ := by
  constructor
  · rintro ⟨k, hk, h⟩
    obtain ⟨s, hs, hclose⟩ := walk_of_append (accepted_iff.mp h)
    obtain ⟨k, rfl⟩ : ∃ k', k = k' + 1 := ⟨k - 1, by omega⟩
    rw [List.replicate_succ, walk] at hclose
    obtain ⟨mid, hstep, -⟩ := bind_eq_ok hclose
    rw [(step_closing_eq_ok hstep).1] at hs
    exact ⟨mid.depth, hs⟩
  · rintro ⟨k, hk⟩
    refine ⟨k + 1, by omega, accepted_iff.mpr ?_⟩
    rw [walk_append, hk]
    exact walk_closing (k + 1)

/-- The beginning of tokens that can be completed can be completed. -/
theorem Viable.take {ts : List Token} (h : Viable ts) (n : Nat) : Viable (ts.take n) := by
  obtain ⟨us, hus⟩ := h
  refine ⟨ts.drop n ++ us, ?_⟩
  rwa [← List.append_assoc, List.take_append_drop]

/-- The token at which a walk fails is the first unfit one. -/
theorem firstUnfit_of_walk {ts : List Token} {i : Nat} {t : Token} {s : Position} {f : Fault}
    (hplace : ts[i]? = some t) (hwalk : walk start (ts.take i) = .ok s)
    (hstep : step s t = .error f) : FirstUnfit ts i t where
  at_place := hplace
  unfit := by
    intro h
    obtain ⟨s', hs'⟩ := viable_iff.mp h
    have htake : ts.take (i + 1) = ts.take i ++ [t] := by
      rw [List.take_add_one, hplace]
      rfl
    rw [htake, walk_append, hwalk] at hs'
    simp [Except.bind, walk, hstep] at hs'
  first := by
    intro j hj
    have h : Viable (ts.take i) := viable_iff.mpr ⟨s, hwalk⟩
    have hle : j + 1 ≤ i := hj
    have := h.take (j + 1)
    rwa [List.take_take, Nat.min_eq_left hle] at this

/-- The fault of tokens that are not empty is the one at the end or at the first unfit token. -/
theorem blamed_of_scan {ts : List Token} {f : Fault} (hne : ts ≠ [])
    (h : scan start ts = .error f) : Blamed ts f.text := by
  refine ⟨fun hnil => absurd hnil hne, fun _ hviable => ?_, fun hviable => ?_⟩
  · obtain ⟨s, hs⟩ := viable_iff.mp hviable
    rw [scan, hs] at h
    simp only [Except.bind, finish] at h
    split at h
    · cases h
    · cases h
      rfl
  · have hwalk : walk start ts = .error f := by
      cases hw : walk start ts with
      | ok s => exact absurd (viable_iff.mpr ⟨s, hw⟩) hviable
      | error g =>
        rw [scan, hw] at h
        cases h
        rfl
    obtain ⟨i, t, s, hplace, hs, hstep⟩ := walk_eq_error hwalk
    refine ⟨i, t, firstUnfit_of_walk hplace hs hstep, ?_⟩
    rw [accepted_iff, lacksClosing_iff, hs]
    -- The position before the unfit token tells the three texts apart.
    rcases step_eq_error hstep with ⟨rfl, rfl⟩ | ⟨k, rfl, rfl⟩ | ⟨hdue, rfl⟩
    · simp [Fault.text, accepting, String.append_assoc]
    · simp [Fault.text, accepting, String.append_assoc]
    · have hnot : ∀ depth, s ≠ ⟨.operator, depth⟩ := fun depth hs => hdue (by rw [hs])
      simp [Fault.text, accepting, hnot, String.append_assoc]

/-- A rejected token list is reported with its source, or else with its own tokens, and the report
blames the first token that no continuation could make good, if there is one. -/
theorem parseFrom_error_blames_first_unfit (source : Option String) (ts : List Token) (e : Error)
    (h : parseFrom source ts = .error e) :
    e.source = source.getD (" ".intercalate (ts.map Token.text)) ∧
    ∃ detail, e.message = "Invalid expression \"" ++ e.source ++ "\": " ++ detail ∧
      Blamed ts detail := by
  rw [parseFrom_eq] at h
  cases hp : parseTokens ts with
  | ok e =>
    rw [hp] at h
    cases h
  | error f =>
    rw [hp] at h
    cases h
    refine ⟨rfl, f.text, by simp [Error.message, String.append_assoc], ?_⟩
    by_cases hne : ts = []
    · subst hne
      cases hp
      refine ⟨fun _ => rfl, fun h => absurd rfl h, fun h => ?_⟩
      exact absurd (viable_iff.mpr ⟨start, rfl⟩) h
    · have hscan := parseTokens_eq_scan hne
      rw [hp] at hscan
      exact blamed_of_scan hne hscan.symm

/-- Two parentheses are open where a second name follows the first. -/
theorem parseFrom_error_blames_first_unfit_unclosed :
    let ts : List Token := [.opening, .opening, .name "a", .name "b"]
    ∃ e, parseFrom none ts = .error e ∧
      e.message = "Invalid expression \"( ( a b\": expected \")\" but found \"b\"" ∧
      e.source = (none : Option String).getD (" ".intercalate (ts.map Token.text)) ∧
      ∃ detail, e.message = "Invalid expression \"" ++ e.source ++ "\": " ++ detail ∧
        Blamed ts detail := by
  intro ts
  have h : parseFrom none ts = .error ⟨"( ( a b", .fault (.unclosed (.name "b"))⟩ := by
    cbv
  exact ⟨_, h, by decide, parseFrom_error_blames_first_unfit none ts _ h⟩

end GuardedText.Guard
