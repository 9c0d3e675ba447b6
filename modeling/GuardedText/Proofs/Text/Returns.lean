import GuardedText.Proofs.Text.Lines
import Mathlib.Logic.Relation

/-! Carriage returns at the ends of lines. They may be added or left out directly before a line feed
and at the end of a document, and what is left when all of them are gone is what its lines are
without their ends. A carriage return within a line stays. -/

namespace GuardedText.Text

/-- Only carriage returns stand before the next line feed, or before the end. -/
def atLineEnd : List Char → Bool
  | [] => true
  | c :: rest => c = '\n' || c = '\r' && atLineEnd rest

/-- The text without each run of carriage returns that a line feed or the end follows. -/
def dropReturns : List Char → List Char
  | [] => []
  | c :: rest =>
    if c = '\r' ∧ atLineEnd rest = true then dropReturns rest else c :: dropReturns rest

def withoutReturns (s : String) : String :=
  String.ofList (dropReturns s.toList)

/-- Nothing is left, or a line feed begins the text. -/
def FeedFirst (rest : List Char) : Prop :=
  ∀ c ∈ rest.head?, c = '\n'

/-- The second text has one carriage return more, directly before a line feed or at the end. -/
def AddsReturn (s t : String) : Prop :=
  ∃ front rest, FeedFirst rest ∧ s = String.ofList (front ++ rest) ∧
    t = String.ofList (front ++ '\r' :: rest)

/-- The texts differ in carriage returns before line feeds and at the end, and in nothing else. -/
def SameButReturns : String → String → Prop :=
  Relation.EqvGen AddsReturn

theorem FeedFirst.nil : FeedFirst [] := by
  simp [FeedFirst]

theorem FeedFirst.cons (rest : List Char) : FeedFirst ('\n' :: rest) := by
  simp [FeedFirst]

theorem FeedFirst.atLineEnd {rest : List Char} (h : FeedFirst rest) : atLineEnd rest = true := by
  cases rest with
  | nil => rfl
  | cons c rest =>
    have hc : c = '\n' := h c rfl
    simp [Text.atLineEnd, hc]

/-! ### One carriage return more -/

theorem atLineEnd_insert (front : List Char) {rest : List Char} (h : FeedFirst rest) :
    atLineEnd (front ++ '\r' :: rest) = atLineEnd (front ++ rest) := by
  induction front with
  | nil => simp [atLineEnd, h.atLineEnd]
  | cons c front ih => rw [List.cons_append, List.cons_append, atLineEnd, atLineEnd, ih]

theorem dropReturns_insert (front : List Char) {rest : List Char} (h : FeedFirst rest) :
    dropReturns (front ++ '\r' :: rest) = dropReturns (front ++ rest) := by
  induction front with
  | nil => rw [List.nil_append, dropReturns, if_pos ⟨rfl, h.atLineEnd⟩, List.nil_append]
  | cons c front ih =>
    rw [List.cons_append, List.cons_append, dropReturns, dropReturns, atLineEnd_insert front h, ih]

/-- Texts that differ in such carriage returns only are one text without them. -/
theorem SameButReturns.withoutReturns_eq {s t : String} (h : SameButReturns s t) :
    withoutReturns s = withoutReturns t := by
  induction h with
  | rel s t hadd =>
    obtain ⟨front, rest, hrest, rfl, rfl⟩ := hadd
    rw [withoutReturns, withoutReturns, String.toList_ofList, String.toList_ofList,
      dropReturns_insert front hrest]
  | refl s => rfl
  | symm s t _ ih => exact ih.symm
  | trans s t u _ _ ih ih' => exact ih.trans ih'

theorem dropReturns_of_not_mem {s : List Char} (h : '\r' ∉ s) : dropReturns s = s := by
  induction s with
  | nil => rfl
  | cons c s ih =>
    obtain ⟨hc, hs⟩ := not_or.mp (mt List.mem_cons.mpr h)
    rw [dropReturns, if_neg fun hcr => hc hcr.1.symm, ih hs]

theorem withoutReturns_of_not_mem {s : String} (h : '\r' ∉ s.toList) : withoutReturns s = s := by
  rw [withoutReturns, dropReturns_of_not_mem h, String.ofList_toList]

/-! ### Line by line -/

/-- Within a line the line end is told by its own characters. -/
theorem atLineEnd_append_iff {line rest : List Char} (hline : '\n' ∉ line) (hrest : FeedFirst rest) :
    atLineEnd (line ++ rest) = true ↔ dropEndWhile isLineEnd line = [] := by
  induction line with
  | nil => simpa using ⟨fun _ => rfl, fun _ => hrest.atLineEnd⟩
  | cons c line ih =>
    obtain ⟨hc, hline⟩ := not_or.mp (mt List.mem_cons.mpr hline)
    rw [List.cons_append, atLineEnd, dropEndWhile_cons]
    simp [Ne.symm hc, ih hline, isLineEnd, and_comm]

/-- A line loses its carriage returns at its end only, and those are its line end. -/
theorem dropReturns_append {line rest : List Char} (hline : '\n' ∉ line) (hrest : FeedFirst rest) :
    dropReturns (line ++ rest) = dropEndWhile isLineEnd line ++ dropReturns rest := by
  induction line with
  | nil => rfl
  | cons c line ih =>
    obtain ⟨hc, hline⟩ := not_or.mp (mt List.mem_cons.mpr hline)
    have hend : (c = '\r' ∧ atLineEnd (line ++ rest) = true) ↔
        dropEndWhile isLineEnd line = [] ∧ isLineEnd c = true := by
      rw [atLineEnd_append_iff hline hrest, and_comm]
      simp [isLineEnd, Ne.symm hc]
    rw [List.cons_append, dropReturns, dropEndWhile_cons, ih hline]
    by_cases h : dropEndWhile isLineEnd line = [] ∧ isLineEnd c = true
    · rw [if_pos (hend.mpr h), if_pos h, h.1]
    · rw [if_neg (mt hend.mp h), if_neg h, List.cons_append]

theorem dropReturns_lineFeed (rest : List Char) :
    dropReturns ('\n' :: rest) = '\n' :: dropReturns rest := by
  rw [dropReturns, if_neg (by simp)]

theorem dropReturns_intercalate {lines : List String} (h : ∀ line ∈ lines, '\n' ∉ line.toList) :
    dropReturns (lineBreak.intercalate lines).toList =
      (lineBreak.intercalate (lines.map dropLineEnd)).toList := by
  induction lines with
  | nil => rfl
  | cons line lines ih =>
    obtain ⟨hline, hlines⟩ := List.forall_mem_cons.mp h
    cases lines with
    | nil =>
      have hlast := dropReturns_append hline .nil
      rw [List.append_nil] at hlast
      simpa [dropLineEnd, dropReturns] using hlast
    | cons next lines =>
      rw [List.map_cons, List.map_cons, String.intercalate_cons_cons, String.intercalate_cons_cons,
        ← List.map_cons, String.toList_append, String.toList_append, String.toList_append,
        String.toList_append, ← ih hlines, List.append_assoc, List.append_assoc,
        show lineBreak.toList = ['\n'] from rfl, List.singleton_append, List.singleton_append,
        dropReturns_append hline (.cons _), dropReturns_lineFeed, dropLineEnd, String.toList_ofList]

/-- Without carriage returns before its line feeds and at its end, a document has the lines that it
has, without their ends. -/
theorem splitLines_withoutReturns (s : String) :
    splitLines (withoutReturns s) = (splitLines s).map dropLineEnd := by
  have hlines : ∀ line ∈ splitLines s, '\n' ∉ line.toList := fun _ => not_mem_of_mem_splitLines
  have hs : withoutReturns s = lineBreak.intercalate ((splitLines s).map dropLineEnd) := by
    rw [withoutReturns, ← String.toList_inj, String.toList_ofList, ← dropReturns_intercalate hlines,
      intercalate_splitLines]
  rw [hs, splitLines_intercalate (by simp [splitLines_ne_nil])]
  intro line hline
  obtain ⟨raw, hraw, rfl⟩ := List.mem_map.mp hline
  exact fun hmem => hlines raw hraw (mem_of_mem_dropLineEnd hmem)

end GuardedText.Text
