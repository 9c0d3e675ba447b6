/-! The 16-bit view of text. Names are ordered by their UTF-16 code units, which differs from the
order of code points where a surrogate meets a unit from U+E000 on, and widths are counted in such
units too. -/

namespace GuardedText.Text

/-- The one or two 16-bit units that encode a character. -/
def unitsOf (c : Char) : List Nat :=
  let n := c.toNat
  if n < 0x10000 then [n]
  else [0xD800 + (n - 0x10000) / 0x400, 0xDC00 + (n - 0x10000) % 0x400]

def units (s : String) : List Nat :=
  s.toList.flatMap unitsOf

/-- The character for a unit on its own. A surrogate is none and becomes the replacement
character. -/
def charOfUnit (n : Nat) : Char :=
  if 0xD800 ≤ n ∧ n < 0xE000 then Char.ofNat 0xFFFD else Char.ofNat n

/-- The characters that units encode, surrogates in pairs. -/
def charsOfUnits : List Nat → List Char
  | [] => []
  | [n] => [charOfUnit n]
  | high :: low :: rest =>
    if 0xD800 ≤ high ∧ high < 0xDC00 ∧ 0xDC00 ≤ low ∧ low < 0xE000 then
      Char.ofNat (0x10000 + (high - 0xD800) * 0x400 + (low - 0xDC00)) :: charsOfUnits rest
    else charOfUnit high :: charsOfUnits (low :: rest)

/-- Lexicographic order, reflexive. -/
def unitsLe (a b : List Nat) : Bool :=
  !decide (b < a)

/-- Names in the order of their units, each of them taken apart once. -/
def sortNames (names : List String) : List String :=
  ((names.map fun s => (units s, s)).mergeSort fun a b => unitsLe a.1 b.1).map (·.2)

/-- Each member once, at the place of its first occurrence. -/
def distinct {α : Type} [BEq α] : List α → List α
  | [] => []
  | x :: xs => x :: (distinct xs).filter (fun y => !(y == x))

theorem mem_distinct {α : Type} [BEq α] [LawfulBEq α] {a : α} {xs : List α} :
    a ∈ distinct xs ↔ a ∈ xs := by
  induction xs with
  | nil => simp [distinct]
  | cons x xs ih =>
    by_cases h : a = x <;> simp [distinct, ih, h]

theorem nodup_distinct {α : Type} [BEq α] [LawfulBEq α] (xs : List α) : (distinct xs).Nodup := by
  induction xs with
  | nil => simp [distinct]
  | cons x xs ih => exact List.nodup_cons.mpr ⟨by simp, ih.sublist List.filter_sublist⟩

theorem distinct_filter {α : Type} [BEq α] [LawfulBEq α] (p : α → Bool) (xs : List α) :
    distinct (xs.filter p) = (distinct xs).filter p := by
  induction xs with
  | nil => rfl
  | cons x xs ih =>
    rw [distinct, List.filter_cons, List.filter_cons]
    split
    · rw [distinct, ih, List.filter_filter, List.filter_filter]
      simp only [Bool.and_comm]
    · next hx =>
      rw [ih, List.filter_filter]
      refine List.filter_congr fun y _ => ?_
      by_cases hy : y = x <;> simp [hy, hx]

/-- It is the list without its later repetitions. -/
theorem distinct_eq_eraseDups {α : Type} [BEq α] [LawfulBEq α] :
    ∀ xs : List α, distinct xs = xs.eraseDups
  | [] => by simp [distinct]
  | x :: xs => by
    rw [distinct, List.eraseDups_cons, ← distinct_filter, distinct_eq_eraseDups]
termination_by xs => xs.length
decreasing_by
  have := List.length_filter_le (fun y => !(y == x)) xs
  simp only [List.length_cons]
  omega

/-- The text with spaces after it up to a width in 16-bit units. -/
def padRight (width : Nat) (s : String) : String :=
  s ++ String.ofList (List.replicate (width - (units s).length) ' ')

end GuardedText.Text
