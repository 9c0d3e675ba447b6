/-! The directive prefix: what a line starts with to be a directive. -/

namespace GuardedText

namespace Prefix

/-- ASCII letters, digits and punctuation. -/
def admits (c : Char) : Bool :=
  0x21 ≤ c.toNat && c.toNat ≤ 0x7E

end Prefix

structure Prefix where
  text : String
  nonempty : text ≠ ""
  admitted : text.toList.all Prefix.admits = true

/-- The prefix in force where none is chosen. -/
def Prefix.standard : Prefix where
  text := "#"
  nonempty := by decide
  admitted := by decide

end GuardedText
