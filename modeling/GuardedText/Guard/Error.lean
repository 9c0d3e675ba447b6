import GuardedText.Guard.Token

/-! Why a guard text cannot be read. -/

namespace GuardedText.Guard

/-- The fault in a token sequence; the token named is the first that cannot stand where it does. -/
inductive Fault where
  | empty
  | unexpectedEnd
  | unclosed (found : Token)
  | unexpected (found : Token)
  | trailing (found : Token)
  deriving DecidableEq, Repr

def Fault.text : Fault → String
  | .empty => "empty expression"
  | .unexpectedEnd => "unexpected end of expression"
  | .unclosed t => String.join ["expected \")\" but found \"", t.text, "\""]
  | .unexpected t => String.join ["unexpected \"", t.text, "\""]
  | .trailing t => String.join ["unexpected \"", t.text, "\" after expression"]

/-- A rejected guard: a fault found in reading it, or a report made elsewhere, with a text of its
own or without. -/
inductive Reason where
  | fault (f : Fault)
  | reported (text : Option String)
  deriving DecidableEq, Repr

structure Error where
  source : String
  reason : Reason
  deriving DecidableEq, Repr

def Error.message (e : Error) : String :=
  match e.reason with
  | .fault f => String.join ["Invalid expression \"", e.source, "\": ", f.text]
  | .reported (some text) => text
  | .reported none => String.join ["Invalid expression: \"", e.source, "\""]

end GuardedText.Guard
