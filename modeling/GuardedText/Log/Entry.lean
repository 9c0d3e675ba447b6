import GuardedText.Json
import GuardedText.Text.Case

/-! Lines of a log: time, level, label, message and, if there is any, the context as JSON. -/

namespace GuardedText.Log

/-- The context as it ends a line: nothing if it counts as false or has no fields. -/
def contextText (context : Value) : Except Value.JsonError String :=
  match context.truthy, context.ownKeys with
  | true, _ :: _ => context.toJson?.map fun j => " " ++ j.elim "undefined" Json.compact
  | _, _ => .ok ""

/-- The line for a record; the level stands in capitals, five units wide or wider. -/
def entry (timestamp level label message : String) (context : Value) :
    Except Value.JsonError String :=
  (contextText context).map fun tail =>
    "[" ++ timestamp ++ "] [" ++ Text.padRight 5 (Text.upper level) ++ "] [" ++ label ++ "] " ++
      message ++ tail

inductive EntryError where
  | invalidTime
  | context (e : Value.JsonError)
  deriving DecidableEq, Repr

/-- The line for a record made at a time. -/
def entryAt (time : Option Instant) (level label message : String) (context : Value) :
    Except EntryError String :=
  match time with
  | none => .error .invalidTime
  | some t => (entry t.isoText level label message context).mapError .context

end GuardedText.Log
