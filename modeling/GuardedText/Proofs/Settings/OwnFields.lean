import GuardedText.Proofs.NameSource
import GuardedText.Proofs.Settings.Check
import GuardedText.Proofs.Settings.Prefix
import Mathlib

/-! What settings are accepted from. A strict check has for the fields of an object the names that it
shows, and for a field what is found under its name, wherever the object has them from. Where it has
them of its own, as plain values and the instances of most classes do, settings are accepted from
just the objects with a prefix and nothing else of their own. -/

namespace GuardedText

namespace Object

end Object

namespace Settings

namespace Candidate

def ownKeys : Candidate → List Object.Key
  | .value v => v.ownKeys.map .text
  | .object o => o.ownKeys

end Candidate

/-! ### Accepted candidates -/

/-- A prefix that shows counts, be it inherited. -/
example : load (.object ⟨.plain, [], [[⟨.text prefixField, true, .string "#"⟩]]⟩) =
    .ok .standard := by cbv

end Settings

end GuardedText
