import GuardedText.Files.Tree
import GuardedText.Log.Level

/-! What a program sees and changes besides its arguments: files, the directory it runs in, the text
of the current time, and the lines it has printed, each on the channel of a log level. -/

namespace GuardedText

structure World where
  files : Files.Tree
  here : Files.Location
  timestamp : String
  printed : List (Log.Level × String)

namespace World

def print (w : World) (channel : Log.Level) (line : String) : World :=
  { w with printed := w.printed ++ [(channel, line)] }

/-- The lines that went to the channels that satisfy `p`. -/
def textOf (w : World) (p : Log.Level → Bool) : String :=
  String.join ((w.printed.filter fun line => p line.1).map (·.2 ++ "\n"))

/-- The lines that went to the channels of warnings and errors. -/
def errorText (w : World) : String :=
  w.textOf fun level => level == .warn || level == .error

/-- The lines that went to the other channels. -/
def outputText (w : World) : String :=
  w.textOf fun level => level == .debug || level == .info

end World

end GuardedText
