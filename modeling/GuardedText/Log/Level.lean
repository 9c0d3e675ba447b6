/-! Severities of log records. -/

namespace GuardedText.Log

inductive Level where
  | debug | info | warn | error
  deriving DecidableEq, Repr

namespace Level

def name : Level → String
  | .debug => "debug"
  | .info => "info"
  | .warn => "warn"
  | .error => "error"

def priority : Level → Nat
  | .debug => 0
  | .info => 1
  | .warn => 2
  | .error => 3

def all : List Level := [.debug, .info, .warn, .error]

def ofName? (s : String) : Option Level :=
  all.find? (·.name == s)

end Level

end GuardedText.Log
