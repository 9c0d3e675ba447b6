import GuardedText.Settings.Check
import GuardedText.Template.Nesting

/-! Compiling under a prefix that is a value of any kind. The prefix is checked before the first
line is read, and an absent one stands for the standard prefix. -/

namespace GuardedText.Template

/-- Why there is no template: the prefix was rejected, or the document. -/
inductive Rejected where
  | settings (e : Settings.Error)
  | compile (e : CompileError)

/-- The template that `compile` makes under the prefix in a value. -/
def compileUnder (directivePrefix : Value) (compile : String → Except CompileError Template) :
    Except Rejected Template :=
  match Settings.ofPrefixOption directivePrefix with
  | .error e => .error (.settings e)
  | .ok settings => (compile settings.directivePrefix.text).mapError .compile

def compileLinesUnder (directivePrefix : Value) (lines : List String) :
    Except Rejected Template :=
  compileUnder directivePrefix fun p => compileLines p lines

def compileTextUnder (directivePrefix : Value) (text : String) : Except Rejected Template :=
  compileUnder directivePrefix fun p => compileText p text

/-- How many of the lines have been read when compiling is over, with a template or without. -/
def linesRead (directivePrefix : Value) (lines : List String) : Nat :=
  match Settings.ofPrefixOption directivePrefix with
  | .error _ => 0
  | .ok settings => lines.length - (readLines settings.directivePrefix.text lines).2.length

end GuardedText.Template
