import GuardedText.NameSource
import GuardedText.Template.Basic
import GuardedText.Value.Describe

/-! Rendering for callers: the names come from a source of any kind, and what is handed in for the
template may be no template at all. -/

namespace GuardedText.Template

def renderFrom (t : Template) (source : Value) : Except NameSource.SourceError String :=
  (NameSource.names source).map fun names => t.render (NameSource.active names)

/-- Something other than a compiled template was to be rendered. -/
structure UsageError where
  message : String
  deriving DecidableEq, Repr

inductive RenderError where
  | usage (e : UsageError)
  /-- The thing to render can be neither rendered nor described. -/
  | indescribable
  | source (e : NameSource.SourceError)

/-- What is handed in to be rendered. -/
inductive Subject where
  | template (t : Template)
  | other (v : Value)

/-- A subject that is no template is refused before the source is looked at. -/
def renderSubject (subject : Subject) (source : Value) : Except RenderError String :=
  match subject with
  | .template t => (t.renderFrom source).mapError .source
  | .other v =>
    match v.designation? with
    | some description => .error (.usage ⟨"Expected a compiled Template, got " ++ description⟩)
    | none => .error .indescribable

end GuardedText.Template
