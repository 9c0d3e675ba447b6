import GuardedText.Cipher.Aes
import GuardedText.Cipher.Gcm
import GuardedText.Files.Path
import GuardedText.Files.Tree
import GuardedText.Files.View
import GuardedText.Guard.Error
import GuardedText.Guard.Expr
import GuardedText.Guard.Parse
import GuardedText.Guard.Token
import GuardedText.Instant
import GuardedText.Instant.Written
import GuardedText.Json
import GuardedText.Log.Entry
import GuardedText.Log.Level
import GuardedText.Log.Writer
import GuardedText.Main
import GuardedText.NameSource
import GuardedText.Number
import GuardedText.Processor
import GuardedText.Session
import GuardedText.Settings.Check
import GuardedText.Settings.Environment
import GuardedText.Settings.Prefix
import GuardedText.Settings.SealedFile
import GuardedText.Settings.VariableFile
import GuardedText.Settings.VariableSource
import GuardedText.Store
import GuardedText.Template.Basic
import GuardedText.Template.Checked
import GuardedText.Template.Directive
import GuardedText.Template.Nesting
import GuardedText.Template.Subject
import GuardedText.Text.Address
import GuardedText.Text.Blank
import GuardedText.Text.Case
import GuardedText.Text.CaseTable
import GuardedText.Text.Decimal
import GuardedText.Text.Encoding
import GuardedText.Text.Lines
import GuardedText.Text.Quoted
import GuardedText.Text.Units
import GuardedText.Text.Utf8
import GuardedText.Tool.Arguments
import GuardedText.Tool.Help
import GuardedText.Tool.Report
import GuardedText.Tool.Run
import GuardedText.Value.Basic
import GuardedText.Value.Describe
import GuardedText.Value.Object
import GuardedText.World
import GuardedText.Proofs.Guard.Grammar
import GuardedText.Proofs.Template.Draft
import GuardedText.Proofs.Template.Diagnosis
import GuardedText.Proofs.NameSource
import GuardedText.Proofs.Template.OnePass
import GuardedText.Proofs.Guard.Lexing
import GuardedText.Proofs.Guard.Printing
import GuardedText.Proofs.Template.NormalForm
import GuardedText.Proofs.Template.Printing
import GuardedText.Proofs.Processor
import GuardedText.Proofs.Template.Rendered
import GuardedText.Proofs.Session.Effect
import GuardedText.Proofs.Session.Independence
import GuardedText.Proofs.Store.Fetch
import GuardedText.Proofs.Store.Snapshots
import GuardedText.Proofs.Text.Units
import GuardedText.Proofs.Guard.Blame
import GuardedText.Proofs.Guard.Truth
import GuardedText.Proofs.Template.Completion
import GuardedText.Proofs.Files.Tree
import GuardedText.Proofs.Log.Writer
import GuardedText.Proofs.Tool.Failure
import GuardedText.Proofs.Guard.Names
import GuardedText.Proofs.Guard.Substitution
import GuardedText.Proofs.Template.PrefixChange
import GuardedText.Proofs.Template.UsedNames
import GuardedText.Proofs.Template.Continuation
import GuardedText.Proofs.Template.Composition
import GuardedText.Proofs.Template.Recognition
import GuardedText.Proofs.Template.LineEnds
import GuardedText.Proofs.Template.Presentation
import GuardedText.Proofs.Settings.OwnFields
import GuardedText.Proofs.Settings.Entrances
import GuardedText.Proofs.Json.Reading
import GuardedText.Proofs.Tool.Report
import GuardedText.Proofs.Value.Json
import GuardedText.Proofs.Json.OneLine
import GuardedText.Proofs.Log.Entry
import GuardedText.Proofs.Log.Calls
import GuardedText.Proofs.Files.Elsewhere
import GuardedText.Proofs.Settings.Environment
import GuardedText.Proofs.Tool.LogLevel
import GuardedText.Proofs.Processor.Journal
import GuardedText.Proofs.Text.Utf8
import GuardedText.Proofs.Tool.Delivery
import GuardedText.Proofs.Value.Describe
import GuardedText.Proofs.Template.Misuse
import GuardedText.Proofs.Files.Path
import GuardedText.Proofs.Files.Regular
import GuardedText.Proofs.Store.Listing
import GuardedText.Proofs.Guard.Spelling
import GuardedText.Proofs.Store.CompiledOnce
