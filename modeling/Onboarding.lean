import Onboarding.Engine
import Onboarding.Proofs.Check.Accuracy
import Onboarding.Proofs.Check.Blank
import Onboarding.Proofs.Check.Endings
import Onboarding.Proofs.Check.Extension
import Onboarding.Proofs.Check.Fenced
import Onboarding.Proofs.Check.Independence
import Onboarding.Proofs.Check.Insertion
import Onboarding.Proofs.Check.Numbers
import Onboarding.Proofs.Check.Partial
import Onboarding.Proofs.Check.Suggestion
import Onboarding.Proofs.Check.Tables
import Onboarding.Proofs.Check.Title
import Onboarding.Proofs.Config.Arrays
import Onboarding.Proofs.Config.Brackets
import Onboarding.Proofs.Config.Comments
import Onboarding.Proofs.Config.Headers
import Onboarding.Proofs.Config.Layout
import Onboarding.Proofs.Config.Reading
import Onboarding.Proofs.Config.RoundTrip
import Onboarding.Proofs.Config.Segments
import Onboarding.Proofs.Config.Tables
import Onboarding.Proofs.Config.Valueless
import Onboarding.Proofs.Document.Blank
import Onboarding.Proofs.Document.Blocks
import Onboarding.Proofs.Document.Headings
import Onboarding.Proofs.Document.Lookup
import Onboarding.Proofs.Document.Numbers
import Onboarding.Proofs.Document.Parity
import Onboarding.Proofs.Document.Parts
import Onboarding.Proofs.Document.Rendering
import Onboarding.Proofs.Document.Sections
import Onboarding.Proofs.Document.Slices
import Onboarding.Proofs.Kind
import Onboarding.Proofs.Report
import Onboarding.Proofs.Secret.Bare
import Onboarding.Proofs.Secret.Case
import Onboarding.Proofs.Secret.Passages
import Onboarding.Proofs.Secret.Prefix
import Onboarding.Proofs.Secret.Quoted
import Onboarding.Proofs.Secret.Rules
import Onboarding.Proofs.Secret.Shapes
import Onboarding.Proofs.Secret.Signs
import Onboarding.Proofs.Secret.Spelling
import Onboarding.Proofs.Secret.Usable
import Onboarding.Proofs.Settings.Fieldwise
import Onboarding.Proofs.Settings.Loading
import Onboarding.Proofs.Settings.Writing
import Onboarding.Settings.Loading
