import ChartNet.Main
import ChartNet.Proofs.EventNames
import ChartNet.Proofs.Registration
import ChartNet.Proofs.WellFormed
import ChartNet.Proofs.Alternation
import ChartNet.Proofs.Exchange
import ChartNet.Proofs.Arbitration
import ChartNet.Proofs.Declared
import ChartNet.Proofs.Directory
import ChartNet.Proofs.Gathering
import ChartNet.Proofs.Acceptance
import ChartNet.Proofs.PlainForm
import ChartNet.Proofs.Doubles
import ChartNet.Proofs.Rounding
import ChartNet.Proofs.Numerals
import ChartNet.Proofs.Attributes
import ChartNet.Proofs.Markup
import ChartNet.Proofs.Blanks
import ChartNet.Proofs.Elements
import ChartNet.Proofs.Grammar
import ChartNet.Proofs.StartTags
import ChartNet.Proofs.EndTags
import ChartNet.Proofs.Recognition
import ChartNet.Proofs.Spelling
import ChartNet.Proofs.RoundTrip
import ChartNet.Proofs.Contents
import ChartNet.Proofs.Images
import ChartNet.Proofs.Survival
import ChartNet.Proofs.Agreement
import ChartNet.Proofs.CrossTalk
import ChartNet.Proofs.Recompiling
import ChartNet.Proofs.SelfLoops
import ChartNet.Proofs.Reordering
import ChartNet.Proofs.Enrolment
import ChartNet.Proofs.Resolution
import ChartNet.Proofs.Circulation
import ChartNet.Proofs.Merging
import ChartNet.Proofs.Redeclaring
import ChartNet.Proofs.Respelling
import ChartNet.Proofs.FileTrees
import ChartNet.Proofs.Conversion
import ChartNet.Proofs.Nesting
import ChartNet.Proofs.Registries
import ChartNet.Proofs.Synthesis
import ChartNet.Proofs.Stopping
import ChartNet.Proofs.Breaches
import ChartNet.Proofs.Precedence
import ChartNet.Proofs.SuppliedFields
import ChartNet.Proofs.FloatOrder
import ChartNet.Proofs.Typing
import ChartNet.Proofs.Mentions
import ChartNet.Proofs.Loading
import ChartNet.Proofs.ExactArithmetic
import ChartNet.Proofs.Dependence
import ChartNet.Proofs.Comparison
import ChartNet.Proofs.OpenElements
