import MarkdownLint.Diagnostic.Read
import MarkdownLint.Run
import MarkdownLint.Settings
import MarkdownLint.Proofs.LineStarts
import MarkdownLint.Proofs.LineEnds
import MarkdownLint.Proofs.LineCounts
import MarkdownLint.Proofs.Positions
import MarkdownLint.Proofs.Loading
import MarkdownLint.Proofs.Places
import MarkdownLint.Proofs.Preorder
import MarkdownLint.Proofs.TypedWalks
import MarkdownLint.Proofs.Anchors
import MarkdownLint.Proofs.Nesting
import MarkdownLint.Proofs.Entries
import MarkdownLint.Proofs.LoadedTree
import MarkdownLint.Proofs.Spelling
import MarkdownLint.Proofs.PointForms
import MarkdownLint.Proofs.Reports
import MarkdownLint.Proofs.SoundRules
import MarkdownLint.Proofs.Deviations
import MarkdownLint.Proofs.FeedLines
import MarkdownLint.Proofs.Observations
import MarkdownLint.Proofs.Options
import MarkdownLint.Proofs.Descriptions
import MarkdownLint.Proofs.Outcomes
import MarkdownLint.Proofs.Blocks
import MarkdownLint.Proofs.RegistryHistory
import MarkdownLint.Proofs.RunPairs
import MarkdownLint.Proofs.SameShape
import MarkdownLint.Proofs.SettingForms
import MarkdownLint.Proofs.SinkCalls
import MarkdownLint.Proofs.DataPlaces
import MarkdownLint.Proofs.LoadCourse
import MarkdownLint.Proofs.EntryFaults
import MarkdownLint.Proofs.Writable
import MarkdownLint.Proofs.FirstFault
import MarkdownLint.Proofs.LoadEndings
import MarkdownLint.Proofs.LoadedAnchors
import MarkdownLint.Proofs.Unlimited
import MarkdownLint.Proofs.Cycles
import MarkdownLint.Proofs.Blueprints
import MarkdownLint.Proofs.BlueprintLoading
import MarkdownLint.Proofs.MissingBlanks
import MarkdownLint.Proofs.ExceedingSpans
import MarkdownLint.Proofs.FalseAlarms
import MarkdownLint.Text.Base64
import MarkdownLint.Text.Digit
import MarkdownLint.Yaml.Assembly
import MarkdownLint.Yaml.Document
