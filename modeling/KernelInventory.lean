import KernelInventory.Main
import KernelInventory.Proofs.Guard.Classification
import KernelInventory.Proofs.Guard.Extraction
import KernelInventory.Proofs.Stanza.Attribute
import KernelInventory.Proofs.Stanza.Reading
import KernelInventory.Proofs.Component.Table
import KernelInventory.Proofs.Component.Growth
import KernelInventory.Proofs.Resolution.Visit
import KernelInventory.Proofs.Resolution.Processing
import KernelInventory.Proofs.Resolution.Ownership
import KernelInventory.Proofs.Resolution.Headers
import KernelInventory.Proofs.Resolution.Moment
import KernelInventory.Proofs.Resolution.Nesting
import KernelInventory.Proofs.Resolution.Widening
import KernelInventory.Proofs.FileTree.Outline
import KernelInventory.Proofs.Stanza.Pruning
import KernelInventory.Proofs.Text.Lines
import KernelInventory.Proofs.Text.Utf8
import KernelInventory.Proofs.Resolution.Help
import KernelInventory.Proofs.Resolution.Sourcing
import KernelInventory.Proofs.FileTree.Descent
import KernelInventory.Proofs.FileTree.Concealment
import KernelInventory.Proofs.Walk.Levels
import KernelInventory.Proofs.Walk.Completeness
import KernelInventory.Proofs.Resolution.Raising
import KernelInventory.Proofs.Resolution.Branch
import KernelInventory.Proofs.FileTree.Plain
import KernelInventory.Proofs.Resolution.Escape
import KernelInventory.Proofs.Guard.Conditional
import KernelInventory.Proofs.Correlation.Opening
import KernelInventory.Proofs.Correlation.Counting
import KernelInventory.Proofs.Resolution.Shape
import KernelInventory.Proofs.FileTree.Straight
import KernelInventory.Proofs.Walk.Subtree
import KernelInventory.Proofs.LineCount.Addition
import KernelInventory.Proofs.LineCount.Subtree
import KernelInventory.Proofs.Command.Architecture
import KernelInventory.Proofs.Command.Options
import KernelInventory.Proofs.Command.Work
import KernelInventory.Proofs.Command.Stops
import KernelInventory.Proofs.Command.Turns
import KernelInventory.Proofs.Exclusion.Insertion
import KernelInventory.Proofs.Walk.Narrowing
import KernelInventory.Proofs.Command.Exclude
import KernelInventory.Proofs.Correlation.Unterminated
import KernelInventory.Proofs.LineCount.Return
import KernelInventory.Proofs.FileTree.Removal
import KernelInventory.Proofs.Walk.Removal
import KernelInventory.Proofs.FileTree.Ascent
import KernelInventory.Proofs.FileTree.Detour
import KernelInventory.Proofs.Correlation.Once
import KernelInventory.Proofs.Correlation.Unreadable
import KernelInventory.Proofs.Correlation.Reextraction
import KernelInventory.Proofs.Correlation.NestedDirectory
import KernelInventory.Proofs.Command.ExitCode
import KernelInventory.Proofs.FileTree.Refusal
import KernelInventory.Proofs.FileTree.Legible
import KernelInventory.Proofs.Correlation.Legible
import KernelInventory.Proofs.Resolution.Legible
import KernelInventory.Proofs.Command.Escape
import KernelInventory.Proofs.Text.Words
import KernelInventory.Proofs.Field.Reading
import KernelInventory.Proofs.Stanza.Header
import KernelInventory.Proofs.Stanza.HelpBlock
import KernelInventory.Proofs.Resolution.BareHeader
import KernelInventory.Proofs.FileTree.Separator
import KernelInventory.Proofs.FileTree.Exchange
import KernelInventory.Proofs.FileTree.Linkless
import KernelInventory.Proofs.Resolution.Relocation
import KernelInventory.Proofs.Resolution.ArchPart
import KernelInventory.Proofs.Suggestion.Edits
import KernelInventory.Proofs.Suggestion.Ranking
import KernelInventory.Proofs.Text.Delivery
import KernelInventory.Proofs.Query.Session
import KernelInventory.Proofs.Text.LineEnds
import KernelInventory.Proofs.LineCount.Conservation
import KernelInventory.Proofs.Pattern.Directory
import KernelInventory.Proofs.Exclusion.Directory
import KernelInventory.Proofs.Command.Explanation
import KernelInventory.Proofs.Component.History
import KernelInventory.Proofs.FileTree.Naming
import KernelInventory.Proofs.KernelVersion.Assignment
import KernelInventory.Proofs.Resolution.KernelRoot
