import UriRouting.Main
import UriRouting.Proofs.Binding.ReExpansion
import UriRouting.Proofs.Binding.ReservedRun
import UriRouting.Proofs.Pattern.WholeUnits
import UriRouting.Proofs.Registry.Duplicates
import UriRouting.Proofs.Registry.ExactText
import UriRouting.Proofs.Registry.Noninterference
import UriRouting.Proofs.Registry.Publication
import UriRouting.Proofs.Template.Concatenation
import UriRouting.Proofs.Pattern.JoinedGroups
import UriRouting.Proofs.Template.Delimiters
import UriRouting.Proofs.Template.Faults
import UriRouting.Proofs.Binding.JoinedGroups
import UriRouting.Proofs.Offset.Bytes
import UriRouting.Proofs.Offset.Literal
import UriRouting.Proofs.Offset.Run
import UriRouting.Proofs.Offset.Boundary
import UriRouting.Proofs.Offset.Operator
import UriRouting.Proofs.Offset.Walk
import UriRouting.Proofs.Binding.Assignments
import UriRouting.Proofs.Binding.Items
import UriRouting.Proofs.Pattern.Record
import UriRouting.Proofs.Pattern.Sorting
import UriRouting.Proofs.Registry.Replacement
import UriRouting.Proofs.Registry.Lookup
import UriRouting.Proofs.Template.Interchange
import UriRouting.Proofs.Offset.Encoder
import UriRouting.Proofs.Binding.LastCapture
import UriRouting.Proofs.Binding.TypedInteger
import UriRouting.Proofs.CommandLine.Pairs
import UriRouting.Proofs.Offset.EscapeCase
import UriRouting.Proofs.Offset.LongestRun
import UriRouting.Proofs.Offset.Progress
