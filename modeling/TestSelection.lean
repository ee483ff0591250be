import TestSelection.Main
import TestSelection.Manifest.FromJson
import TestSelection.Manifest.ToJson
import TestSelection.Marker.ToJson
import TestSelection.Json.Reader
import TestSelection.Proofs.Gate.Violation
import TestSelection.Proofs.Suite.Unregistered
import TestSelection.Proofs.Substitution.Reading
import TestSelection.Proofs.Substitution.Joining
import TestSelection.Proofs.Substitution.Resolved
import TestSelection.Proofs.Classifier.Segment
import TestSelection.Proofs.Gate.Question
import TestSelection.Proofs.Address.Digits
import TestSelection.Proofs.Address.Text
import TestSelection.Proofs.Gate.Agreement
import TestSelection.Proofs.Json.Decode
import TestSelection.Proofs.Manifest.RoundTrip
import TestSelection.Proofs.Suite.Item
import TestSelection.Proofs.Command.Machine
import TestSelection.Proofs.Suite.Mirror
import TestSelection.Proofs.Manifest.Validation
import TestSelection.Proofs.Manifest.Violation
import TestSelection.Proofs.Suite.Independence
import TestSelection.Proofs.Suite.Refusal
import TestSelection.Proofs.Suite.Progress
import TestSelection.Proofs.Command.Acceptance
import TestSelection.Proofs.Gate.Improvement
import TestSelection.Proofs.Gate.Restriction
import TestSelection.Proofs.Gate.Vocabulary
import TestSelection.Proofs.Marker.Argument
import TestSelection.Proofs.Text.ByteOrder
import TestSelection.Proofs.Marker.Grammar
import TestSelection.Proofs.Marker.Blame
import TestSelection.Proofs.TestItem.Tagging
import TestSelection.Proofs.TestItem.History
import TestSelection.Proofs.Host.FileSystem
import TestSelection.Proofs.SearchPath.Composition
import TestSelection.Proofs.SearchPath.Separator
import TestSelection.Proofs.Command.Results
import TestSelection.Proofs.Command.Flags
import TestSelection.Proofs.Command.Inventory
import TestSelection.Proofs.Probe.Attempt
import TestSelection.Proofs.Probe.Dialing
import TestSelection.Proofs.Duration
import TestSelection.Proofs.Probe.WorstCase
import TestSelection.Proofs.Json.Document
import TestSelection.Proofs.Manifest.Shape
